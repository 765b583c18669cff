import MemoryInspector.Yaml.ScalarText

/-!
# Tokens of YAML

A text as tokens. In block style the indentation opens and closes collections. A node that turns
out to be a key only at the colon behind it is remembered where it starts, and the token that
marks it is put in front of it afterwards; such a key stays on one line and is short.
-/

namespace MemoryInspector.Yaml

inductive ScalarStyle where
  | plain
  | quoted
  | literal
  | folded
deriving DecidableEq, Repr

inductive Token where
  | version (major minor : Nat)
  | tagHandle (handle uri : String)
  | documentStart
  | documentEnd
  | blockSequenceStart
  | blockMappingStart
  | blockEnd
  | flowSequenceStart
  | flowSequenceEnd
  | flowMappingStart
  | flowMappingEnd
  | blockEntry
  | flowEntry
  | key
  | value
  | anchor (name : String)
  | reference (name : String)
  | tag (handle suffix : String)
  | scalar (style : ScalarStyle) (text : String)
deriving DecidableEq, Repr

/-- A place where a key may start. -/
structure PossibleKey where
  /-- At this place there has to be a key. -/
  required : Bool
  /-- The number of tokens before it. -/
  position : Nat
  cursor : Cursor

structure Scanner where
  cursor : Cursor
  tokens : Array Token := #[]
  /-- The column of the current block collection, minus one outside of all. -/
  indent : Int := -1
  /-- The columns of the block collections around it. -/
  indents : List Int := []
  /-- The possible keys of the flow collections that are open, innermost first, and last the one
  of the block context. -/
  keys : List (Option PossibleKey) := [none]
  keyAllowed : Bool := true

namespace Scanner

def inFlow (scanner : Scanner) : Bool := scanner.keys.length > 1

def push (scanner : Scanner) (token : Token) : Scanner :=
  { scanner with tokens := scanner.tokens.push token }

def column (scanner : Scanner) : Int := scanner.cursor.column

/-- Close block collections that are indented further than a column. -/
def unroll (column : Int) : List Int → Scanner → Scanner
  | [], scanner => scanner
  | outer :: others, scanner =>
    if column < scanner.indent then
      unroll column others { scanner.push .blockEnd with indent := outer, indents := others }
    else scanner

def unrollTo (scanner : Scanner) (column : Int) : Scanner :=
  if scanner.inFlow then scanner else unroll column scanner.indents scanner

def insert (scanner : Scanner) (position : Nat) (token : Token) : Scanner :=
  { scanner with
    tokens := (scanner.tokens.extract 0 position).push token ++
      scanner.tokens.extract position scanner.tokens.size }

/-- Open a block collection at a column that is indented further than the current one. -/
def roll (scanner : Scanner) (column : Int) (position : Nat) (token : Token) : Scanner :=
  if !scanner.inFlow && scanner.indent < column then
    { scanner.insert position token with
      indent := column, indents := scanner.indent :: scanner.indents }
  else scanner

/-- Drop the innermost possible key, which must not be required. -/
def removeKey (scanner : Scanner) : Option Scanner :=
  match scanner.keys with
  | some key :: others =>
    if key.required then none else some { scanner with keys := none :: others }
  | _ => some scanner

/-- Remember the current place if a key may start there. -/
def saveKey (scanner : Scanner) : Option Scanner :=
  if scanner.keyAllowed then do
    let scanner ← scanner.removeKey
    let required := !scanner.inFlow && scanner.indent == scanner.column
    let key : PossibleKey := ⟨required, scanner.tokens.size, scanner.cursor⟩
    some { scanner with keys := some key :: scanner.keys.drop 1 }
  else some scanner

/-- Forget the possible keys that are on an earlier line or too far back. -/
def dropStaleKeys (scanner : Scanner) : Option Scanner := do
  let isStale (key : PossibleKey) : Bool :=
    key.cursor.line < scanner.cursor.line || key.cursor.index + 1024 < scanner.cursor.index
  let keys ← scanner.keys.mapM fun key? ↦
    match key? with
    | some key => if isStale key then if key.required then none else some none else some (some key)
    | none => some none
  some { scanner with keys }

/-- Skip blanks, comments and line breaks before a token. Tabs do not count as indentation. -/
def skipToToken : (limit : Nat) → Scanner → Scanner
  | 0, scanner => scanner
  | limit + 1, scanner =>
    let start := scanner.cursor
    let start :=
      if start.column == 0 && start.rest.head? == some '\ufeff' then start.skip 1 else start
    let tabs := scanner.inFlow || !scanner.keyAllowed
    let next := start.skipWhile fun c ↦ c == ' ' || (tabs && c == '\t')
    let next := if next.rest.head? == some '#' then next.skipWhile (!isBreak ·) else next
    if next.atBreak then
      skipToToken limit { scanner with
        cursor := next.takeBreak.2, keyAllowed := scanner.keyAllowed || !scanner.inFlow }
    else { scanner with cursor := next }

/-! ## Single tokens -/

/-- A token that is a number of characters long. -/
def mark (scanner : Scanner) (count : Nat) (token : Token) : Scanner :=
  { scanner with cursor := scanner.cursor.skip count }.push token

def documentMark (scanner : Scanner) (token : Token) : Option Scanner := do
  let scanner ← (scanner.unrollTo (-1)).removeKey
  some { scanner.mark 3 token with keyAllowed := false }

def flowStart (scanner : Scanner) (token : Token) : Option Scanner := do
  let scanner ← scanner.saveKey
  some { scanner.mark 1 token with keys := none :: scanner.keys, keyAllowed := true }

def flowEnd (scanner : Scanner) (token : Token) : Option Scanner := do
  let scanner ← scanner.removeKey
  let keys := if scanner.inFlow then scanner.keys.drop 1 else scanner.keys
  some { scanner.mark 1 token with keys, keyAllowed := false }

def flowEntry (scanner : Scanner) : Option Scanner := do
  let scanner ← scanner.removeKey
  some { scanner.mark 1 .flowEntry with keyAllowed := true }

/-- Open a block collection of an entry or key that may stand here. -/
def openBlock (scanner : Scanner) (token : Token) : Option Scanner :=
  if scanner.inFlow then some scanner
  else if scanner.keyAllowed then
    some (scanner.roll scanner.column scanner.tokens.size token)
  else none

def blockEntry (scanner : Scanner) : Option Scanner := do
  let scanner ← scanner.openBlock .blockSequenceStart
  let scanner ← scanner.removeKey
  some { scanner.mark 1 .blockEntry with keyAllowed := true }

def explicitKey (scanner : Scanner) : Option Scanner := do
  let scanner ← scanner.openBlock .blockMappingStart
  let scanner ← scanner.removeKey
  some { scanner.mark 1 .key with keyAllowed := !scanner.inFlow }

def value (scanner : Scanner) : Option Scanner :=
  match scanner.keys with
  | some key :: others =>
    let marked := (scanner.insert key.position .key).roll key.cursor.column key.position
      .blockMappingStart
    some { marked.mark 1 .value with keys := none :: others, keyAllowed := false }
  | _ => do
    let scanner ← scanner.openBlock .blockMappingStart
    some { scanner.mark 1 .value with keyAllowed := !scanner.inFlow }

/-- The name of an anchor or of a reference to one, which must not be glued to what follows. -/
def anchor (scanner : Scanner) (token : String → Token) : Option Scanner := do
  let scanner ← scanner.saveKey
  let start := scanner.cursor.skip 1
  let name := start.rest.takeWhile isNameChar
  let after := start.skipWhile isNameChar
  let ends := endsWord after.rest || after.rest.head?.any ("?:,]\x7d%@\x60".toList.contains ·)
  if name.isEmpty || !ends then none
  else
    some ({ scanner with cursor := after, keyAllowed := false }.push (token (String.ofList name)))

/-- An escaped byte at the front of a tag. -/
def escapedByte? : List Char → Option (Nat × List Char)
  | '%' :: a :: b :: rest => (Text.digits? 16 [a, b]).map (·, rest)
  | _ => none

/-- The number of bytes that the first byte of a character announces. -/
def announcedWidth? (first : Nat) : Option Nat :=
  if first < 0x80 then some 1
  else if first < 0xC0 then none
  else if first < 0xE0 then some 2
  else if first < 0xF0 then some 3
  else if first < 0xF8 then some 4
  else none

/-- Escaped bytes that continue a character. -/
def continuingBytes? : (count : Nat) → List Char → Option (List Nat × List Char)
  | 0, text => some ([], text)
  | count + 1, text => do
    let (b, rest) ← escapedByte? text
    guard (0x80 ≤ b ∧ b < 0xC0)
    let (others, after) ← continuingBytes? count rest
    some (b :: others, after)

/-- The escaped bytes of one character. -/
def escapedBytes? (text : List Char) : Option (List Nat × List Char) := do
  let (first, rest) ← escapedByte? text
  let width ← announcedWidth? first
  let (others, after) ← continuingBytes? (width - 1) rest
  some (first :: others, after)

/-- The bytes of a tag, each as the character of that number. Verbatim tags may hold flow
indicators. -/
def readTagText? (verbatim : Bool) : (limit : Nat) → List Char → Option (List Char × List Char)
  | 0, _ => none
  | limit + 1, text =>
    let isTagChar (c : Char) : Bool :=
      isNameChar c || ";/?:@&=+$.!~*'()".toList.contains c || (verbatim && ",[]".toList.contains c)
    match text with
    | '%' :: _ => do
      let (escaped, rest) ← escapedBytes? text
      let (found, after) ← readTagText? verbatim limit rest
      some (escaped.map Char.ofNat ++ found, after)
    | c :: rest =>
      if isTagChar c then
        (readTagText? verbatim limit rest).map fun (found, after) ↦ (c :: found, after)
      else some ([], text)
    | [] => some ([], [])

/-- A part of a tag, which a zero byte ends. -/
def tagPart (text : List Char) : String := String.ofList (text.takeWhile (· != '\x00'))

/-- The handle and the suffix of a tag. -/
def readTag? (text : List Char) : Option (String × String × List Char) :=
  let limit := text.length + 1
  match text with
  | '!' :: '<' :: rest => do
    let (uri, after) ← readTagText? true limit rest
    match uri, after with
    | _ :: _, '>' :: last => some ("", tagPart uri, last)
    | _, _ => none
  | '!' :: rest =>
    let name := rest.takeWhile isNameChar
    match rest.dropWhile isNameChar with
    | '!' :: after => do
      let (suffix, last) ← readTagText? false limit after
      if suffix.isEmpty then none
      else some (String.ofList ('!' :: name ++ ['!']), tagPart suffix, last)
    | after => do
      let (others, last) ← readTagText? false limit after
      let suffix := tagPart (name ++ others)
      if suffix.isEmpty then some ("", "!", last) else some ("!", suffix, last)
  | _ => none

def tag (scanner : Scanner) : Option Scanner := do
  let scanner ← scanner.saveKey
  let (handle, suffix, rest) ← readTag? scanner.cursor.rest
  let after := scanner.cursor.goTo rest
  if endsWord rest || (scanner.inFlow && rest.head? == some ',') then
    some ({ scanner with cursor := after, keyAllowed := false }.push (.tag handle suffix))
  else none

def blockScalar (scanner : Scanner) (literal : Bool) : Option Scanner := do
  let scanner ← scanner.removeKey
  let (text, cursor) ← blockText literal scanner.indent (scanner.cursor.skip 1)
  let style : ScalarStyle := if literal then .literal else .folded
  some ({ scanner with cursor, keyAllowed := true }.push (.scalar style (String.ofList text)))

def quotedScalar (scanner : Scanner) (quote : Char) : Option Scanner := do
  let scanner ← scanner.saveKey
  let start := scanner.cursor.skip 1
  let (text, cursor) ← quotedText quote (start.rest.length + 1) [] start
  some ({ scanner with cursor, keyAllowed := false }.push (.scalar .quoted (String.ofList text)))

def plainScalar (scanner : Scanner) : Option Scanner := do
  let scanner ← scanner.saveKey
  let start := scanner.cursor
  let (text, cursor, hasBreak) ←
    plainText scanner.inFlow (scanner.indent + 1) (start.rest.length + 1) [] {} start
  some ({ scanner with cursor, keyAllowed := hasBreak }.push (.scalar .plain (String.ofList text)))

/-- The version in a directive: two numbers of at most nine digits. -/
def readVersion? (text : List Char) : Option (Nat × Nat × List Char) := do
  let number? (text : List Char) : Option (Nat × List Char) := do
    let digits := text.takeWhile Char.isDigit
    if digits.length > 9 then none
    else some (← Text.digits? 10 digits, text.dropWhile Char.isDigit)
  let (major, rest) ← number? text
  match rest with
  | '.' :: rest =>
    let (minor, after) ← number? rest
    some (major, minor, after)
  | _ => none

/-- The handle in a directive, with an exclamation mark at both ends or as a whole. -/
def readHandle? (text : List Char) : Option (String × List Char) :=
  match text with
  | '!' :: rest =>
    let name := rest.takeWhile isNameChar
    match rest.dropWhile isNameChar with
    | '!' :: after => some (String.ofList ('!' :: name ++ ['!']), after)
    | after => if name.isEmpty then some ("!", after) else none
  | _ => none

/-- A directive fills a line, but for a comment. -/
def directive (scanner : Scanner) : Option Scanner := do
  let scanner ← (scanner.unrollTo (-1)).removeKey
  let start := scanner.cursor.skip 1
  let name := String.ofList (start.rest.takeWhile isNameChar)
  let after := start.rest.dropWhile isNameChar
  if !endsWord after then none
  else
    let arguments := after.dropWhile isBlank
    let (token, rest) ← match name with
      | "YAML" => (readVersion? arguments).map fun (major, minor, rest) ↦
          (Token.version major minor, rest)
      | "TAG" => do
        let (handle, rest) ← readHandle? arguments
        if !rest.head?.any isBlank then none
        else
          let (uri, last) ← readTagText? true (rest.length + 1) (rest.dropWhile isBlank)
          if uri.isEmpty || !endsWord last then none
          else some (Token.tagHandle handle (tagPart uri), last)
      | _ => none
    let line := (start.goTo rest).skipWhile isBlank
    let line := if line.rest.head? == some '#' then line.skipWhile (!isBreak ·) else line
    if line.atEnd || line.atBreak then
      some ({ scanner with cursor := line.takeBreak.2, keyAllowed := false }.push token)
    else none

/-- Whether a character other than a blank can start a plain scalar here. -/
def startsPlain (scanner : Scanner) (c : Char) (rest : List Char) : Bool :=
  !("-?:,[]\x7b\x7d#&*!|>'\"%@\x60".toList.contains c || isBlankOrBreak c) ||
    (c == '-' && !rest.head?.any isBlank) ||
    (!scanner.inFlow && (c == '?' || c == ':') && !endsWord rest)

/-- Read one token, from a cursor that is at one. -/
def next? (scanner : Scanner) : Option Scanner :=
  match scanner.cursor.rest with
  | [] => none
  | c :: rest =>
    if scanner.cursor.column == 0 && c == '%' then scanner.directive
    else if scanner.cursor.atDocumentMark then
      scanner.documentMark (if c == '-' then .documentStart else .documentEnd)
    else if c == '[' then scanner.flowStart .flowSequenceStart
    else if c == '\x7b' then scanner.flowStart .flowMappingStart
    else if c == ']' then scanner.flowEnd .flowSequenceEnd
    else if c == '\x7d' then scanner.flowEnd .flowMappingEnd
    else if c == ',' then scanner.flowEntry
    else if c == '-' && endsWord rest then scanner.blockEntry
    else if c == '?' && (scanner.inFlow || endsWord rest) then scanner.explicitKey
    else if c == ':' && (scanner.inFlow || endsWord rest) then scanner.value
    else if c == '*' then scanner.anchor .reference
    else if c == '&' then scanner.anchor .anchor
    else if c == '!' then scanner.tag
    else if c == '|' && !scanner.inFlow then scanner.blockScalar true
    else if c == '>' && !scanner.inFlow then scanner.blockScalar false
    else if c == '\'' || c == '"' then scanner.quotedScalar c
    else if scanner.startsPlain c rest then scanner.plainScalar
    else none

/-- Read all tokens. At the end all block collections are closed. -/
def run : (limit : Nat) → Scanner → Option (List Token)
  | 0, _ => none
  | limit + 1, scanner => do
    let scanner ← (skipToToken (scanner.cursor.rest.length + 1) scanner).dropStaleKeys
    let scanner := scanner.unrollTo scanner.column
    if scanner.cursor.atEnd then
      let closed ← (scanner.unrollTo (-1)).removeKey
      some closed.tokens.toList
    else run limit (← scanner.next?)

end Scanner

/-- The tokens of a text. A byte order mark in front is no part of it. -/
def Token.scan? (text : String) : Option (List Token) :=
  let chars := text.toList
  let chars := if chars.head? == some '\ufeff' then chars.drop 1 else chars
  if chars.all isAllowed then
    Scanner.run (chars.length + 1) { cursor := ⟨chars, 0, 0, 0⟩ }
  else none

end MemoryInspector.Yaml
