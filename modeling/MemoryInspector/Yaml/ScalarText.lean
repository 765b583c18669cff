import MemoryInspector.Text.Numeral
import MemoryInspector.Yaml.Cursor

/-!
# Texts of scalars

The four ways to write a scalar: plain, in single or double quotes, and as a block. A line break
inside a plain or quoted scalar counts for a space, and further ones for themselves; in a folded
block this holds between lines that are not indented further.
-/

namespace MemoryInspector.Yaml

/-- White space inside a scalar: blanks, or line breaks with the blanks around them. -/
structure Gap where
  blanks : List Char := []
  hasBreak : Bool := false
  /-- The first line break; an escaped one counts for nothing. -/
  first : List Char := []
  others : List Char := []

def Gap.text (gap : Gap) : List Char :=
  if !gap.hasBreak then gap.blanks
  else if gap.first == ['\n'] then if gap.others.isEmpty then [' '] else gap.others
  else gap.first ++ gap.others

/-- Take in blanks and line breaks. After a line break, no tab may stand before the column `least`. -/
def takeGap (least : Int) : (limit : Nat) → Gap → Cursor → Option (Gap × Cursor)
  | 0, _, _ => none
  | limit + 1, gap, cursor =>
    match cursor.rest with
    | [] => some (gap, cursor)
    | c :: _ =>
      if isBlank c then
        if gap.hasBreak then
          if c == '\t' && (cursor.column : Int) < least then none
          else takeGap least limit gap (cursor.skip 1)
        else takeGap least limit { gap with blanks := gap.blanks ++ [c] } (cursor.skip 1)
      else if isBreak c then
        let (found, next) := cursor.takeBreak
        if gap.hasBreak then takeGap least limit { gap with others := gap.others ++ found } next
        else takeGap least limit ⟨[], true, found, []⟩ next
      else some (gap, cursor)

/-! ## Plain scalars -/

/-- The characters up to a blank, a line break or an indicator that ends a plain scalar. -/
def plainRun (inFlow : Bool) : List Char → Option (List Char × List Char)
  | [] => some ([], [])
  | c :: rest =>
    if isBlankOrBreak c then some ([], c :: rest)
    else if inFlow && c == ':' && rest.head?.any (",?[]\x7b\x7d".toList.contains ·) then none
    else if (c == ':' && endsWord rest) || (inFlow && ",[]\x7b\x7d".toList.contains c) then
      some ([], c :: rest)
    else (plainRun inFlow rest).map fun (run, after) ↦ (c :: run, after)

/-- A plain scalar whose later lines are indented to the column `least`. The last component tells
whether a line break follows it. -/
def plainText (inFlow : Bool) (least : Int) :
    (limit : Nat) → (text : List Char) → Gap → Cursor → Option (List Char × Cursor × Bool)
  | 0, _, _, _ => none
  | limit + 1, text, gap, cursor =>
    if cursor.atDocumentMark || cursor.rest.head? == some '#' then
      some (text, cursor, gap.hasBreak)
    else do
      let (run, rest) ← plainRun inFlow cursor.rest
      let after := cursor.goTo rest
      let text := if run.isEmpty then text else text ++ gap.text ++ run
      let gap := if run.isEmpty then gap else {}
      if after.atBlank || after.atBreak then
        let (gap, next) ← takeGap least (after.rest.length + 1) gap after
        if !inFlow && (next.column : Int) < least then some (text, next, gap.hasBreak)
        else plainText inFlow least limit text gap next
      else some (text, after, gap.hasBreak)

/-! ## Quoted scalars -/

/-- The character of an escape with a letter. -/
def escapedChar? : Char → Option Char
  | '0' => some '\x00'
  | 'a' => some '\x07'
  | 'b' => some '\x08'
  | 't' | '\t' => some '\t'
  | 'n' => some '\n'
  | 'v' => some '\x0b'
  | 'f' => some '\x0c'
  | 'r' => some '\r'
  | 'e' => some '\x1b'
  | ' ' => some ' '
  | '"' => some '"'
  | '/' => some '/'
  | '\\' => some '\\'
  | 'N' => some '\u0085'
  | '_' => some '\u00a0'
  | 'L' => some '\u2028'
  | 'P' => some '\u2029'
  | _ => none

/-- The number of hexadecimal digits behind the letter of an escape. -/
def escapeWidth? : Char → Option Nat
  | 'x' => some 2
  | 'u' => some 4
  | 'U' => some 8
  | _ => none

/-- The character behind a backslash. -/
def readEscape? : List Char → Option (Char × List Char)
  | [] => none
  | c :: rest =>
    match escapedChar? c, escapeWidth? c with
    | some found, _ => some (found, rest)
    | none, some width =>
      if rest.length < width then none
      else (Text.digits? 16 (rest.take width)).bind fun n ↦
        if n < 0xD800 || (0xE000 ≤ n && n < 0x110000) then some (Char.ofNat n, rest.drop width)
        else none
    | none, none => none

/-- The characters up to a blank, a line break, the closing quote or an escaped line break; the
last component tells whether it was an escaped line break. -/
def quotedRun (quote : Char) : (limit : Nat) → List Char → Option (List Char × List Char × Bool)
  | 0, _ => none
  | limit + 1, text =>
    let cons (found : Char) (rest : List Char) : Option (List Char × List Char × Bool) :=
      (quotedRun quote limit rest).map fun (run, after, escaped) ↦ (found :: run, after, escaped)
    match text with
    | [] => some ([], [], false)
    | c :: rest =>
      if isBlankOrBreak c then some ([], text, false)
      else if quote == '\'' && c == '\'' && rest.head? == some '\'' then cons '\'' (rest.drop 1)
      else if c == quote then some ([], text, false)
      else if quote == '"' && c == '\\' then
        if rest.head?.any isBreak then some ([], rest, true)
        else match readEscape? rest with
          | some (found, after) => cons found after
          | none => none
      else cons c rest

/-- A quoted scalar behind its opening quote. -/
def quotedText (quote : Char) :
    (limit : Nat) → (text : List Char) → Cursor → Option (List Char × Cursor)
  | 0, _, _ => none
  | limit + 1, text, cursor =>
    if cursor.atDocumentMark || cursor.atEnd then none
    else do
      let (run, rest, escaped) ← quotedRun quote (cursor.rest.length + 1) cursor.rest
      let after := cursor.goTo rest
      let after := if escaped then after.takeBreak.2 else after
      let text := text ++ run
      if after.rest.head? == some quote then some (text, after.skip 1)
      else
        let start : Gap := { hasBreak := escaped }
        let (gap, next) ← takeGap (-1) (after.rest.length + 1) start after
        quotedText quote limit (text ++ gap.text) next

/-! ## Block scalars -/

/-- What happens to the line breaks at the end of a block. -/
inductive Chomping where
  | strip
  | clip
  | keep
deriving DecidableEq, Repr

def chomping? : Char → Option Chomping
  | '-' => some .strip
  | '+' => some .keep
  | _ => none

/-- The header of a block: chomping and indentation in either order. The indentation is not zero. -/
def blockHeader? (text : List Char) : Option (Chomping × Option Nat × List Char) :=
  let digit? (c : Char) : Option Nat := if c.isDigit then some (c.toNat - 48) else none
  let withDigit (mode : Chomping) (rest : List Char) : Option (Chomping × Option Nat × List Char) :=
    match rest.head?.bind digit? with
    | some 0 => none
    | some n => some (mode, some n, rest.drop 1)
    | none => some (mode, none, rest)
  match text.head?.bind chomping? with
  | some mode => withDigit mode (text.drop 1)
  | none =>
    match withDigit .clip text with
    | some (mode, some n, rest) =>
      match rest.head?.bind chomping? with
      | some found => some (found, some n, rest.drop 1)
      | none => some (mode, some n, rest)
    | other => other

/-- Skip indentation and empty lines before the next line of a block. Where the indentation is not
yet known it is the greatest one seen, and at least `least`. -/
def blockBreaks (least : Nat) (indent : Option Nat) :
    (limit deepest : Nat) → (breaks : List Char) → Cursor → Option (Nat × List Char × Cursor)
  | 0, _, _, _ => none
  | limit + 1, deepest, breaks, cursor =>
    let spaces := (cursor.rest.takeWhile (· == ' ')).length
    let skipped := match indent with
      | some n => min spaces (n - cursor.column)
      | none => spaces
    let next := cursor.skip skipped
    let deepest := max deepest next.column
    if indent.all (next.column < ·) && next.rest.head? == some '\t' then none
    else if next.atBreak then
      let (found, after) := next.takeBreak
      blockBreaks least indent limit deepest (breaks ++ found) after
    else some (indent.getD (max deepest (max least 1)), breaks, next)

/-- The lines of a block. `first` is the line break of the line before and `others` are those of
the empty lines after it; `wasBlank` tells whether that line started with a blank. -/
def blockLines (literal : Bool) (indent : Nat) :
    (limit : Nat) → (text first others : List Char) → (wasBlank : Bool) → Cursor →
      Option (List Char × List Char × List Char × Cursor)
  | 0, _, _, _, _, _ => none
  | limit + 1, text, first, others, wasBlank, cursor =>
    if cursor.column == indent && !cursor.atEnd then
      let startsBlank := cursor.atBlank
      let folds := !literal && first == ['\n'] && !wasBlank && !startsBlank
      let joint := if folds then if others.isEmpty then [' '] else [] else first
      let line := cursor.rest.takeWhile (!isBreak ·)
      let (found, next) := (cursor.skipWhile (!isBreak ·)).takeBreak
      match blockBreaks 0 (some indent) (next.rest.length + 1) 0 [] next with
      | none => none
      | some (_, breaks, after) =>
        blockLines literal indent limit (text ++ joint ++ others ++ line) found breaks startsBlank
          after
    else some (text, first, others, cursor)

/-- A block scalar behind its indicator, inside a block of the given indentation. -/
def blockText (literal : Bool) (parent : Int) (cursor : Cursor) : Option (List Char × Cursor) := do
  let (mode, increment, rest) ← blockHeader? cursor.rest
  let header := (cursor.goTo rest).skipWhile isBlank
  let header :=
    if header.rest.head? == some '#' then header.skipWhile (!isBreak ·) else header
  if !(header.atEnd || header.atBreak) then none
  else
    let start := header.takeBreak.2
    let indent := increment.map fun n ↦ (if 0 ≤ parent then parent.toNat else 0) + n
    let (indent, breaks, first) ←
      blockBreaks (parent + 1).toNat indent (start.rest.length + 1) 0 [] start
    let (text, last, others, stop) ←
      blockLines literal indent (first.rest.length + 1) [] [] breaks false first
    let ending := match mode with
      | .strip => []
      | .clip => last
      | .keep => last ++ others
    some (text ++ ending, stop)

end MemoryInspector.Yaml
