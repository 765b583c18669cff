/-!
# Positions in YAML texts

A cursor is the rest of a text with the place where it starts. Lines end at any of five line
breaks, and a carriage return and a line feed together are one.
-/

namespace MemoryInspector.Yaml

def isBreak (c : Char) : Bool :=
  c == '\n' || c == '\r' || c == '\u0085' || c == '\u2028' || c == '\u2029'

/-- A space or a tab. -/
def isBlank (c : Char) : Bool := c == ' ' || c == '\t'

def isBlankOrBreak (c : Char) : Bool := isBlank c || isBreak c

/-- Characters of anchors, of tag handles and of the names of directives. -/
def isNameChar (c : Char) : Bool := c.isAlphanum || c == '_' || c == '-'

/-- Characters that a text may hold at all. -/
def isAllowed (c : Char) : Bool :=
  let n := c.toNat
  n == 9 || n == 10 || n == 13 || (0x20 ≤ n && n ≤ 0x7E) || n == 0x85 ||
    (0xA0 ≤ n && n ≤ 0xD7FF) || (0xE000 ≤ n && n ≤ 0xFFFD) || 0x10000 ≤ n

/-- Nothing follows, or a blank or a line break. -/
def endsWord (text : List Char) : Bool := text.head?.all isBlankOrBreak

structure Cursor where
  rest : List Char
  /-- Bytes before the rest. -/
  index : Nat
  line : Nat
  column : Nat
deriving Repr

namespace Cursor

def atEnd (cursor : Cursor) : Bool := cursor.rest.isEmpty

/-- The position behind the next characters, in bytes. -/
def indexAfter (cursor : Cursor) (count : Nat) : Nat :=
  (cursor.rest.take count).foldl (fun index c ↦ index + c.utf8Size) cursor.index

/-- Move on to a later rest of the same line. -/
def goTo (cursor : Cursor) (rest : List Char) : Cursor :=
  let count := cursor.rest.length - rest.length
  { cursor with rest, index := cursor.indexAfter count, column := cursor.column + count }

def skip (cursor : Cursor) (count : Nat) : Cursor := cursor.goTo (cursor.rest.drop count)

def skipWhile (cursor : Cursor) (p : Char → Bool) : Cursor := cursor.goTo (cursor.rest.dropWhile p)

def atBreak (cursor : Cursor) : Bool := cursor.rest.head?.any isBreak

def atBlank (cursor : Cursor) : Bool := cursor.rest.head?.any isBlank

/-- Move to the next line; what the line break counts for in a scalar, if there is one. -/
def takeBreak (cursor : Cursor) : List Char × Cursor :=
  let next (count : Nat) : Cursor :=
    ⟨cursor.rest.drop count, cursor.indexAfter count, cursor.line + 1, 0⟩
  match cursor.rest with
  | '\r' :: '\n' :: _ => (['\n'], next 2)
  | c :: _ =>
    if c == '\u2028' || c == '\u2029' then ([c], next 1)
    else if isBreak c then (['\n'], next 1)
    else ([], cursor)
  | [] => ([], cursor)

/-- A line that starts with three hyphens or points, and nothing glued to them. -/
def atDocumentMark (cursor : Cursor) : Bool :=
  cursor.column == 0 && match cursor.rest with
    | '-' :: '-' :: '-' :: rest => endsWord rest
    | '.' :: '.' :: '.' :: rest => endsWord rest
    | _ => false

end Cursor

end MemoryInspector.Yaml
