import MemoryInspector.Text.Blank
import MemoryInspector.Text.Numeral

/-!
# Tokens of expressions

An expression is cut into numbers, identifiers and marks. White space only separates.
-/

namespace MemoryInspector.Expression

open Text

inductive Mark where
  | star | ampersand | openParen | closeParen | openBracket | closeBracket | dot | arrow
deriving DecidableEq, Repr

inductive Token where
  | integer (value : UInt64)
  | word (name : String)
  | mark (kind : Mark)
deriving DecidableEq, Repr

namespace Mark

/-- The mark that a single character spells. -/
def ofChar? : Char → Option Mark
  | '*' => some star
  | '&' => some ampersand
  | '(' => some openParen
  | ')' => some closeParen
  | '[' => some openBracket
  | ']' => some closeBracket
  | '.' => some dot
  | _ => none

/-- The name of the mark in messages. -/
def label : Mark → String
  | star => "Star"
  | ampersand => "Amp"
  | openParen => "LParen"
  | closeParen => "RParen"
  | openBracket => "LBracket"
  | closeBracket => "RBracket"
  | dot => "Dot"
  | arrow => "Arrow"

end Mark

namespace Token

/-- Letters, digits and underscores, of ASCII alone. -/
def isWordChar (c : Char) : Bool := c.isAlphanum || c == '_'

/-- The token of a run of word characters: a number if it starts with a digit. -/
def ofWord (word : List Char) : Except String Token :=
  if word.head?.any Char.isDigit then
    match integer? word with
    | some value => .ok (.integer value)
    | none => .error s!"invalid number {String.ofList word}"
  else .ok (.word (String.ofList word))

theorem length_dropWhile_le {α : Type} (p : α → Bool) (l : List α) :
    (l.dropWhile p).length ≤ l.length :=
  (List.dropWhile_suffix p).length_le

/-- The tokens of a text, or why it has none. -/
def scan : List Char → Except String (List Token)
  | [] => .ok []
  | '-' :: '>' :: rest => (scan rest).map (.mark .arrow :: ·)
  | c :: rest =>
    if isBlank c then scan rest
    else match Mark.ofChar? c with
      | some kind => (scan rest).map (.mark kind :: ·)
      | none =>
        if isWordChar c then
          match ofWord (c :: rest.takeWhile isWordChar) with
          | .ok token => (scan (rest.dropWhile isWordChar)).map (token :: ·)
          | .error reason => .error reason
        else .error s!"unexpected character '{c}'"
termination_by text => text.length
decreasing_by
  all_goals simp only [List.length_cons]
  all_goals first
    | omega
    | exact Nat.lt_succ_of_le (length_dropWhile_le isWordChar rest)

end Token

end MemoryInspector.Expression
