import MemoryInspector.Expression.Token
import MemoryInspector.Registry

/-!
# Terms

The reading of a token list as a term of the expression language. Reading never fails: a fault
is a term of its own, at the place where the reading stopped. Evaluation meets the parts of a
term from left to right, so of two faults in one text it reports the one that it meets first.
-/

namespace MemoryInspector.Expression

inductive Term where
  | integer (value : UInt64)
  | symbol (name : String)
  /-- `record.name` -/
  | member (record : Term) (name : String)
  /-- `pointer->name` -/
  | arrow (pointer : Term) (name : String)
  /-- `base[index]` -/
  | subscript (base : Term) (index : UInt64)
  /-- `*operand` -/
  | contents (operand : Term)
  /-- `&operand` -/
  | addressOf (operand : Term)
  | cast (type : CType) (operand : Term)
  /-- Parentheses around words that are no type. -/
  | unknownType (name : String)
  /-- Nothing can be read here. -/
  | fault (reason : String)
  /-- A term after which nothing can be read. -/
  | faultAfter (read : Term) (reason : String)
deriving DecidableEq, Repr

namespace Term

/-- What follows an opening parenthesis. -/
inductive ParenHead where
  | cast (type : CType) (rest : List Token)
  | unknownType (name : String)
  | group
deriving DecidableEq, Repr

/-- The identifiers at the front and what follows them. -/
def leadingWords : List Token → List String × List Token
  | .word name :: rest => ((name :: (leadingWords rest).1), (leadingWords rest).2)
  | tokens => ([], tokens)

/-- The number of stars at the front and what follows them. -/
def leadingStars : List Token → Nat × List Token
  | .mark .star :: rest => ((leadingStars rest).1 + 1, (leadingStars rest).2)
  | tokens => (0, tokens)

/-- One or more identifiers, then stars, then a closing parenthesis are a type name. A single
identifier that names no type may still be a symbol. -/
def parenHead (types : Registry) (tokens : List Token) : ParenHead :=
  let (words, afterWords) := leadingWords tokens
  let (stars, afterStars) := leadingStars afterWords
  match words, afterStars with
  | first :: others, .mark .closeParen :: rest =>
    let name := String.intercalate " " (first :: others ++ List.replicate stars "*")
    match types.resolve name with
    | .ok type => .cast type rest
    | .error _ => if others.isEmpty && stars == 0 then .group else .unknownType name
  | _, _ => .group

theorem length_leadingWords_le (tokens : List Token) :
    (leadingWords tokens).2.length ≤ tokens.length := by
  fun_induction leadingWords tokens with
  | case1 name rest ih => simp only [List.length_cons]; omega
  | case2 => simp

theorem length_leadingStars_le (tokens : List Token) :
    (leadingStars tokens).2.length ≤ tokens.length := by
  fun_induction leadingStars tokens with
  | case1 rest ih => simp only [List.length_cons]; omega
  | case2 => simp

theorem length_lt_of_parenHead {types : Registry} {tokens rest : List Token} {type : CType}
    (h : parenHead types tokens = .cast type rest) : rest.length < tokens.length := by
  have h₁ := length_leadingWords_le tokens
  have h₂ := length_leadingStars_le (leadingWords tokens).2
  simp only [parenHead] at h
  split at h
  · next hs =>
    split at h
    · cases h
      have := congrArg List.length hs
      simp only [List.length_cons] at this
      omega
    · split at h <;> cases h
  · cases h

/-- Members, arrows and subscripts after a term. -/
def suffixes (term : Term) : List Token → Term × List Token
  | .mark .dot :: .word name :: rest => suffixes (.member term name) rest
  | .mark .dot :: _ => (.faultAfter term "expected a member name", [])
  | .mark .arrow :: .word name :: rest => suffixes (.arrow term name) rest
  | .mark .arrow :: _ => (.faultAfter term "expected a member name", [])
  | .mark .openBracket :: .integer index :: .mark .closeBracket :: rest =>
    suffixes (.subscript term index) rest
  | .mark .openBracket :: .integer _ :: _ =>
    (.faultAfter term s!"expected {Mark.closeBracket.label}", [])
  | .mark .openBracket :: _ => (.faultAfter term "expected an integer index", [])
  | tokens => (term, tokens)

/-- The term at the front of a token list, and the tokens after it. -/
def unary (types : Registry) : List Token → Term × List Token
  | [] => (.fault "unexpected end of expression", [])
  | .integer value :: rest => suffixes (.integer value) rest
  | .word name :: rest => suffixes (.symbol name) rest
  | .mark .star :: rest => let (operand, rest) := unary types rest; (.contents operand, rest)
  | .mark .ampersand :: rest =>
    let (operand, rest) := unary types rest; (.addressOf operand, rest)
  | .mark .openParen :: rest =>
    match _h : parenHead types rest with
    | .cast type rest => let (operand, rest) := unary types rest; (.cast type operand, rest)
    | .unknownType name => (.unknownType name, [])
    | .group =>
      match unary types rest with
      | (inner, .mark .closeParen :: rest) => suffixes inner rest
      | (inner, _) => (.faultAfter inner s!"expected {Mark.closeParen.label}", [])
  | .mark kind :: _ => (.fault s!"unexpected {kind.label}", [])
termination_by tokens => tokens.length
decreasing_by
  · simp
  · simp
  · have := length_lt_of_parenHead (by assumption)
    simp only [List.length_cons]
    omega
  · simp

/-- The term that a whole token list spells. -/
def ofTokens (types : Registry) (tokens : List Token) : Term :=
  match unary types tokens with
  | (term, []) => term
  | (term, _ :: _) => .faultAfter term "unexpected trailing input"

end Term

end MemoryInspector.Expression
