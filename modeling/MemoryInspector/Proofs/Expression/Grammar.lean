import MemoryInspector.Expression.Term

/-!
# The grammar of expressions

The grammar is stated as derivations of token lists, apart from the reader that runs.

    unary    := '*' unary | '&' unary | '(' type ')' unary | suffixed
    suffixed := primary ('.' ident | '->' ident | '[' integer ']')*
    primary  := integer | ident | '(' unary ')'
    type     := ident+ '*'*

The rules leave one choice open: an identifier in parentheses may be a type before its operand or
a group. A derivation is therefore stated relative to the token lists that may be grouped. The
documented grammar groups everything; the reader does not group an identifier that names a type.
-/

namespace MemoryInspector.Expression

/-- The nonterminals of the grammar. -/
inductive Phrase where
  | unary | suffixed | primary
deriving DecidableEq, Repr

/-- The tokens of a type name: identifiers, then stars. -/
def typeTokens (names : List String) (stars : Nat) : List Token :=
  names.map Token.word ++ List.replicate stars (.mark .star)

/-- The type name that such tokens spell, with a blank between any two of them. -/
def typeText (names : List String) (stars : Nat) : String :=
  String.intercalate " " (names ++ List.replicate stars "*")

/-- The token lists of each phrase, with the terms that they spell. -/
inductive Derives (types : Registry) (mayGroup : List Token → Prop) :
    Phrase → List Token → Term → Prop where
  | contents {tokens : List Token} {term : Term} :
      Derives types mayGroup .unary tokens term →
      Derives types mayGroup .unary (.mark .star :: tokens) (.contents term)
  | addressOf {tokens : List Token} {term : Term} :
      Derives types mayGroup .unary tokens term →
      Derives types mayGroup .unary (.mark .ampersand :: tokens) (.addressOf term)
  | cast {names : List String} {stars : Nat} {type : CType} {tokens : List Token} {term : Term} :
      names ≠ [] → types.resolve (typeText names stars) = .ok type →
      Derives types mayGroup .unary tokens term →
      Derives types mayGroup .unary
        (.mark .openParen :: (typeTokens names stars ++ .mark .closeParen :: tokens))
        (.cast type term)
  | ofSuffixed {tokens : List Token} {term : Term} :
      Derives types mayGroup .suffixed tokens term → Derives types mayGroup .unary tokens term
  | member {tokens : List Token} {term : Term} {name : String} :
      Derives types mayGroup .suffixed tokens term →
      Derives types mayGroup .suffixed (tokens ++ [.mark .dot, .word name]) (.member term name)
  | arrow {tokens : List Token} {term : Term} {name : String} :
      Derives types mayGroup .suffixed tokens term →
      Derives types mayGroup .suffixed (tokens ++ [.mark .arrow, .word name]) (.arrow term name)
  | subscript {tokens : List Token} {term : Term} {index : UInt64} :
      Derives types mayGroup .suffixed tokens term →
      Derives types mayGroup .suffixed
        (tokens ++ [.mark .openBracket, .integer index, .mark .closeBracket])
        (.subscript term index)
  | ofPrimary {tokens : List Token} {term : Term} :
      Derives types mayGroup .primary tokens term → Derives types mayGroup .suffixed tokens term
  | integer {value : UInt64} : Derives types mayGroup .primary [.integer value] (.integer value)
  | symbol {name : String} : Derives types mayGroup .primary [.word name] (.symbol name)
  | group {tokens : List Token} {term : Term} :
      mayGroup tokens → Derives types mayGroup .unary tokens term →
      Derives types mayGroup .primary (.mark .openParen :: (tokens ++ [.mark .closeParen])) term

/-- The documented grammar, where every unary phrase may be grouped. -/
abbrev Spells (types : Registry) (tokens : List Token) (term : Term) : Prop :=
  Derives types (fun _ ↦ True) .unary tokens term

/-- The tokens are not a single identifier that names a type. -/
def NoLoneType (types : Registry) (tokens : List Token) : Prop :=
  ∀ name, tokens = [.word name] → ∀ type, types.resolve name ≠ .ok type

/-- The grammar that the reader follows. -/
abbrev Reads (types : Registry) (phrase : Phrase) (tokens : List Token) (term : Term) : Prop :=
  Derives types (NoLoneType types) phrase tokens term

variable {types : Registry} {mayGroup : List Token → Prop} {phrase : Phrase}
  {tokens : List Token} {term : Term}

theorem Derives.mono {mayGroup' : List Token → Prop} (hgroup : ∀ tokens, mayGroup tokens → mayGroup' tokens)
    (h : Derives types mayGroup phrase tokens term) : Derives types mayGroup' phrase tokens term := by
  induction h with
  | contents _ ih => exact .contents ih
  | addressOf _ ih => exact .addressOf ih
  | cast hnames htype _ ih => exact .cast hnames htype ih
  | ofSuffixed _ ih => exact .ofSuffixed ih
  | member _ ih => exact .member ih
  | arrow _ ih => exact .arrow ih
  | subscript _ ih => exact .subscript ih
  | ofPrimary _ ih => exact .ofPrimary ih
  | integer => exact .integer
  | symbol => exact .symbol
  | group hmay _ ih => exact .group (hgroup _ hmay) ih

theorem Derives.ne_nil (h : Derives types mayGroup phrase tokens term) : tokens ≠ [] := by
  induction h <;> simp_all

/-- The marks that begin a suffix. -/
def Mark.IsSuffix (kind : Mark) : Prop := kind = .dot ∨ kind = .arrow ∨ kind = .openBracket

/-- A phrase that begins with an identifier is that symbol, or a suffix comes next. In particular
a type name of several tokens is no phrase. -/
theorem Derives.of_word {name : String} {rest : List Token}
    (h : Derives types mayGroup phrase tokens term) (htokens : tokens = .word name :: rest) :
    (rest = [] ∧ term = .symbol name) ∨
      ∃ kind, Mark.IsSuffix kind ∧ ∃ others, rest = .mark kind :: others := by
  have extend {front : List Token} {kind : Mark} {others : List Token} {term : Term}
      (hkind : kind.IsSuffix) (hfront : Derives types mayGroup .suffixed front term)
      (ih : ∀ {rest}, front = .word name :: rest → (rest = [] ∧ term = .symbol name) ∨
        ∃ kind, Mark.IsSuffix kind ∧ ∃ others, rest = .mark kind :: others) {rest : List Token}
      (htokens : front ++ .mark kind :: others = .word name :: rest) :
      ∃ kind, Mark.IsSuffix kind ∧ ∃ others, rest = .mark kind :: others := by
    obtain ⟨first, front, rfl⟩ := List.exists_cons_of_ne_nil hfront.ne_nil
    simp only [List.cons_append, List.cons.injEq] at htokens
    obtain ⟨rfl, rfl⟩ := htokens
    rcases ih rfl with ⟨rfl, -⟩ | ⟨next, hnext, more, rfl⟩
    · exact ⟨kind, hkind, others, rfl⟩
    · exact ⟨next, hnext, _, rfl⟩
  induction h generalizing rest with
  | contents | addressOf | cast | integer | group => cases htokens
  | ofSuffixed _ ih => exact ih htokens
  | ofPrimary _ ih => exact ih htokens
  | member hfront ih => exact .inr (extend (.inl rfl) hfront ih htokens)
  | arrow hfront ih => exact .inr (extend (.inr (.inl rfl)) hfront ih htokens)
  | subscript hfront ih => exact .inr (extend (.inr (.inr rfl)) hfront ih htokens)
  | symbol =>
    cases htokens
    exact .inl ⟨rfl, rfl⟩

/-- The symbols that occur in a term. -/
def Term.symbolNames : Term → List String
  | .symbol name => [name]
  | .member term _ | .arrow term _ | .subscript term _ | .contents term | .addressOf term
  | .cast _ term | .faultAfter term _ => term.symbolNames
  | .integer _ | .unknownType _ | .fault _ => []

/-- Where no symbol of the term names a type, the open choice is settled. -/
theorem Derives.reads (h : Derives types mayGroup phrase tokens term)
    (hsymbols : ∀ name ∈ term.symbolNames, ∀ type, types.resolve name ≠ .ok type) :
    Reads types phrase tokens term := by
  induction h with
  | contents _ ih => exact .contents (ih hsymbols)
  | addressOf _ ih => exact .addressOf (ih hsymbols)
  | cast hnames htype _ ih => exact .cast hnames htype (ih hsymbols)
  | ofSuffixed _ ih => exact .ofSuffixed (ih hsymbols)
  | member _ ih => exact .member (ih hsymbols)
  | arrow _ ih => exact .arrow (ih hsymbols)
  | subscript _ ih => exact .subscript (ih hsymbols)
  | ofPrimary _ ih => exact .ofPrimary (ih hsymbols)
  | integer => exact .integer
  | symbol => exact .symbol
  | group _ hinner ih =>
    refine .group (fun name htokens ↦ ?_) (ih hsymbols)
    rcases hinner.of_word htokens with ⟨-, rfl⟩ | ⟨kind, -, others, hrest⟩
    · exact hsymbols name (by simp [Term.symbolNames])
    · cases hrest

end MemoryInspector.Expression
