import MemoryInspector.Proofs.Expression.Grammar

/-!
# What the reader accepts

The reader of terms and its grammar agree. A reading without a fault comes from a derivation, and
the tokens of a derivation are read back, whatever follows them that cannot continue the phrase.
The lookahead for a type after an opening parenthesis is settled by the derivation alone.
-/

namespace MemoryInspector.Expression

namespace Term

/-- No part of the term stands for a fault. -/
def Faultless : Term → Prop
  | .integer _ | .symbol _ => True
  | .member term _ | .arrow term _ | .subscript term _ | .contents term | .addressOf term
  | .cast _ term => term.Faultless
  | .unknownType _ | .fault _ | .faultAfter _ _ => False

end Term

/-- The tokens do not begin with a suffix. -/
def NoSuffix (tokens : List Token) : Prop :=
  ∀ kind others, tokens = .mark kind :: others → ¬ kind.IsSuffix

theorem noSuffix_nil : NoSuffix [] := by
  intro kind others h
  cases h

theorem noSuffix_closeParen (rest : List Token) : NoSuffix (.mark .closeParen :: rest) := by
  intro kind others h hsuffix
  rcases hsuffix with rfl | rfl | rfl <;> cases h

variable {types : Registry} {phrase : Phrase} {tokens rest : List Token} {term : Term}

/-! ## Type names after an opening parenthesis -/

theorem leadingWords_eq (tokens : List Token) :
    tokens = (Term.leadingWords tokens).1.map .word ++ (Term.leadingWords tokens).2 := by
  fun_induction Term.leadingWords tokens with
  | case1 name rest ih => simpa using ih
  | case2 => simp

theorem leadingStars_eq (tokens : List Token) :
    tokens = List.replicate (Term.leadingStars tokens).1 (.mark .star) ++
      (Term.leadingStars tokens).2 := by
  fun_induction Term.leadingStars tokens with
  | case1 rest ih => simpa [List.replicate_succ] using ih
  | case2 => simp

theorem leadingWords_map_append (names : List String) (hrest : ∀ name others, rest ≠ .word name :: others) :
    Term.leadingWords (names.map .word ++ rest) = (names, rest) := by
  induction names with
  | nil =>
    cases rest with
    | nil => rfl
    | cons token others =>
      cases token with
      | word name => exact absurd rfl (hrest name others)
      | integer | mark => rfl
  | cons name names ih => simp [Term.leadingWords, ih]

theorem leadingStars_replicate_append (stars : Nat) (hrest : ∀ others, rest ≠ .mark .star :: others) :
    Term.leadingStars (List.replicate stars (.mark .star) ++ rest) = (stars, rest) := by
  induction stars with
  | zero =>
    rw [List.replicate_zero, List.nil_append, Term.leadingStars]
    exact hrest
  | succ stars ih => simp [List.replicate_succ, Term.leadingStars, ih]

/-- A type name and a closing parenthesis, when the name means a type, are taken for a cast. -/
theorem parenHead_typeTokens {names : List String} (stars : Nat) {type : CType} (rest : List Token)
    (hnames : names ≠ []) (htype : types.resolve (typeText names stars) = .ok type) :
    Term.parenHead types (typeTokens names stars ++ .mark .closeParen :: rest) = .cast type rest := by
  obtain ⟨first, others, rfl⟩ := List.exists_cons_of_ne_nil hnames
  have hstars : ∀ name others,
      List.replicate stars (Token.mark .star) ++ .mark .closeParen :: rest ≠ .word name :: others := by
    cases stars <;> simp [List.replicate_succ]
  rw [typeText, List.cons_append] at htype
  simp only [Term.parenHead, typeTokens, List.append_assoc, leadingWords_map_append _ hstars]
  rw [leadingStars_replicate_append stars (by simp)]
  simp [htype]

/-- What the lookahead has passed before a closing parenthesis is a type name. -/
theorem eq_typeTokens_of_leading {names : List String}
    (hnames : (Term.leadingWords tokens).1 = names)
    (hafter : (Term.leadingStars (Term.leadingWords tokens).2).2 = .mark .closeParen :: rest) :
    tokens = typeTokens names (Term.leadingStars (Term.leadingWords tokens).2).1 ++
      .mark .closeParen :: rest := by
  have hwords := leadingWords_eq tokens
  have hstars := leadingStars_eq (Term.leadingWords tokens).2
  rw [typeTokens, List.append_assoc, ← hafter, ← hstars, ← hnames, ← hwords]

/-- A cast is seen only behind a type name and a closing parenthesis. -/
theorem eq_typeTokens_of_parenHead {type : CType} (h : Term.parenHead types tokens = .cast type rest) :
    ∃ names stars, names ≠ [] ∧ types.resolve (typeText names stars) = .ok type ∧
      tokens = typeTokens names stars ++ .mark .closeParen :: rest := by
  simp only [Term.parenHead] at h
  split at h
  · next first others after hnames hafter =>
    split at h
    · next htype =>
      cases h
      exact ⟨first :: others, _, by simp, htype, eq_typeTokens_of_leading hnames hafter⟩
    · split at h <;> cases h
  · cases h

/-- A type name that means nothing has several tokens where it is taken for a type. -/
theorem eq_typeTokens_of_unknownType {name : String}
    (h : Term.parenHead types tokens = .unknownType name) :
    ∃ names stars rest, tokens = typeTokens names stars ++ .mark .closeParen :: rest ∧ names ≠ [] ∧
      2 ≤ names.length + stars ∧ name = typeText names stars ∧ ∀ type, types.resolve name ≠ .ok type := by
  simp only [Term.parenHead] at h
  split at h
  · next first others after hnames hafter =>
    split at h
    · cases h
    · next e htype =>
      split at h
      · cases h
      · next hseveral =>
        cases h
        refine ⟨first :: others, _, after, eq_typeTokens_of_leading hnames hafter, by simp, ?_, rfl, ?_⟩
        · cases others with
          | nil =>
            simp only [List.isEmpty_nil, Bool.true_and, beq_iff_eq] at hseveral
            simp only [List.length_singleton]
            omega
          | cons => simp only [List.length_cons]; omega
        · intro type hresolve
          cases htype.symm.trans hresolve
  · cases h

/-- A phrase in front of a closing parenthesis is not taken for a type. -/
theorem parenHead_eq_group {mayGroup : List Token → Prop} (h : Derives types mayGroup phrase tokens term)
    (hlone : NoLoneType types tokens) :
    Term.parenHead types (tokens ++ .mark .closeParen :: rest) = .group := by
  obtain ⟨first, others, rfl⟩ := List.exists_cons_of_ne_nil h.ne_nil
  cases first with
  | integer | mark => rfl
  | word name =>
    rcases h.of_word rfl with ⟨rfl, -⟩ | ⟨kind, hkind, more, rfl⟩
    · have hname : ∀ type, types.resolve name ≠ .ok type := hlone name rfl
      cases hresolve : types.resolve name with
      | ok type => exact absurd hresolve (hname type)
      | error e => simp [Term.parenHead, Term.leadingWords, Term.leadingStars, hresolve]
    · rcases hkind with rfl | rfl | rfl <;>
        simp [Term.parenHead, Term.leadingWords, Term.leadingStars]

/-! ## Suffixes -/

theorem suffixes_of_noSuffix (term : Term) (hrest : NoSuffix rest) :
    Term.suffixes term rest = (term, rest) := by
  cases rest with
  | nil => rfl
  | cons token others =>
    cases token with
    | integer | word => rfl
    | mark kind =>
      have hkind := hrest kind others rfl
      cases kind with
      | dot => exact absurd (.inl rfl) hkind
      | arrow => exact absurd (.inr (.inl rfl)) hkind
      | openBracket => exact absurd (.inr (.inr rfl)) hkind
      | star | ampersand | openParen | closeParen | closeBracket => rfl

/-- A reading of suffixes without a fault extends a derivation of what stands before them. -/
theorem reads_of_suffixes {front : List Token} {result : Term} (hfront : Reads types .suffixed front term)
    (h : Term.suffixes term tokens = (result, rest)) (hresult : result.Faultless) :
    ∃ consumed, tokens = consumed ++ rest ∧ Reads types .suffixed (front ++ consumed) result := by
  fun_induction Term.suffixes term tokens generalizing front with
  | case1 term name tokens ih =>
    obtain ⟨consumed, rfl, hreads⟩ := ih hfront.member h
    exact ⟨.mark .dot :: .word name :: consumed, by simp, by simpa using hreads⟩
  | case3 term name tokens ih =>
    obtain ⟨consumed, rfl, hreads⟩ := ih hfront.arrow h
    exact ⟨.mark .arrow :: .word name :: consumed, by simp, by simpa using hreads⟩
  | case5 term index tokens ih =>
    obtain ⟨consumed, rfl, hreads⟩ := ih hfront.subscript h
    exact ⟨.mark .openBracket :: .integer index :: .mark .closeBracket :: consumed, by simp,
      by simpa using hreads⟩
  | case2 | case4 | case6 | case7 =>
    cases h
    exact hresult.elim
  | case8 =>
    cases h
    exact ⟨[], by simp, by simpa using hfront⟩

theorem Term.Faultless.of_suffixes {result : Term} (h : Term.suffixes term tokens = (result, rest))
    (hresult : result.Faultless) : term.Faultless := by
  fun_induction Term.suffixes term tokens with
  | case1 term name tokens ih => exact ih h
  | case3 term name tokens ih => exact ih h
  | case5 term index tokens ih => exact ih h
  | case2 | case4 | case6 | case7 =>
    cases h
    exact hresult.elim
  | case8 =>
    cases h
    exact hresult

/-! ## Whole phrases -/

/-- A reading without a fault comes from a derivation of the tokens that it consumed. -/
theorem reads_of_unary (h : Term.unary types tokens = (term, rest)) (hterm : term.Faultless) :
    ∃ consumed, tokens = consumed ++ rest ∧ Reads types .unary consumed term := by
  fun_induction Term.unary types tokens generalizing term rest with
  | case1 | case10 =>
    cases h
    exact hterm.elim
  | case2 value tokens =>
    obtain ⟨consumed, rfl, hreads⟩ := reads_of_suffixes (.ofPrimary .integer) h hterm
    exact ⟨.integer value :: consumed, rfl, .ofSuffixed hreads⟩
  | case3 name tokens =>
    obtain ⟨consumed, rfl, hreads⟩ := reads_of_suffixes (.ofPrimary .symbol) h hterm
    exact ⟨.word name :: consumed, rfl, .ofSuffixed hreads⟩
  | case4 tokens operand others hread ih =>
    cases h
    obtain ⟨consumed, rfl, hreads⟩ := ih hread hterm
    exact ⟨.mark .star :: consumed, rfl, .contents hreads⟩
  | case5 tokens operand others hread ih =>
    cases h
    obtain ⟨consumed, rfl, hreads⟩ := ih hread hterm
    exact ⟨.mark .ampersand :: consumed, rfl, .addressOf hreads⟩
  | case6 tokens type others hhead operand others' hread ih =>
    cases h
    obtain ⟨consumed, rfl, hreads⟩ := ih hread hterm
    obtain ⟨names, stars, hnames, htype, rfl⟩ := eq_typeTokens_of_parenHead hhead
    exact ⟨_, by simp, .cast hnames htype hreads⟩
  | case7 =>
    cases h
    exact hterm.elim
  | case8 tokens hhead inner others hread ih =>
    obtain ⟨consumed, rfl, hinner⟩ := ih hread (.of_suffixes h hterm)
    have hlone : NoLoneType types consumed := by
      intro name hname type htype
      subst hname
      have hcast := parenHead_typeTokens 0 others (List.cons_ne_nil name []) htype
      simp only [typeTokens, List.map_cons, List.map_nil, List.replicate_zero, List.append_nil] at hcast
      rw [hcast] at hhead
      cases hhead
    obtain ⟨more, rfl, hreads⟩ := reads_of_suffixes (.ofPrimary (.group hlone hinner)) h hterm
    exact ⟨_, by simp, .ofSuffixed hreads⟩
  | case9 =>
    cases h
    exact hterm.elim

theorem unary_of_cast {type : CType} {others : List Token}
    (hhead : Term.parenHead types tokens = .cast type rest)
    (hread : Term.unary types rest = (term, others)) :
    Term.unary types (.mark .openParen :: tokens) = (.cast type term, others) := by
  rw [Term.unary]
  split
  · next hcast =>
    rw [hhead] at hcast
    cases hcast
    rw [hread]
  · next hother => rw [hhead] at hother; cases hother
  · next hother => rw [hhead] at hother; cases hother

theorem unary_of_group (hhead : Term.parenHead types tokens = .group)
    (hread : Term.unary types tokens = (term, .mark .closeParen :: rest)) :
    Term.unary types (.mark .openParen :: tokens) = Term.suffixes term rest := by
  rw [Term.unary]
  split
  · next hother => rw [hhead] at hother; cases hother
  · next hother => rw [hhead] at hother; cases hother
  · rw [hread]

/-- The tokens of a phrase are read back, and suffixes behind them go on with its term. -/
theorem unary_append (h : Reads types phrase tokens term) (rest : List Token)
    (hrest : phrase = .unary → NoSuffix rest) :
    Term.unary types (tokens ++ rest) = Term.suffixes term rest := by
  induction h generalizing rest with
  | contents _ ih =>
    rw [List.cons_append, Term.unary, ih rest hrest]
    simp only [suffixes_of_noSuffix _ (hrest rfl)]
  | addressOf _ ih =>
    rw [List.cons_append, Term.unary, ih rest hrest]
    simp only [suffixes_of_noSuffix _ (hrest rfl)]
  | cast hnames htype _ ih =>
    rw [List.cons_append, List.append_assoc, List.cons_append, suffixes_of_noSuffix _ (hrest rfl)]
    apply unary_of_cast (parenHead_typeTokens _ _ hnames htype)
    rw [ih rest hrest, suffixes_of_noSuffix _ (hrest rfl)]
  | ofSuffixed _ ih => exact ih rest (by simp)
  | ofPrimary _ ih => exact ih rest (by simp)
  | member _ ih => rw [List.append_assoc, ih _ (by simp)]; rfl
  | arrow _ ih => rw [List.append_assoc, ih _ (by simp)]; rfl
  | subscript _ ih => rw [List.append_assoc, ih _ (by simp)]; rfl
  | integer => rw [List.singleton_append, Term.unary]
  | symbol => rw [List.singleton_append, Term.unary]
  | group hlone hinner ih =>
    have hclose := noSuffix_closeParen rest
    rw [List.cons_append, List.append_assoc, List.singleton_append]
    apply unary_of_group (parenHead_eq_group hinner hlone)
    rw [ih _ fun _ ↦ hclose, suffixes_of_noSuffix _ hclose]

/-- A whole token list is read without a fault exactly as the grammar derives it. -/
theorem ofTokens_eq_iff (hterm : term.Faultless) :
    Term.ofTokens types tokens = term ↔ Reads types .unary tokens term := by
  constructor
  · intro h
    unfold Term.ofTokens at h
    split at h
    · next read hread =>
      obtain ⟨consumed, rfl, hreads⟩ := reads_of_unary hread (h ▸ hterm)
      simpa only [List.append_nil, h] using hreads
    · subst h
      exact hterm.elim
  · intro h
    have hread := unary_append h [] fun _ ↦ noSuffix_nil
    rw [List.append_nil, suffixes_of_noSuffix _ noSuffix_nil] at hread
    rw [Term.ofTokens, hread]

end MemoryInspector.Expression
