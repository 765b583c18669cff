import MemoryInspector.Proofs.Expression.Spelling

/-!
# Written token lists

A token list is written as the texts of its tokens in order, with any white space before, between and
behind them, and with some between two words or numbers. A number has many numerals, in decimal and in
hexadecimal. What is scanned is exactly what is written: there is one way to cut a written text.
-/

namespace MemoryInspector.Expression

open Text

/-- A letter or an underscore, then letters, digits and underscores, of ASCII alone. -/
def IsIdentifier (text : List Char) : Prop :=
  ∃ first rest, text = first :: rest ∧ (first.isAlpha = true ∨ first = '_') ∧
    ∀ c ∈ rest, c.isAlphanum = true ∨ c = '_'

namespace Token

/-- The texts of a token. -/
inductive IsText : Token → List Char → Prop
  | integer {value : UInt64} {text : List Char} (htext : Numeral text value.toNat) :
      IsText (.integer value) text
  | word {name : String} (hname : IsIdentifier name.toList) : IsText (.word name) name.toList
  | mark (kind : Mark) : IsText (.mark kind) kind.chars

/-- Whether the token is a word or a number, which runs into another one that follows on it. -/
def runsOn : Token → Bool
  | integer _ | word _ => true
  | mark _ => false

end Token

/-- The texts of token lists. -/
inductive Written : List Token → List Char → Prop
  | nil {blanks : List Char} (hblanks : ∀ c ∈ blanks, isBlank c = true) : Written [] blanks
  | cons {token : Token} {tokens : List Token} {blanks chars rest : List Char}
      (hblanks : ∀ c ∈ blanks, isBlank c = true) (htoken : token.IsText chars)
      (hrest : Written tokens rest)
      (hapart : token.runsOn = true → ∀ next ∈ tokens.head?, next.runsOn = true →
        ∃ c ∈ rest.head?, isBlank c = true) :
      Written (token :: tokens) (blanks ++ (chars ++ rest))

variable {token : Token} {tokens : List Token} {text word : List Char} {c : Char}

/-! ## Words -/

/-- Word characters are digits, or characters that identifiers start with. -/
theorem isDigit_eq_false_iff (h : Token.isWordChar c = true) :
    c.isDigit = false ↔ c.isAlpha = true ∨ c = '_' := by
  have hdisjoint : c.isDigit = true → ¬ (c.isAlpha = true ∨ c = '_') := by
    rintro hdigit (halpha | rfl)
    · unfold Char.isDigit at hdigit
      unfold Char.isAlpha Char.isUpper Char.isLower at halpha
      simp only [Bool.or_eq_true, Bool.and_eq_true, decide_eq_true_eq, ge_iff_le,
        UInt32.le_iff_toNat_le] at hdigit halpha
      obtain ⟨-, hhigh⟩ := hdigit
      have hends : '9'.val.toNat < 'A'.val.toNat ∧ '9'.val.toNat < 'a'.val.toNat := by decide
      omega
    · exact absurd hdigit (by decide)
  rw [isWordChar_iff, Char.isAlphanum, Bool.or_eq_true] at h
  cases hdigit : c.isDigit with
  | true => simpa using hdisjoint hdigit
  | false =>
    rw [hdigit] at h
    simpa using h

theorem isIdentifier_cons_iff {rest : List Char}
    (h : ∀ d ∈ c :: rest, Token.isWordChar d = true) : IsIdentifier (c :: rest) ↔ c.isDigit = false := by
  obtain ⟨hc, hrest⟩ := List.forall_mem_cons.1 h
  rw [isDigit_eq_false_iff hc]
  constructor
  · rintro ⟨first, others, heq, hfirst, -⟩
    cases heq
    exact hfirst
  · intro hfirst
    exact ⟨c, rest, rfl, hfirst, fun d hd ↦ isWordChar_iff.1 (hrest d hd)⟩

theorem IsIdentifier.ne_nil (h : IsIdentifier text) : text ≠ [] := by
  obtain ⟨first, rest, rfl, -⟩ := h
  exact List.cons_ne_nil _ _

theorem IsIdentifier.isWordChar (h : IsIdentifier text) (hc : c ∈ text) : Token.isWordChar c = true := by
  obtain ⟨first, rest, rfl, hfirst, hrest⟩ := h
  rw [isWordChar_iff]
  rcases List.mem_cons.1 hc with rfl | hc
  · rcases hfirst with halpha | rfl
    · exact .inl (by rw [Char.isAlphanum, halpha, Bool.true_or])
    · exact .inr rfl
  · exact hrest c hc

theorem ofWord_eq_word_iff {name : String} (hne : word ≠ [])
    (hword : ∀ c ∈ word, Token.isWordChar c = true) :
    Token.ofWord word = .ok (.word name) ↔ IsIdentifier word ∧ word = name.toList := by
  obtain ⟨c, rest, rfl⟩ := List.exists_cons_of_ne_nil hne
  rw [isIdentifier_cons_iff hword]
  constructor
  · intro h
    refine ⟨?_, by rw [ofWord_eq_word h, String.toList_ofList]⟩
    by_contra hdigit
    rw [Token.ofWord, List.head?_cons, Option.any_some, if_pos (by simpa using hdigit)] at h
    split at h <;> cases h
  · rintro ⟨hdigit, hname⟩
    rw [Token.ofWord, List.head?_cons, Option.any_some, if_neg (by simp [hdigit]), hname,
      String.ofList_toList]

/-- The texts of words and numbers are the runs of word characters that are read as such. -/
theorem isText_iff (hruns : token.runsOn = true) : token.IsText word ↔
    word ≠ [] ∧ (∀ c ∈ word, Token.isWordChar c = true) ∧ Token.ofWord word = .ok token := by
  constructor
  · intro h
    cases h with
    | integer htext =>
      have hword : ∀ c ∈ word, Token.isWordChar c = true := fun c hc ↦ isWordChar_of_numeral htext hc
      obtain ⟨c, rest, hcons, -⟩ := htext.exists_cons
      exact ⟨by simp [hcons], hword, (ofWord_eq_integer_iff hword).2 htext⟩
    | word hname =>
      have hword : ∀ c ∈ _, Token.isWordChar c = true := fun c hc ↦ hname.isWordChar hc
      have hne := hname.ne_nil
      exact ⟨hne, hword, (ofWord_eq_word_iff hne hword).2 ⟨hname, rfl⟩⟩
    | mark => cases hruns
  · rintro ⟨hne, hword, htoken⟩
    cases token with
    | integer value => exact .integer ((ofWord_eq_integer_iff hword).1 htoken)
    | word name =>
      obtain ⟨hname, rfl⟩ := (ofWord_eq_word_iff hne hword).1 htoken
      exact .word hname
    | mark => cases hruns

theorem runsOn_of_ofWord (h : Token.ofWord word = .ok token) : token.runsOn = true := by
  cases token with
  | integer | word => rfl
  | mark => exact absurd h ofWord_ne_mark

/-! ## White space -/

theorem isWordChar_of_isBlank (h : isBlank c = true) : Token.isWordChar c = false := by
  by_contra hword
  rw [isBlank_of_isWordChar (by simpa using hword)] at h
  cases h

theorem noWordHead_chars (kind : Mark) (rest : List Char) : NoWordHead (kind.chars ++ rest) := by
  cases kind <;> exact noWordHead_cons (by decide)

theorem Spelling.blanks {blanks : List Char} (hblanks : ∀ c ∈ blanks, isBlank c = true)
    (h : Spelling tokens text) : Spelling tokens (blanks ++ text) := by
  induction blanks with
  | nil => exact h
  | cons c rest ih =>
    obtain ⟨hc, hrest⟩ := List.forall_mem_cons.1 hblanks
    exact .blank hc (ih hrest)

theorem Written.blank (hc : isBlank c = true) (h : Written tokens text) : Written tokens (c :: text) := by
  cases h with
  | nil hblanks => exact .nil (List.forall_mem_cons.2 ⟨hc, hblanks⟩)
  | cons hblanks htoken hrest hapart =>
    exact .cons (List.forall_mem_cons.2 ⟨hc, hblanks⟩) htoken hrest hapart

/-- A written text starts with a word character unless white space, a mark or nothing comes first. -/
theorem Written.noWordHead_iff (h : Written tokens text) : NoWordHead text ↔
    ∀ next ∈ tokens.head?, next.runsOn = true → ∃ c ∈ text.head?, isBlank c = true := by
  cases h with
  | nil hblanks =>
    have hhead : NoWordHead text :=
      fun c hc ↦ isWordChar_of_isBlank (hblanks c (List.mem_of_head? hc))
    simp [hhead]
  | @cons token tokens blanks chars rest hblanks htoken _ _ =>
    simp only [List.head?_cons, Option.mem_some_iff, forall_eq']
    cases blanks with
    | cons c more =>
      have hc : isBlank c = true := hblanks c List.mem_cons_self
      exact ⟨fun _ _ ↦ ⟨c, rfl, hc⟩, fun _ ↦ noWordHead_cons (isWordChar_of_isBlank hc)⟩
    | nil =>
      -- Without white space the token itself comes first: a mark is no word character, a word is one.
      rw [List.nil_append]
      cases hruns : token.runsOn with
      | false =>
        cases htoken with
        | mark kind => simp [noWordHead_chars]
        | integer | word => cases hruns
      | true =>
        obtain ⟨hne, hword, -⟩ := (isText_iff hruns).1 htoken
        obtain ⟨c, more, rfl⟩ := List.exists_cons_of_ne_nil hne
        have hc : Token.isWordChar c = true := hword c List.mem_cons_self
        have hblank : isBlank c = false := isBlank_of_isWordChar hc
        simp [NoWordHead, hc, hblank]

/-! ## Token lists -/

/-- A written text is the spelling of its tokens. -/
theorem Written.spelling (h : Written tokens text) : Spelling tokens text := by
  induction h with
  | @nil blanks hblanks =>
    have hspelling := Spelling.nil.blanks hblanks
    rwa [List.append_nil] at hspelling
  | @cons token tokens blanks chars rest hblanks htoken hrest hapart ih =>
    refine Spelling.blanks hblanks ?_
    cases hruns : token.runsOn with
    | true =>
      obtain ⟨hne, hword, hread⟩ := (isText_iff hruns).1 htoken
      exact .word hne hword hread (hrest.noWordHead_iff.2 (hapart hruns)) ih
    | false =>
      cases htoken with
      | mark kind => exact .mark kind ih
      | integer | word => cases hruns

theorem Spelling.written (h : Spelling tokens text) : Written tokens text := by
  have hnone : ∀ c ∈ ([] : List Char), isBlank c = true := by simp
  induction h with
  | nil => exact .nil hnone
  | blank hblank _ ih => exact ih.blank hblank
  | mark kind _ ih => exact .cons hnone (.mark kind) ih (by simp [Token.runsOn])
  | word hne hword hread hhead _ ih =>
    have htoken := (isText_iff (runsOn_of_ofWord hread)).2 ⟨hne, hword, hread⟩
    exact .cons hnone htoken ih fun _ ↦ ih.noWordHead_iff.1 hhead

/-- The tokens of a text are those that it is written for. A text that is written for no tokens is
refused. -/
theorem scan_eq_ok_iff_written : Token.scan text = .ok tokens ↔ Written tokens text :=
  scan_eq_ok_iff.trans ⟨Spelling.written, Written.spelling⟩

end MemoryInspector.Expression
