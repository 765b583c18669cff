import MemoryInspector.Expression.Token
import MemoryInspector.Proofs.Outcome
import MemoryInspector.Proofs.Text.Blank
import MemoryInspector.Proofs.Text.Numeral

/-!
# Spellings of token lists

A text spells a token list if it consists of the spellings of the tokens with white space between
them, and no word or number runs into the next one. Scanning a text gives exactly the tokens that
it spells.
-/

namespace MemoryInspector.Expression

open Text

/-- The characters of a mark. -/
def Mark.chars : Mark → List Char
  | star => ['*']
  | ampersand => ['&']
  | openParen => ['(']
  | closeParen => [')']
  | openBracket => ['[']
  | closeBracket => [']']
  | dot => ['.']
  | arrow => ['-', '>']

/-- A token written out; numbers are decimal. -/
def Token.text : Token → String
  | integer value => decimal value.toNat
  | word name => name
  | mark kind => String.ofList kind.chars

/-- The text does not go on with a word. -/
def NoWordHead (text : List Char) : Prop := ∀ c ∈ text.head?, Token.isWordChar c = false

/-- The token lists that a text spells. -/
inductive Spelling : List Token → List Char → Prop where
  | nil : Spelling [] []
  | blank {c : Char} {tokens : List Token} {text : List Char} : isBlank c = true →
      Spelling tokens text → Spelling tokens (c :: text)
  | mark (kind : Mark) {tokens : List Token} {text : List Char} :
      Spelling tokens text → Spelling (.mark kind :: tokens) (kind.chars ++ text)
  | word {token : Token} {word : List Char} {tokens : List Token} {text : List Char} : word ≠ [] →
      (∀ c ∈ word, Token.isWordChar c = true) → Token.ofWord word = .ok token → NoWordHead text →
      Spelling tokens text → Spelling (token :: tokens) (word ++ text)

variable {c : Char} {tokens first second : List Token} {text rest : List Char}

/-! ## Characters -/

theorem ofChar?_eq_some {kind : Mark} (h : Mark.ofChar? c = some kind) : kind.chars = [c] := by
  unfold Mark.ofChar? at h
  split at h <;> cases h <;> rfl

theorem isWordChar_iff : Token.isWordChar c = true ↔ c.isAlphanum = true ∨ c = '_' := by
  rw [Token.isWordChar, Bool.or_eq_true, beq_iff_eq]

/-- Word characters lie between the digit zero and the letter z. -/
theorem toNat_of_isWordChar (h : Token.isWordChar c = true) : 48 ≤ c.toNat ∧ c.toNat ≤ 122 := by
  unfold Token.isWordChar Char.isAlphanum Char.isAlpha Char.isUpper Char.isLower Char.isDigit at h
  simp only [Bool.or_eq_true, Bool.and_eq_true, decide_eq_true_eq, beq_iff_eq,
    UInt32.le_iff_toNat_le] at h
  rcases h with ((⟨hlow, hhigh⟩ | ⟨hlow, hhigh⟩) | ⟨hlow, hhigh⟩) | rfl
  · exact ⟨Nat.le_trans (by decide) hlow, Nat.le_trans hhigh (by decide)⟩
  · exact ⟨Nat.le_trans (by decide) hlow, Nat.le_trans hhigh (by decide)⟩
  · exact ⟨Nat.le_trans (by decide) hlow, Nat.le_trans hhigh (by decide)⟩
  · decide

theorem isBlank_of_isWordChar (h : Token.isWordChar c = true) : isBlank c = false := by
  obtain ⟨hlow, hhigh⟩ := toNat_of_isWordChar h
  exact isBlank_of_toNat hlow hhigh

theorem ofChar?_of_isWordChar (h : Token.isWordChar c = true) : Mark.ofChar? c = none := by
  unfold Mark.ofChar?
  split <;> first | rfl | exact absurd h (by decide)

theorem noWordHead_dropWhile (text : List Char) :
    NoWordHead (text.dropWhile Token.isWordChar) := by
  intro c hc
  have hhead := List.head?_dropWhile_not Token.isWordChar text
  rw [Option.mem_def] at hc
  rwa [hc] at hhead

theorem NoWordHead.takeWhile_append {word : List Char} (h : NoWordHead text)
    (hword : ∀ c ∈ word, Token.isWordChar c = true) :
    (word ++ text).takeWhile Token.isWordChar = word ∧
      (word ++ text).dropWhile Token.isWordChar = text := by
  rw [List.takeWhile_append_of_pos hword, List.dropWhile_append_of_pos hword]
  cases text with
  | nil => exact ⟨List.append_nil _, rfl⟩
  | cons c rest =>
    have hc : Token.isWordChar c = false := h c rfl
    rw [List.takeWhile_cons_of_neg (by simp [hc]), List.dropWhile_cons_of_neg (by simp [hc])]
    exact ⟨List.append_nil _, rfl⟩

theorem isWordChar_of_numeral {n : Nat} (h : Numeral text n) (hc : c ∈ text) :
    Token.isWordChar c = true :=
  isWordChar_iff.2 (.inl (h.isAlphanum hc))

theorem ofWord_eq_integer_iff {value : UInt64} {word : List Char}
    (hword : ∀ c ∈ word, Token.isWordChar c = true) :
    Token.ofWord word = .ok (.integer value) ↔ Numeral word value.toNat := by
  have hplus : '+' ∉ word := fun hmem ↦ absurd (hword _ hmem) (by decide)
  rw [← integer?_eq_some_iff hplus]
  constructor
  · intro h
    unfold Token.ofWord at h
    split at h
    · split at h
      · next hvalue =>
        cases h
        exact hvalue
      · cases h
    · cases h
  · intro h
    obtain ⟨c, rest, rfl, hc⟩ := ((integer?_eq_some_iff hplus).1 h).exists_cons
    rw [Token.ofWord, List.head?_cons, Option.any_some, if_pos hc, h]

theorem ofWord_eq_word {word : List Char} {name : String} (h : Token.ofWord word = .ok (.word name)) :
    name = String.ofList word := by
  unfold Token.ofWord at h
  split at h
  · split at h <;> cases h
  · cases h
    rfl

theorem ofWord_ne_mark {word : List Char} {kind : Mark} : Token.ofWord word ≠ .ok (.mark kind) := by
  intro h
  unfold Token.ofWord at h
  split at h
  · split at h <;> cases h
  · cases h

theorem noWordHead_nil : NoWordHead [] := by
  intro c hc
  cases hc

theorem noWordHead_cons (h : Token.isWordChar c = false) : NoWordHead (c :: text) := by
  intro d hd
  cases hd
  exact h

theorem noWordHead_append (htext : NoWordHead text) (hrest : NoWordHead rest) :
    NoWordHead (text ++ rest) := by
  cases text with
  | nil => exact hrest
  | cons c more => exact htext

/-! ## Scanning -/

theorem spelling_of_scan (h : Token.scan text = .ok tokens) : Spelling tokens text := by
  fun_induction Token.scan text generalizing tokens with
  | case1 =>
    cases h
    exact .nil
  | case2 rest ih =>
    obtain ⟨others, hothers, rfl⟩ := Except.map_eq_ok_iff.1 h
    exact .mark .arrow (ih hothers)
  | case3 c rest harrow hblank ih => exact .blank hblank (ih h)
  | case4 c rest harrow hblank kind hkind ih =>
    obtain ⟨others, hothers, rfl⟩ := Except.map_eq_ok_iff.1 h
    have hspelling := Spelling.mark kind (ih hothers)
    rwa [ofChar?_eq_some hkind] at hspelling
  | case5 c rest harrow hblank hkind hword token htoken ih =>
    obtain ⟨others, hothers, rfl⟩ := Except.map_eq_ok_iff.1 h
    have hall : ∀ c' ∈ c :: rest.takeWhile Token.isWordChar, Token.isWordChar c' = true := by
      intro c' hc'
      rcases List.mem_cons.1 hc' with rfl | hc'
      · exact hword
      · exact List.all_eq_true.1 List.all_takeWhile c' hc'
    have hspelling := Spelling.word (List.cons_ne_nil _ _) hall htoken (noWordHead_dropWhile rest)
      (ih hothers)
    rwa [List.cons_append, List.takeWhile_append_dropWhile] at hspelling
  | case6 | case7 => cases h

/-- A mark is a token by itself, whatever stands behind it. -/
theorem scan_mark_append (kind : Mark) (rest : List Char) :
    Token.scan (kind.chars ++ rest) = (Token.scan rest).map (.mark kind :: ·) := by
  cases kind with
  | arrow => rw [Mark.chars, List.cons_append, List.singleton_append, Token.scan]
  | star | ampersand | openParen | closeParen | openBracket | closeBracket | dot =>
    rw [Mark.chars, List.singleton_append, Token.scan, if_neg (by decide)]
    · rfl
    · intro others hdash
      cases hdash

/-- The tokens of a text come first, whatever stands behind it and whether that can be scanned. -/
theorem scan_append (h : Spelling tokens text) (hrest : NoWordHead rest) :
    Token.scan (text ++ rest) = (Token.scan rest).map (tokens ++ ·) := by
  induction h with
  | nil =>
    rw [List.nil_append]
    cases Token.scan rest <;> rfl
  | blank hblank _ ih =>
    rw [List.cons_append, Token.scan, if_pos hblank, ih]
    intro others hdash
    rw [hdash] at hblank
    exact absurd hblank (by decide)
  | mark kind _ ih =>
    rw [List.append_assoc, scan_mark_append, ih, Except.map_comp]
    rfl
  | @word token word tokens text hne hword htoken hhead _ ih =>
    obtain ⟨c, more, rfl⟩ := List.exists_cons_of_ne_nil hne
    have hc : Token.isWordChar c = true := hword c List.mem_cons_self
    obtain ⟨htake, hdrop⟩ := (noWordHead_append hhead hrest).takeWhile_append fun c' hc' ↦
      hword c' (List.mem_cons_of_mem _ hc')
    rw [List.append_assoc, List.cons_append, Token.scan, if_neg (by simp [isBlank_of_isWordChar hc])]
    · simp only [ofChar?_of_isWordChar hc, hc, if_true, htake, hdrop, htoken, ih, Except.map_comp]
      rfl
    · intro others hdash
      subst hdash
      exact absurd hc (by decide)

theorem scan_of_spelling (h : Spelling tokens text) : Token.scan text = .ok tokens := by
  have hscan := scan_append h noWordHead_nil
  rw [List.append_nil, Token.scan] at hscan
  rw [hscan, Except.map, List.append_nil]

theorem scan_eq_ok_iff : Token.scan text = .ok tokens ↔ Spelling tokens text :=
  ⟨spelling_of_scan, scan_of_spelling⟩

/-! ## Texts side by side -/

theorem Spelling.append (h : Spelling first text) (hrest : Spelling second rest)
    (hhead : NoWordHead rest) : Spelling (first ++ second) (text ++ rest) := by
  induction h with
  | nil => exact hrest
  | blank hblank _ ih => exact .blank hblank ih
  | mark kind _ ih =>
    rw [List.cons_append, List.append_assoc]
    exact .mark kind ih
  | word hne hword htoken htext _ ih =>
    rw [List.cons_append, List.append_assoc]
    exact .word hne hword htoken (noWordHead_append htext hhead) ih

theorem Spelling.eq_nil (h : Spelling tokens []) : tokens = [] := by
  generalize htext : [] = text at h
  induction h with
  | nil => rfl
  | blank => cases htext
  | mark kind =>
    cases kind <;> cases htext
  | word hne =>
    rw [eq_comm, List.append_eq_nil_iff] at htext
    exact absurd htext.1 hne

theorem noBlankEnd_chars (kind : Mark) : NoBlankEnd kind.chars := by
  intro c hc
  cases kind <;> cases hc <;> decide

theorem noBlankEnd_word {word : List Char} (h : ∀ c ∈ word, Token.isWordChar c = true) :
    NoBlankEnd word :=
  fun c hc ↦ isBlank_of_isWordChar (h c (List.mem_of_getLast? hc))

/-- A text can be cut between any two of its tokens. White space at the cut goes to the right. -/
theorem Spelling.split (h : Spelling (first ++ second) text) : ∃ front rest, text = front ++ rest ∧
    Spelling first front ∧ Spelling second rest ∧ NoBlankEnd front := by
  generalize htokens : first ++ second = tokens at h
  induction h generalizing first with
  | nil =>
    obtain ⟨rfl, rfl⟩ := List.append_eq_nil_iff.1 htokens
    exact ⟨[], [], rfl, .nil, .nil, noBlankEnd_nil⟩
  | @blank c tokens text hblank htext ih =>
    cases first with
    | nil =>
      obtain rfl : second = tokens := htokens
      exact ⟨[], c :: text, rfl, .nil, .blank hblank htext, noBlankEnd_nil⟩
    | cons token others =>
      obtain ⟨front, rest, rfl, hfront, hrest, hend⟩ := ih htokens
      have hne : front ≠ [] := by
        intro hnil
        subst hnil
        cases hfront.eq_nil
      refine ⟨c :: front, rest, rfl, .blank hblank hfront, hrest, ?_⟩
      obtain ⟨d, more, rfl⟩ := List.exists_cons_of_ne_nil hne
      rwa [NoBlankEnd, List.getLast?_cons_cons]
  | mark kind htext ih =>
    cases first with
    | nil =>
      obtain rfl : second = _ :: _ := htokens
      exact ⟨[], _, rfl, .nil, .mark kind htext, noBlankEnd_nil⟩
    | cons token others =>
      cases htokens
      obtain ⟨front, rest, rfl, hfront, hrest, hend⟩ := ih rfl
      exact ⟨kind.chars ++ front, rest, (List.append_assoc _ _ _).symm, .mark kind hfront, hrest,
        (noBlankEnd_chars kind).append hend⟩
  | @word token word tokens text hne hword htoken hhead htext ih =>
    cases first with
    | nil =>
      obtain rfl : second = _ :: _ := htokens
      exact ⟨[], _, rfl, .nil, .word hne hword htoken hhead htext, noBlankEnd_nil⟩
    | cons token' others =>
      cases htokens
      obtain ⟨front, rest, rfl, hfront, hrest, hend⟩ := ih rfl
      have hhead' : NoWordHead front := by
        cases front with
        | nil => simp [NoWordHead]
        | cons c more => exact hhead
      exact ⟨word ++ front, rest, (List.append_assoc _ _ _).symm,
        .word hne hword htoken hhead' hfront, hrest, (noBlankEnd_word hword).append hend⟩

/-- The characters of a text: white space, words and marks. -/
theorem Spelling.mem_cases (h : Spelling tokens text) (hc : c ∈ text) : isBlank c = true ∨
    Token.isWordChar c = true ∨ ∃ kind, Token.mark kind ∈ tokens ∧ c ∈ kind.chars := by
  induction h with
  | nil => cases hc
  | blank hblank _ ih =>
    rcases List.mem_cons.1 hc with rfl | hc
    · exact .inl hblank
    · exact ih hc
  | mark kind _ ih =>
    rcases List.mem_append.1 hc with hc | hc
    · exact .inr (.inr ⟨kind, List.mem_cons_self, hc⟩)
    · rcases ih hc with hblank | hword | ⟨kind', hkind, hc⟩
      · exact .inl hblank
      · exact .inr (.inl hword)
      · exact .inr (.inr ⟨kind', List.mem_cons_of_mem _ hkind, hc⟩)
  | word _ hword _ _ _ ih =>
    rcases List.mem_append.1 hc with hc | hc
    · exact .inr (.inl (hword c hc))
    · rcases ih hc with hblank | hword | ⟨kind', hkind, hc⟩
      · exact .inl hblank
      · exact .inr (.inl hword)
      · exact .inr (.inr ⟨kind', List.mem_cons_of_mem _ hkind, hc⟩)

/-! ## Tokens written out -/

theorem spelling_mark (kind : Mark) : Spelling [.mark kind] kind.chars := by
  have hmark := Spelling.mark kind .nil
  rwa [List.append_nil] at hmark

/-- A decimal numeral in front of a text. -/
theorem Spelling.decimal {n : Nat} (h : Spelling tokens text) (hn : n < UInt64.size)
    (hhead : NoWordHead text) :
    Spelling (.integer (UInt64.ofNat n) :: tokens) (Nat.toDigits 10 n ++ text) := by
  have htext : Numeral (Nat.toDigits 10 n) n := .decimal (digits_toDigits (by decide) n)
  have hword : ∀ c ∈ Nat.toDigits 10 n, Token.isWordChar c = true :=
    fun c hc ↦ isWordChar_of_numeral htext hc
  have htoken : Token.ofWord (Nat.toDigits 10 n) = .ok (.integer (UInt64.ofNat n)) := by
    rwa [ofWord_eq_integer_iff hword, UInt64.toNat_ofNat_of_lt' hn]
  exact .word Nat.toDigits_ne_nil hword htoken hhead h

/-- A text in parentheses. -/
theorem Spelling.parenthesize (h : Spelling first text) (hrest : Spelling second rest) :
    Spelling (.mark .openParen :: (first ++ .mark .closeParen :: second))
      ('(' :: (text ++ ')' :: rest)) := by
  exact .mark .openParen (h.append (.mark .closeParen hrest) (noWordHead_cons (by decide)))

/-- The words of a text spell themselves. -/
theorem Spelling.word_text {name : String} (h : Spelling tokens text)
    (hname : Token.word name ∈ tokens) : Spelling [.word name] name.toList := by
  induction h with
  | nil => cases hname
  | blank _ _ ih => exact ih hname
  | mark kind _ ih =>
    rcases List.mem_cons.1 hname with hname | hname
    · cases hname
    · exact ih hname
  | @word token word tokens text hne hword htoken _ _ ih =>
    rcases List.mem_cons.1 hname with rfl | hname
    · have hspelling := Spelling.word hne hword htoken noWordHead_nil .nil
      have hchars : name.toList = word := by
        rw [ofWord_eq_word htoken, String.toList_ofList]
      rwa [List.append_nil, ← hchars] at hspelling
    · exact ih hname

/-- Tokens with single blanks between them. -/
theorem spelling_intercalate (h : ∀ token ∈ tokens, Spelling [token] token.text.toList) :
    Spelling tokens (String.intercalate " " (tokens.map Token.text)).toList := by
  induction tokens with
  | nil =>
    rw [List.map_nil, String.intercalate_nil]
    exact .nil
  | cons token rest ih =>
    have hfirst := h token List.mem_cons_self
    have hrest := ih fun other hother ↦ h other (List.mem_cons_of_mem _ hother)
    cases rest with
    | nil =>
      rw [List.map_singleton, String.intercalate_singleton]
      exact hfirst
    | cons second others =>
      rw [List.map_cons] at hrest
      rw [List.map_cons, List.map_cons, String.intercalate_cons_cons, String.toList_append,
        String.toList_append, List.append_assoc]
      exact hfirst.append (.blank (by decide) hrest) (noWordHead_cons (by decide))

end MemoryInspector.Expression
