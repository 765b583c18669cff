import MemoryInspector.Text.Blank

/-!
# Trimming

What is left of texts that are put together when white space is trimmed from their ends, and the
words of a text.
-/

namespace MemoryInspector.Text

variable {text rest base tail : List Char} {p : Char → Bool}

/-- White space is no digit and no letter. -/
theorem isBlank_of_toNat {c : Char} (hlow : 48 ≤ c.toNat) (hhigh : c.toNat ≤ 122) :
    isBlank c = false := by
  have hne : ∀ n, c.toNat = n → 48 ≤ n ∧ n ≤ 122 := by
    intro n hn
    subst hn
    exact ⟨hlow, hhigh⟩
  simp only [isBlank, Bool.or_eq_false_iff, Bool.and_eq_false_iff, decide_eq_false_iff_not,
    beq_eq_false_iff_ne]
  omega

/-- The text does not end with white space. -/
def NoBlankEnd (text : List Char) : Prop := ∀ c ∈ text.getLast?, isBlank c = false

theorem noBlankEnd_nil : NoBlankEnd [] := by
  intro c hc
  cases hc

theorem NoBlankEnd.append (htext : NoBlankEnd text) (hrest : NoBlankEnd rest) :
    NoBlankEnd (text ++ rest) := by
  intro c hc
  rw [List.getLast?_append] at hc
  cases hlast : rest.getLast? with
  | none =>
    rw [hlast] at hc
    exact htext c hc
  | some d =>
    rw [hlast] at hc
    cases hc
    exact hrest _ hlast

theorem noBlankEnd_append_of_ne_nil (hne : rest ≠ []) (hrest : NoBlankEnd rest) (text : List Char) :
    NoBlankEnd (text ++ rest) := by
  obtain ⟨c, hc⟩ := List.getLast?_isSome.2 hne |> Option.isSome_iff_exists.1
  rwa [NoBlankEnd, List.getLast?_append, hc, Option.some_or, ← hc]

/-! ## Trimming -/

/-- A tail of characters of a kind, after a text that ends with another character. -/
theorem reverse_append_span (hbase : ∀ c ∈ base.getLast?, p c = false) (htail : ∀ c ∈ tail, p c = true) :
    (base ++ tail).reverse.takeWhile p = tail.reverse ∧
      (base ++ tail).reverse.dropWhile p = base.reverse := by
  have htail' : ∀ c ∈ tail.reverse, p c = true := fun c hc ↦ htail c (List.mem_reverse.1 hc)
  rw [List.reverse_append, List.takeWhile_append_of_pos htail', List.dropWhile_append_of_pos htail']
  rw [← List.head?_reverse] at hbase
  cases hreverse : base.reverse with
  | nil => exact ⟨List.append_nil _, rfl⟩
  | cons c rest =>
    rw [hreverse] at hbase
    have hc : p c = false := hbase c rfl
    rw [List.takeWhile_cons_of_neg (by simp [hc]), List.dropWhile_cons_of_neg (by simp [hc])]
    exact ⟨List.append_nil _, rfl⟩

theorem trimStart_cons_of_isBlank {c : Char} (hc : isBlank c = true) (text : List Char) :
    trimStart (c :: text) = trimStart text := by
  rw [trimStart, List.dropWhile_cons_of_pos hc, trimStart]

theorem trimStart_cons_of_not_isBlank {c : Char} (hc : isBlank c = false) (text : List Char) :
    trimStart (c :: text) = c :: text := by
  rw [trimStart, List.dropWhile_cons_of_neg (by simp [hc])]

/-- White space before a text that ends with something else is all that trimming removes. -/
theorem trimStart_append (hne : text ≠ []) (hend : NoBlankEnd text) (rest : List Char) :
    trimStart (text ++ rest) = trimStart text ++ rest ∧ trimStart text ≠ [] ∧
      (trimStart text).getLast? = text.getLast? := by
  induction text with
  | nil => exact absurd rfl hne
  | cons c more ih =>
    by_cases hc : isBlank c = true
    · cases more with
      | nil =>
        have hblank : isBlank c = false := hend c rfl
        rw [hc] at hblank
        cases hblank
      | cons d others =>
        rw [List.cons_append, trimStart_cons_of_isBlank hc, trimStart_cons_of_isBlank hc,
          List.getLast?_cons_cons]
        apply ih (List.cons_ne_nil d others)
        rwa [NoBlankEnd, List.getLast?_cons_cons] at hend
    · have hblank : isBlank c = false := Bool.eq_false_iff.2 hc
      rw [List.cons_append, trimStart_cons_of_not_isBlank hblank, trimStart_cons_of_not_isBlank hblank]
      exact ⟨rfl, hne, rfl⟩

theorem mem_of_mem_trimStart {c : Char} (h : c ∈ trimStart text) : c ∈ text :=
  (List.dropWhile_sublist _).mem h

theorem mem_of_mem_trimEnd {c : Char} (h : c ∈ trimEnd text) : c ∈ text :=
  List.mem_reverse.1 ((List.dropWhile_sublist _).mem (List.mem_reverse.1 h))

theorem trimEnd_append (hend : NoBlankEnd text) (rest : List Char) :
    trimEnd (text ++ rest) = text ++ trimEnd rest := by
  have hself : text.reverse.dropWhile isBlank = text.reverse := by
    have hspan := (reverse_append_span hend (List.forall_mem_nil _)).2
    rwa [List.append_nil] at hspan
  rw [trimEnd, trimEnd, List.reverse_append, List.dropWhile_append]
  split
  · next hempty =>
    rw [List.isEmpty_iff.1 hempty, hself, List.reverse_reverse, List.reverse_nil, List.append_nil]
  · rw [List.reverse_append, List.reverse_reverse]

theorem trim_append (hne : text ≠ []) (hend : NoBlankEnd text) (rest : List Char) :
    trim (text ++ rest) = trimStart text ++ trimEnd rest := by
  obtain ⟨hstart, -, hlast⟩ := trimStart_append hne hend rest
  have hend' : NoBlankEnd (trimStart text) := by
    rwa [NoBlankEnd, hlast]
  rw [trim, hstart, trimEnd_append hend']

/-- Trimming removes white space alone. -/
theorem exists_trimStart (text : List Char) :
    ∃ before, (∀ c ∈ before, isBlank c = true) ∧ text = before ++ trimStart text :=
  ⟨text.takeWhile isBlank, List.all_eq_true.1 List.all_takeWhile, List.takeWhile_append_dropWhile.symm⟩

theorem exists_trimEnd (text : List Char) :
    ∃ after, (∀ c ∈ after, isBlank c = true) ∧ text = trimEnd text ++ after := by
  obtain ⟨before, hbefore, hreverse⟩ := exists_trimStart text.reverse
  refine ⟨before.reverse, fun c hc ↦ hbefore c (List.mem_reverse.1 hc), ?_⟩
  rw [trimEnd, ← trimStart, ← List.reverse_append, ← hreverse, List.reverse_reverse]

theorem noBlankEnd_trimEnd (text : List Char) : NoBlankEnd (trimEnd text) := by
  intro c hc
  rw [trimEnd, List.getLast?_reverse] at hc
  have hhead := List.head?_dropWhile_not isBlank text.reverse
  rw [Option.mem_def] at hc
  rwa [hc] at hhead

theorem exists_trim (text : List Char) : ∃ before after, (∀ c ∈ before, isBlank c = true) ∧
    (∀ c ∈ after, isBlank c = true) ∧ text = before ++ (trim text ++ after) := by
  obtain ⟨before, hbefore, hstart⟩ := exists_trimStart text
  obtain ⟨after, hafter, hend⟩ := exists_trimEnd (trimStart text)
  refine ⟨before, after, hbefore, hafter, ?_⟩
  rw [trim, ← hend, ← hstart]

/-- White space at the end is trimmed. -/
theorem trim_concat {c : Char} (hc : isBlank c = true) (text : List Char) :
    trim (text ++ [c]) = trim text := by
  have hconcat : ∀ front, trimEnd (front ++ [c]) = trimEnd front := by
    intro front
    rw [trimEnd, List.reverse_append, List.reverse_singleton, List.singleton_append,
      List.dropWhile_cons_of_pos hc, trimEnd]
  rw [trim, trim, trimStart, List.dropWhile_append]
  split
  · next hblank =>
    rw [trimStart, List.isEmpty_iff.1 hblank, List.dropWhile_cons_of_pos hc]
    rfl
  · exact hconcat _

/-- White space around a text is trimmed. -/
theorem trim_blank_append {before after : List Char} (hbefore : ∀ c ∈ before, isBlank c = true)
    (hafter : ∀ c ∈ after, isBlank c = true) (text : List Char) :
    trim (before ++ (text ++ after)) = trim text := by
  have hstart : ∀ rest, trim (before ++ rest) = trim rest := by
    intro rest
    rw [trim, trimStart, List.dropWhile_append_of_pos hbefore, ← trimStart, ← trim]
  rw [hstart]
  induction after generalizing text with
  | nil => rw [List.append_nil]
  | cons c rest ih =>
    obtain ⟨hc, hrest⟩ := List.forall_mem_cons.1 hafter
    rw [List.append_cons, ih hrest, trim_concat hc]

/-- A text whose ends are not white space. -/
theorem trim_eq_self {c : Char} (hc : isBlank c = false) (hend : NoBlankEnd (c :: text)) :
    trim (c :: text) = c :: text := by
  have htrim := trim_append (List.cons_ne_nil c text) hend []
  rwa [List.append_nil, trimStart_cons_of_not_isBlank hc, show trimEnd [] = [] from rfl,
    List.append_nil] at htrim

/-- A text without white space. -/
theorem trim_of_forall (h : ∀ c ∈ text, isBlank c = false) : trim text = text := by
  cases text with
  | nil => rfl
  | cons c rest => exact trim_eq_self (h c List.mem_cons_self) fun d hd ↦ h d (List.mem_of_getLast? hd)

/-! ## Words -/

theorem words_trimStart (text : List Char) : words (trimStart text) = words text := by
  induction text with
  | nil => rfl
  | cons c rest ih =>
    by_cases hc : isBlank c = true
    · rw [trimStart_cons_of_isBlank hc, ih, words_cons_of_isBlank hc]
    · rw [trimStart_cons_of_not_isBlank (Bool.eq_false_iff.2 hc)]

/-- A word in front of white space or the end. -/
theorem words_append {word : List Char} (hne : word ≠ []) (hword : ∀ c ∈ word, isBlank c = false)
    (hrest : ∀ c ∈ rest.head?, isBlank c = true) : words (word ++ rest) = word :: words rest := by
  induction word with
  | nil => exact absurd rfl hne
  | cons c more ih =>
    have hc : isBlank c = false := hword c List.mem_cons_self
    rw [List.cons_append, words, if_neg (by simp [hc])]
    cases more with
    | nil =>
      rw [List.nil_append, if_pos]
      cases rest with
      | nil => rfl
      | cons d others => exact hrest d rfl
    | cons d others =>
      have hd : isBlank d = false := hword d (by simp)
      rw [if_neg (by simp [hd]),
        ih (List.cons_ne_nil d others) fun c' hc' ↦ hword c' (List.mem_cons_of_mem _ hc')]

/-- A character that is not white space starts a word, or it is put in front of the first word. -/
theorem words_cons_of_not_isBlank {c : Char} (hc : isBlank c = false) (rest : List Char) :
    ∃ first others, words (c :: rest) = (c :: first) :: others ∧
      (first = [] ∧ words rest = others ∨ words rest = first :: others) := by
  rw [words, if_neg (by simp [hc])]
  split
  · exact ⟨[], words rest, rfl, .inl ⟨rfl, rfl⟩⟩
  · split
    · next first others hwords => exact ⟨first, others, rfl, .inr hwords⟩
    · next hwords => exact ⟨[], [], rfl, .inl ⟨rfl, hwords⟩⟩

/-- Words are not empty, and they are made of characters of the text that are not white space. -/
theorem mem_words {word : List Char} (h : word ∈ words text) :
    word ≠ [] ∧ ∀ c ∈ word, isBlank c = false ∧ c ∈ text := by
  induction text generalizing word with
  | nil => cases h
  | cons c rest ih =>
    have hrest : ∀ word ∈ words rest, word ≠ [] ∧ ∀ d ∈ word, isBlank d = false ∧ d ∈ c :: rest := by
      intro word hword
      obtain ⟨hne, hchars⟩ := ih hword
      exact ⟨hne, fun d hd ↦ ⟨(hchars d hd).1, List.mem_cons_of_mem _ (hchars d hd).2⟩⟩
    cases hc : isBlank c with
    | true => exact hrest word (words_cons_of_isBlank hc rest ▸ h)
    | false =>
      have hself : isBlank c = false ∧ c ∈ c :: rest := ⟨hc, List.mem_cons_self⟩
      obtain ⟨first, others, hwords, hcases⟩ := words_cons_of_not_isBlank hc rest
      rw [hwords] at h
      rcases hcases with ⟨rfl, rfl⟩ | hcases
      · rcases List.mem_cons.1 h with rfl | h
        · exact ⟨List.cons_ne_nil _ _, List.forall_mem_singleton.2 hself⟩
        · exact hrest word h
      · rw [hcases] at hrest
        obtain ⟨hfirst, hothers⟩ := List.forall_mem_cons.1 hrest
        rcases List.mem_cons.1 h with rfl | h
        · exact ⟨List.cons_ne_nil _ _, List.forall_mem_cons.2 ⟨hself, hfirst.2⟩⟩
        · exact hothers word h

/-- Every character that is not white space is in some word. -/
theorem exists_mem_words {c : Char} (hc : c ∈ text) (hblank : isBlank c = false) :
    ∃ word ∈ words text, c ∈ word := by
  induction text with
  | nil => cases hc
  | cons d rest ih =>
    cases hd : isBlank d with
    | true =>
      rw [words_cons_of_isBlank hd]
      rcases List.mem_cons.1 hc with rfl | hc
      · rw [hblank] at hd
        cases hd
      · exact ih hc
    | false =>
      obtain ⟨first, others, hwords, hcases⟩ := words_cons_of_not_isBlank hd rest
      rw [hwords]
      rcases List.mem_cons.1 hc with rfl | hc
      · exact ⟨_, List.mem_cons_self, List.mem_cons_self⟩
      · obtain ⟨word, hword, hmem⟩ := ih hc
        rcases hcases with ⟨-, hothers⟩ | hothers
        · exact ⟨word, List.mem_cons_of_mem _ (hothers ▸ hword), hmem⟩
        · rw [hothers] at hword
          rcases List.mem_cons.1 hword with rfl | hword
          · exact ⟨_, List.mem_cons_self, List.mem_cons_of_mem _ hmem⟩
          · exact ⟨word, List.mem_cons_of_mem _ hword, hmem⟩

/-- White space at the end is no part of the words. -/
theorem words_append_blank {after : List Char} (hafter : ∀ c ∈ after, isBlank c = true)
    (text : List Char) : words (text ++ after) = words text := by
  have hnil : words after = [] := by
    rw [List.eq_nil_iff_forall_not_mem]
    intro word hword
    obtain ⟨hne, hchars⟩ := mem_words hword
    obtain ⟨c, hc⟩ := List.exists_mem_of_ne_nil word hne
    have hblank := hafter c (hchars c hc).2
    rw [(hchars c hc).1] at hblank
    cases hblank
  induction text with
  | nil => exact hnil
  | cons c rest ih =>
    cases hc : isBlank c with
    | true => rw [List.cons_append, words_cons_of_isBlank hc, words_cons_of_isBlank hc, ih]
    | false =>
      cases rest with
      | nil =>
        have hhead : ∀ d ∈ after.head?, isBlank d = true := fun d hd ↦ hafter d (List.mem_of_mem_head? hd)
        have hword : ∀ d ∈ [c], isBlank d = false := List.forall_mem_singleton.2 hc
        have hself : words ([c] ++ []) = [[c]] := words_append (List.cons_ne_nil _ _) hword nofun
        rw [words_append (List.cons_ne_nil _ _) hword hhead, hnil, ← hself, List.append_nil]
      | cons d more =>
        rw [List.cons_append, words, ih]
        rfl

theorem words_trimEnd (text : List Char) : words (trimEnd text) = words text := by
  obtain ⟨after, hafter, htext⟩ := exists_trimEnd text
  rw [← words_append_blank hafter, ← htext]

end MemoryInspector.Text
