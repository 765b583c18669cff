import MemoryInspector.Text.ShellWords

/-!
# Words of a text

Between single quotes every other character stands for itself. What is joined from words splits into
these words again, whatever characters they have.
-/

namespace MemoryInspector.Text.ShellWords

variable {text rest : List Char}

theorem scan_unquoted_space (word rest : List Char) :
    scan .unquoted word (' ' :: rest) = (scan .delimiter [] rest).map (word.reverse :: ·) := rfl

/-! ## Quotations -/

/-- A quotation goes on with the current word, the quotes of the text included. -/
theorem scan_quoted (text word rest : List Char) :
    scan .singleQuoted word (quoted text ++ rest) = scan .unquoted (text.reverse ++ word) rest := by
  induction text generalizing word with
  | nil => rw [quoted, List.singleton_append, scan, if_pos rfl, List.reverse_nil, List.nil_append]
  | cons c more ih =>
    rw [quoted]
    split
    · next hc =>
      -- The quotation ends, the quote follows behind a backslash, and another quotation starts.
      rw [hc]
      calc scan .singleQuoted word ('\'' :: '\\' :: '\'' :: '\'' :: quoted more ++ rest)
          = scan .singleQuoted ('\'' :: word) (quoted more ++ rest) := rfl
        _ = scan .unquoted (('\'' :: more).reverse ++ word) rest := by
          rw [ih, List.reverse_cons, List.append_assoc, List.singleton_append]
    · next hc =>
      rw [List.cons_append, scan, if_neg hc, ih, List.reverse_cons, List.append_assoc,
        List.singleton_append]

theorem quoted_of_not_mem (h : '\'' ∉ text) : quoted text = text ++ ['\''] := by
  induction text with
  | nil => rfl
  | cons c more ih =>
    rw [List.mem_cons, not_or] at h
    rw [quoted, if_neg (Ne.symm h.1), ih h.2, List.cons_append]

/-- A text in single quotes starts a word. -/
theorem scan_quote (h : '\'' ∉ text) (rest : List Char) :
    scan .delimiter [] ('\'' :: (text ++ '\'' :: rest)) = scan .unquoted text.reverse rest := by
  have hquoted : text ++ '\'' :: rest = quoted text ++ rest := by
    rw [quoted_of_not_mem h, List.append_assoc, List.singleton_append]
  rw [scan, if_pos rfl, hquoted, scan_quoted, List.append_nil]

theorem split?_quote_quote {first second : String} (hfirst : '\'' ∉ first.toList)
    (hsecond : '\'' ∉ second.toList) :
    split? ("'" ++ first ++ "' '" ++ second ++ "'") = some [first, second] := by
  have hchars : ("'" ++ first ++ "' '" ++ second ++ "'").toList =
      '\'' :: (first.toList ++ '\'' :: (' ' :: '\'' :: (second.toList ++ ['\'']))) := by
    simp [String.toList_append]
  rw [split?, hchars, scan_quote hfirst, scan_unquoted_space, scan_quote hsecond, scan,
    List.reverse_reverse, List.reverse_reverse]
  simp

/-! ## Words that are joined -/

/-- Outside of quotes only special characters mean something. -/
theorem not_special {c : Char} (h : isSpecial c = false) :
    c ≠ '\'' ∧ c ≠ '"' ∧ c ≠ '\\' ∧ isSeparator c = false ∧ c ≠ '#' := by
  have hne : ∀ d, isSpecial d = true → c ≠ d := by
    rintro d hd rfl
    rw [h] at hd
    cases hd
  have hseparator : isSeparator c = false := by
    simp only [isSeparator, Bool.or_eq_false_iff, beq_eq_false_iff_ne]
    exact ⟨⟨hne ' ' (by decide), hne '\t' (by decide)⟩, hne '\n' (by decide)⟩
  exact ⟨hne _ (by decide), hne _ (by decide), hne _ (by decide), hseparator, hne _ (by decide)⟩

theorem scan_unquoted_plain (word : List Char) (h : ∀ c ∈ text, isSpecial c = false) (rest : List Char) :
    scan .unquoted word (text ++ rest) = scan .unquoted (text.reverse ++ word) rest := by
  induction text generalizing word with
  | nil => rfl
  | cons c more ih =>
    obtain ⟨hc, hmore⟩ := List.forall_mem_cons.1 h
    obtain ⟨hquote, hdouble, hbackslash, hseparator, -⟩ := not_special hc
    rw [List.cons_append, scan, if_neg hquote, if_neg hdouble, if_neg hbackslash, hseparator,
      if_neg Bool.false_ne_true, ih _ hmore, List.reverse_cons, List.append_assoc, List.singleton_append]

/-- A word that is put in quotes where it needs them is read as that word. -/
theorem scan_toList_quote (word : String) (rest : List Char) :
    scan .delimiter [] ((quote word).toList ++ rest) = scan .unquoted word.toList.reverse rest := by
  unfold quote
  split
  · rw [String.toList_ofList, List.cons_append, scan, if_pos rfl, scan_quoted, List.append_nil]
  · next hplain =>
    rw [Bool.or_eq_true, not_or, String.isEmpty_iff, Bool.not_eq_true, List.any_eq_false] at hplain
    obtain ⟨hne, hspecial⟩ := hplain
    simp only [Bool.not_eq_true] at hspecial
    obtain ⟨c, more, hword⟩ := List.exists_cons_of_ne_nil (mt String.toList_eq_nil_iff.1 hne)
    rw [hword] at hspecial ⊢
    obtain ⟨hc, hmore⟩ := List.forall_mem_cons.1 hspecial
    obtain ⟨hquote, hdouble, hbackslash, hseparator, hcomment⟩ := not_special hc
    rw [List.cons_append, scan, if_neg hquote, if_neg hdouble, if_neg hbackslash, hseparator,
      if_neg Bool.false_ne_true, if_neg hcomment, scan_unquoted_plain _ hmore, List.reverse_cons]

theorem join_cons_cons (first second : String) (rest : List String) :
    join (first :: second :: rest) = quote first ++ " " ++ join (second :: rest) := by
  rw [join, List.map_cons, List.map_cons, String.intercalate_cons_cons, join, List.map_cons]

/-- Splitting is an inverse of joining. -/
theorem split?_join (words : List String) : split? (join words) = some words := by
  have hscan : scan .delimiter [] (join words).toList = some (words.map String.toList) := by
    induction words with
    | nil => rfl
    | cons word rest ih =>
      cases rest with
      | nil =>
        have hjoin : (join [word]).toList = (quote word).toList ++ [] := by
          rw [join, List.map_singleton, String.intercalate_singleton, List.append_nil]
        rw [hjoin, scan_toList_quote, scan, List.reverse_reverse, List.map_singleton]
      | cons next others =>
        calc scan .delimiter [] (join (word :: next :: others)).toList
            = scan .delimiter [] ((quote word).toList ++ ' ' :: (join (next :: others)).toList) := by
              rw [join_cons_cons, String.toList_append, String.toList_append, List.append_assoc]
              rfl
          _ = some ((word :: next :: others).map String.toList) := by
              rw [scan_toList_quote, scan_unquoted_space, List.reverse_reverse, ih, Option.map_some,
                ← List.map_cons]
  rw [split?, hscan, Option.map_some, List.map_map]
  simp

end MemoryInspector.Text.ShellWords
