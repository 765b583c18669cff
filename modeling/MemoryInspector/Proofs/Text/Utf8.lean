import MemoryInspector.Text.Utf8

/-!
# Texts and their bytes

A byte sequence decodes to the one text that it is the UTF-8 of. An ASCII byte is there only for
the character with its code.
-/

namespace MemoryInspector.Text

/-- The bytes of a text. -/
def utf8 (text : String) : List UInt8 := text.toUTF8.data.toList

variable {text : String} {bytes : List UInt8} {b : UInt8}

theorem utf8_eq_flatMap (text : String) : utf8 text = text.toList.flatMap String.utf8EncodeChar := by
  have hbytes := congrArg ByteArray.data (String.utf8Encode_toList (b := text))
  rw [List.utf8Encode, List.data_toByteArray] at hbytes
  rw [utf8, String.toUTF8_eq_toByteArray, ← hbytes]

theorem utf8_append (first second : String) : utf8 (first ++ second) = utf8 first ++ utf8 second := by
  rw [utf8_eq_flatMap, utf8_eq_flatMap, utf8_eq_flatMap, String.toList_append, List.flatMap_append]

theorem decodeUtf8?_eq_some_iff : decodeUtf8? bytes = some text ↔ bytes = utf8 text := by
  rw [decodeUtf8?, String.fromUTF8?]
  constructor
  · intro h
    split at h
    · cases h
      rfl
    · cases h
  · rintro rfl
    have hbytes : (⟨(utf8 text).toArray⟩ : ByteArray) = text.toByteArray := by
      rw [utf8, Array.toArray_toList, String.toUTF8_eq_toByteArray]
    rw [dif_pos (hbytes ▸ text.isValidUTF8), Option.some.injEq, ← String.toByteArray_inj]
    exact hbytes

theorem utf8_eq_nil_iff : utf8 text = [] ↔ text = "" := by
  constructor
  · intro h
    have hempty : decodeUtf8? (utf8 text) = some "" := by
      rw [h]
      rfl
    rw [decodeUtf8?_eq_some_iff.2 rfl, Option.some.injEq] at hempty
    exact hempty
  · rintro rfl
    rfl

/-! ## ASCII bytes -/

/-- An ASCII byte is there only for the character with its code. -/
theorem toNat_eq_of_mem_utf8EncodeChar {c : Char} (hb : b.toNat < 128)
    (h : b ∈ String.utf8EncodeChar c) : c.toNat = b.toNat := by
  -- all bytes of a longer encoding are at least 128
  have hlong : ∀ n, 128 ≤ n → n < 256 → b ≠ UInt8.ofNat n := by
    rintro n hle hlt rfl
    rw [UInt8.toNat_ofNat_of_lt' hlt] at hb
    omega
  simp only [String.utf8EncodeChar] at h
  split at h
  · next hle =>
    rw [List.mem_singleton.1 h, UInt8.toNat_ofNat_of_lt' (Nat.lt_of_le_of_lt hle (by decide))]
    rfl
  · exfalso
    split at h
    · simp only [List.mem_cons, List.not_mem_nil, or_false] at h
      rcases h with h | h <;> exact hlong _ (by omega) (by omega) h
    · split at h
      · simp only [List.mem_cons, List.not_mem_nil, or_false] at h
        rcases h with h | h | h <;> exact hlong _ (by omega) (by omega) h
      · simp only [List.mem_cons, List.not_mem_nil, or_false] at h
        rcases h with h | h | h | h <;> exact hlong _ (by omega) (by omega) h

theorem mem_toList_of_mem_utf8 (hb : b.toNat < 128) (h : b ∈ utf8 text) :
    Char.ofNat b.toNat ∈ text.toList := by
  rw [utf8_eq_flatMap] at h
  obtain ⟨c, hc, hbyte⟩ := List.mem_flatMap.1 h
  rwa [← toNat_eq_of_mem_utf8EncodeChar hb hbyte, Char.ofNat_toNat]

/-- A text whose last byte is ASCII ends with the character that has its code. -/
theorem eq_append_of_getLast?_utf8 (hb : b.toNat < 128) (h : (utf8 text).getLast? = some b) :
    ∃ front, text = front ++ String.singleton (Char.ofNat b.toNat) := by
  rw [utf8_eq_flatMap] at h
  rcases List.eq_nil_or_concat text.toList with hnil | ⟨front, c, hconcat⟩
  · rw [hnil] at h
    cases h
  · obtain ⟨last, hlast⟩ := Option.isSome_iff_exists.1
      (List.getLast?_isSome.2 (String.utf8EncodeChar_ne_nil (c := c)))
    rw [hconcat, List.concat_eq_append, List.flatMap_append, List.flatMap_singleton,
      List.getLast?_append, hlast, Option.some_or, Option.some.injEq] at h
    have hc := toNat_eq_of_mem_utf8EncodeChar hb (h ▸ List.mem_of_getLast? hlast)
    refine ⟨String.ofList front, ?_⟩
    rw [← hc, Char.ofNat_toNat, ← String.toList_inj, hconcat]
    simp

/-! ## Lines -/

/-- The lines of a text. What comes after the last newline is one of them, even if it is empty. -/
def lines (text : String) : List String := (text.toList.splitOn '\n').map String.ofList

/-- Parts that are split off do not have the separator. -/
theorem not_mem_of_mem_splitOn {c : Char} {chars part : List Char} (h : part ∈ chars.splitOn c) :
    c ∉ part := by
  induction chars generalizing part with
  | nil =>
    cases List.mem_singleton.1 h
    exact List.not_mem_nil
  | cons d rest ih =>
    rw [List.splitOn_cons_eq_if_modifyHead] at h
    split at h
    · rcases List.mem_cons.1 h with rfl | h
      · exact List.not_mem_nil
      · exact ih h
    · next hd =>
      obtain ⟨first, others, hrest⟩ := List.exists_cons_of_ne_nil (List.splitOn_ne_nil c rest)
      rw [hrest] at h ih
      rcases List.mem_cons.1 h with rfl | h
      · intro hmem
        rcases List.mem_cons.1 hmem with rfl | hmem
        · exact hd (beq_self_eq_true c)
        · exact ih List.mem_cons_self hmem
      · exact ih (List.mem_cons_of_mem _ h)

theorem append_eq_flatMap_splitOn (c : Char) (chars : List Char) :
    chars ++ [c] = (chars.splitOn c).flatMap (· ++ [c]) := by
  induction chars with
  | nil => rfl
  | cons d rest ih =>
    rw [List.splitOn_cons_eq_if_modifyHead, List.cons_append, ih]
    split
    · next hd =>
      cases beq_iff_eq.1 hd
      rfl
    · obtain ⟨first, others, hrest⟩ := List.exists_cons_of_ne_nil (List.splitOn_ne_nil c rest)
      rw [hrest]
      rfl

theorem newline_not_mem_of_mem_lines {line : String} (h : line ∈ lines text) :
    '\n' ∉ line.toList := by
  obtain ⟨part, hpart, rfl⟩ := List.mem_map.1 h
  rw [String.toList_ofList]
  exact not_mem_of_mem_splitOn hpart

theorem lines_append_newline_append (first second : String) :
    lines (first ++ "\n" ++ second) = lines first ++ lines second := by
  have hlist : (first ++ "\n" ++ second).toList = first.toList ++ '\n' :: second.toList := by
    simp [String.toList_append]
  rw [lines, hlist, List.splitOn_append_cons_self, List.map_append, lines, lines]

/-- A text and a newline have the bytes of its lines, with a newline behind each of them. -/
theorem utf8_append_newline (text : String) :
    utf8 text ++ [10] = (lines text).flatMap fun line ↦ utf8 line ++ [10] := by
  have hnewline : [10] = ['\n'].flatMap String.utf8EncodeChar := by decide
  have hline : ∀ part : List Char, utf8 (String.ofList part) ++ [10] =
      (part ++ ['\n']).flatMap String.utf8EncodeChar := by
    intro part
    rw [utf8_eq_flatMap, String.toList_ofList, hnewline, List.flatMap_append]
  calc
    utf8 text ++ [10] = (text.toList ++ ['\n']).flatMap String.utf8EncodeChar := by
      rw [← hline, String.ofList_toList]
    _ = (text.toList.splitOn '\n').flatMap fun part ↦ (part ++ ['\n']).flatMap String.utf8EncodeChar := by
      rw [append_eq_flatMap_splitOn, List.flatMap_assoc]
    _ = (lines text).flatMap fun line ↦ utf8 line ++ [10] := by
      simp only [lines, List.flatMap_map, hline]

/-- The text is empty or ends with a newline. -/
def Terminated (text : String) : Prop := text = "" ∨ ∃ front, text = front ++ "\n"

/-- A terminated text is made of lines with a newline each, and of nothing behind them. -/
theorem Terminated.exists_lines (h : Terminated text) : ∃ parts, lines text = parts ++ [""] ∧
    (∀ line ∈ parts, '\n' ∉ line.toList) ∧
    utf8 text = parts.flatMap fun line ↦ utf8 line ++ [10] := by
  rcases h with rfl | ⟨front, rfl⟩
  · exact ⟨[], rfl, List.forall_mem_nil _, rfl⟩
  · refine ⟨lines front, ?_, fun line ↦ newline_not_mem_of_mem_lines, ?_⟩
    · have hlines := lines_append_newline_append front ""
      rwa [String.append_empty] at hlines
    · rw [← utf8_append_newline, utf8_append]
      rfl

/-- Every text is made of lines with a newline each, and of a last one without. -/
theorem exists_lines (text : String) : ∃ parts last, lines text = parts ++ [last] ∧
    (∀ line ∈ parts, '\n' ∉ line.toList) ∧ '\n' ∉ last.toList ∧
    utf8 text = (parts.flatMap fun line ↦ utf8 line ++ [10]) ++ utf8 last := by
  have hne : lines text ≠ [] := mt List.map_eq_nil_iff.1 (List.splitOn_ne_nil _ _)
  obtain ⟨parts, last, hlines⟩ : ∃ parts last, lines text = parts ++ [last] :=
    ⟨_, _, (List.dropLast_concat_getLast hne).symm⟩
  refine ⟨parts, last, hlines, ?_, ?_, ?_⟩
  · intro line hline
    exact newline_not_mem_of_mem_lines (hlines ▸ List.mem_append_left _ hline)
  · exact newline_not_mem_of_mem_lines (hlines ▸ List.mem_append_right _ (List.mem_singleton_self last))
  · have hall := utf8_append_newline text
    rw [hlines, List.flatMap_append, List.flatMap_singleton, ← List.append_assoc] at hall
    exact List.append_cancel_right hall

end MemoryInspector.Text
