import MemoryInspector.Proofs.Hierarchy.Layouts
import MemoryInspector.Proofs.TypeName.Spelling

/-!
# The grammar of written types

A written type is a base, then stars, then at most one length in brackets, with white space around
each of them. The words of the base are a tag and the name of a record, or a name that is looked for
among `void`, the scalars, the definitions and the records. Exactly the texts of this grammar mean a
type, as long as the names in the registry are words with single blanks between them.
-/

namespace MemoryInspector

open Text

variable {types : Registry} {text base front : List Char} {names : List String} {name : String}
  {stars : Nat} {length : Option UInt64} {type : CType}

/-! ## Words of names and bases -/

namespace TypeName

/-- The words of a text, as names. -/
def wordsOf (text : List Char) : List String := (words text).map String.ofList

/-- The words that are no qualifiers. -/
def unqualified (names : List String) : List String :=
  names.filter fun word ↦ word != "const" && word != "volatile"

def tags : List String := ["struct", "union", "enum"]

/-- The name is made of words with single blanks between them, and it has neither stars nor brackets.
-/
structure IsName (name : String) : Prop where
  ne_nil : wordsOf name.toList ≠ []
  joined : String.intercalate " " (wordsOf name.toList) = name
  unmarked : ∀ c ∈ name.toList, c ∉ ['*', '[', ']']

instance : DecidablePred IsName := fun name ↦
  decidable_of_iff (wordsOf name.toList ≠ [] ∧ String.intercalate " " (wordsOf name.toList) = name ∧
    name.toList.all (· ∉ ['*', '[', ']'])) <| by
    simp only [List.all_eq_true, decide_eq_true_eq]
    exact ⟨fun ⟨hne, hjoined, hunmarked⟩ ↦ ⟨hne, hjoined, hunmarked⟩,
      fun h ↦ ⟨h.ne_nil, h.joined, h.unmarked⟩⟩

theorem mem_wordsOf {word : String} (h : word ∈ wordsOf text) :
    word ≠ "" ∧ ∀ c ∈ word.toList, isBlank c = false ∧ c ∈ text := by
  obtain ⟨chars, hchars, rfl⟩ := List.mem_map.1 h
  obtain ⟨hne, hplain⟩ := mem_words hchars
  rw [← String.toList_eq_nil_iff.ne, String.toList_ofList]
  exact ⟨hne, hplain⟩

/-- Words are read back from the name that they make. -/
theorem wordsOf_intercalate (h : names ⊆ wordsOf text) :
    wordsOf (String.intercalate " " names).toList = names :=
  map_words_name (fun _ hword ↦ (mem_wordsOf (h hword)).1)
    fun _ hword c hc ↦ ((mem_wordsOf (h hword)).2 c hc).1

theorem unqualified_subset (names : List String) : unqualified names ⊆ names :=
  fun _ hword ↦ List.mem_of_mem_filter hword

theorem IsName.ne_empty (h : IsName name) : name ≠ "" := by
  rintro rfl
  exact h.ne_nil rfl

/-- A base starts with a tag, or it does not. -/
theorem tagSplit_cases (names : List String) :
    (∃ tag rest, tag ∈ tags ∧ unqualified names = tag :: rest ∧ tagSplit names = (true, rest)) ∨
      (∀ word ∈ (unqualified names).head?, word ∉ tags) ∧
        tagSplit names = (false, unqualified names) := by
  have hkept : names.filter (fun word ↦ word != "const" && word != "volatile") = unqualified names :=
    rfl
  unfold tagSplit
  rw [hkept]
  split
  · next rest heq => exact .inl ⟨_, rest, by decide, heq, rfl⟩
  · next rest heq => exact .inl ⟨_, rest, by decide, heq, rfl⟩
  · next rest heq => exact .inl ⟨_, rest, by decide, heq, rfl⟩
  · next hstruct hunion henum =>
    refine .inr ⟨?_, rfl⟩
    intro word hword htag
    obtain ⟨rest, heq⟩ := List.head?_eq_some_iff.1 hword
    simp only [tags, List.mem_cons, List.not_mem_nil, or_false] at htag
    rcases htag with rfl | rfl | rfl
    · exact hstruct rest heq
    · exact hunion rest heq
    · exact henum rest heq

end TypeName

namespace Registry

/-- What a name means by itself: the first thing of that name in this order. -/
inductive Means (types : Registry) (name : String) : CType → Prop
  | void (hvoid : name = "void") : types.Means name .void
  | scalar {kind : Scalar} (hvoid : name ≠ "void") (hscalar : Scalar.ofCName? name = some kind) :
      types.Means name (.scalar kind)
  | definition {type : CType} (hvoid : name ≠ "void") (hscalar : Scalar.ofCName? name = none)
      (hdefinition : types.definition? name = some type) : types.Means name type
  | record (hvoid : name ≠ "void") (hscalar : Scalar.ofCName? name = none)
      (hdefinition : types.definition? name = none) (hrecord : (types.record? name).isSome = true) :
      types.Means name (.record name)

theorem means_iff : types.Means name type ↔ types.baseType? false name = some type := by
  rw [baseType?, if_neg Bool.false_ne_true]
  constructor
  · intro h
    cases h with
    | void hvoid => rw [if_pos hvoid]
    | scalar hvoid hscalar => simp only [if_neg hvoid, hscalar]
    | definition hvoid hscalar hdefinition =>
      simp only [if_neg hvoid, hscalar, hdefinition, Option.some_or]
    | record hvoid hscalar hdefinition hrecord =>
      obtain ⟨layout, hlayout⟩ := Option.isSome_iff_exists.1 hrecord
      simp only [if_neg hvoid, hscalar, hdefinition, hlayout, Option.none_or, Option.map_some]
  · intro h
    split at h
    · next hvoid =>
      cases h
      exact .void hvoid
    · next hvoid =>
      split at h
      · next kind hscalar =>
        cases h
        exact .scalar hvoid hscalar
      · next hscalar =>
        rcases Option.or_eq_some_iff.1 h with hdefinition | ⟨hdefinition, hrecord⟩
        · exact .definition hvoid hscalar hdefinition
        · obtain ⟨layout, hlayout, rfl⟩ := Option.map_eq_some_iff.1 hrecord
          exact .record hvoid hscalar hdefinition (Option.isSome_of_eq_some hlayout)

/-- What the words of a base mean: a record after a tag, or what a name without a tag means. -/
inductive BaseMeans (types : Registry) : List String → CType → Prop
  | tagged {tag name : String} (htag : tag ∈ TypeName.tags)
      (hrecord : (types.record? name).isSome = true) :
      types.BaseMeans (tag :: TypeName.wordsOf name.toList) (.record name)
  | named {name : String} {type : CType}
      (htag : ∀ word ∈ (TypeName.wordsOf name.toList).head?, word ∉ TypeName.tags)
      (hname : types.Means name type) : types.BaseMeans (TypeName.wordsOf name.toList) type

/-- The records and the definitions have names that are made of words. -/
structure NamedByWords (types : Registry) : Prop where
  record : ∀ name layout, types.record? name = some layout → TypeName.IsName name
  definition : ∀ name type, types.definition? name = some type → TypeName.IsName name

theorem NamedByWords.isName_of_means (h : types.NamedByWords) (hname : types.Means name type) :
    TypeName.IsName name := by
  cases hname with
  | void hvoid =>
    subst hvoid
    decide +kernel
  | scalar _ hscalar =>
    have hspellings : ∀ kind : Scalar, ∀ spelling ∈ kind.spellings, TypeName.IsName spelling := by
      intro kind
      cases kind <;> decide +kernel
    have hfound := List.find?_some hscalar
    exact hspellings _ _ (of_decide_eq_true hfound)
  | definition _ _ hdefinition => exact h.definition _ _ hdefinition
  | record _ _ _ hrecord =>
    obtain ⟨layout, hlayout⟩ := Option.isSome_iff_exists.1 hrecord
    exact h.record _ _ hlayout

theorem baseNamed?_eq_some : types.baseNamed? names = some type ↔
    String.intercalate " " (TypeName.tagSplit names).2 ≠ "" ∧
      types.baseType? (TypeName.tagSplit names).1
        (String.intercalate " " (TypeName.tagSplit names).2) = some type := by
  simp only [baseNamed?, TypeName.ofWords?]
  split
  · next hempty =>
    have hnil : String.intercalate " " (TypeName.tagSplit names).2 = "" := String.isEmpty_iff.1 hempty
    simp only [Option.bind_none, hnil, reduceCtorEq, ne_eq, not_true_eq_false, false_and]
  · next hempty =>
    have hne : String.intercalate " " (TypeName.tagSplit names).2 ≠ "" := fun hnil ↦
      hempty (String.isEmpty_iff.2 hnil)
    simp only [Option.bind_some, hne, ne_eq, not_false_eq_true, true_and]

/-- What a base means, in terms of its words. -/
theorem NamedByWords.baseNamed?_iff (h : types.NamedByWords) :
    types.baseNamed? (TypeName.wordsOf base) = some type ↔
      types.BaseMeans (TypeName.unqualified (TypeName.wordsOf base)) type := by
  -- The kept words with single blanks between them are the name, which has these words again.
  have hkept := TypeName.unqualified_subset (TypeName.wordsOf base)
  rw [baseNamed?_eq_some]
  rcases TypeName.tagSplit_cases (TypeName.wordsOf base) with
    ⟨tag, rest, htag, hunqualified, hsplit⟩ | ⟨huntagged, hsplit⟩
  · rw [hsplit]
    rw [hunqualified] at hkept ⊢
    constructor
    · rintro ⟨-, hbase⟩
      obtain ⟨layout, hlayout, rfl⟩ := Option.map_eq_some_iff.1 hbase
      have hname := TypeName.wordsOf_intercalate fun word hword ↦ hkept (List.mem_cons_of_mem _ hword)
      have hmeans : types.BaseMeans (tag :: TypeName.wordsOf (String.intercalate " " rest).toList) _ :=
        .tagged htag (Option.isSome_of_eq_some hlayout)
      rwa [hname] at hmeans
    · intro hmeans
      generalize hkind : tag :: rest = kept at hmeans
      cases hmeans with
      | @tagged _ name _ hrecord =>
        obtain ⟨-, rfl⟩ := List.cons.inj hkind
        obtain ⟨layout, hlayout⟩ := Option.isSome_iff_exists.1 hrecord
        have hname := h.record name layout hlayout
        rw [hname.joined]
        exact ⟨hname.ne_empty, by rw [baseType?, if_pos rfl, hlayout, Option.map_some]⟩
      | named hhead =>
        rw [← hkind] at hhead
        exact absurd htag (hhead tag rfl)
  · rw [hsplit]
    generalize TypeName.unqualified (TypeName.wordsOf base) = kept at hkept huntagged
    constructor
    · rintro ⟨-, hbase⟩
      have hname := TypeName.wordsOf_intercalate hkept
      rw [← hname] at huntagged ⊢
      exact .named huntagged (means_iff.2 hbase)
    · intro hmeans
      cases hmeans with
      | @tagged tag _ htag => exact absurd htag (huntagged tag rfl)
      | named _ hmeans =>
        have hname := h.isName_of_means hmeans
        rw [hname.joined]
        exact ⟨hname.ne_empty, means_iff.1 hmeans⟩

/-- There are words in a base that means something, and there are no marks in them. -/
theorem BaseMeans.unmarked (hmeans : types.BaseMeans names type) (h : types.NamedByWords) :
    names ≠ [] ∧ ∀ word ∈ names, ∀ c ∈ word.toList, c ∉ ['*', '[', ']'] := by
  have hself : ∀ name, TypeName.IsName name →
      ∀ word ∈ TypeName.wordsOf name.toList, ∀ c ∈ word.toList, c ∉ ['*', '[', ']'] :=
    fun name hname word hword c hc ↦ hname.unmarked c ((TypeName.mem_wordsOf hword).2 c hc).2
  cases hmeans with
  | @tagged tag name htag hrecord =>
    obtain ⟨layout, hlayout⟩ := Option.isSome_iff_exists.1 hrecord
    have hplain : ∀ word ∈ TypeName.tags, word.toList.all (· ∉ ['*', '[', ']']) = true := by decide
    refine ⟨List.cons_ne_nil _ _, List.forall_mem_cons.2 ⟨?_, hself name (h.record name _ hlayout)⟩⟩
    exact fun c hc ↦ of_decide_eq_true (List.all_eq_true.1 (hplain tag htag) c hc)
  | @named name _ _ hmeans =>
    have hname := h.isName_of_means hmeans
    exact ⟨hname.ne_nil, hself name hname⟩

theorem NamedByWords.unmarked (h : types.NamedByWords)
    (hmeans : types.BaseMeans (TypeName.unqualified (TypeName.wordsOf base)) type) :
    words base ≠ [] ∧ ∀ c ∈ base, c ∉ ['*', '[', ']'] := by
  obtain ⟨hne, hunmarked⟩ := hmeans.unmarked h
  constructor
  · intro hnil
    rw [TypeName.wordsOf, hnil] at hne
    exact hne rfl
  · intro c hc hmark
    have hblank : isBlank c = false := by
      simp only [List.mem_cons, List.not_mem_nil, or_false] at hmark
      rcases hmark with rfl | rfl | rfl <;> decide
    obtain ⟨word, hword, hmem⟩ := exists_mem_words hc hblank
    have hname : String.ofList word ∈ TypeName.wordsOf base := List.mem_map_of_mem hword
    rw [← String.toList_ofList (l := word)] at hmem
    by_cases hqualifier : String.ofList word ∈ ["const", "volatile"]
    · have hplain : ∀ name ∈ ["const", "volatile"], name.toList.all (· ∉ ['*', '[', ']']) = true := by
        decide
      exact of_decide_eq_true (List.all_eq_true.1 (hplain _ hqualifier) c hmem) hmark
    · refine hunmarked _ (List.mem_filter.2 ⟨hname, ?_⟩) c hmem hmark
      simpa using hqualifier

end Registry

/-! ## Shapes -/

namespace TypeName

/-- A numeral in brackets, or nothing. -/
inductive IsLength : List Char → Option UInt64 → Prop
  | absent : IsLength [] none
  | brackets {before numeral after : List Char} {length : UInt64}
      (hbefore : ∀ c ∈ before, isBlank c = true) (hafter : ∀ c ∈ after, isBlank c = true)
      (hnumeral : integer? numeral = some length) :
      IsLength ('[' :: (before ++ (numeral ++ after) ++ [']'])) (some length)

/-- The text is a base, stars with white space around them and a length, with white space around the
whole. -/
def Shape (text base : List Char) (stars : Nat) (length : Option UInt64) : Prop :=
  ∃ before tail brackets after, (∀ c ∈ before ++ after, isBlank c = true) ∧
    (∀ c ∈ tail, isTail c = true) ∧ tail.count '*' = stars ∧ IsLength brackets length ∧
    text = before ++ (base ++ (tail ++ (brackets ++ after)))

theorem read?_append_blank {after : List Char} (hafter : ∀ c ∈ after, isBlank c = true)
    (text : List Char) : read? (text ++ after) = read? text := by
  have htrim : trim (text ++ after) = trim text := trim_blank_append (List.forall_mem_nil _) hafter text
  rw [read?, htrim, ← read?]

theorem read?_blank_append {before : List Char} (hbefore : ∀ c ∈ before, isBlank c = true)
    (text : List Char) : read? (before ++ text) = read? text := by
  have htrim := trim_blank_append hbefore (List.forall_mem_nil _) text
  rw [List.append_nil] at htrim
  rw [read?, htrim, ← read?]

theorem isTail_of_isBlank (h : ∀ c ∈ front, isBlank c = true) : ∀ c ∈ front, isTail c = true :=
  fun c hc ↦ by rw [isTail, h c hc, Bool.or_true]

/-- A base without marks ends in a word, once the white space behind it is left to its tail. -/
theorem trimEnd_unmarked (hmarks : ∀ c ∈ base, c ∉ ['*', '[', ']']) (hwords : words base ≠ []) :
    trimEnd base ≠ [] ∧ (∀ c ∈ (trimEnd base).getLast?, isTail c = false) ∧ ']' ∉ trimEnd base := by
  refine ⟨?_, ?_, ?_⟩
  · intro hnil
    rw [← words_trimEnd, hnil] at hwords
    exact hwords rfl
  · intro c hc
    have hmark := hmarks c (mem_of_mem_trimEnd (List.mem_of_getLast? hc))
    rw [List.mem_cons, not_or] at hmark
    rw [isTail, noBlankEnd_trimEnd base c hc, Bool.or_false, beq_eq_false_iff_ne]
    exact hmark.1
  · intro hmem
    exact hmarks _ (mem_of_mem_trimEnd hmem) (by decide)

/-- A numeral in white space is found again. -/
theorem trim_numeral {before numeral after : List Char} {value : UInt64}
    (hbefore : ∀ c ∈ before, isBlank c = true) (hafter : ∀ c ∈ after, isBlank c = true)
    (hnumeral : integer? numeral = some value) :
    trim (before ++ (numeral ++ after)) = numeral ∧ '[' ∉ before ++ (numeral ++ after) := by
  have hplain : ∀ c ∈ numeral, isBlank c = false ∧ c ≠ '[' := by
    intro c hc
    rcases mem_of_integer? hnumeral hc with hdigit | hmark
    · obtain ⟨hlow, hhigh⟩ := toNat_of_digit? hdigit
      refine ⟨isBlank_of_toNat hlow (by omega), ?_⟩
      rintro rfl
      exact absurd hdigit (by decide)
    · simp only [List.mem_cons, List.not_mem_nil, or_false] at hmark
      rcases hmark with rfl | rfl | rfl <;> decide
  constructor
  · rw [trim_blank_append hbefore hafter]
    exact trim_of_forall fun c hc ↦ (hplain c hc).1
  · intro hmem
    rcases List.mem_append.1 hmem with hmem | hmem
    · exact absurd (hbefore _ hmem) (by decide)
    rcases List.mem_append.1 hmem with hmem | hmem
    · exact (hplain _ hmem).2 rfl
    · exact absurd (hafter _ hmem) (by decide)

/-- A text of that shape is read so, unless there are marks in its base. -/
theorem Shape.read?_eq (h : Shape text base stars length) (hmarks : ∀ c ∈ base, c ∉ ['*', '[', ']'])
    (hwords : words base ≠ []) :
    read? text = (ofWords? (wordsOf base) stars).map fun name ↦
      { name with length := length } := by
  obtain ⟨before, tail, brackets, after, hblank, htail, rfl, hlength, rfl⟩ := h
  obtain ⟨hbefore, hafter⟩ := List.forall_mem_append.1 hblank
  obtain ⟨gap, hgap, hbase⟩ := exists_trimEnd base
  obtain ⟨hne, hlast, hbracket⟩ := trimEnd_unmarked hmarks hwords
  have htail' : ∀ c ∈ gap ++ tail, isTail c = true :=
    List.forall_mem_append.2 ⟨isTail_of_isBlank hgap, htail⟩
  have hcount : (gap ++ tail).count '*' = tail.count '*' := by
    rw [List.count_append, count_star_of_isBlank hgap, Nat.zero_add]
  have htext : base ++ (tail ++ (brackets ++ after)) =
      trimEnd base ++ (gap ++ tail ++ brackets) ++ after := by
    conv_lhs => rw [hbase]
    simp only [List.append_assoc]
  rw [read?_blank_append hbefore, htext, read?_append_blank hafter, wordsOf, ← words_trimEnd base,
    ← hcount]
  cases hlength with
  | absent =>
    rw [List.append_nil, read?_append hne hlast htail' hbracket, ofWords?]
    split
    · rfl
    · rfl
  | brackets hfront hback hnumeral =>
    obtain ⟨htrim, hinner⟩ := trim_numeral hfront hback hnumeral
    rw [read?_append_length hne hlast htail' hinner, htrim, hnumeral, Option.bind_some]

/-- What is separated as a length is one. -/
theorem isLength_of_splitLength? (h : splitLength? text = some (front, length)) :
    ∃ gap brackets, (∀ c ∈ gap, isBlank c = true) ∧ IsLength brackets length ∧
      text = front ++ (gap ++ brackets) := by
  have hplain : some (text, none) = some (front, length) →
      ∃ gap brackets, (∀ c ∈ gap, isBlank c = true) ∧ IsLength brackets length ∧
        text = front ++ (gap ++ brackets) := by
    rintro ⟨⟩
    exact ⟨[], [], List.forall_mem_nil _, .absent, (List.append_nil _).symm⟩
  unfold splitLength? at h
  split at h
  · next reversed hreversed =>
    split at h
    · next before hbefore =>
      -- The last opening bracket is the first one from behind, so `inner` has none.
      have hreversed' : reversed = reversed.takeWhile (· != '[') ++ '[' :: before := by
        rw [← hbefore, List.takeWhile_append_dropWhile]
      generalize reversed.takeWhile (· != '[') = inner at h hreversed'
      obtain ⟨value, hvalue, heq⟩ := Option.map_eq_some_iff.1 h
      obtain ⟨rfl, rfl⟩ := Prod.mk.inj heq
      obtain ⟨gap, hgap, hfront⟩ := exists_trimEnd before.reverse
      obtain ⟨space, rest, hspace, hrest, hinner⟩ := exists_trim inner.reverse
      refine ⟨gap, _, hgap, .brackets hspace hrest hvalue, ?_⟩
      calc
        text = (']' :: (inner ++ '[' :: before)).reverse := by
          rw [← hreversed', ← hreversed, List.reverse_reverse]
        _ = before.reverse ++ '[' :: (inner.reverse ++ [']']) := by simp
        _ = _ := by rw [← hinner, ← List.append_assoc, ← hfront]
    · exact hplain h
  · exact hplain h

/-- What is separated as stars is stars and white space. -/
theorem exists_tail_splitStars (text : List Char) :
    ∃ tail, (∀ c ∈ tail, isTail c = true) ∧ tail.count '*' = (splitStars text).2 ∧
      text = (splitStars text).1 ++ tail := by
  refine ⟨(text.reverse.takeWhile isTail).reverse, ?_, List.count_reverse, ?_⟩
  · intro c hc
    exact List.all_eq_true.1 List.all_takeWhile c (List.mem_reverse.1 hc)
  · have hsplit : (splitStars text).1 = (text.reverse.dropWhile isTail).reverse := rfl
    rw [hsplit, ← List.reverse_append, List.takeWhile_append_dropWhile, List.reverse_reverse]

/-- A text that is read has a shape, and it is read so. -/
theorem exists_shape_of_read? {written : TypeName} (h : read? text = some written) :
    ∃ base stars length, Shape text base stars length ∧
      ((ofWords? (wordsOf base) stars).map fun name ↦
        { name with length := length }) = some written := by
  obtain ⟨⟨front, length⟩, hlength, hfront⟩ := Option.bind_eq_some_iff.1 h
  obtain ⟨before, after, hbefore, hafter, htrim⟩ := exists_trim text
  obtain ⟨gap, brackets, hgap, hbrackets, hsplit⟩ := isLength_of_splitLength? hlength
  obtain ⟨tail, htail, hstars, htext⟩ := exists_tail_splitStars front
  refine ⟨(splitStars front).1, (splitStars front).2, length,
    ⟨before, tail ++ gap, brackets, after, List.forall_mem_append.2 ⟨hbefore, hafter⟩, ?_, ?_,
      hbrackets, ?_⟩, ?_⟩
  · exact List.forall_mem_append.2 ⟨htail, isTail_of_isBlank hgap⟩
  · rw [List.count_append, count_star_of_isBlank hgap, Nat.add_zero, hstars]
  · calc
      text = before ++ (front ++ (gap ++ brackets) ++ after) := by rw [← hsplit, ← htrim]
      _ = before ++ ((splitStars front).1 ++ tail ++ (gap ++ brackets) ++ after) := by rw [← htext]
      _ = _ := by simp only [List.append_assoc]
  · rw [← hfront, ofWords?, apply_ite (Option.map _)]
    rfl

end TypeName

namespace CType

/-- The type itself, or an array of it if there is a length. -/
def sized (type : CType) : Option UInt64 → CType
  | none => type
  | some length => .array type length

end CType

/-! ## Written types -/

namespace Registry

/-- The text has the shape of a type whose base means something. -/
def Writes (types : Registry) (text : List Char) (type : CType) : Prop :=
  ∃ base stars length found, TypeName.Shape text base stars length ∧
    types.BaseMeans (TypeName.unqualified (TypeName.wordsOf base)) found ∧
    type = (pointers found stars).sized length

theorem typeNamed?_ofWords?_sized (types : Registry) (names : List String) (stars : Nat)
    (length : Option UInt64) :
    ((TypeName.ofWords? names stars).map fun name ↦ { name with length := length }).bind
      types.typeNamed? =
        (types.baseNamed? names).map fun base ↦ (pointers base stars).sized length := by
  cases length with
  | none =>
    have hself : (TypeName.ofWords? names stars).map (fun name ↦ { name with length := none }) =
        TypeName.ofWords? names stars := by
      rw [TypeName.ofWords?, apply_ite (Option.map _)]
      rfl
    rw [hself]
    exact typeNamed?_ofWords? types names stars
  | some length => exact typeNamed?_ofWords?_length types names stars length

theorem NamedByWords.resolve_iff_writes (h : types.NamedByWords) {text : String} :
    types.resolve text = .ok type ↔ types.Writes text.toList type := by
  rw [resolve_eq_ok_iff, ← Option.bind_eq_some_iff]
  constructor
  · intro hresolve
    obtain ⟨written, hread, -⟩ := Option.bind_eq_some_iff.1 hresolve
    obtain ⟨base, stars, length, hshape, hwritten⟩ := TypeName.exists_shape_of_read? hread
    rw [hread, ← hwritten, typeNamed?_ofWords?_sized] at hresolve
    obtain ⟨found, hfound, rfl⟩ := Option.map_eq_some_iff.1 hresolve
    exact ⟨base, stars, length, found, hshape, h.baseNamed?_iff.1 hfound, rfl⟩
  · rintro ⟨base, stars, length, found, hshape, hmeans, rfl⟩
    obtain ⟨hwords, hmarks⟩ := h.unmarked hmeans
    rw [hshape.read?_eq hmarks hwords, typeNamed?_ofWords?_sized, h.baseNamed?_iff.2 hmeans,
      Option.map_some]

/-- Exactly the texts of the grammar mean a type, and any other text is refused by itself. -/
theorem resolve_eq_ok_iff_writes (h : types.NamedByWords) (text : String) :
    (∀ type, types.resolve text = .ok type ↔ types.Writes text.toList type) ∧
      ((∀ type, ¬ types.Writes text.toList type) →
        types.resolve text = .error (.unknownName text)) := by
  refine ⟨fun type ↦ h.resolve_iff_writes, ?_⟩
  intro hnone
  cases hresolve : types.resolve text with
  | ok type => exact absurd (h.resolve_iff_writes.1 hresolve) (hnone type)
  | error e => rw [eq_unknownName_of_resolve hresolve]

theorem hierarchy_namedByWords : Hierarchy.types.NamedByWords where
  record name layout h := by
    obtain ⟨rfl, hlayout⟩ := Hierarchy.mem_of_record? h
    clear h
    revert layout
    decide +kernel
  definition name type h := by
    rcases Hierarchy.definition?_cases h with ⟨rfl, -⟩ | ⟨rfl, -⟩
    · decide +kernel
    · decide +kernel

/-- A no-break space behind a tag, a qualifier before the stars and white space in the brackets are
read, and a qualifier behind a star is refused. -/
theorem resolve_eq_ok_iff_writes_vectorTable :
    Hierarchy.types.NamedByWords ∧
      Hierarchy.types.Writes " struct\u00a0SVector const* * [ 0x10 ] ".toList
        (.array (.pointer (.pointer (.record "SVector"))) 16) ∧
      (∀ type, ¬ Hierarchy.types.Writes "char *const".toList type) ∧
      Hierarchy.types.resolve "char *const" = .error (.unknownName "char *const") := by
  have hread : Hierarchy.types.resolve " struct\u00a0SVector const* * [ 0x10 ] " =
    .ok (.array (.pointer (.pointer (.record "SVector"))) 16) := by decide +kernel
  have hrefused : ∀ type, ¬ Hierarchy.types.Writes "char *const".toList type := by
    intro type htype
    have hresolve := ((resolve_eq_ok_iff_writes hierarchy_namedByWords "char *const").1 type).2 htype
    have hfails : (Hierarchy.types.resolve "char *const").toOption = none := by decide +kernel
    rw [hresolve] at hfails
    cases hfails
  exact ⟨hierarchy_namedByWords,
    ((resolve_eq_ok_iff_writes hierarchy_namedByWords _).1 _).1 hread, hrefused,
    (resolve_eq_ok_iff_writes hierarchy_namedByWords _).2 hrefused⟩

/-- A definition whose name starts with a tag is never found. -/
theorem resolve_tagged_definition :
    (empty.define "struct point" (.scalar .int32)).NamedByWords ∧
      (empty.define "struct point" (.scalar .int32)).Means "struct point" (.scalar .int32) ∧
      TypeName.Shape "struct point".toList "struct point".toList 0 none ∧
      String.intercalate " " (TypeName.unqualified (TypeName.wordsOf "struct point".toList)) =
        "struct point" ∧
      (empty.define "struct point" (.scalar .int32)).resolve "struct point" =
        .error (.unknownName "struct point") := by
  refine ⟨⟨?_, ?_⟩, ?_, ?_, by decide +kernel, by decide +kernel⟩
  · rintro name layout ⟨⟩
  · intro name type h
    rw [definition?_define] at h
    split at h
    · next hname =>
      subst hname
      decide +kernel
    · cases h
  · exact .definition (by decide) (by decide) (by decide)
  · exact ⟨[], [], [], [], List.forall_mem_nil _, List.forall_mem_nil _, rfl, .absent, rfl⟩

end Registry

end MemoryInspector
