import MemoryInspector.Proofs.Expression.Grammar
import MemoryInspector.Proofs.Expression.Spelling
import MemoryInspector.Proofs.Registry

/-!
# Type names without a length

A type name that is spelled with words and stars means a chain of pointers to the type that the
words name, whatever white space stands between them. A single word is a type name of its own unless
it is a qualifier or a tag.
-/

namespace MemoryInspector

open Text Expression

variable {types : Registry} {names : List String} {stars : Nat} {text base tail : List Char}

namespace TypeName

/-- Whether words begin with a tag, and the words after it, qualifiers left out. -/
def tagSplit (names : List String) : Bool × List String :=
  match names.filter fun word ↦ word != "const" && word != "volatile" with
  | "struct" :: rest => (true, rest)
  | "union" :: rest => (true, rest)
  | "enum" :: rest => (true, rest)
  | all => (false, all)

/-- The type name with these words as its base. -/
def ofWords? (names : List String) (stars : Nat) : Option TypeName :=
  let name := String.intercalate " " (tagSplit names).2
  if name.isEmpty then none else some ⟨(tagSplit names).1, name, stars, none⟩

theorem baseWords_eq (text : List Char) :
    baseWords text = tagSplit ((words text).map String.ofList) := rfl

/-- White space and stars end a base. -/
def isTail (c : Char) : Bool := c == '*' || isBlank c

theorem splitLength?_of_not_mem (h : ']' ∉ text) : splitLength? text = some (text, none) := by
  unfold splitLength?
  split
  · next reversed hreverse =>
    have hmem : ']' ∈ text.reverse := by
      rw [hreverse]
      exact List.mem_cons_self
    exact absurd (List.mem_reverse.1 hmem) h
  · rfl

theorem splitStars_append (hbase : ∀ c ∈ base.getLast?, isTail c = false)
    (htail : ∀ c ∈ tail, isTail c = true) :
    splitStars (base ++ tail) = (base, tail.count '*') := by
  obtain ⟨htake, hdrop⟩ := reverse_append_span hbase htail
  have hsplit : splitStars (base ++ tail) = (((base ++ tail).reverse.dropWhile isTail).reverse,
      ((base ++ tail).reverse.takeWhile isTail).count '*') := rfl
  rw [hsplit, htake, hdrop, List.reverse_reverse, List.count_reverse]

/-- White space is no star. -/
theorem count_star_of_isBlank (h : ∀ c ∈ text, isBlank c = true) : text.count '*' = 0 := by
  apply List.count_eq_zero_of_not_mem
  intro hmem
  exact absurd (h _ hmem) (by decide)

theorem count_trimEnd (text : List Char) : (trimEnd text).count '*' = text.count '*' := by
  obtain ⟨after, hafter, htext⟩ := exists_trimEnd text
  conv_rhs => rw [htext, List.count_append, count_star_of_isBlank hafter, Nat.add_zero]

theorem noBlankEnd_of_isTail (hbase : ∀ c ∈ base.getLast?, isTail c = false) : NoBlankEnd base := by
  intro c hc
  have hlast := hbase c hc
  rw [isTail, Bool.or_eq_false_iff] at hlast
  exact hlast.2

/-- The stars of a trimmed base and tail. -/
theorem splitStars_trim (hne : base ≠ []) (hbase : ∀ c ∈ base.getLast?, isTail c = false)
    (htail : ∀ c ∈ tail, isTail c = true) :
    splitStars (trimStart base ++ trimEnd tail) = (trimStart base, tail.count '*') := by
  obtain ⟨-, -, hlast⟩ := trimStart_append hne (noBlankEnd_of_isTail hbase) []
  rw [← count_trimEnd]
  apply splitStars_append
  · rwa [hlast]
  · intro c hc
    exact htail c (mem_of_mem_trimEnd hc)

/-- A base and the stars behind it. -/
theorem read?_append (hne : base ≠ []) (hbase : ∀ c ∈ base.getLast?, isTail c = false)
    (htail : ∀ c ∈ tail, isTail c = true) (hlength : ']' ∉ base) :
    read? (base ++ tail) = ofWords? ((words base).map String.ofList) (tail.count '*') := by
  have hbracket : ']' ∉ trimStart base ++ trimEnd tail := by
    intro hmem
    rcases List.mem_append.1 hmem with hmem | hmem
    · exact hlength (mem_of_mem_trimStart hmem)
    · exact absurd (htail _ (mem_of_mem_trimEnd hmem)) (by decide)
  rw [read?, trim_append hne (noBlankEnd_of_isTail hbase), splitLength?_of_not_mem hbracket,
    Option.bind_some]
  simp only [splitStars_trim hne hbase htail, baseWords_eq, words_trimStart]
  rfl

/-! ## Spelled names -/

theorem mem_of_spelling_words (h : Spelling (names.map Token.word) text) {c : Char} (hc : c ∈ text) :
    isBlank c = true ∨ Token.isWordChar c = true := by
  rcases h.mem_cases hc with hblank | hword | ⟨kind, hkind, -⟩
  · exact .inl hblank
  · exact .inr hword
  · obtain ⟨name, -, hname⟩ := List.mem_map.1 hkind
    cases hname

theorem words_of_spelling (h : Spelling (names.map Token.word) text) :
    (words text).map String.ofList = names := by
  generalize htokens : names.map Token.word = tokens at h
  induction h generalizing names with
  | nil =>
    rw [List.map_eq_nil_iff.1 htokens]
    rfl
  | blank hblank _ ih => rw [words_cons_of_isBlank hblank, ih htokens]
  | mark kind =>
    obtain ⟨name, rest, -, hname, -⟩ := List.map_eq_cons_iff.1 htokens
    cases hname
  | @word token word tokens text hne hword htoken hhead htext ih =>
    obtain ⟨name, rest, rfl, rfl, rfl⟩ := List.map_eq_cons_iff.1 htokens
    have hblank : ∀ c ∈ text.head?, isBlank c = true := by
      intro c hc
      rcases mem_of_spelling_words htext (List.mem_of_mem_head? hc) with hblank | hword
      · exact hblank
      · have hnot := hhead c hc
        rw [hword] at hnot
        cases hnot
    rw [words_append hne (fun c hc ↦ isBlank_of_isWordChar (hword c hc)) hblank, List.map_cons,
      ih rfl, ofWord_eq_word htoken]

theorem stars_of_spelling (h : Spelling (List.replicate stars (.mark .star)) text) :
    (∀ c ∈ text, isTail c = true) ∧ text.count '*' = stars := by
  generalize htokens : List.replicate stars (Token.mark .star) = tokens at h
  induction h generalizing stars with
  | nil =>
    rw [List.replicate_eq_nil_iff] at htokens
    subst htokens
    exact ⟨List.forall_mem_nil _, rfl⟩
  | @blank c tokens text hblank _ ih =>
    obtain ⟨htail, hcount⟩ := ih htokens
    have hne : c ≠ '*' := by
      intro hc
      subst hc
      exact absurd hblank (by decide)
    refine ⟨List.forall_mem_cons.2 ⟨by simp [isTail, hblank], htail⟩, ?_⟩
    rw [List.count_cons_of_ne hne, hcount]
  | mark kind _ ih =>
    cases stars with
    | zero => cases htokens
    | succ stars =>
      rw [List.replicate_succ] at htokens
      cases htokens
      obtain ⟨htail, hcount⟩ := ih rfl
      refine ⟨List.forall_mem_cons.2 ⟨rfl, htail⟩, ?_⟩
      rw [Mark.chars, List.singleton_append, List.count_cons_self, hcount]
  | word _ _ htoken =>
    cases stars with
    | zero => cases htokens
    | succ stars =>
      rw [List.replicate_succ] at htokens
      cases htokens
      exact absurd htoken ofWord_ne_mark

/-- Only the words and the number of stars matter. -/
theorem read?_of_spelling (hnames : names ≠ []) (h : Spelling (typeTokens names stars) text) :
    read? text = ofWords? names stars := by
  obtain ⟨base, tail, rfl, hbase, htail, hend⟩ := h.split
  obtain ⟨htail, hstars⟩ := stars_of_spelling htail
  have hne : base ≠ [] := by
    intro hnil
    subst hnil
    exact hnames (List.map_eq_nil_iff.1 hbase.eq_nil)
  have hlast : ∀ c ∈ base.getLast?, isTail c = false := by
    intro c hc
    have hblank : isBlank c = false := hend c hc
    have hstar : c ≠ '*' := by
      intro hc'
      subst hc'
      rcases mem_of_spelling_words hbase (List.mem_of_getLast? hc) with h | h
      · exact absurd h (by decide)
      · exact absurd h (by decide)
    simp [isTail, hblank, hstar]
  have hlength : ']' ∉ base := by
    intro hmem
    rcases mem_of_spelling_words hbase hmem with h | h
    · exact absurd h (by decide)
    · exact absurd h (by decide)
  rw [read?_append hne hlast htail hlength, words_of_spelling hbase, hstars]

end TypeName

/-! ## Resolution -/

namespace Registry

/-- The type that words mean as a base. -/
def baseNamed? (types : Registry) (names : List String) : Option CType :=
  (TypeName.ofWords? names 0).bind fun name ↦ types.baseType? name.tagged name.base

theorem typeNamed?_ofWords? (types : Registry) (names : List String) (stars : Nat) :
    (TypeName.ofWords? names stars).bind types.typeNamed? =
      (types.baseNamed? names).map fun base ↦ pointers base stars := by
  rw [baseNamed?]
  simp only [TypeName.ofWords?]
  split
  · rfl
  · rfl

theorem resolve_of_spelling {name : String} {type : CType} (hnames : names ≠ [])
    (h : Spelling (typeTokens names stars) name.toList) :
    types.resolve name = .ok type ↔
      ∃ base, types.baseNamed? names = some base ∧ pointers base stars = type := by
  rw [resolve, TypeName.read?_of_spelling hnames h, typeNamed?_ofWords?, ← Option.map_eq_some_iff]
  split
  · next found hfound => rw [hfound, Except.ok.injEq, Option.some.injEq]
  · next hnone => simp [hnone]

end Registry

theorem typeText_eq (names : List String) (stars : Nat) :
    typeText names stars = String.intercalate " " ((typeTokens names stars).map Token.text) := by
  rw [typeText, typeTokens, List.map_append, List.map_map, List.map_replicate]
  have hwords : names.map (Token.text ∘ Token.word) = names := List.map_id names
  rw [hwords]
  rfl

theorem spelling_typeText (h : Spelling (typeTokens names stars) text) (stars' : Nat) :
    Spelling (typeTokens names stars') (typeText names stars').toList := by
  rw [typeText_eq]
  apply spelling_intercalate
  intro token htoken
  rcases List.mem_append.1 htoken with hword | hstar
  · obtain ⟨name, hname, rfl⟩ := List.mem_map.1 hword
    exact h.word_text (List.mem_append_left _ (List.mem_map_of_mem hname))
  · obtain ⟨-, rfl⟩ := List.mem_replicate.1 hstar
    exact spelling_mark .star

/-- One more star makes a pointer. -/
theorem resolve_typeText_succ {name : String} {type : CType} (hnames : names ≠ [])
    (h : Spelling (typeTokens names stars) name.toList) (hname : types.resolve name = .ok type) :
    types.resolve (typeText names (stars + 1)) = .ok (.pointer type) := by
  obtain ⟨base, hbase, rfl⟩ := (Registry.resolve_of_spelling hnames h).1 hname
  exact (Registry.resolve_of_spelling hnames (spelling_typeText h _)).2 ⟨base, hbase, rfl⟩

/-! ## Identifiers -/

namespace TypeName

/-- The words of a type name that are no part of its base. -/
def keywords : List String := ["const", "volatile", "struct", "union", "enum"]

/-- The name is a single word token and no keyword. -/
def IsIdentifier (name : String) : Prop :=
  Token.scan name.toList = .ok [.word name] ∧ name ∉ keywords

instance : DecidablePred IsIdentifier := fun _ ↦ inferInstanceAs (Decidable (_ ∧ _))

theorem tagSplit_of_not_mem_keywords {name : String} (h : name ∉ keywords) :
    tagSplit [name] = (false, [name]) := by
  simp only [keywords, List.mem_cons, List.not_mem_nil, or_false, not_or] at h
  obtain ⟨hconst, hvolatile, hstruct, hunion, henum⟩ := h
  unfold tagSplit
  rw [List.filter_cons_of_pos (by simp [hconst, hvolatile]), List.filter_nil]
  split
  · next heq => exact absurd (List.cons.inj heq).1 hstruct
  · next heq => exact absurd (List.cons.inj heq).1 hunion
  · next heq => exact absurd (List.cons.inj heq).1 henum
  · rfl

/-- An identifier is a base by itself. -/
theorem IsIdentifier.read?_eq {name : String} (h : IsIdentifier name) :
    read? name.toList = some ⟨false, name, 0, none⟩ := by
  obtain ⟨hscan, hkeyword⟩ := h
  have hspelling : Spelling (typeTokens [name] 0) name.toList := scan_eq_ok_iff.1 hscan
  have hne : name.isEmpty = false := by
    rw [String.isEmpty_eq_false_iff]
    rintro rfl
    simp [Token.scan] at hscan
  have hname : String.intercalate " " [name] = name := rfl
  rw [read?_of_spelling (List.cons_ne_nil _ _) hspelling, ofWords?,
    tagSplit_of_not_mem_keywords hkeyword, hname, hne, if_neg Bool.false_ne_true]

/-- An identifier has no mark in it. -/
theorem IsIdentifier.mem_cases {name : String} {c : Char} (h : IsIdentifier name)
    (hc : c ∈ name.toList) : isBlank c = true ∨ Token.isWordChar c = true := by
  have hspelling : Spelling [.word name] name.toList := scan_eq_ok_iff.1 h.1
  rcases hspelling.mem_cases hc with hblank | hword | ⟨kind, hkind, -⟩
  · exact .inl hblank
  · exact .inr hword
  · exact absurd (List.mem_singleton.1 hkind) nofun

end TypeName

namespace Registry

variable {name : String} {type : CType}

/-- An identifier means what it means as a base. -/
theorem resolve_isIdentifier_iff (h : TypeName.IsIdentifier name) :
    types.resolve name = .ok type ↔ types.baseType? false name = some type := by
  have htype : types.typeNamed? ⟨false, name, 0, none⟩ = types.baseType? false name :=
    congrFun Option.map_id _
  rw [resolve_eq_ok_iff, h.read?_eq, ← htype]
  constructor
  · rintro ⟨written, ⟨⟩, hwritten⟩
    exact hwritten
  · intro hbase
    exact ⟨_, rfl, hbase⟩

theorem resolve_of_isIdentifier (hidentifier : TypeName.IsIdentifier name) (hvoid : name ≠ "void")
    (hscalar : Scalar.ofCName? name = none) (h : types.definition? name = some type) :
    types.resolve name = .ok type := by
  rw [resolve_isIdentifier_iff hidentifier, baseType?_eq, builtIn?, if_neg hvoid, hscalar, h]
  rfl

end Registry

end MemoryInspector
