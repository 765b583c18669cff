import MemoryInspector.Hierarchy.Layouts
import MemoryInspector.Proofs.Text.Numeral
import MemoryInspector.Proofs.TypeName

/-!
# Types are read back from their spelling

The text under which a type is shown means that type again. A spelling is a name made of words, then
stars, then at most one length in brackets, and each of the three is read back on its own. Only types
that a written name can mean are covered: no pointers to arrays and no arrays of arrays.
-/

namespace MemoryInspector

open Text

variable {types : Registry} {names : List String} {length : UInt64} {inner base tail : List Char}

namespace TypeName

/-! ## Lengths in brackets -/

/-- The brackets at the end, with their content. -/
theorem splitLength?_append (hinner : '[' ∉ inner) (front : List Char) :
    splitLength? (front ++ '[' :: (inner ++ [']'])) =
      (integer? (trim inner)).map fun length ↦ (trimEnd front, some length) := by
  have hlast : ∀ c ∈ (front ++ ['[']).getLast?, (c != '[') = false := by
    intro c hc
    rw [List.getLast?_concat, Option.mem_some_iff] at hc
    subst hc
    rfl
  have hopen : ∀ c ∈ inner, (c != '[') = true := by
    intro c hc
    rw [bne_iff_ne]
    rintro rfl
    exact hinner hc
  obtain ⟨htake, hdrop⟩ := reverse_append_span hlast hopen
  have hreverse : (front ++ '[' :: (inner ++ [']'])).reverse =
      ']' :: (front ++ ['['] ++ inner).reverse := by
    simp
  rw [splitLength?, hreverse]
  simp only [htake, hdrop]
  simp only [List.reverse_append, List.reverse_singleton, List.singleton_append, List.reverse_reverse]

/-- A base, the stars behind it and a length in brackets. -/
theorem read?_append_length (hne : base ≠ []) (hbase : ∀ c ∈ base.getLast?, isTail c = false)
    (htail : ∀ c ∈ tail, isTail c = true) (hinner : '[' ∉ inner) :
    read? (base ++ (tail ++ '[' :: (inner ++ [']']))) = (integer? (trim inner)).bind fun length ↦
      (ofWords? ((words base).map String.ofList) (tail.count '*')).map fun name ↦
        { name with length := some length } := by
  have hend : NoBlankEnd base := noBlankEnd_of_isTail hbase
  have hbrackets : NoBlankEnd ('[' :: (inner ++ [']'])) := by
    intro c hc
    rw [← List.cons_append, List.getLast?_concat, Option.mem_some_iff] at hc
    subst hc
    decide
  obtain ⟨hstart, -, hlast⟩ := trimStart_append hne hend (tail ++ '[' :: (inner ++ [']']))
  have htrimEnd : trimEnd (tail ++ '[' :: (inner ++ [']'])) = tail ++ '[' :: (inner ++ [']']) := by
    have hwhole := trimEnd_append (noBlankEnd_append_of_ne_nil (List.cons_ne_nil _ _) hbrackets tail) []
    rwa [show trimEnd [] = [] from rfl, List.append_nil] at hwhole
  have hfront : trimEnd (trimStart base ++ tail) = trimStart base ++ trimEnd tail := by
    apply trimEnd_append
    rwa [NoBlankEnd, hlast]
  rw [read?, trim_append hne hend, htrimEnd, ← List.append_assoc, splitLength?_append hinner]
  cases integer? (trim inner) with
  | none => rfl
  | some length =>
    rw [Option.map_some, Option.bind_some, Option.bind_some, hfront]
    simp only [splitStars_trim hne hbase htail, baseWords_eq, words_trimStart, ofWords?]
    split
    · rfl
    · rfl

end TypeName

namespace Registry

theorem typeNamed?_ofWords?_length (types : Registry) (names : List String) (stars : Nat)
    (length : UInt64) :
    ((TypeName.ofWords? names stars).map fun name ↦ { name with length := some length }).bind
      types.typeNamed? =
        (types.baseNamed? names).map fun base ↦ .array (pointers base stars) length := by
  rw [baseNamed?]
  simp only [TypeName.ofWords?]
  split
  · rfl
  · rfl

/-- What a base and stars mean. -/
theorem resolve_append {text : String} {type : CType} (hne : base ≠ [])
    (hbase : ∀ c ∈ base.getLast?, TypeName.isTail c = false)
    (htail : ∀ c ∈ tail, TypeName.isTail c = true) (hlength : ']' ∉ base)
    (htext : text.toList = base ++ tail)
    (hnamed : types.baseNamed? ((words base).map String.ofList) = some type) :
    types.resolve text = .ok (pointers type (tail.count '*')) := by
  rw [resolve, htext, TypeName.read?_append hne hbase htail hlength, typeNamed?_ofWords?, hnamed]
  rfl

/-- What a base, stars and a length mean. -/
theorem resolve_append_length {text : String} {type : CType} (hne : base ≠ [])
    (hbase : ∀ c ∈ base.getLast?, TypeName.isTail c = false)
    (htail : ∀ c ∈ tail, TypeName.isTail c = true) (hinner : '[' ∉ inner)
    (htext : text.toList = base ++ (tail ++ '[' :: (inner ++ [']'])))
    (hlength : integer? (trim inner) = some length)
    (hnamed : types.baseNamed? ((words base).map String.ofList) = some type) :
    types.resolve text = .ok (.array (pointers type (tail.count '*')) length) := by
  rw [resolve, htext, TypeName.read?_append_length hne hbase htail hinner, hlength,
    Option.bind_some, typeNamed?_ofWords?_length, hnamed]
  rfl

end Registry

namespace TypeName

/-! ## Names made of words -/

/-- What holds of the blank between words and of each word's characters holds of the name's. -/
theorem forall_mem_name (holds : Char → Prop) (hblank : holds ' ')
    (h : ∀ word ∈ names, ∀ c ∈ word.toList, holds c) :
    ∀ c ∈ (String.intercalate " " names).toList, holds c := by
  induction names with
  | nil => exact List.forall_mem_nil _
  | cons word rest ih =>
    obtain ⟨hword, hrest⟩ := List.forall_mem_cons.1 h
    cases rest with
    | nil => exact hword
    | cons second others =>
      rw [String.intercalate_cons_cons, String.toList_append, String.toList_append]
      intro c hc
      rcases List.mem_append.1 hc with hc | hc
      · rcases List.mem_append.1 hc with hc | hc
        · exact hword c hc
        · rwa [List.mem_singleton.1 hc]
      · exact ih hrest c hc

theorem name_ne_nil {word : String} (hword : word ≠ "") (rest : List String) :
    (String.intercalate " " (word :: rest)).toList ≠ [] := by
  have hnil : word.toList ≠ [] := by
    rwa [ne_eq, String.toList_eq_nil_iff]
  cases rest with
  | nil => exact hnil
  | cons second others =>
    rw [String.intercalate_cons_cons, String.toList_append, String.toList_append, List.append_assoc]
    exact List.append_ne_nil_of_left_ne_nil hnil _

/-- A name ends with a character of a word. -/
theorem forall_getLast?_name (holds : Char → Prop) (hne : ∀ word ∈ names, word ≠ "")
    (h : ∀ word ∈ names, ∀ c ∈ word.toList, holds c) :
    ∀ c ∈ (String.intercalate " " names).toList.getLast?, holds c := by
  induction names with
  | nil => exact nofun
  | cons word rest ih =>
    obtain ⟨hword, hrest⟩ := List.forall_mem_cons.1 h
    obtain ⟨-, hneRest⟩ := List.forall_mem_cons.1 hne
    cases rest with
    | nil => exact fun c hc ↦ hword c (List.mem_of_getLast? hc)
    | cons second others =>
      have hnil := name_ne_nil (hneRest second List.mem_cons_self) others
      intro c hc
      rw [String.intercalate_cons_cons, String.toList_append, String.toList_append,
        List.getLast?_append_of_ne_nil _ hnil] at hc
      exact ih hneRest hrest c hc

/-- The words of a name. -/
theorem words_name (hne : ∀ word ∈ names, word ≠ "")
    (hplain : ∀ word ∈ names, ∀ c ∈ word.toList, isBlank c = false) :
    words (String.intercalate " " names).toList = names.map String.toList := by
  induction names with
  | nil => rfl
  | cons word rest ih =>
    obtain ⟨hword, hneRest⟩ := List.forall_mem_cons.1 hne
    obtain ⟨hchars, hplainRest⟩ := List.forall_mem_cons.1 hplain
    have hnil : word.toList ≠ [] := by
      rwa [ne_eq, String.toList_eq_nil_iff]
    cases rest with
    | nil =>
      have hself : words (word.toList ++ []) = [word.toList] := words_append hnil hchars nofun
      rwa [List.append_nil] at hself
    | cons second others =>
      have hhead : ∀ c ∈ (' ' :: (String.intercalate " " (second :: others)).toList).head?,
          isBlank c = true := by
        rintro c ⟨⟩
        rfl
      rw [String.intercalate_cons_cons, String.toList_append, String.toList_append, List.append_assoc,
        List.map_cons, ← ih hneRest hplainRest]
      exact words_append hnil hchars hhead

theorem map_words_name (hne : ∀ word ∈ names, word ≠ "")
    (hplain : ∀ word ∈ names, ∀ c ∈ word.toList, isBlank c = false) :
    (words (String.intercalate " " names).toList).map String.ofList = names := by
  rw [words_name hne hplain, List.map_map]
  exact (List.map_congr_left fun word _ ↦ String.ofList_toList).trans (List.map_id names)

/-- The words make up a base by themselves: none is empty or holds white space, a star or a bracket,
none is a qualifier, and the first one is no tag. -/
structure IsBase (names : List String) : Prop where
  ne_nil : names ≠ []
  word_ne : ∀ word ∈ names, word ≠ ""
  plain : ∀ word ∈ names, ∀ c ∈ word.toList, isBlank c = false ∧ c ∉ ['*', '[', ']']
  unqualified : ∀ word ∈ names, word ∉ ["const", "volatile"]
  untagged : ∀ word ∈ names.head?, word ∉ ["struct", "union", "enum"]

instance : DecidablePred IsBase := fun names ↦
  decidable_of_iff (names ≠ [] ∧ names.all (· ≠ "") ∧
    names.all (·.toList.all fun c ↦ isBlank c = false ∧ c ∉ ['*', '[', ']']) ∧
    names.all (· ∉ ["const", "volatile"]) ∧ names.head?.all (· ∉ ["struct", "union", "enum"])) <| by
    simp only [List.all_eq_true, Option.all_eq_true, decide_eq_true_eq]
    exact ⟨fun ⟨hne, hword, hplain, hqualifier, htag⟩ ↦ ⟨hne, hword, hplain, hqualifier, htag⟩,
      fun h ↦ ⟨h.ne_nil, h.word_ne, h.plain, h.unqualified, h.untagged⟩⟩

namespace IsBase

section

variable (h : IsBase names)
include h

theorem tagSplit_eq : tagSplit names = (false, names) := by
  have hkept : names.filter (fun word ↦ word != "const" && word != "volatile") = names := by
    rw [List.filter_eq_self]
    intro word hword
    simpa using h.unqualified word hword
  have htag := h.untagged
  unfold tagSplit
  rw [hkept]
  split
  · exact absurd (htag "struct" rfl) (by decide)
  · exact absurd (htag "union" rfl) (by decide)
  · exact absurd (htag "enum" rfl) (by decide)
  · rfl

theorem toList_ne_nil : (String.intercalate " " names).toList ≠ [] := by
  obtain ⟨word, rest, rfl⟩ := List.exists_cons_of_ne_nil h.ne_nil
  exact name_ne_nil (h.word_ne word List.mem_cons_self) rest

theorem isTail_getLast? : ∀ c ∈ (String.intercalate " " names).toList.getLast?, isTail c = false := by
  apply forall_getLast?_name (isTail · = false) h.word_ne
  intro word hword c hc
  obtain ⟨hblank, hmark⟩ := h.plain word hword c hc
  have hstar : c ≠ '*' := by
    rintro rfl
    exact hmark (by decide)
  rw [isTail, hblank, Bool.or_false, beq_eq_false_iff_ne]
  exact hstar

theorem bracket_not_mem : ']' ∉ (String.intercalate " " names).toList := by
  intro hmem
  refine forall_mem_name (· ≠ ']') (by decide) ?_ _ hmem rfl
  rintro word hword c hc rfl
  exact (h.plain word hword _ hc).2 (by decide)

theorem words_toList : (words (String.intercalate " " names).toList).map String.ofList = names :=
  map_words_name h.word_ne fun word hword c hc ↦ (h.plain word hword c hc).1

/-- The name is what is looked up. -/
theorem baseNamed?_eq (types : Registry) :
    types.baseNamed? names = types.baseType? false (String.intercalate " " names) := by
  have hname : (String.intercalate " " names).isEmpty = false := by
    rw [String.isEmpty_eq_false_iff, ne_eq, ← String.toList_eq_nil_iff]
    exact h.toList_ne_nil
  rw [Registry.baseNamed?, ofWords?, h.tagSplit_eq, hname, if_neg Bool.false_ne_true]
  rfl

end

end IsBase

end TypeName

/-! ## Spelled types -/

namespace Registry

/-- The registry has a record of that name, and the name alone means it: it is made up of words, and
it is neither built in nor defined. -/
structure NamesRecord (types : Registry) (name : String) : Prop where
  registered : (types.record? name).isSome = true
  spelled : ∃ names, TypeName.IsBase names ∧ String.intercalate " " names = name
  ne_void : name ≠ "void"
  not_scalar : Scalar.ofCName? name = none
  not_defined : types.definition? name = none

end Registry

namespace CType

/-- Pointers, as many as there may be, to `void`, a scalar or a record that its name means. -/
def IsChain (types : Registry) : CType → Prop
  | void => True
  | scalar _ => True
  | pointer pointee => pointee.IsChain types
  | array _ _ => False
  | record name => types.NamesRecord name

/-- A chain of pointers, or one array of them. -/
def IsWritten (types : Registry) : CType → Prop
  | array element _ => element.IsChain types
  | type => type.IsChain types

/-- What is behind the base in the spelling of a chain. -/
def starText : Nat → List Char
  | 0 => []
  | stars + 1 => ' ' :: List.replicate (stars + 1) '*'

theorem count_starText (stars : Nat) : (starText stars).count '*' = stars := by
  cases stars with
  | zero => rfl
  | succ stars => rw [starText, List.count_cons_of_ne (by decide), List.count_replicate_self]

theorem isTail_of_mem_starText {stars : Nat} : ∀ c ∈ starText stars, TypeName.isTail c = true := by
  intro c hc
  cases stars with
  | zero => cases hc
  | succ stars =>
    rcases List.mem_cons.1 hc with rfl | hc
    · decide
    · rw [(List.mem_replicate.1 hc).2]
      decide

theorem toList_spelling_pointers {type : CType} (h : type.isPointer = false) (stars : Nat) :
    (Registry.pointers type stars).spelling.toList = type.spelling.toList ++ starText stars := by
  induction stars with
  | zero => exact (List.append_nil _).symm
  | succ stars ih =>
    have hspelling : (Registry.pointers type (stars + 1)).spelling.toList =
        (Registry.pointers type stars).spelling.toList ++
          if (Registry.pointers type stars).isPointer then ['*'] else [' ', '*'] := by
      rw [Registry.pointers, spelling]
      split
      · exact String.toList_append
      · exact String.toList_append
    rw [hspelling, ih, List.append_assoc]
    cases stars with
    | zero =>
      rw [Registry.pointers, if_neg (by simp [h]), starText, starText, List.nil_append]
      rfl
    | succ stars =>
      rw [Registry.pointers, isPointer, if_pos rfl, starText, starText, List.cons_append,
        ← List.replicate_succ']

theorem exists_isBase_cName (kind : Scalar) :
    ∃ names, TypeName.IsBase names ∧ String.intercalate " " names = kind.cName := by
  refine ⟨(words kind.cName.toList).map String.ofList, ?_, ?_⟩
  · cases kind <;> decide +kernel
  · cases kind <;> decide +kernel

/-- A chain is as many pointers to a base that its spelling means. -/
theorem IsChain.exists_base {type : CType} (h : type.IsChain types) :
    ∃ base stars names, Registry.pointers base stars = type ∧ base.isPointer = false ∧
      TypeName.IsBase names ∧ String.intercalate " " names = base.spelling ∧
      types.baseType? false base.spelling = some base := by
  induction type with
  | void => exact ⟨.void, 0, ["void"], rfl, rfl, by decide +kernel, rfl, rfl⟩
  | scalar kind =>
    obtain ⟨names, hnames, hname⟩ := exists_isBase_cName kind
    have hvoid : kind.cName ≠ "void" := by
      cases kind <;> decide
    refine ⟨.scalar kind, 0, names, rfl, rfl, hnames, hname, ?_⟩
    rw [Registry.baseType?_eq, Registry.builtIn?, spelling, if_neg hvoid, Scalar.ofCName?_cName]
    rfl
  | pointer pointee ih =>
    obtain ⟨base, stars, names, rfl, hbase⟩ := ih h
    exact ⟨base, stars + 1, names, rfl, hbase⟩
  | array => exact h.elim
  | record name =>
    have hrecord : types.NamesRecord name := h
    obtain ⟨names, hnames, hname⟩ := hrecord.spelled
    obtain ⟨layout, hlayout⟩ := Option.isSome_iff_exists.1 hrecord.registered
    refine ⟨.record name, 0, names, rfl, rfl, hnames, hname, ?_⟩
    rw [Registry.baseType?_eq, Registry.builtIn?, spelling, if_neg hrecord.ne_void, hrecord.not_scalar,
      hrecord.not_defined, hlayout]
    rfl

/-- The spelling of a chain is a base and the stars behind it. -/
theorem IsChain.exists_split {type : CType} (h : type.IsChain types) :
    ∃ base tail found, type.spelling.toList = base ++ tail ∧ base ≠ [] ∧
      (∀ c ∈ base.getLast?, TypeName.isTail c = false) ∧ (∀ c ∈ tail, TypeName.isTail c = true) ∧
      ']' ∉ base ∧ types.baseNamed? ((words base).map String.ofList) = some found ∧
      Registry.pointers found (tail.count '*') = type := by
  obtain ⟨found, stars, names, rfl, hpointer, hnames, hname, hfound⟩ := h.exists_base
  refine ⟨(String.intercalate " " names).toList, starText stars, found, ?_, hnames.toList_ne_nil,
    hnames.isTail_getLast?, isTail_of_mem_starText, hnames.bracket_not_mem, ?_, ?_⟩
  · rw [toList_spelling_pointers hpointer, hname]
  · rw [hnames.words_toList, hnames.baseNamed?_eq, hname, hfound]
  · rw [count_starText]

end CType

namespace Registry

theorem resolve_spelling_chain {type : CType} (h : type.IsChain types) :
    types.resolve type.spelling = .ok type := by
  obtain ⟨base, tail, found, htext, hne, hbase, htail, hbracket, hnamed, rfl⟩ := h.exists_split
  exact resolve_append hne hbase htail hbracket htext hnamed

theorem resolve_spelling_array {element : CType} (h : element.IsChain types) (length : UInt64) :
    types.resolve (CType.array element length).spelling = .ok (.array element length) := by
  obtain ⟨base, tail, found, htext, hne, hbase, htail, -, hnamed, rfl⟩ := h.exists_split
  have hdigit : ∀ c ∈ Nat.toDigits 10 length.toNat, c.isDigit = true :=
    fun c hc ↦ Nat.isDigit_of_mem_toDigits (by decide) (by decide) hc
  have hinner : '[' ∉ Nat.toDigits 10 length.toNat := fun hmem ↦ absurd (hdigit _ hmem) (by decide)
  have hblank : ∀ c ∈ tail ++ [' '], TypeName.isTail c = true := by
    intro c hc
    rcases List.mem_append.1 hc with hc | hc
    · exact htail c hc
    · rw [List.mem_singleton.1 hc]
      decide
  have hspelling : (CType.array (pointers found (tail.count '*')) length).spelling.toList =
      base ++ ((tail ++ [' ']) ++ '[' :: (Nat.toDigits 10 length.toNat ++ [']'])) := by
    have hparts : (CType.array (pointers found (tail.count '*')) length).spelling =
        (pointers found (tail.count '*')).spelling ++ " [" ++ decimal length.toNat ++ "]" := rfl
    rw [hparts]
    simp [htext, decimal]
  have hlength : integer? (trim (Nat.toDigits 10 length.toNat)) = some length := by
    have htrim : trim (Nat.toDigits 10 length.toNat) = Nat.toDigits 10 length.toNat := by
      apply trim_of_forall
      intro c hc
      apply Expression.isBlank_of_isWordChar
      rw [Expression.Token.isWordChar, Char.isAlphanum, hdigit c hc, Bool.or_true, Bool.true_or]
    rw [htrim, integer?_toDigits length.toNat_lt_size, UInt64.ofNat_toNat]
  have hresolve := resolve_append_length hne hbase hblank hinner hspelling hlength hnamed
  rwa [List.count_append, List.count_cons_of_ne (by decide), List.count_nil, Nat.add_zero] at hresolve

/-- The text under which a type is shown means that type, so types that are shown alike are equal.
-/
theorem resolve_spelling (types : Registry) :
    (∀ type : CType, type.IsWritten types → types.resolve type.spelling = .ok type) ∧
      ∀ type other : CType, type.IsWritten types → other.IsWritten types →
        type.spelling = other.spelling → type = other := by
  have hresolve : ∀ type : CType, type.IsWritten types → types.resolve type.spelling = .ok type := by
    intro type htype
    cases type with
    | array element length => exact resolve_spelling_array htype length
    | _ => exact resolve_spelling_chain htype
  refine ⟨hresolve, ?_⟩
  intro type other htype hother heq
  have hsame := hresolve type htype
  rw [heq, hresolve other hother] at hsame
  exact (Except.ok.inj hsame).symm

/-- Arrays of pointers to pointers to vectors. -/
theorem resolve_spelling_vectorTable :
    Hierarchy.types.resolve "SVector ** [12]" =
        .ok (.array (.pointer (.pointer (.record "SVector"))) 12) ∧
      ∀ other : CType, other.IsWritten Hierarchy.types → other.spelling = "SVector ** [12]" →
        other = .array (.pointer (.pointer (.record "SVector"))) 12 := by
  have hrecord : Hierarchy.types.NamesRecord "SVector" :=
    ⟨by decide, ⟨["SVector"], by decide +kernel, rfl⟩, by decide, by decide, by decide⟩
  have hspelling : (CType.array (.pointer (.pointer (.record "SVector"))) 12).spelling =
    "SVector ** [12]" := by decide
  obtain ⟨hresolve, hinjective⟩ := resolve_spelling Hierarchy.types
  rw [← hspelling]
  exact ⟨hresolve _ hrecord, fun other hother ↦ hinjective _ _ hother hrecord⟩

end Registry

end MemoryInspector
