import MemoryInspector.Hierarchy.Node
import MemoryInspector.Proofs.Render.Rendering
import MemoryInspector.Proofs.Target.Array
import MemoryInspector.Proofs.Text.CEscape

/-!
# Displayed arrays

An array for which no printer is registered is shown as a literal if its elements are characters,
and else element by element. A literal tells which bytes come before the first zero byte. Elements
that take space are at most as many as a value may have bytes; elements without space are not
limited in number.
-/

namespace MemoryInspector

open Text

variable {printers : Printers} {target : Target} {value : Value} {element : CType} {length : UInt64}
  {bytes : List UInt8}

/-- The display of an array that no printer takes. -/
theorem displayWithin_array (htype : value.type = .array element length)
    (hprinter : printers.find? value.type = none) (depth : Nat) :
    displayWithin printers target (depth + 1) value =
      nativeForm (displayWithin printers target depth) target value := by
  rw [displayWithin, hprinter, htype]

/-- No printer that is built in takes an array, whose spelling ends with a bracket. -/
theorem hierarchyPrinters_find?_array (element : CType) (length : UInt64) :
    Hierarchy.printers.find? (.array element length) = none := by
  have hspelling : (CType.array element length).spelling =
      element.spelling ++ " [" ++ decimal length.toNat ++ "]" := rfl
  have hne : ((CType.array element length).spelling == Hierarchy.nodeType) = false := by
    rw [beq_eq_false_iff_ne, hspelling]
    intro heq
    have hlast := congrArg (fun name ↦ name.toList.getLast?) heq
    simp only [String.toList_append] at hlast
    rw [show "]".toList = [']'] from rfl, List.getLast?_concat] at hlast
    exact absurd hlast (by decide)
  simp only [Printers.find?, Hierarchy.printers, List.find?_cons, hne]
  rfl

/-! ## Character arrays -/

/-- The value is a character array with these bytes, and no printer is registered for its type. -/
structure HoldsCharacters (printers : Printers) (target : Target) (value : Value) (bytes : List UInt8) :
    Prop where
  type_eq : ∃ length, value.type = .array (.scalar .char) length
  unprinted : printers.find? value.type = none
  read : target.readBytes value = .ok bytes

theorem HoldsCharacters.display_eq (h : HoldsCharacters printers target value bytes) :
    display printers target value = pure (quoteString bytes) := by
  obtain ⟨length, htype⟩ := h.type_eq
  obtain ⟨depth, -, hdisplay⟩ := exists_display_eq printers target value
  rw [hdisplay, displayWithin_array htype h.unprinted, nativeForm, htype]
  simp only [h.read, Rendering.liftM_ok, pure_bind]

theorem quoteString_eq (bytes : List UInt8) :
    quoteString bytes = "\"" ++ String.ofList (escapeBytes '"' (beforeNul bytes)) ++ "\"" := by
  rw [← String.toList_inj, quoteString]
  simp

/-- What is between the quotes is read back as the bytes before the first zero byte, so character
arrays are displayed alike exactly if they agree up to there. -/
theorem display_characters (h : HoldsCharacters printers target value bytes) :
    (∃ literal, display printers target value = pure ("\"" ++ String.ofList literal ++ "\"") ∧
      unescape? literal = some (beforeNul bytes)) ∧
    ∀ (other : Target) (otherValue : Value) (otherBytes : List UInt8),
      HoldsCharacters printers other otherValue otherBytes →
        (display printers target value = display printers other otherValue ↔
          beforeNul bytes = beforeNul otherBytes) := by
  constructor
  · refine ⟨escapeBytes '"' (beforeNul bytes), ?_, unescape?_escapeBytes _⟩
    rw [h.display_eq, quoteString_eq]
  · intro other otherValue otherBytes hother
    rw [h.display_eq, hother.display_eq]
    constructor
    · intro heq
      have htext : quoteString bytes = quoteString otherBytes :=
        Except.ok.inj (Option.some.inj heq)
      have hliteral : escapeBytes '"' (beforeNul bytes) = escapeBytes '"' (beforeNul otherBytes) := by
        rw [← String.toList_inj, quoteString, quoteString, String.toList_ofList, String.toList_ofList,
          List.cons_append, List.cons_append] at htext
        exact List.append_cancel_right (List.cons.inj htext).2
      have hread := unescape?_escapeBytes (beforeNul bytes)
      rw [hliteral, unescape?_escapeBytes] at hread
      exact (Option.some.inj hread).symm
    · intro heq
      rw [quoteString_eq, quoteString_eq, heq]

/-- Two buffers of eight characters that differ behind the first zero byte. -/
def buffersTarget : Target where
  memory := (Snapshot.ofBytes 0x1000
    #[1, 48, 92, 34, 200, 10, 0, 65, 1, 48, 92, 34, 200, 10, 0, 66]).memory
  types := Hierarchy.types
  symbols := ∅
  symbolTypes := ∅

theorem display_characters_buffers :
    HoldsCharacters Hierarchy.printers buffersTarget (.atAddress 0x1000 (.array (.scalar .char) 8))
      [1, 48, 92, 34, 200, 10, 0, 65] ∧
    HoldsCharacters Hierarchy.printers buffersTarget (.atAddress 0x1008 (.array (.scalar .char) 8))
      [1, 48, 92, 34, 200, 10, 0, 66] ∧
    (∃ literal,
      display Hierarchy.printers buffersTarget (.atAddress 0x1000 (.array (.scalar .char) 8)) =
        pure ("\"" ++ String.ofList literal ++ "\"") ∧
      unescape? literal = some [1, 48, 92, 34, 200, 10]) ∧
    display Hierarchy.printers buffersTarget (.atAddress 0x1000 (.array (.scalar .char) 8)) =
      display Hierarchy.printers buffersTarget (.atAddress 0x1008 (.array (.scalar .char) 8)) := by
  have hprinter := hierarchyPrinters_find?_array (.scalar .char) 8
  have hfirst : HoldsCharacters Hierarchy.printers buffersTarget
      (.atAddress 0x1000 (.array (.scalar .char) 8)) [1, 48, 92, 34, 200, 10, 0, 65] :=
    ⟨⟨8, rfl⟩, hprinter, by decide⟩
  have hsecond : HoldsCharacters Hierarchy.printers buffersTarget
      (.atAddress 0x1008 (.array (.scalar .char) 8)) [1, 48, 92, 34, 200, 10, 0, 66] :=
    ⟨⟨8, rfl⟩, hprinter, by decide⟩
  obtain ⟨hliteral, halike⟩ := display_characters hfirst
  exact ⟨hfirst, hsecond, hliteral, (halike _ _ _ hsecond).2 (by decide)⟩

/-! ## Other arrays -/

/-- Elements without space make no array too large. -/
theorem valueSize_array_of_zero {types : Registry} (hsize : types.byteSize element = .ok 0)
    (length : UInt64) : types.valueSize (.array element length) = .ok 0 := by
  rw [Registry.valueSize, Registry.byteSize, hsize, Except.ok_bind, Nat.zero_mul]
  rfl

/-- The lengths of the arrays that may be read are bounded exactly if an element takes space. -/
theorem length_le_maxValueSize_iff (types : Registry) (element : CType) :
    (∀ length size, types.valueSize (.array element length) = .ok size →
      length.toNat ≤ Registry.maxValueSize) ↔ types.byteSize element ≠ .ok 0 := by
  constructor
  · intro h hsize
    exact absurd (h _ _ (valueSize_array_of_zero hsize 65537)) (by decide)
  · intro hsize length size h
    obtain ⟨one, hone, -, rfl⟩ := Registry.byteSize_array_eq_ok_iff.1 (Registry.byteSize_of_valueSize h)
    have hpos : 0 < one := Nat.pos_of_ne_zero fun hzero ↦ hsize (hzero ▸ hone)
    calc
      length.toNat ≤ one * length.toNat := Nat.le_mul_of_pos_left _ hpos
      _ ≤ Registry.maxValueSize := Registry.valueSize_le h

/-- The display of an array visits these elements, one after another, and puts their texts between
braces. -/
def Visits (printers : Printers) (target : Target) (depth : Nat) (value : Value)
    (visited : List Value) : Prop :=
  displayWithin printers target (depth + 1) value =
    visited.mapM (fun element ↦ (displayWithin printers target depth element).inPlace) >>=
      fun texts ↦ pure (braced texts)

/-- An array that is not refused for its size visits all of its elements, or it fails. -/
theorem exists_visits (htype : value.type = .array element length) (hchar : element ≠ .scalar .char)
    (hprinter : printers.find? value.type = none) (depth : Nat) :
    (∃ e, target.types.valueSize value.type = .error e ∧
      displayWithin printers target (depth + 1) value = throw e) ∨
    (∃ size, target.types.valueSize value.type = .ok size) ∧
      ((∃ e, displayWithin printers target (depth + 1) value = throw e) ∨
        ∃ visited, visited.length = length.toNat ∧ Visits printers target depth value visited) := by
  unfold Visits
  rw [displayWithin_array htype hprinter]
  unfold nativeForm
  split
  · next hvoid => cases htype.symm.trans hvoid
  · next hscalar => cases htype.symm.trans hscalar
  · next hpointer => cases htype.symm.trans hpointer
  · next hchars =>
    cases htype.symm.trans hchars
    exact absurd rfl hchar
  · next harray =>
    cases htype.symm.trans harray
    cases hsize : target.types.valueSize value.type with
    | error e => exact .inl ⟨e, rfl, rfl⟩
    | ok size =>
      refine .inr ⟨⟨size, rfl⟩, ?_⟩
      simp only [Rendering.liftM_ok, pure_bind]
      split
      · exact .inl ⟨_, rfl⟩
      · next address _ =>
        cases helements : target.readArray address element length.toNat with
        | error e => exact .inl ⟨e, rfl⟩
        | ok elements =>
          refine .inr ⟨elements, ?_, rfl⟩
          obtain ⟨one, -, -, rfl⟩ := Target.readArray_eq_ok_iff.1 helements
          rw [List.length_map, List.length_range]
  · next hrecord => cases htype.symm.trans hrecord

/-- The arrays whose size is accepted have at most as many elements as a value may have bytes, exactly
if the elements take space. The display of such an array visits no more elements than that. -/
theorem display_visits_boundedly (types : Registry) (element : CType) :
    ((∀ length size, types.valueSize (.array element length) = .ok size →
      length.toNat ≤ Registry.maxValueSize) ↔ types.byteSize element ≠ .ok 0) ∧
    (types.byteSize element ≠ .ok 0 → element ≠ .scalar .char →
      ∀ (printers : Printers) (target : Target) (value : Value) (length : UInt64) (depth : Nat),
        target.types = types → value.type = .array element length →
        printers.find? value.type = none →
          (∃ e, types.valueSize value.type = .error e ∧
            displayWithin printers target (depth + 1) value = throw e) ∨
          length.toNat ≤ Registry.maxValueSize ∧
            ((∃ e, displayWithin printers target (depth + 1) value = throw e) ∨
              ∃ visited, visited.length = length.toNat ∧
                Visits printers target depth value visited)) := by
  refine ⟨length_le_maxValueSize_iff types element, ?_⟩
  rintro hsize hchar printers target value length depth rfl htype hprinter
  rcases exists_visits htype hchar hprinter depth with hrefused | ⟨⟨size, haccepted⟩, hshown⟩
  · exact .inl hrefused
  · rw [htype] at haccepted
    exact .inr ⟨(length_le_maxValueSize_iff _ _).2 hsize length size haccepted, hshown⟩

theorem display_visits_boundedly_twoLongs :
    Target.twoLongs.types.byteSize (.scalar .int64) ≠ .ok 0 ∧
    Hierarchy.printers.find? (.array (.scalar .int64) 2) = none ∧
    (2 : UInt64).toNat ≤ Registry.maxValueSize ∧
    ∃ visited, visited.length = 2 ∧
      Visits Hierarchy.printers Target.twoLongs 1 (.atAddress 0x10F0 (.array (.scalar .int64) 2))
        visited := by
  have hsize : Target.twoLongs.types.byteSize (.scalar .int64) ≠ .ok 0 := by decide
  have hprinter := hierarchyPrinters_find?_array (.scalar .int64) 2
  have hshown : (displayWithin Hierarchy.printers Target.twoLongs 2
      (.atAddress 0x10F0 (.array (.scalar .int64) 2))).run = some (.ok "\x7b0, 0\x7d") := by
    decide +kernel
  have hthrow : ¬ ∃ e, displayWithin Hierarchy.printers Target.twoLongs 2
      (.atAddress 0x10F0 (.array (.scalar .int64) 2)) = throw e := by
    rintro ⟨e, he⟩
    exact Rendering.throw_ne_pure _ e (he.symm.trans hshown)
  have hvisits := (display_visits_boundedly Target.twoLongs.types (.scalar .int64)).2 hsize (by decide)
    Hierarchy.printers Target.twoLongs (.atAddress 0x10F0 (.array (.scalar .int64) 2)) 2 1 rfl rfl
      hprinter
  rcases hvisits with ⟨e, -, he⟩ | ⟨hlength, he | hvisited⟩
  · exact absurd ⟨e, he⟩ hthrow
  · exact absurd he hthrow
  · exact ⟨hsize, hprinter, hlength, hvisited⟩

/-! ## Elements without space -/

/-- A record without any bytes. -/
def blankTypes : Registry := Registry.empty.addRecord ⟨"blank", 0, []⟩

def blankTarget : Target := ⟨(Snapshot.ofBytes 0x1000 #[0]).memory, blankTypes, ∅, ∅⟩

/-- However long an array of records without bytes is, all of them are shown. -/
theorem displayWithin_blankArray (hrecord : printers.find? (.record "blank") = none)
    (harray : printers.find? (.array (.record "blank") length) = none) (depth : Nat) :
    displayWithin printers blankTarget (depth + 2)
      (.atAddress 0x1000 (.array (.record "blank") length)) =
        pure (braced (List.replicate length.toNat "\x7b\x7d")) := by
  have hsize : blankTarget.types.valueSize (.array (.record "blank") length) = .ok 0 :=
    valueSize_array_of_zero (by decide) length
  have hreadable : ∀ index < length.toNat, blankTarget.ElementReadable 0x1000 0 index := by
    intro index _
    rw [Target.ElementReadable, Nat.mul_zero]
    decide
  have helements := Target.readArray_eq_ok_iff.2
    ⟨0, (by decide : blankTarget.types.valueSize (.record "blank") = .ok 0), hreadable, rfl⟩
  have hblank : ∀ address, displayWithin printers blankTarget (depth + 1)
      (.atAddress address (.record "blank")) = pure "\x7b\x7d" := by
    intro address
    simp only [displayWithin, Value.type_atAddress, hrecord]
    rfl
  have htexts : ((List.range length.toNat).map fun index ↦ Value.atAddress
      (UInt64.ofNat ((0x1000 : UInt64).toNat + index * 0)) (.record "blank")).mapM (fun element ↦
        (displayWithin printers blankTarget (depth + 1) element).inPlace) =
      pure (List.replicate length.toNat "\x7b\x7d") := by
    have hreplicate : List.replicate length.toNat "\x7b\x7d" =
        (List.range length.toNat).map fun _ ↦ "\x7b\x7d" := by
      rw [List.map_const', List.length_range]
    rw [hreplicate]
    apply List.mapM_eq_pure
    rw [List.forall₂_map_left_iff, List.forall₂_map_right_iff, List.forall₂_same]
    intro index _
    rw [hblank]
    rfl
  rw [displayWithin_array rfl harray]
  simp only [nativeForm, Value.type_atAddress, hsize, Rendering.liftM_ok, pure_bind,
    Value.address?_atAddress, helements, htexts]

/-- An array of 65537 records is accepted, and all of them are shown. -/
theorem display_exceeds_maxValueSize_blanks :
    blankTypes.valueSize (.array (.record "blank") 65537) = .ok 0 ∧
    ¬ (65537 : UInt64).toNat ≤ Registry.maxValueSize ∧
    ¬ (∀ length size, blankTypes.valueSize (.array (.record "blank") length) = .ok size →
      length.toNat ≤ Registry.maxValueSize) ∧
    display Hierarchy.printers blankTarget (.atAddress 0x1000 (.array (.record "blank") 65537)) =
      pure (braced (List.replicate 65537 "\x7b\x7d")) := by
  have hsize : blankTypes.valueSize (.array (.record "blank") 65537) = .ok 0 :=
    valueSize_array_of_zero (by decide) _
  have hlength : ¬ (65537 : UInt64).toNat ≤ Registry.maxValueSize := by decide
  have hrecord : Hierarchy.printers.find? (.record "blank") = none :=
    Option.isNone_iff_eq_none.1 (by decide +kernel)
  have harray := hierarchyPrinters_find?_array (.record "blank") 65537
  refine ⟨hsize, hlength, fun h ↦ hlength (h _ _ hsize), ?_⟩
  exact displayWithin_blankArray hrecord harray
    (blankTypes.typeCount (.array (.record "blank") 65537) + (pointerDepth - 2))

end MemoryInspector
