import Mathlib.Data.List.Induction
import MemoryInspector.Proofs.Memory.Snapshot

/-!
# Runs of snapshot steps

As long as the mapped ranges are disjoint and end below 2 ^ 64, the regions of the snapshot after a
run are disjoint and cover what was mapped, and a read gives at every address the byte of the last
write that succeeded there.
-/

namespace MemoryInspector

namespace Snapshot

/-- The snapshot after a run of steps from the empty one. -/
def run (steps : List Step) : Snapshot := steps.foldl Step.apply empty

/-- The steps of a run that succeed. -/
def accepted : Snapshot → List Step → List Step
  | _, [] => []
  | snapshot, step :: rest =>
    if (step.result? snapshot).isSome then step :: accepted (step.apply snapshot) rest
    else accepted snapshot rest

/-- The byte that a run leaves at an address: that of the last successful write which covers it,
and zero if there is none. -/
def lastByte (steps : List Step) (index : Nat) : UInt8 :=
  ((accepted empty steps).reverse.findSome? (Step.byte? index)).getD 0

/-- The ranges that a run maps, in order. -/
def mappedRanges (steps : List Step) : List AddressRange := steps.filterMap Step.mapped?

/-- The ranges that are mapped are disjoint from each other, and none of them reaches 2 ^ 64. -/
structure WellPlaced (steps : List Step) : Prop where
  disjoint : (mappedRanges steps).Pairwise AddressRange.Disjoint
  below : ∀ range ∈ mappedRanges steps, range.base.toNat + range.count < UInt64.size

variable {steps : List Step}

/-! ## One more step -/

theorem run_append (steps : List Step) (step : Step) :
    run (steps ++ [step]) = step.apply (run steps) := by
  rw [run, List.foldl_append]
  rfl

theorem accepted_append (snapshot : Snapshot) (steps : List Step) (step : Step) :
    accepted snapshot (steps ++ [step]) = accepted snapshot steps ++
      if (step.result? (steps.foldl Step.apply snapshot)).isSome then [step] else [] := by
  induction steps generalizing snapshot with
  | nil =>
    rw [List.nil_append, accepted, accepted, accepted, List.nil_append, List.foldl_nil]
    rfl
  | cons first rest ih =>
    rw [List.cons_append, accepted, accepted, List.foldl_cons]
    cases happly : first.result? snapshot with
    | none =>
      have hsame : first.apply snapshot = snapshot := by rw [Step.apply, happly, Option.getD_none]
      simp only [hsame, ih, Option.isSome_none, Bool.false_eq_true, if_false]
    | some result =>
      simp only [ih, Option.isSome_some, if_true, List.cons_append]

theorem lastByte_append_of_eq_some {step : Step} {result : Snapshot}
    (h : step.result? (run steps) = some result) :
    lastByte (steps ++ [step]) = fun index ↦ (step.byte? index).getD (lastByte steps index) := by
  funext index
  have haccepted := accepted_append empty steps step
  rw [← run, h, Option.isSome_some, if_pos rfl] at haccepted
  rw [lastByte, haccepted, List.reverse_append, List.reverse_singleton, List.singleton_append,
    List.findSome?_cons]
  cases step.byte? index with
  | none => rfl
  | some byte => rfl

theorem lastByte_append_of_eq_none {step : Step} (h : step.result? (run steps) = none) :
    lastByte (steps ++ [step]) = lastByte steps := by
  funext index
  have haccepted := accepted_append empty steps step
  rw [← run, h, Option.isSome_none, if_neg Bool.false_ne_true, List.append_nil] at haccepted
  rw [lastByte, haccepted, lastByte]

theorem mappedRanges_append_map (steps : List Step) (base : UInt64) (count : Nat) :
    mappedRanges (steps ++ [.map base count]) = mappedRanges steps ++ [⟨base, count⟩] := by
  rw [mappedRanges, List.filterMap_append]
  rfl

theorem mappedRanges_append_write (steps : List Step) (address : UInt64) (data : List UInt8) :
    mappedRanges (steps ++ [.write address data]) = mappedRanges steps := by
  rw [mappedRanges, List.filterMap_append]
  exact List.append_nil _

theorem WellPlaced.of_append {step : Step} (h : WellPlaced (steps ++ [step])) :
    WellPlaced steps := by
  have happend : mappedRanges (steps ++ [step]) = mappedRanges steps ++ mappedRanges [step] :=
    List.filterMap_append
  obtain ⟨hdisjoint, hbelow⟩ := h
  rw [happend] at hdisjoint hbelow
  exact ⟨(List.pairwise_append.1 hdisjoint).1,
    fun range hrange ↦ hbelow range (List.mem_append_left _ hrange)⟩

/-! ## The whole run -/

theorem represents_run (h : WellPlaced steps) :
    (run steps).Represents (fun index ↦ ∃ range ∈ mappedRanges steps, range.Contains index)
      (lastByte steps) := by
  induction steps using List.reverseRecOn with
  | nil =>
    have hmapped : (fun index ↦ ∃ range ∈ mappedRanges [], range.Contains index) =
        fun _ ↦ False := by
      funext index
      simp [mappedRanges]
    rw [hmapped]
    exact represents_empty
  | append_singleton steps step ih =>
    have hsteps := ih h.of_append
    rw [run_append, Step.apply]
    cases step with
    | map base count =>
      have hnew : ∀ index, (AddressRange.mk base count).Contains index →
          ¬ ∃ range ∈ mappedRanges steps, range.Contains index := by
        have hdisjoint := h.disjoint
        rw [mappedRanges_append_map, List.pairwise_append] at hdisjoint
        intro index hindex hmapped
        obtain ⟨range, hrange, hin⟩ := hmapped
        exact hdisjoint.2.2 range hrange _ List.mem_cons_self index hin hindex
      have hbelow : base.toNat + count < UInt64.size :=
        h.below ⟨base, count⟩ (by rw [mappedRanges_append_map]; simp)
      have hmap := hsteps.map hbelow hnew
      have hbyte : lastByte (steps ++ [.map base count]) = lastByte steps :=
        lastByte_append_of_eq_some rfl
      rw [hbyte, mappedRanges_append_map]
      simpa only [Step.result?, Option.getD_some, List.mem_append, List.mem_singleton, or_and_right,
        exists_or, exists_eq_left] using hmap
    | write address data =>
      rw [mappedRanges_append_write]
      cases hwrite : (Step.write address data).result? (run steps) with
      | none =>
        rw [lastByte_append_of_eq_none hwrite]
        exact hsteps
      | some result =>
        rw [lastByte_append_of_eq_some hwrite]
        exact hsteps.write hwrite

/-- After a run whose mapped ranges are disjoint and end below 2 ^ 64, the regions are disjoint and
cover exactly what was mapped. A write changes something only where one region covers it, and a
read gives the bytes of the last successful writes exactly where one region covers it. -/
theorem run_wellPlaced (h : WellPlaced steps) :
    ((run steps).regions.map Region.range).Pairwise AddressRange.Disjoint ∧
    (∀ index, (∃ region ∈ (run steps).regions, region.range.Contains index) ↔
      ∃ range ∈ mappedRanges steps, range.Contains index) ∧
    (∀ address data, (∀ region ∈ (run steps).regions, ¬ region.Covers address data.length) →
      (run steps).write? address data = none ∧ run (steps ++ [.write address data]) = run steps) ∧
    (∀ address data, (∃ region ∈ (run steps).regions, region.Covers address data.length) →
      (run steps).write? address data = some (run (steps ++ [.write address data]))) ∧
    ∀ address count, (run steps).memory.read address count =
      if ∃ region ∈ (run steps).regions, region.Covers address count then
        .ok ((List.range count).map fun offset ↦ lastByte steps (address.toNat + offset))
      else .error (.unreadable address count) := by
  have hrun := represents_run h
  refine ⟨hrun.disjoint, hrun.mapped_iff, ?_, ?_, ?_⟩
  · intro address data hcovers
    have hwrite := (write?_eq_none_iff hrun.stop_lt).2 hcovers
    refine ⟨hwrite, ?_⟩
    rw [run_append, Step.apply, Step.result?, hwrite, Option.getD_none]
  · intro address data hcovers
    cases hwrite : (run steps).write? address data with
    | none =>
      obtain ⟨region, hregion, hcovers⟩ := hcovers
      exact absurd hcovers ((write?_eq_none_iff hrun.stop_lt).1 hwrite region hregion)
    | some result => rw [run_append, Step.apply, Step.result?, hwrite, Option.getD_some]
  · intro address count
    split
    · next hcovers =>
      obtain ⟨region, hregion, hcovers⟩ := hcovers
      exact hrun.read_of_covers hregion hcovers
    · next hcovers =>
      exact read_of_not_covers fun region hregion hin ↦ hcovers ⟨region, hregion, hin⟩

/-- Two adjacent ranges that merge and one apart, a write across the seam with a second one over
it, and a write that overshoots its region. -/
def seamSteps : List Step :=
  [.map 0x1000 8, .map 0x2000 4, .map 0x1008 8, .write 0x1006 [1, 2, 3, 4], .write 0x1008 [9],
    .write 0x100F [7, 7]]

theorem wellPlaced_seamSteps : WellPlaced seamSteps where
  disjoint := by
    have hfirst : (AddressRange.mk 0x1000 8).Disjoint ⟨0x2000, 4⟩ :=
      AddressRange.disjoint_of_le (by decide)
    have hseam : (AddressRange.mk 0x1000 8).Disjoint ⟨0x1008, 8⟩ :=
      AddressRange.disjoint_of_le (by decide)
    have hapart : (AddressRange.mk 0x1008 8).Disjoint ⟨0x2000, 4⟩ :=
      AddressRange.disjoint_of_le (by decide)
    show List.Pairwise AddressRange.Disjoint [⟨0x1000, 8⟩, ⟨0x2000, 4⟩, ⟨0x1008, 8⟩]
    simp [hfirst, hseam, hapart.symm]
  below := by decide

theorem run_wellPlaced_seamSteps : WellPlaced seamSteps ∧
    (run seamSteps).memory.read 0x1005 6 = .ok [0, 1, 2, 9, 4, 0] := by
  obtain ⟨-, -, -, -, hread⟩ := run_wellPlaced wellPlaced_seamSteps
  have hcovers : ∃ region ∈ (run seamSteps).regions, region.Covers 0x1005 6 :=
    ⟨⟨0x1000, #[0, 0, 0, 0, 0, 0, 1, 2, 9, 4, 0, 0, 0, 0, 0, 0]⟩, by decide, by decide⟩
  refine ⟨wellPlaced_seamSteps, (hread 0x1005 6).trans ?_⟩
  rw [if_pos hcovers]
  exact congrArg Except.ok (by decide)

end Snapshot

end MemoryInspector
