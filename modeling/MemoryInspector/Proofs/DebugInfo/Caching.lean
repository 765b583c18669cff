import Mathlib.Data.Finset.Union
import Mathlib.Data.Finset.Option
import MemoryInspector.Proofs.DebugInfo.Replay
import MemoryInspector.Proofs.DebugInfo.Short

/-!
# Resolution without a cache

A type is the same whether it is remembered or resolved again. Where references form no cycle, each
resolution comes to the outcome that it has without a cache, whatever was resolved before it in
whatever order, and whether that has failed or not: a resolution that fails leaves the types in the
cache that were found on the way to the failure.
-/

namespace MemoryInspector.DebugInfo

open Relation

namespace CompilationUnit

variable {unit : CompilationUnit} {position target : Nat}

theorem refers_iff : unit.Refers position target ↔ unit.targetAt? position = some target := by
  unfold Refers targetAt?
  cases unit.entryAt position <;> simp [Except.toOption]

/-- References that form no cycle come to an end, as only positions in the unit refer to others. -/
theorem noEndlessPath_of_acyclic (h : ∀ position, ¬ TransGen unit.Refers position position)
    (position : Nat) : NoEndlessPath unit.Refers position := by
  let targets : Finset Nat := (Finset.range unit.stop).biUnion fun other ↦ (unit.targetAt? other).toFinset
  have hreachable : ∀ target, ReflTransGen unit.Refers position target →
      target ∈ insert position targets := by
    intro target htarget
    cases htarget.cases_tail with
    | inl heq => exact heq ▸ Finset.mem_insert_self _ _
    | inr hlast =>
      obtain ⟨other, -, hrefers⟩ := hlast
      have htargets := Option.mem_toFinset.2 (refers_iff.1 hrefers)
      obtain ⟨entry, hentry, -⟩ := hrefers
      have hother := Finset.mem_range.2 (lt_stop_of_entryAt hentry)
      exact Finset.mem_insert_of_mem (Finset.mem_biUnion.2 ⟨other, hother, htargets⟩)
  exact .of_acyclic (insert position targets) hreachable fun target _ ↦ h target

end CompilationUnit

namespace CachedResolving

variable {α β : Type} {steps : CachedResolving α} {next : α → CachedResolving β} {cache : TypeCache}
  {outcome : Except Malformed α}

/-- How the steps end from a cache, if they do. -/
def outcome? (steps : CachedResolving α) (cache : TypeCache) : Option (Except Malformed α) :=
  (steps.run cache).run.map fun result ↦ result.map Prod.fst

theorem outcome?_liftM (outcome : Except Malformed α) (cache : TypeCache) :
    outcome? (liftM outcome) cache = some outcome := by
  cases outcome <;> rfl

/-- What comes after the steps, if it has the same outcome from every cache. -/
theorem outcome?_bind {after : α → Except Malformed β}
    (h : ∀ a cache, outcome? (next a) cache = some (after a)) (cache : TypeCache) :
    outcome? (steps >>= next) cache = (outcome? steps cache).map (· >>= after) := by
  unfold outcome?
  rw [StateT.run_bind, ExceptT.run_bind]
  cases (steps.run cache).run with
  | none => rfl
  | some result =>
    cases result with
    | error e => rfl
    | ok found => exact h found.1 found.2

theorem liftM_eq_pure_iff {a : α} : (liftM outcome : CachedResolving α) = pure a ↔ outcome = .ok a := by
  constructor
  · intro h
    have houtcome := congrArg (outcome? · ∅) h
    rw [outcome?_liftM] at houtcome
    exact Option.some.inj houtcome
  · rintro rfl
    rfl

end CachedResolving

namespace NamedUnit

open CachedResolving

variable {named : NamedUnit} {entry : Entry} {position target depth : Nat} {type : CType}
  {cache : TypeCache} {outcome : Except Malformed CType}

/-! ## A single resolution -/

/-- The type at a position, following at most `depth` references. No type is remembered. -/
def freshWithin (named : NamedUnit) : (depth position : Nat) → CachedResolving CType
  | 0, _ => fun _ ↦ ExceptT.mk none
  | depth + 1, position => do
    let entry ← named.unit.entryAt position
    named.entryType (named.freshWithin depth) entry

/-- How the resolution of a position ends without a cache, if it does. -/
def freshOutcome? (named : NamedUnit) (position : Nat) : Option (Except Malformed CType) :=
  outcome? (named.freshWithin (named.unit.stop + 1) position) ∅

theorem outcome?_typeWithin_of_hit (h : cache[position]? = some type) :
    outcome? (named.typeWithin (depth + 1) position) cache = some (.ok type) := by
  rw [outcome?, typeWithin_run_of_hit h]
  rfl

theorem outcome?_typeWithin_of_miss (h : cache[position]? = none) :
    outcome? (named.typeWithin (depth + 1) position) cache =
      outcome? (liftM (named.unit.entryAt position) >>= named.entryType (named.typeWithin depth))
        cache := by
  let remember (type : CType) : CachedResolving CType := do
    modify (·.insert position type)
    return type
  have hremember : ∀ type cache, outcome? (remember type) cache = some (.ok type) := fun _ _ ↦ rfl
  have hstep : outcome? (named.typeWithin (depth + 1) position) cache = outcome?
      ((liftM (named.unit.entryAt position) >>= named.entryType (named.typeWithin depth)) >>= remember)
        cache := by
    rw [outcome?, outcome?, typeWithin_run_of_miss h, bind_assoc]
  rw [hstep, outcome?_bind hremember]
  generalize outcome? _ cache = found
  rcases found with _ | _ | _ <;> rfl

/-- The resolution of a position has the same outcome without a cache and from each sound cache: the
type of the position, or an error if it has none. -/
structure Settled (named : NamedUnit) (depth position : Nat) (outcome : Except Malformed CType) :
    Prop where
  fresh_eq : named.freshWithin depth position = liftM outcome
  cached_eq : ∀ cache, named.Sound cache →
    outcome? (named.typeWithin depth position) cache = some outcome
  eq_ok_iff : ∀ type, outcome = .ok type ↔ named.Resolves position type

namespace Settled

/-- The entry settles its position: what is in the cache is the type that it has. -/
theorem of_entryAt (hfresh : named.freshWithin (depth + 1) position = liftM outcome)
    (hcached : ∀ cache, named.Sound cache → outcome?
      (liftM (named.unit.entryAt position) >>= named.entryType (named.typeWithin depth)) cache =
        some outcome)
    (htype : ∀ type, outcome = .ok type ↔ named.Resolves position type) :
    named.Settled (depth + 1) position outcome := by
  refine ⟨hfresh, ?_, htype⟩
  intro cache hsound
  cases hfound : cache[position]? with
  | some found =>
    rw [outcome?_typeWithin_of_hit hfound, (htype found).2 (hsound position found hfound)]
  | none => rw [outcome?_typeWithin_of_miss hfound, hcached cache hsound]

theorem of_error {e : Malformed} (h : named.unit.entryAt position = .error e) :
    named.Settled (depth + 1) position (.error e) := by
  apply of_entryAt
  · unfold freshWithin
    rw [h]
    rfl
  · intro cache _
    rw [h]
    rfl
  · intro type
    refine iff_of_false nofun fun htype ↦ ?_
    obtain ⟨entry, hentry⟩ := htype.entryAt_eq
    cases h.symm.trans hentry

theorem of_alone (hentry : named.unit.entryAt position = .ok entry) (htarget : entry.target? = none)
    (h : named.entryType (fun _ ↦ pure .void) entry = liftM outcome) :
    named.Settled (depth + 1) position outcome := by
  have hentryType : ∀ typeAt, named.entryType typeAt entry = liftM outcome := by
    intro typeAt
    rw [entryType_of_target?_eq_none htarget _ fun _ ↦ pure .void, h]
  apply of_entryAt
  · unfold freshWithin
    rw [hentry]
    exact hentryType _
  · intro cache _
    rw [hentry, CachedResolving.liftM_ok, pure_bind, hentryType, outcome?_liftM]
  · intro type
    rw [resolves_iff_of_alone hentry htarget, h, liftM_eq_pure_iff]

/-- What an entry makes of the outcome at its target settles its position. -/
theorem through {make : CType → Except Malformed CType} (h : named.Settled depth target outcome)
    (hentry : named.unit.entryAt position = .ok entry) (htarget : entry.target? = some target)
    (hmake : ∀ referred, named.entryType (fun _ ↦ pure referred) entry = liftM (make referred)) :
    named.Settled (depth + 1) position (outcome >>= make) := by
  have hentryType : ∀ typeAt : Nat → CachedResolving CType, named.entryType typeAt entry =
      typeAt target >>= fun referred ↦ liftM (make referred) := by
    intro typeAt
    rw [entryType_of_target? htarget]
    exact bind_congr hmake
  apply of_entryAt
  · unfold freshWithin
    rw [hentry, CachedResolving.liftM_ok, pure_bind, hentryType, h.fresh_eq]
    cases outcome <;> rfl
  · intro cache hsound
    rw [hentry, CachedResolving.liftM_ok, pure_bind, hentryType,
      outcome?_bind fun referred ↦ outcome?_liftM (make referred), h.cached_eq cache hsound]
    rfl
  · intro type
    simp only [resolves_iff_of_through hentry htarget, Except.bind_eq_ok_iff, h.eq_ok_iff, hmake,
      liftM_eq_pure_iff]

end Settled

/-- Every resolution has an outcome where references from the position come to an end. -/
theorem exists_settled (h : NoEndlessPath named.unit.Refers position) :
    ∃ outcome, named.Settled (named.unit.stop + 1) position outcome := by
  have hstep : ∀ depth position,
      (∀ target, named.unit.Refers position target → ∃ outcome, named.Settled depth target outcome) →
      ∃ outcome, named.Settled (depth + 1) position outcome := by
    intro depth position hbehind
    cases hentry : named.unit.entryAt position with
    | error e => exact ⟨_, .of_error hentry⟩
    | ok entry =>
      choose make hmake using @isRead_entryType named entry
      cases htarget : entry.target? with
      | none => exact ⟨_, .of_alone hentry htarget (hmake .void)⟩
      | some target =>
        obtain ⟨outcome, houtcome⟩ := hbehind target ⟨entry, hentry, htarget⟩
        exact ⟨_, houtcome.through hentry htarget hmake⟩
  exact CompilationUnit.descend hstep h

/-! ## Resolutions one after another -/

/-- The cache that is left when the type at a position was asked for. Where that fails, it is what the
resolution of the type that the entry refers to has left, if it refers to one. -/
def cacheLeftWithin (named : NamedUnit) : (depth position : Nat) → TypeCache → TypeCache
  | 0, _, cache => cache
  | depth + 1, position, cache =>
    match ((named.typeAt position).run cache).run with
    | some (.ok (_, left)) => left
    | _ =>
      match named.unit.targetAt? position with
      | some target => named.cacheLeftWithin depth target cache
      | none => cache

def cacheLeft (named : NamedUnit) (position : Nat) (cache : TypeCache) : TypeCache :=
  named.cacheLeftWithin (named.unit.stop + 1) position cache

/-- How the resolutions of positions end that are asked for one after another from a cache on. -/
def outcomesFrom (named : NamedUnit) :
    (cache : TypeCache) → (positions : List Nat) → List (Option (Except Malformed CType))
  | _, [] => []
  | cache, position :: rest =>
    outcome? (named.typeAt position) cache :: named.outcomesFrom (named.cacheLeft position cache) rest

theorem Sound.cacheLeftWithin (h : named.Sound cache) (depth position : Nat) :
    named.Sound (named.cacheLeftWithin depth position cache) := by
  induction depth generalizing position with
  | zero => exact h
  | succ depth ih =>
    unfold NamedUnit.cacheLeftWithin
    split
    · next type left hrun =>
      have hresolves := resolves_of_run h hrun
      exact ((yields_typeAt hresolves).of_run h hrun).2
    · split
      · exact ih _
      · exact h

/-- The types in the cache make no difference. -/
theorem outcome?_typeAt_eq_freshOutcome? (h : NoEndlessPath named.unit.Refers position)
    (hsound : named.Sound cache) :
    (∃ outcome, named.freshOutcome? position = some outcome) ∧
      outcome? (named.typeAt position) cache = named.freshOutcome? position := by
  obtain ⟨outcome, houtcome⟩ := exists_settled h
  have hfresh : named.freshOutcome? position = some outcome := by
    rw [freshOutcome?, houtcome.fresh_eq, outcome?_liftM]
  exact ⟨⟨outcome, hfresh⟩, by rw [hfresh]; exact houtcome.cached_eq cache hsound⟩

/-- Where references form no cycle, each resolution in any sequence comes to the outcome that it has
without a cache. -/
theorem outcomesFrom_eq_map_freshOutcome?
    (h : ∀ position, ¬ TransGen named.unit.Refers position position) :
    (∀ position, ∃ outcome, named.freshOutcome? position = some outcome) ∧
      ∀ positions, named.outcomesFrom ∅ positions = positions.map named.freshOutcome? := by
  have hending := CompilationUnit.noEndlessPath_of_acyclic h
  have hrun : ∀ positions cache, named.Sound cache →
      named.outcomesFrom cache positions = positions.map named.freshOutcome? := by
    intro positions
    induction positions with
    | nil => exact fun _ _ ↦ rfl
    | cons position rest ih =>
      intro cache hsound
      have hleft : named.Sound (named.cacheLeft position cache) := hsound.cacheLeftWithin _ _
      have hfirst := (outcome?_typeAt_eq_freshOutcome? (hending position) hsound).2
      rw [outcomesFrom, List.map_cons, hfirst, ih _ hleft]
  exact ⟨fun position ↦ (outcome?_typeAt_eq_freshOutcome? (hending position) sound_empty).1,
    fun positions ↦ hrun positions ∅ sound_empty⟩

end NamedUnit

namespace Shared

/-! ## Types that several others refer to -/

/-- An array whose dimensions cannot be read. -/
def rows : Entry := { Short.entry 4 .arrayType true [(.type, .reference 3)] with next? := none }

def node : Entry := Short.entry 6 .structureType true [(.name, .text "node"), (.byteSize, .number 8)]

/-- The node has a member that points to it. -/
def entries : List Entry :=
  [Short.root, Short.base 1 "int" 4 5, Short.pointer 2 1, Short.definition 3 "link" 2, rows,
    Short.pointer 5 4, node, Short.member 7 "next" 0 8, Short.pointer 8 6]

def namedUnit : NamedUnit where
  unit := ⟨0, 9, fun position ↦ (entries.map .entry)[position]?⟩
  index := 0
  recordNames := ∅

end Shared

/-- The array fails twice, and leaves the pointer that its elements are. -/
theorem outcomesFrom_eq_map_freshOutcome?_shared :
    (∀ position, ¬ TransGen Shared.namedUnit.unit.Refers position position) ∧
      (Shared.namedUnit.cacheLeft 5 ∅)[2]? = some (.pointer (.scalar .int32)) ∧
      Shared.namedUnit.outcomesFrom ∅ [5, 3, 8, 5, 2, 9] =
        [some (.error .malformed), some (.ok (.pointer (.scalar .int32))),
          some (.ok (.pointer (.record "node"))), some (.error .malformed),
          some (.ok (.pointer (.scalar .int32))), some (.error .malformed)] := by
  have hacyclic : ∀ position, ¬ TransGen Shared.namedUnit.unit.Refers position position := by
    intro position
    have hending : NoEndlessPath Shared.namedUnit.unit.Refers position :=
      CompilationUnit.noEndlessPath (fun position ↦ if position = 6 then 0 else position) (by decide)
    exact not_transGen_self hending.acc_transGen
  refine ⟨hacyclic, by decide +kernel, ?_⟩
  rw [(NamedUnit.outcomesFrom_eq_map_freshOutcome? hacyclic).2]
  decide +kernel

end MemoryInspector.DebugInfo
