import Mathlib.Data.Finset.Card
import Mathlib.Data.Fintype.Pigeonhole
import Mathlib.Logic.Relation
import Mathlib.Order.Monotone.Basic
import Mathlib.Order.WellFounded

/-!
# Descent in a graph

A point from which no endless path starts comes back to itself on no path, and neither does a point
behind it. If only finitely many points can be reached, this is all that it takes for no path to be
endless, and then what holds of each point one step deeper than it holds of all points behind it
holds of the point itself at the depth of their number. A path that comes back takes only level
steps, if no step goes up.
-/

namespace MemoryInspector

open Relation

variable {α : Type} {next : α → α → Prop} {a b : α}

/-- No endless path starts at the point. -/
def NoEndlessPath (next : α → α → Prop) (a : α) : Prop :=
  ¬ ∃ path : ℕ → α, path 0 = a ∧ ∀ index, next (path index) (path (index + 1))

namespace NoEndlessPath

theorem iff_acc : NoEndlessPath next a ↔ Acc (fun b a ↦ next a b) a := by
  rw [acc_iff_isEmpty_descending_chain, isEmpty_subtype, NoEndlessPath, not_exists]

theorem acc_transGen (h : NoEndlessPath next a) : Acc (fun b a ↦ TransGen next a b) a := by
  have hswap : (fun b a ↦ TransGen next a b) = TransGen fun b a ↦ next a b := by
    funext b a
    exact propext transGen_swap.symm
  rw [hswap]
  exact (iff_acc.1 h).transGen

theorem of_next (h : ∀ b, next a b → NoEndlessPath next b) : NoEndlessPath next a :=
  iff_acc.2 (Acc.intro a fun b hb ↦ iff_acc.1 (h b hb))

theorem mono {less : α → α → Prop} (h : NoEndlessPath next a) (hle : ∀ b c, less b c → next b c) :
    NoEndlessPath less a := by
  rintro ⟨path, hstart, hstep⟩
  exact h ⟨path, hstart, fun index ↦ hle _ _ (hstep index)⟩

/-- No path is endless if each of its steps goes down. -/
theorem of_lt (height : α → ℕ) (h : ∀ a b, next a b → height b < height a) :
    NoEndlessPath next a := by
  have hwell : WellFounded fun b a ↦ next a b :=
    Subrelation.wf (fun hstep ↦ h _ _ hstep) (measure height).wf
  exact iff_acc.2 (hwell.apply a)

/-- If only finitely many points can be reached and none of them comes back to itself, no path is
endless. -/
theorem of_acyclic (reachable : Finset α) (hreachable : ∀ b, ReflTransGen next a b → b ∈ reachable)
    (h : ∀ b, ReflTransGen next a b → ¬ TransGen next b b) : NoEndlessPath next a := by
  rintro ⟨path, hstart, hstep⟩
  have hreach : ∀ index, ReflTransGen next a (path index) := by
    intro index
    induction index with
    | zero => exact hstart ▸ .refl
    | succ index ih => exact ih.tail (hstep index)
  -- Two points of the path are the same, and the later one is reached from the earlier one.
  obtain ⟨first, second, hne, hsame⟩ := Finite.exists_ne_map_eq_of_infinite fun index ↦
    (⟨path index, hreachable _ (hreach index)⟩ : reachable)
  have hpath : ∀ ⦃first second⦄, first < second → TransGen next (path first) (path second) :=
    Nat.rel_of_forall_rel_succ_of_lt (TransGen next) fun index ↦ .single (hstep index)
  have heq : path first = path second := congrArg Subtype.val hsame
  rcases Nat.lt_or_gt_of_ne hne with hlt | hlt
  · have hback := hpath hlt
    rw [← heq] at hback
    exact h _ (hreach first) hback
  · have hback := hpath hlt
    rw [heq] at hback
    exact h _ (hreach second) hback

end NoEndlessPath

theorem not_transGen_self (h : Acc (fun b a ↦ TransGen next a b) a) : ¬ TransGen next a a := by
  induction h with
  | intro a _ ih =>
    intro hself
    exact ih a hself hself

/-- If every point has the property at a depth when all points behind it have the property one
level less deep, then a point has it at any depth from the number of reachable points on. -/
theorem NoEndlessPath.descend [DecidableEq α] {holds : ℕ → α → Prop}
    (hstep : ∀ depth a, (∀ b, TransGen next a b → holds depth b) → holds (depth + 1) a)
    (h : NoEndlessPath next a) (reachable : Finset α)
    (hreachable : ∀ b, ReflTransGen next a b → b ∈ reachable) {depth : ℕ}
    (hdepth : reachable.card ≤ depth) : holds depth a := by
  have hacc := h.acc_transGen
  clear h
  -- Of the points that can be reached, those behind the first step lack the point itself.
  induction hacc generalizing reachable depth with
  | intro a hbehind ih =>
    have ha : a ∈ reachable := hreachable a .refl
    have hself : ¬ TransGen next a a := not_transGen_self (Acc.intro a hbehind)
    cases depth with
    | zero => exact absurd ha (by rw [Finset.card_eq_zero.1 (Nat.le_zero.1 hdepth)]; simp)
    | succ depth =>
      apply hstep
      intro b hb
      apply ih b hb (reachable.erase a)
      · intro c hc
        have htrans : TransGen next a c := hb.trans_left hc
        refine Finset.mem_erase.2 ⟨?_, hreachable c htrans.to_reflTransGen⟩
        rintro rfl
        exact hself htrans
      · rw [Finset.card_erase_of_mem ha]
        exact Nat.sub_le_of_le_add hdepth

/-! ## Level paths -/

section Level

variable {height : α → ℕ} (hstep : ∀ a b, next a b → height b ≤ height a)
include hstep

theorem height_le_of_transGen (h : TransGen next a b) : height b ≤ height a := by
  induction h with
  | single hab => exact hstep _ _ hab
  | tail _ hbc ih => exact (hstep _ _ hbc).trans ih

/-- A path that ends as high as it starts never goes down. -/
theorem transGen_level (h : TransGen next a b) (hle : height a ≤ height b) :
    TransGen (fun a b ↦ next a b ∧ height a ≤ height b) a b := by
  induction h with
  | single hab => exact .single ⟨hab, hle⟩
  | tail hab hbc ih =>
    have hlevel := ih (hle.trans (hstep _ _ hbc))
    exact hlevel.tail ⟨hbc, (height_le_of_transGen hstep hab).trans hle⟩

end Level

/-- A path has only steps of the one kind, or a step of the other kind somewhere. -/
theorem transGen_or_exists {first second : α → α → Prop}
    (hsplit : ∀ a b, next a b → first a b ∨ second a b) (h : TransGen next a b) :
    TransGen first a b ∨ ∃ c d, second c d ∧ ReflTransGen next a c ∧ ReflTransGen next d b := by
  induction h with
  | single hab =>
    rcases hsplit _ _ hab with hfirst | hsecond
    · exact .inl (.single hfirst)
    · exact .inr ⟨_, _, hsecond, .refl, .refl⟩
  | tail hab hbc ih =>
    rcases ih with hpath | ⟨c, d, hsecond, hac, hdb⟩
    · rcases hsplit _ _ hbc with hfirst | hsecond
      · exact .inl (hpath.tail hfirst)
      · exact .inr ⟨_, _, hsecond, hab.to_reflTransGen, .refl⟩
    · exact .inr ⟨c, d, hsecond, hac, hdb.tail hbc⟩

end MemoryInspector
