import Mathlib.Data.List.Forall2

/-!
# Sequenced outcomes

When a sequence of steps that may fail succeeds, and when it fails.
-/

/-- The elements of a list that each step has a result for. -/
theorem List.mapM_eq_pure {m : Type → Type} [Monad m] [LawfulMonad m] {α β : Type} {step : α → m β}
    {elements : List α} {results : List β}
    (h : List.Forall₂ (fun element result ↦ step element = pure result) elements results) :
    elements.mapM step = pure results := by
  induction h with
  | nil => exact List.mapM_nil
  | cons hstep _ ih => rw [List.mapM_cons, hstep, pure_bind, ih, pure_bind]

/-- Steps that agree on the elements of a list give the same results. -/
theorem List.mapM_congr_of_mem {m : Type → Type} [Monad m] [LawfulMonad m] {α β : Type}
    {step step' : α → m β} {elements : List α} (h : ∀ element ∈ elements, step element = step' element) :
    elements.mapM step = elements.mapM step' := by
  induction elements with
  | nil => rw [List.mapM_nil, List.mapM_nil]
  | cons element rest ih =>
    obtain ⟨hfirst, hrest⟩ := List.forall_mem_cons.1 h
    rw [List.mapM_cons, List.mapM_cons, hfirst, ih hrest]

/-- If each element of a list is related to something, the list is so to a list. -/
theorem List.exists_forall₂ {α β : Type} {related : α → β → Prop} {elements : List α}
    (h : ∀ element ∈ elements, ∃ result, related element result) :
    ∃ results, List.Forall₂ related elements results := by
  induction elements with
  | nil => exact ⟨[], .nil⟩
  | cons element rest ih =>
    obtain ⟨⟨first, hfirst⟩, hrest⟩ := List.forall_mem_cons.1 h
    obtain ⟨others, hothers⟩ := ih hrest
    exact ⟨first :: others, .cons hfirst hothers⟩

namespace Except

variable {ε α β : Type} {x : Except ε α} {f : α → Except ε β}

theorem bind_eq_ok_iff {b : β} : (x >>= f) = .ok b ↔ ∃ a, x = .ok a ∧ f a = .ok b := by
  cases x with
  | error e => simp [bind, Except.bind]
  | ok a => simp [bind, Except.bind]

theorem bind_eq_error_iff {e : ε} :
    (x >>= f) = .error e ↔ x = .error e ∨ ∃ a, x = .ok a ∧ f a = .error e := by
  cases x with
  | error e' => simp [bind, Except.bind]
  | ok a => simp [bind, Except.bind]

theorem map_eq_ok_iff {f : α → β} {b : β} : x.map f = .ok b ↔ ∃ a, x = .ok a ∧ f a = b := by
  cases x with
  | error e => simp [Except.map]
  | ok a => simp [Except.map]

theorem toOption_eq_some_iff {a : α} : x.toOption = some a ↔ x = .ok a := by
  cases x with
  | error e => simp [Except.toOption]
  | ok b => simp [Except.toOption]

theorem map_comp {γ : Type} (g : β → γ) (f : α → β) (x : Except ε α) :
    (x.map f).map g = x.map fun a ↦ g (f a) := by
  cases x <;> rfl

@[simp]
theorem ok_bind (a : α) : ((Except.ok a : Except ε α) >>= f) = f a := rfl

/-- What follows on a step counts only for the result that the step has. -/
theorem bind_congr_of_ok {g : α → Except ε β} (h : ∀ a, x = .ok a → f a = g a) :
    (x >>= f) = (x >>= g) := by
  cases x with
  | error e => rfl
  | ok a => exact h a rfl

theorem mapM_eq_ok_iff {elements : List α} {results : List β} : elements.mapM f = .ok results ↔
    List.Forall₂ (fun element result ↦ f element = .ok result) elements results := by
  refine ⟨fun h ↦ ?_, List.mapM_eq_pure⟩
  induction elements generalizing results with
  | nil =>
    cases h
    exact .nil
  | cons element rest ih =>
    rw [List.mapM_cons] at h
    obtain ⟨first, hfirst, h⟩ := bind_eq_ok_iff.1 h
    obtain ⟨others, hothers, ⟨⟩⟩ := bind_eq_ok_iff.1 h
    exact .cons hfirst (ih hothers)

/-! ## Folds -/

variable {step : β → α → Except ε β} {elements : List α} {start last : β}

theorem foldlM_concat_eq_ok_iff {element : α} :
    (elements ++ [element]).foldlM step start = .ok last ↔
      ∃ middle, elements.foldlM step start = .ok middle ∧ step middle element = .ok last := by
  rw [List.foldlM_append, bind_eq_ok_iff]
  simp only [List.foldlM_cons, List.foldlM_nil, bind_pure]

/-- Steps that all succeed go from one state to the next one. -/
theorem foldlM_eq_ok {next : β → α → β}
    (h : ∀ element ∈ elements, ∀ state, step state element = .ok (next state element)) (state : β) :
    elements.foldlM step state = .ok (elements.foldl next state) := by
  induction elements generalizing state with
  | nil => rfl
  | cons element rest ih =>
    obtain ⟨hfirst, hrest⟩ := List.forall_mem_cons.1 h
    rw [List.foldlM_cons, hfirst, ok_bind, ih hrest, List.foldl_cons]

/-- What each step preserves holds in the end. -/
theorem foldlM_induction (holds : β → Prop) (hstart : holds start)
    (hstep : ∀ state element state', element ∈ elements → holds state →
      step state element = .ok state' → holds state')
    (h : elements.foldlM step start = .ok last) : holds last := by
  induction elements generalizing start with
  | nil =>
    cases h
    exact hstart
  | cons element rest ih =>
    rw [List.foldlM_cons] at h
    obtain ⟨middle, hmiddle, hrest⟩ := bind_eq_ok_iff.1 h
    apply ih (hstep _ _ _ List.mem_cons_self hstart hmiddle) _ hrest
    intro state other state' hother
    exact hstep state other state' (List.mem_cons_of_mem _ hother)

end Except
