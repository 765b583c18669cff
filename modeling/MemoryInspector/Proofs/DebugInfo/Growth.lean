import MemoryInspector.Proofs.DebugInfo.Collection
import MemoryInspector.Proofs.DebugInfo.Declaration

/-!
# Registries that grow

Declarations are added to a registry one after another, and none of them takes the place of another
one. If declarations of the same name are the same, it does not matter in which order they come.
-/

namespace MemoryInspector

/-- What a declaration is of: a record, or a name of a type. -/
inductive DeclaredName where
  | record (name : String)
  | type (name : String)
deriving DecidableEq

namespace Declaration

def declaredName : Declaration → DeclaredName
  | record layout => .record layout.name
  | .name declared _ => .type declared

@[simp]
theorem declaredName_record (layout : RecordLayout) :
    (record layout).declaredName = .record layout.name := rfl

@[simp]
theorem declaredName_name (declared : String) (type : CType) :
    (Declaration.name declared type).declaredName = .type declared := rfl

end Declaration

namespace Registry

variable {types types' types'' : Registry} {key : DeclaredName} {declaration : Declaration}
  {declared declared' : Declaration → Prop}

/-- What the registry has under a name. -/
def find? (types : Registry) : DeclaredName → Option Declaration
  | .record name => (types.record? name).map .record
  | .type name => (types.definition? name).map (.name name)

theorem find?_record_eq_some_iff {name : String} {layout : RecordLayout} :
    types.find? (.record name) = some (.record layout) ↔ types.record? name = some layout := by
  simp [find?, Option.map_eq_some_iff]

@[simp]
theorem find?_empty : empty.find? key = none := by
  cases key <;> rfl

/-- A declaration counts for its own name alone, and only if there is none of that name. -/
theorem find?_declare (declaration? : Option Declaration) :
    (types.declare declaration?).find? key =
      (types.find? key).or (declaration?.filter (·.declaredName = key)) := by
  cases key with
  | record name =>
    rw [find?, record?_declare, find?, Option.map_or]
    congr 1
    cases declaration? with
    | none => rfl
    | some declaration =>
      cases declaration with
      | record layout =>
        by_cases hname : layout.name = name <;> simp [Declaration.layout?, Option.filter_some, hname]
      | name => simp [Declaration.layout?, Option.filter_some]
  | type name =>
    rw [find?, definition?_declare, find?, Option.map_or]
    congr 1
    cases declaration? with
    | none => rfl
    | some declaration =>
      cases declaration with
      | record layout => simp [Declaration.type?, Option.filter_some]
      | name declared type =>
        by_cases hname : declared = name <;> simp [Declaration.type?, Option.filter_some, hname]

theorem SameEntries.of_find? (h : ∀ key, types.find? key = types'.find? key) :
    types.SameEntries types' := by
  apply SameEntries.of_lookups
  · intro name
    have hname := h (.record name)
    exact Option.map_injective (fun _ _ ↦ Declaration.record.inj) hname
  · intro name
    have hname := h (.type name)
    exact Option.map_injective (fun _ _ heq ↦ (Declaration.name.inj heq).2) hname

/-! ## Growth -/

/-- Nothing that was there has changed. -/
def Keeps (other types : Registry) : Prop :=
  ∀ key declaration, types.find? key = some declaration → other.find? key = some declaration

theorem Keeps.refl (types : Registry) : types.Keeps types := fun _ _ ↦ id

theorem Keeps.trans (h : types''.Keeps types') (h' : types'.Keeps types) : types''.Keeps types :=
  fun key declaration hfound ↦ h key declaration (h' key declaration hfound)

theorem keeps_declare (types : Registry) (declaration? : Option Declaration) :
    (types.declare declaration?).Keeps types := by
  intro key declaration hfound
  rw [find?_declare, hfound, Option.some_or]

/-- A name that is taken in the one registry is taken in the other one. -/
def TakenIn (start types : Registry) : Prop :=
  ∀ key, (start.find? key).isSome → (types.find? key).isSome

theorem TakenIn.declare {start : Registry} (h : start.TakenIn types)
    (declaration? : Option Declaration) :
    (start.declare declaration?).TakenIn (types.declare declaration?) := by
  intro key
  simp only [find?_declare, Option.isSome_or, Bool.or_eq_true]
  exact Or.imp_left (h key)

theorem isSome_find?_declare (types : Registry) (declaration : Declaration) :
    ((types.declare (some declaration)).find? declaration.declaredName).isSome := by
  rw [find?_declare]
  simp

/-- Nothing that was there has changed, only such declarations were added, and each of them has come
to something of its name. -/
structure GrownBy (declared : Declaration → Prop) (types types' : Registry) : Prop where
  keeps : types'.Keeps types
  declared_of_find? : ∀ key declaration, types'.find? key = some declaration →
    types.find? key = some declaration ∨ declaration.declaredName = key ∧ declared declaration
  isSome_find? : ∀ declaration, declared declaration → (types'.find? declaration.declaredName).isSome

namespace GrownBy

theorem trans (h : GrownBy declared types types') (h' : GrownBy declared' types' types'') :
    GrownBy (fun declaration ↦ declared declaration ∨ declared' declaration) types types'' where
  keeps := h'.keeps.trans h.keeps
  declared_of_find? key declaration hfound := by
    rcases h'.declared_of_find? key declaration hfound with hfound | ⟨hname, hdeclared⟩
    · rcases h.declared_of_find? key declaration hfound with hfound | ⟨hname, hdeclared⟩
      · exact .inl hfound
      · exact .inr ⟨hname, .inl hdeclared⟩
    · exact .inr ⟨hname, .inr hdeclared⟩
  isSome_find? declaration hdeclared := by
    rcases hdeclared with hdeclared | hdeclared
    · obtain ⟨found, hfound⟩ := Option.isSome_iff_exists.1 (h.isSome_find? declaration hdeclared)
      rw [h'.keeps _ _ hfound]
      rfl
    · exact h'.isSome_find? declaration hdeclared

theorem congr (h : GrownBy declared types types')
    (hiff : ∀ declaration, declared declaration ↔ declared' declaration) :
    GrownBy declared' types types' := by
  have heq : declared = declared' := funext fun declaration ↦ propext (hiff declaration)
  exact heq ▸ h

/-- Nothing is added where all names are taken. -/
theorem of_isSome (h : ∀ declaration, declared declaration →
    (types.find? declaration.declaredName).isSome) : GrownBy declared types types :=
  ⟨.refl types, fun _ _ ↦ .inl, h⟩

/-- One declaration is added, or nothing where the name is taken. -/
theorem declare {declaration? : Option Declaration}
    (hdeclared : ∀ declaration ∈ declaration?, declared declaration)
    (hname : ∀ declaration, declared declaration →
      ((types.declare declaration?).find? declaration.declaredName).isSome) :
    GrownBy declared types (types.declare declaration?) where
  keeps := keeps_declare types declaration?
  declared_of_find? key declaration hfound := by
    rw [find?_declare, Option.or_eq_some_iff] at hfound
    rcases hfound with hfound | ⟨-, hfound⟩
    · exact .inl hfound
    · obtain ⟨hmem, hkey⟩ := Option.filter_eq_some_iff.1 hfound
      exact .inr ⟨of_decide_eq_true hkey, hdeclared declaration hmem⟩
  isSome_find? := hname

section Unique

variable (hunique : ∀ first second, declared first → declared second →
  first.declaredName = second.declaredName → first = second)
include hunique

/-- If declarations of the same name are the same, the registry has all of them, and nothing else. -/
theorem find?_eq_some_iff (h : GrownBy declared .empty types) :
    types.find? key = some declaration ↔ declaration.declaredName = key ∧ declared declaration := by
  have hfound : ∀ key declaration, types.find? key = some declaration →
      declaration.declaredName = key ∧ declared declaration := by
    intro key declaration hfound
    rcases h.declared_of_find? key declaration hfound with hempty | hdeclared
    · rw [find?_empty] at hempty
      cases hempty
    · exact hdeclared
  constructor
  · exact hfound key declaration
  · rintro ⟨rfl, hdeclared⟩
    obtain ⟨other, hother⟩ := Option.isSome_iff_exists.1 (h.isSome_find? declaration hdeclared)
    obtain ⟨hname, hdeclared'⟩ := hfound _ _ hother
    rw [hother, hunique other declaration hdeclared' hdeclared hname]

/-- If declarations of the same name are the same, they make up one registry. -/
theorem sameEntries (h : GrownBy declared .empty types) (h' : GrownBy declared .empty types') :
    types.SameEntries types' := by
  apply SameEntries.of_find?
  intro key
  apply Option.ext
  intro declaration
  rw [h.find?_eq_some_iff hunique, h'.find?_eq_some_iff hunique]

end Unique

end GrownBy

end Registry

end MemoryInspector
