import MemoryInspector.Proofs.Expression.Immediate
import MemoryInspector.Proofs.Hierarchy.Enumeration

/-!
# Operations on values without a place

Members, elements, nodes and texts are asked for of values in memory and of words alone. To say so, the
evaluation and the display are written down once more, with a detour before each operation that fails
for want of a place: an arbitrary result for a value that is neither in memory nor a word. Whatever the
detour is, all results are the same, so no such failure is ever met with.
-/

namespace MemoryInspector.Hierarchy

open Expression

/-- Results to take the place of those that operations have on values without a place. -/
structure Detour where
  value : Value → Except InspectError Value
  node : Value → Except InspectError NodeView
  text : Value → Rendering String

namespace Detour

section

variable (detour : Detour) (target : Target)

/-- The result of an operation on a value, or the detour. -/
def guard (value : Value) (usual : Except InspectError Value) : Except InspectError Value :=
  if value.IsPlaced then usual else detour.value value

def field (value : Value) (name : String) : Except InspectError Value :=
  detour.guard value (target.field value name)

def nodeOf (value : Value) : Except InspectError NodeView :=
  if value.IsPlaced then NodeView.ofValue target value else detour.node value

def nativeForm (display : Value → Rendering String) (value : Value) : Rendering String :=
  if value.IsPlaced then MemoryInspector.nativeForm display target value else detour.text value

/-- Evaluation with detours for members, elements, contents and casts. -/
def eval (text : String) : Term → Except InspectError Value
  | .integer value => .ok (.ofBits value (.scalar .uint64))
  | .symbol name =>
    match target.symbol? name with
    | some value => .ok value
    | none => fail text s!"no symbol \"{name}\" in current context"
  | .member record name => do
    let value ← eval text record
    detour.guard value (memberOf target text value name)
  | .arrow pointer name => do
    let value ← eval text pointer
    if value.type.isPointer then
      let record ← target.dereference value
      detour.guard record (memberOf target text record name)
    else fail text s!"'->' applied to non-pointer {value.type.spelling}"
  | .subscript base index => do
    let value ← eval text base
    detour.guard value (elementAt target text value index)
  | .contents operand => do
    let value ← eval text operand
    detour.guard value (contentsOf target text value)
  | .addressOf operand => do Expression.addressOf text (← eval text operand)
  | .cast type operand => do
    let value ← eval text operand
    detour.guard value (castTo target text type value)
  | .unknownType name => .error (.unknownName name)
  | .fault reason => fail text reason
  | .faultAfter term reason => do
    let _ ← eval text term
    fail text reason

def evaluate (text : String) : Except InspectError Value :=
  match Token.scan text.toList with
  | .ok tokens => detour.eval target text (Term.ofTokens target.types tokens)
  | .error reason => .error (.evaluation text reason)

/-! ## Vectors and nodes -/

/-- The word in a member of a vector. -/
def word (vector : VectorView) (name : String) : Except InspectError UInt64 := do
  target.readBits (← detour.field target vector.record name)

def slots (vector : VectorView) (pointee : CType) : Except InspectError (List Value) := do
  let count ← detour.word target vector VectorView.lengthMember
  if count = 0 then .ok []
  else
    let address ← detour.word target vector VectorView.dataMember
    target.readArray address (.pointer pointee) count.toNat

def renderIds (display : Value → Rendering String) (vector : VectorView) (slotType : CType) :
    Rendering String :=
  match slotType.pointee? with
  | none => throw (.unknownName s!"{slotType.spelling}.id")
  | some pointee =>
    match ElementKind.ofType target.types pointee with
    | .recordWithId _ => do
      let slots ← detour.slots target vector pointee
      let ids ← slots.mapM fun slot ↦ do
        let record ← target.dereference slot
        let id ← detour.field target record "id"
        let text ← display id
        pure s!"{text}, "
      pure (String.join ("\x7b " :: ids ++ ["\x7d"]))
    | _ => throw (.unknownName s!"{pointee.spelling}.id")

def stampPart? (stamp : Value) (names : String × String) : Option (Value × Value) :=
  match detour.field target stamp names.1, detour.field target stamp names.2 with
  | .ok first, .ok second => some (first, second)
  | _, _ => none

def stamp (node : NodeView) : Except InspectError Stamp :=
  match NodeView.stampMembers.findSome? fun name ↦ (detour.field target node.record name).toOption with
  | none => .error (.unknownName s!"{nodeType}.visit_stamp")
  | some stamp =>
    match NodeView.stampParts.findSome? (detour.stampPart? target stamp) with
    | none => .error (.unknownName s!"{stamp.type.spelling}.tv_sec")
    | some (first, second) => do
      let seconds ← target.readInteger first
      let nanoseconds ← target.readInteger second
      .ok ⟨seconds, nanoseconds⟩

/-- The vector in a member of a node. -/
def neighbours (node : NodeView) (name : String) : Except InspectError VectorView := do
  VectorView.ofValue target (← detour.field target node.record name)

def render (display : Value → Rendering String) (node : NodeView) : Rendering String :=
  if node.isNull then pure "NULL"
  else do
    let id ← display (← detour.field target node.record "id")
    let stamp ← detour.stamp target node
    let slotType ← target.types.resolve s!"{nodeType} *"
    let parents ← detour.renderIds target display (← detour.neighbours target node "parents") slotType
    let children ← detour.renderIds target display (← detour.neighbours target node "children") slotType
    pure (s!"\x7bid: {id}, visit_stamp: {stamp.text}, parents: {parents}, " ++
      s!"children: {children}\x7d")

/-! ## Display and dumps -/

def nodePrinter : Printer := fun display target value ↦ do
  let node ← detour.nodeOf target value
  detour.render target display node

/-- The printers of the hierarchy, with detours. -/
def printers : Printers := [⟨(· == nodeType), detour.nodePrinter⟩]

def displayWithin : Nat → Value → Rendering String
  | 0, _ => Rendering.outOfDepth
  | depth + 1, value =>
    let display := displayWithin depth
    match detour.printers.find? value.type with
    | some print => print display target value
    | none =>
      match value.type with
      | .pointer pointee =>
        match detour.printers.find? pointee with
        | some print => do
          let pointed ← target.dereference value
          print display target pointed
        | none => detour.nativeForm target display value
      | _ => detour.nativeForm target display value

def display (value : Value) : Rendering String :=
  detour.displayWithin target (target.types.typeCount value.type + pointerDepth) value

def dump (vector : VectorView) (typeName : String) : List String × Rendering Unit :=
  match elementType target.types typeName with
  | .error e => ([], throw e)
  | .ok pointee =>
    match detour.slots target vector pointee with
    | .error e => ([], throw e)
    | .ok slots =>
      let kind := ElementKind.ofType target.types pointee
      dumpSlots (fun slot ↦ do
        let element ← target.dereference slot
        kind.render (detour.display target) target element) slots

end

/-! ## Evaluation is the same -/

variable {detour : Detour} {target : Target} {value : Value}

theorem guard_eq {usual : Except InspectError Value} (h : value.IsPlaced) :
    detour.guard value usual = usual := if_pos h

theorem field_eq (h : value.IsPlaced) (name : String) :
    detour.field target value name = target.field value name := if_pos h

theorem isPlaced_of_eval {text : String} {term : Term} (h : term.eval target text = .ok value) :
    value.IsPlaced :=
  ((Term.eval_eq_ok_iff text term).1 h).isPlaced

theorem eval_eq (text : String) (term : Term) :
    detour.eval target text term = term.eval target text := by
  induction term with
  | integer | symbol | unknownType | fault => rfl
  | member record name ih | subscript record name ih | contents record ih | cast name record ih =>
    rw [eval, Term.eval, ih]
    apply Except.bind_congr_of_ok
    intro value hvalue
    exact guard_eq (isPlaced_of_eval hvalue)
  | arrow pointer name ih =>
    rw [eval, Term.eval, ih]
    apply Except.bind_congr_of_ok
    intro value hvalue
    rw [arrowMember]
    split
    · apply Except.bind_congr_of_ok
      intro record hrecord
      exact guard_eq (Target.isPlaced_of_dereference hrecord)
    · rfl
  | addressOf operand ih => rw [eval, Term.eval, ih]
  | faultAfter term reason ih => rw [eval, Term.eval, ih]

theorem evaluate_eq (text : String) : detour.evaluate target text = target.evaluate text := by
  rw [evaluate, Target.evaluate]
  cases Token.scan text.toList with
  | ok tokens => exact eval_eq text _
  | error reason => rfl

/-! ## Vectors and nodes are the same -/

variable {display display' : Value → Rendering String}

/-- The displays agree on values in memory and on words. -/
def AgreeOnPlaced (display display' : Value → Rendering String) : Prop :=
  ∀ value : Value, value.IsPlaced → display value = display' value

/-- A vector is the value itself or what it points to. -/
theorem record_of_vector {vector : VectorView} (h : VectorView.ofValue target value = .ok vector) :
    target.dereference value = .ok vector.record ∨ value = vector.record := by
  unfold VectorView.ofValue at h
  split at h
  -- What is checked of the record is the same behind a pointer.
  all_goals
    obtain ⟨found, hfound, h⟩ := Except.bind_eq_ok_iff.1 h
    beta_reduce at h
    split at h
    on_goal 2 => cases h
    obtain ⟨layout, -, h⟩ := Except.bind_eq_ok_iff.1 h
    split at h
    · cases h
    cases h
  · exact .inl hfound
  · exact .inr (Except.ok.inj hfound)

theorem isPlaced_of_vector {vector : VectorView} (hvalue : value.IsPlaced)
    (h : VectorView.ofValue target value = .ok vector) : vector.record.IsPlaced := by
  rcases record_of_vector h with hrecord | rfl
  · exact Target.isPlaced_of_dereference hrecord
  · exact hvalue

theorem isPlaced_of_node {node : NodeView} (h : NodeView.ofValue target value = .ok node) :
    node.record.IsPlaced := by
  unfold NodeView.ofValue at h
  split at h
  all_goals
    obtain ⟨found, -, h⟩ := Except.bind_eq_ok_iff.1 h
    beta_reduce at h
    split at h
    on_goal 2 => cases h
    split at h
    on_goal 2 => cases h
    next hplace =>
      cases h
      exact .inl hplace

theorem slots_eq {vector : VectorView} (h : vector.record.IsPlaced) (pointee : CType) :
    detour.slots target vector pointee = vector.slots target pointee := by
  have hlength : detour.word target vector VectorView.lengthMember = vector.length target := by
    rw [word, field_eq h, VectorView.length]
  have hdata : detour.word target vector VectorView.dataMember = vector.data target := by
    rw [word, field_eq h, VectorView.data]
  rw [slots, VectorView.slots, hlength, hdata]

theorem renderIds_eq {vector : VectorView} (h : vector.record.IsPlaced)
    (hdisplay : AgreeOnPlaced display display') (slotType : CType) :
    detour.renderIds target display vector slotType =
      Hierarchy.renderIds display' target vector slotType := by
  rw [renderIds, Hierarchy.renderIds]
  cases slotType.pointee? with
  | none => rfl
  | some pointee =>
    dsimp only
    cases ElementKind.ofType target.types pointee with
    | recordWithId =>
      dsimp only
      rw [slots_eq h]
      apply bind_congr
      intro slots
      congr 1
      apply List.mapM_congr_of_mem
      intro slot _
      apply Rendering.liftM_bind_congr
      intro record hrecord
      rw [field_eq (Target.isPlaced_of_dereference hrecord)]
      apply Rendering.liftM_bind_congr
      intro id hid
      rw [hdisplay id (Target.isPlaced_of_field hid)]
    | scalar | native => rfl

theorem stampPart?_eq {stamp : Value} (h : stamp.IsPlaced) :
    detour.stampPart? target stamp = NodeView.stampPart? target stamp := by
  funext names
  rw [stampPart?, field_eq h, field_eq h]
  rfl

theorem stamp_eq {node : NodeView} (h : node.record.IsPlaced) :
    detour.stamp target node = node.stamp target := by
  have hmember : (fun name ↦ (detour.field target node.record name).toOption) =
      fun name ↦ (target.field node.record name).toOption :=
    funext fun name ↦ congrArg _ (field_eq h name)
  rw [stamp, NodeView.stamp, hmember]
  cases hstamp : NodeView.stampMembers.findSome? fun name ↦
      (target.field node.record name).toOption with
  | none => rfl
  | some stamp =>
    obtain ⟨name, -, hname⟩ := List.exists_of_findSome?_eq_some hstamp
    have hplaced := Target.isPlaced_of_field (Except.toOption_eq_some_iff.1 hname)
    have hpart : detour.stampPart? target stamp = NodeView.stampPart? target stamp :=
      stampPart?_eq hplaced
    cases hparts : NodeView.stampParts.findSome? (NodeView.stampPart? target stamp) with
    | none => simp only [hpart, hparts]
    | some parts => simp only [hpart, hparts]

theorem neighbours_eq {node : NodeView} (h : node.record.IsPlaced) (name : String) :
    detour.neighbours target node name =
      (do VectorView.ofValue target (← target.field node.record name)) := by
  rw [neighbours, field_eq h]

theorem isPlaced_of_neighbours {node : NodeView} {vector : VectorView} {name : String}
    (h : (do VectorView.ofValue target (← target.field node.record name)) = .ok vector) :
    vector.record.IsPlaced := by
  obtain ⟨member, hmember, hvector⟩ := Except.bind_eq_ok_iff.1 h
  exact isPlaced_of_vector (Target.isPlaced_of_field hmember) hvector

theorem render_eq {node : NodeView} (h : node.record.IsPlaced)
    (hdisplay : AgreeOnPlaced display display') :
    detour.render target display node = node.render display' target := by
  rw [render, NodeView.render, field_eq h, neighbours_eq h, neighbours_eq h, stamp_eq h]
  split
  · rfl
  · apply Rendering.liftM_bind_congr
    intro id hid
    rw [hdisplay id (Target.isPlaced_of_field hid)]
    apply bind_congr
    intro idText
    apply bind_congr
    intro stamp
    apply bind_congr
    intro slotType
    apply Rendering.liftM_bind_congr
    intro parents hparents
    rw [renderIds_eq (isPlaced_of_neighbours hparents) hdisplay]
    apply bind_congr
    intro parentsText
    apply Rendering.liftM_bind_congr
    intro children hchildren
    rw [renderIds_eq (isPlaced_of_neighbours hchildren) hdisplay]

/-! ## Display is the same -/

theorem nodePrinter_eq (h : value.IsPlaced) (hdisplay : AgreeOnPlaced display display') :
    detour.nodePrinter display target value = Hierarchy.nodePrinter display' target value := by
  have hnode : detour.nodeOf target value = NodeView.ofValue target value := if_pos h
  rw [nodePrinter, Hierarchy.nodePrinter, hnode]
  apply Rendering.liftM_bind_congr
  intro node hnode
  exact render_eq (isPlaced_of_node hnode) hdisplay

theorem nativeForm_eq (detour : Detour) (target : Target) (h : value.IsPlaced)
    (hdisplay : AgreeOnPlaced display display') :
    detour.nativeForm target display value = MemoryInspector.nativeForm display' target value := by
  rw [nativeForm, if_pos h]
  unfold MemoryInspector.nativeForm
  split
  · rfl
  · rfl
  · rfl
  · rfl
  · apply bind_congr
    intro size
    split
    · rfl
    · apply Rendering.liftM_bind_congr
      intro elements helements
      congr 1
      apply List.mapM_congr_of_mem
      intro element helement
      rw [hdisplay element (Target.isPlaced_of_mem_readArray helements element helement)]
  · apply bind_congr
    intro layout
    congr 1
    apply List.mapM_congr_of_mem
    intro field _
    split
    · next member hmember => rw [hdisplay member (Target.isPlaced_of_field hmember)]
    · rfl

theorem find?_printers (type : CType) :
    detour.printers.find? type = if type = .record nodeType then some detour.nodePrinter else none :=
  find?_nodeType detour.nodePrinter type

theorem displayWithin_eq (depth : Nat) : AgreeOnPlaced (detour.displayWithin target depth)
    (MemoryInspector.displayWithin Hierarchy.printers target depth) := by
  induction depth with
  | zero => exact fun _ _ ↦ rfl
  | succ depth ih =>
    intro value hvalue
    have hnative := nativeForm_eq detour target hvalue ih
    rw [displayWithin, MemoryInspector.displayWithin, find?_printers, Hierarchy.find?_printers]
    by_cases hnode : value.type = .record nodeType
    · rw [if_pos hnode, if_pos hnode]
      exact nodePrinter_eq hvalue ih
    · rw [if_neg hnode, if_neg hnode]
      dsimp only
      cases htype : value.type with
      | pointer pointee =>
        dsimp only
        rw [find?_printers, Hierarchy.find?_printers]
        by_cases hpointee : pointee = .record nodeType
        · rw [if_pos hpointee, if_pos hpointee]
          apply Rendering.liftM_bind_congr
          intro pointed hpointed
          exact nodePrinter_eq (Target.isPlaced_of_dereference hpointed) ih
        · rw [if_neg hpointee, if_neg hpointee]
          exact hnative
      | void | scalar | array | record => exact hnative

theorem display_eq (detour : Detour) (target : Target) : AgreeOnPlaced (detour.display target)
    (MemoryInspector.display Hierarchy.printers target) := by
  intro value hvalue
  rw [display, MemoryInspector.display]
  exact displayWithin_eq _ value hvalue

/-- To show an element takes no display but its own. -/
theorem element_congr {element : Value} (kind : ElementKind) (h : display element = display' element) :
    kind.render display target element = kind.render display' target element := by
  cases kind with
  | scalar => rfl
  | recordWithId | native => exact h

theorem dump_eq {vector : VectorView} (h : vector.record.IsPlaced) (typeName : String) :
    detour.dump target vector typeName = Hierarchy.dump Hierarchy.printers target vector typeName := by
  rw [dump, Hierarchy.dump]
  cases elementType target.types typeName with
  | error e => rfl
  | ok pointee =>
    dsimp only
    rw [slots_eq h]
    cases vector.slots target pointee with
    | error e => rfl
    | ok slots =>
      apply dumpSlots_congr
      intro slot _
      apply Rendering.liftM_bind_congr
      intro element helement
      exact element_congr _ (display_eq detour target element (Target.isPlaced_of_dereference helement))

end Detour

end MemoryInspector.Hierarchy
