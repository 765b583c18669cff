import Mathlib.Data.List.FinRange
import MemoryInspector.Hierarchy.Stamp
import MemoryInspector.Proofs.Memory.Image
import MemoryInspector.Text.CEscape

/-!
# Hierarchies in memory

A hierarchy is a finite graph whose nodes have an id, a visit stamp and ordered lists of parents
and children. Its image in memory is a record for each node and an array of addresses for each
list; the bytes of the records that no member of interest occupies may be anything.
-/

namespace MemoryInspector.Hierarchy

open Text

variable {size : Nat}

/-- What is stored of one node among the given number of nodes. -/
structure GraphNode (size : Nat) where
  id : List UInt8
  seconds : Int64
  nanoseconds : Int64
  parents : List (Fin size)
  children : List (Fin size)
  length_id_le : id.length ≤ 10

abbrev Graph (size : Nat) := Fin size → GraphNode size

/-- The addresses of the records and of the slots of both vectors, node by node. -/
structure Placement (size : Nat) where
  node : Fin size → UInt64
  parents : Fin size → UInt64
  children : Fin size → UInt64

/-! ## Images -/

/-- The id in a field of ten bytes, the rest of which is zero. -/
def GraphNode.paddedId (node : GraphNode size) : List UInt8 :=
  node.id ++ List.replicate (10 - node.id.length) 0

/-- The images of a vector with that many slots in use, from the given address on. -/
def VectorImage (length : Nat) (slots : UInt64) (image : List UInt8) : Prop :=
  ∃ before between, before.length = 16 ∧ between.length = 16 ∧
    image = before ++ (wordBytes (UInt64.ofNat length) ++ (between ++ wordBytes slots))

/-- The images of a node whose vectors have their slots at the given addresses. -/
def NodeImage (node : GraphNode size) (parents children : UInt64) (image : List UInt8) : Prop :=
  ∃ padding parentsImage childrenImage, padding.length = 6 ∧
    VectorImage node.parents.length parents parentsImage ∧
    VectorImage node.children.length children childrenImage ∧
    image = node.paddedId ++ (padding ++ (wordBytes node.seconds.toUInt64 ++
      (wordBytes node.nanoseconds.toUInt64 ++ (parentsImage ++ childrenImage))))

namespace Placement

/-- The slots of a list of neighbours. -/
def slots (placement : Placement size) (neighbours : List (Fin size)) : List UInt8 :=
  (neighbours.map placement.node).flatMap wordBytes

end Placement

namespace Graph

/-- The memory holds the records of all nodes and the slots of their vectors. -/
structure LaidOut (graph : Graph size) (placement : Placement size) (memory : Memory) : Prop where
  node : ∀ index, ∃ image, memory.Holds (placement.node index) image ∧
    NodeImage (graph index) (placement.parents index) (placement.children index) image
  parents : ∀ index,
    memory.Holds (placement.parents index) (placement.slots (graph index).parents)
  children : ∀ index,
    memory.Holds (placement.children index) (placement.slots (graph index).children)

/-! ## Texts -/

def idText (graph : Graph size) (index : Fin size) : String := quoteString (graph index).id

/-- The ids of neighbours in their order, a comma after each. -/
def neighboursText (graph : Graph size) (neighbours : List (Fin size)) : String :=
  "\x7b " ++ String.join (neighbours.map fun index ↦ graph.idText index ++ ", ") ++ "\x7d"

def stampText (graph : Graph size) (index : Fin size) : String :=
  signedHex (graph index).seconds.toInt ++ signedHex (graph index).nanoseconds.toInt

/-- What a node is shown as. -/
def nodeText (graph : Graph size) (index : Fin size) : String :=
  "\x7bid: " ++ graph.idText index ++ ", visit_stamp: " ++ graph.stampText index ++ ", parents: " ++
    graph.neighboursText (graph index).parents ++ ", children: " ++
    graph.neighboursText (graph index).children ++ "\x7d"

end Graph

/-! ## Members of an image -/

theorem GraphNode.length_paddedId (node : GraphNode size) : node.paddedId.length = 10 := by
  have hle := node.length_id_le
  rw [paddedId, List.length_append, List.length_replicate]
  omega

theorem beforeNul_append_replicate (bytes : List UInt8) (count : Nat) :
    beforeNul (bytes ++ List.replicate count 0) = beforeNul bytes := by
  induction bytes with
  | nil => cases count <;> rfl
  | cons byte rest ih =>
    simp only [beforeNul, List.cons_append, List.takeWhile_cons] at ih ⊢
    rw [ih]

/-- The padding of an id does not show. -/
theorem GraphNode.quoteString_paddedId (node : GraphNode size) :
    quoteString node.paddedId = quoteString node.id := by
  rw [quoteString, quoteString, paddedId, beforeNul_append_replicate]

variable {memory : Memory} {address slots : UInt64} {image : List UInt8} {length : Nat}

/-- The length and the data pointer of a vector in memory. -/
structure VectorAt (memory : Memory) (address : UInt64) (length : Nat) (slots : UInt64) : Prop where
  length : memory.bytes? (address + 16) 8 = some (wordBytes (UInt64.ofNat length))
  data : memory.bytes? (address + 40) 8 = some (wordBytes slots)

theorem VectorImage.vectorAt (h : VectorImage length slots image)
    (hholds : memory.Holds address image) : VectorAt memory address length slots := by
  obtain ⟨before, between, hbefore, hbetween, rfl⟩ := h
  have hlength := hholds.right hbefore
  have hbetween' := hlength.right (length_wordBytes _)
  have hdata := hbetween'.right hbetween
  refine ⟨hlength.left.bytes?_all (length_wordBytes _) (by decide), ?_⟩
  rw [UInt64.add_assoc, UInt64.add_assoc] at hdata
  exact hdata.bytes?_all (length_wordBytes _) (by decide)

/-- The members of a node in memory. -/
structure NodeAt (memory : Memory) (address : UInt64) (node : GraphNode size)
    (parents children : UInt64) : Prop where
  id : memory.bytes? address 10 = some node.paddedId
  seconds : memory.bytes? (address + 16) 8 = some (wordBytes node.seconds.toUInt64)
  nanoseconds : memory.bytes? (address + 24) 8 = some (wordBytes node.nanoseconds.toUInt64)
  parents : VectorAt memory (address + 32) node.parents.length parents
  children : VectorAt memory (address + 80) node.children.length children

theorem VectorImage.length_eq (h : VectorImage length slots image) : image.length = 48 := by
  obtain ⟨before, between, hbefore, hbetween, rfl⟩ := h
  simp [hbefore, hbetween]

theorem NodeImage.nodeAt {node : GraphNode size} {parents children : UInt64}
    (h : NodeImage node parents children image) (hholds : memory.Holds address image) :
    NodeAt memory address node parents children := by
  obtain ⟨padding, parentsImage, childrenImage, hpadding, hparents, hchildren, rfl⟩ := h
  have hseconds := (hholds.right node.length_paddedId).right hpadding
  have hnanoseconds := hseconds.right (length_wordBytes _)
  have hvectors := hnanoseconds.right (length_wordBytes _)
  have hlast := hvectors.right hparents.length_eq
  rw [UInt64.add_assoc] at hseconds hnanoseconds hvectors hlast
  rw [UInt64.add_assoc] at hnanoseconds hvectors hlast
  rw [UInt64.add_assoc] at hvectors hlast
  rw [UInt64.add_assoc] at hlast
  exact ⟨hholds.left.bytes?_all node.length_paddedId (by decide),
    hseconds.left.bytes?_all (length_wordBytes _) (by decide),
    hnanoseconds.left.bytes?_all (length_wordBytes _) (by decide),
    hparents.vectorAt hvectors.left, hchildren.vectorAt hlast⟩

/-! ## Hierarchies written to a snapshot -/

def vectorBytes (length : Nat) (slots : UInt64) : List UInt8 :=
  List.replicate 16 0 ++ (wordBytes (UInt64.ofNat length) ++ (List.replicate 16 0 ++ wordBytes slots))

theorem vectorImage_vectorBytes (length : Nat) (slots : UInt64) :
    VectorImage length slots (vectorBytes length slots) :=
  ⟨_, _, List.length_replicate, List.length_replicate, rfl⟩

/-- The image of a node with zero bytes between its members. -/
def GraphNode.bytes (node : GraphNode size) (parents children : UInt64) : List UInt8 :=
  node.paddedId ++ (List.replicate 6 0 ++ (wordBytes node.seconds.toUInt64 ++
    (wordBytes node.nanoseconds.toUInt64 ++
      (vectorBytes node.parents.length parents ++ vectorBytes node.children.length children))))

theorem GraphNode.nodeImage_bytes (node : GraphNode size) (parents children : UInt64) :
    NodeImage node parents children (node.bytes parents children) :=
  ⟨_, _, _, List.length_replicate, vectorImage_vectorBytes _ _, vectorImage_vectorBytes _ _, rfl⟩

namespace Graph

/-- The records and slots of all nodes. -/
def chunks (graph : Graph size) (placement : Placement size) : List Chunk :=
  (List.finRange size).flatMap fun index ↦
    [⟨placement.node index,
        (graph index).bytes (placement.parents index) (placement.children index)⟩,
      ⟨placement.parents index, placement.slots (graph index).parents⟩,
      ⟨placement.children index, placement.slots (graph index).children⟩]

/-- A hierarchy whose records and slots do not overlap can be written to a snapshot. -/
theorem laidOut_image {graph : Graph size} {placement : Placement size}
    (h : Chunk.Apart (graph.chunks placement)) :
    graph.LaidOut placement (Chunk.image (graph.chunks placement)).memory where
  node index := by
    refine ⟨_, ?_, (graph index).nodeImage_bytes _ _⟩
    exact h.holds (List.mem_flatMap.2 ⟨index, List.mem_finRange index, List.mem_cons_self⟩)
  parents index :=
    h.holds (List.mem_flatMap.2
      ⟨index, List.mem_finRange index, List.mem_cons_of_mem _ List.mem_cons_self⟩)
  children index :=
    h.holds (List.mem_flatMap.2 ⟨index, List.mem_finRange index,
      List.mem_cons_of_mem _ (List.mem_cons_of_mem _ List.mem_cons_self)⟩)

end Graph

end MemoryInspector.Hierarchy
