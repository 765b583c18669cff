import MemoryInspector.Yaml.Token

/-!
# YAML documents

The tree of nodes that a text describes. A reference stands for the node that was last given its
anchor, which may be a node around it, so references are kept and followed on demand.
-/

namespace MemoryInspector.Yaml

inductive Node where
  | scalar (tag : Option String) (style : ScalarStyle) (text : String)
  | sequence (items : List Node)
  | mapping (entries : List (Node × Node))
  /-- The node of an anchor, by its number. -/
  | reference (anchor : Nat)

/-- The node where there is none: an empty plain scalar. -/
def Node.empty : Node := .scalar none .plain ""

mutual

/-- The number of marks that a node consists of: one for a scalar or a reference, and the start and
the end of a collection. -/
def Node.markCount : Node → Nat
  | .scalar _ _ _ | .reference _ => 1
  | .sequence items => 2 + markCounts items
  | .mapping entries => 2 + entryMarkCounts entries

def markCounts : List Node → Nat
  | [] => 0
  | first :: rest => first.markCount + markCounts rest

def entryMarkCounts : List (Node × Node) → Nat
  | [] => 0
  | (key, value) :: rest => key.markCount + value.markCount + entryMarkCounts rest

end

structure Document where
  root : Node
  /-- Nodes with anchors, by number; the first one of a number counts. -/
  anchored : List (Nat × Node)
  /-- References may be followed at most this often. -/
  referenceLimit : Nat

/-- What is known while nodes are read. -/
structure ReadState where
  tokens : List Token
  /-- What handles of tags stand for. -/
  handles : List (String × String)
  /-- Numbers of anchors by name, one for each name. -/
  anchors : List (String × Nat) := []
  /-- Numbers of the nodes with anchors, the node that started last first. -/
  started : List Nat := []
  /-- Finished nodes with anchors, by how many had started before. -/
  finished : List (Nat × Node) := []

/-- The nodes with anchors by number, those that started last first. -/
def ReadState.anchored (state : ReadState) : List (Nat × Node) :=
  (state.started.reverse.zipIdx.filterMap fun (number, position) ↦
    (state.finished.lookup position).map (number, ·)).reverse

abbrev NodeReader := StateT ReadState Option

namespace NodeReader

/-- The next token; there is none at the end. -/
def peek : NodeReader (Option Token) := do return (← get).tokens.head?

def skip : NodeReader Unit := modify fun state ↦ { state with tokens := state.tokens.drop 1 }

/-- Skip a token if it is the next one. -/
def accept (token : Token) : NodeReader Bool := do
  if (← peek) = some token then
    skip
    return true
  else return false

/-- Whether one of the tokens, or nothing, comes next. -/
def atOneOf (tokens : List Token) : NodeReader Bool := do
  return (← peek).any tokens.contains

structure Properties where
  anchor : Option String := none
  tag : Option String := none

def readAnchor : NodeReader (Option String) := do
  match ← peek with
  | some (.anchor name) =>
    skip
    return some name
  | _ => return none

/-- Number an anchor by how many names there are, and tell how many nodes with anchors started
before it. A name that returns gets a new number and shares it with what is named next. -/
def start (name : String) : NodeReader Nat := do
  let state ← get
  let number := state.anchors.length
  let others := state.anchors.filter (·.1 != name)
  set { state with anchors := (name, number) :: others, started := number :: state.started }
  return state.started.length

/-- A tag as a whole; its handle has to be known. -/
def readTag : NodeReader (Option String) := do
  match ← peek with
  | some (.tag handle suffix) =>
    skip
    if handle.isEmpty then return some suffix
    else match (← get).handles.lookup handle with
      | some uri => return some (uri ++ suffix)
      | none => failure
  | _ => return none

/-- An anchor and a tag, in either order. -/
def properties : NodeReader Properties := do
  match ← readAnchor with
  | some anchor => return ⟨some anchor, ← readTag⟩
  | none =>
    let tag ← readTag
    return ⟨← if tag.isSome then readAnchor else pure none, tag⟩

def reference (name : String) : NodeReader Node := do
  match (← get).anchors.lookup name with
  | some number => return .reference number
  | none => failure

mutual

/-- A node. In block style it may be a block collection, and where `indentless` holds also a
sequence that is not indented. -/
def node : (limit : Nat) → (block indentless : Bool) → NodeReader Node
  | 0, _, _ => failure
  | limit + 1, block, indentless => do
    match ← peek with
    | some (.reference name) =>
      skip
      reference name
    | _ =>
      let found ← properties
      match found.anchor with
      | none => content limit block indentless found
      | some name =>
        let position ← start name
        let read ← content limit block indentless found
        modify fun state ↦ { state with finished := (position, read) :: state.finished }
        return read

/-- What follows the properties of a node. -/
def content : (limit : Nat) → (block indentless : Bool) → Properties → NodeReader Node
  | 0, _, _, _ => failure
  | limit + 1, block, indentless, found => do
    match ← peek with
    | some (.scalar style text) =>
      skip
      return .scalar (found.tag.filter (· != "!")) style text
    | some .flowSequenceStart =>
      skip
      return .sequence (← flowItems limit true)
    | some .flowMappingStart =>
      skip
      return .mapping (← flowEntries limit true)
    | some .blockEntry =>
      if indentless then return .sequence (← indentlessItems limit) else emptyContent found
    | some .blockSequenceStart =>
      if block then
        skip
        return .sequence (← blockItems limit)
      else emptyContent found
    | some .blockMappingStart =>
      if block then
        skip
        return .mapping (← blockEntries limit)
      else emptyContent found
    | _ => emptyContent found

/-- A node with properties may have no content. -/
def emptyContent (found : Properties) : NodeReader Node :=
  if found.anchor.isSome || found.tag.isSome then return .scalar found.tag .plain "" else failure

/-- A node, unless one of the tokens shows that there is none. -/
def nodeUnless : (limit : Nat) → List Token → (block indentless : Bool) → NodeReader Node
  | 0, _, _, _ => failure
  | limit + 1, tokens, block, indentless => do
    if ← atOneOf tokens then return .empty else node limit block indentless

def blockItems : (limit : Nat) → NodeReader (List Node)
  | 0 => failure
  | limit + 1 => do
    if ← accept .blockEntry then
      let item ← nodeUnless limit [.blockEntry, .blockEnd] true false
      return item :: (← blockItems limit)
    else if ← accept .blockEnd then return []
    else failure

def indentlessItems : (limit : Nat) → NodeReader (List Node)
  | 0 => failure
  | limit + 1 => do
    if ← accept .blockEntry then
      let item ← nodeUnless limit [.blockEntry, .key, .value, .blockEnd] true false
      return item :: (← indentlessItems limit)
    else return []

def blockEntries : (limit : Nat) → NodeReader (List (Node × Node))
  | 0 => failure
  | limit + 1 => do
    if ← accept .key then
      let first ← nodeUnless limit [.key, .value, .blockEnd] true true
      let second ← if ← accept .value then nodeUnless limit [.key, .value, .blockEnd] true true
        else pure .empty
      return (first, second) :: (← blockEntries limit)
    else if ← accept .blockEnd then return []
    else failure

/-- The items of a flow sequence. A key among them starts a mapping with one entry. -/
def flowItems : (limit : Nat) → (first : Bool) → NodeReader (List Node)
  | 0, _ => failure
  | limit + 1, first => do
    if ← accept .flowSequenceEnd then return []
    else
      if !first then
        if !(← accept .flowEntry) then failure
      if ← accept .flowSequenceEnd then return []
      else
        let item ← if ← accept .key then (fun entry ↦ Node.mapping [entry]) <$> flowPair limit
          else node limit false false
        return item :: (← flowItems limit false)

/-- The entry of a mapping in a flow sequence. Where its key is missing, a token is passed over. -/
def flowPair : (limit : Nat) → NodeReader (Node × Node)
  | 0 => failure
  | limit + 1 => do
    let first ← if ← atOneOf [.value, .flowEntry, .flowSequenceEnd] then do
        skip
        pure .empty
      else node limit false false
    let second ← if ← accept .value then
        nodeUnless limit [.flowEntry, .flowSequenceEnd] false false
      else pure .empty
    return (first, second)

def flowEntries : (limit : Nat) → (first : Bool) → NodeReader (List (Node × Node))
  | 0, _ => failure
  | limit + 1, first => do
    if ← accept .flowMappingEnd then return []
    else
      if !first then
        if !(← accept .flowEntry) then failure
      if ← accept .flowMappingEnd then return []
      else if ← accept .key then
        let key ← nodeUnless limit [.value, .flowEntry, .flowMappingEnd] false false
        let value ← if ← accept .value then
            nodeUnless limit [.flowEntry, .flowMappingEnd] false false
          else pure .empty
        return (key, value) :: (← flowEntries limit false)
      else
        let key ← node limit false false
        return (key, .empty) :: (← flowEntries limit false)

end

/-- The handles that need no directive. -/
def defaultHandles : List (String × String) := [("!", "!"), ("!!", "tag:yaml.org,2002:")]

/-- The directives of a document: at most one version, and no handle twice. -/
def directives : (limit : Nat) → (version : Bool) → (handles : List (String × String)) →
    NodeReader (List (String × String))
  | 0, _, _ => failure
  | limit + 1, version, handles => do
    match ← peek with
    | some (.version major minor) =>
      if version || major != 1 || !(minor == 1 || minor == 2) then failure
      skip
      directives limit true handles
    | some (.tagHandle handle uri) =>
      if (handles.lookup handle).isSome then failure
      skip
      directives limit version ((handle, uri) :: handles)
    | _ => return handles

def isDirective : Token → Bool
  | .version _ _ | .tagHandle _ _ => true
  | _ => false

/-- The root of the first document. -/
def root (limit : Nat) : NodeReader Node := do
  if (← peek).any fun token ↦ isDirective token || token == .documentStart then
    let handles ← directives limit false []
    modify fun state ↦ { state with handles := handles ++ state.handles }
    if !(← accept .documentStart) then failure
    match ← peek with
    | none => return .empty
    | some token =>
      if isDirective token || token == .documentStart || token == .documentEnd then return .empty
      else node limit true false
  else node limit true false

end NodeReader

/-- The document of a text, which may be empty and holds no second document. -/
def Document.read? (text : String) : Option Document := do
  let tokens ← Token.scan? text
  if tokens.isEmpty then some ⟨.empty, [], 0⟩
  else
    let limit := 4 * tokens.length + 8
    let (root, state) ← (NodeReader.root limit).run { tokens, handles := NodeReader.defaultHandles }
    if state.tokens.all (· == .documentEnd) then
      some ⟨root, state.anchored, 100 * root.markCount⟩
    else none

end MemoryInspector.Yaml
