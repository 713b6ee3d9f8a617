import FileRouting.Document
import FileRouting.Yaml.Key
import FileRouting.Yaml.Merge
import FileRouting.Yaml.Scalar
import FileRouting.Yaml.SetOrder

/-!
# Documents of streams

The graph of a stream is read as a document. Every node is read once. A collection is a part of the
document that is empty at first; collections are filled in the order in which they were come upon,
so that of two errors the one nearer to the root shows, and a collection may hold itself.
-/

namespace FileRouting.Yaml

open FileRouting.Text

/-- A document while it is read: the nodes as merging has changed them, the values of those that
have been read, the parts, and the collections that were come upon, each with its part. -/
structure Building where
  nodes : Array Node
  values : Array (Option Value)
  parts : Array Value
  collections : Array (Nat × Nat)

/-- A step of reading a document. -/
abbrev Build := StateT Building (Except Error)

namespace Build

/-! ## Scalars -/

/-- The text that a node holds as a scalar; that of a mapping stands under its default key. -/
def scalarText (nodes : Array Node) : (fuel : Nat) → Nat → Except Error RawText
  | 0, _ => .error (.fault .tooDeep)
  | fuel + 1, number =>
    match (Graph.nodeAt nodes number).content with
    | .scalar text => .ok text
    | .sequence _ => .error .malformed
    | .mapping entries =>
      match entries.find? fun entry => (Graph.nodeAt nodes entry.1).tag = .default with
      | some (_, value) => scalarText nodes fuel value
      | none => .error .malformed

def isScalarTag (tag : Tag) : Bool :=
  tag ∈ [Tag.null, .bool, .int, .float, .timestamp, .binary, .text]

/-- The value of a node with the type of a scalar. A moment has to be a scalar itself. -/
def scalar (nodes : Array Node) (number : Nat) : Except Error Value := do
  let node := Graph.nodeAt nodes number
  if !isScalarTag node.tag then throw .malformed
  let text ← scalarText nodes (nodes.size + 1) number
  match node.tag, node.content with
  | .timestamp, .mapping _ => .error (.fault .timestampInMapping)
  | tag, _ => Scalar.value tag text

/-! ## Values -/

/-- Takes a node down as read. -/
def setValue (number : Nat) (value : Value) : Build Unit :=
  modify fun building =>
    { building with values := building.values.setIfInBounds number (some value) }

/-- A new part. -/
def addPart (value : Value) : Build Value := do
  let part := (← get).parts.size
  modify fun building => { building with parts := building.parts.push value }
  pure (.part part)

/-- A collection that is come upon: a part that is to be filled. -/
def openCollection (number : Nat) (empty : Value) : Build Value := do
  let part := (← get).parts.size
  let value ← addPart empty
  setValue number value
  modify fun building => { building with collections := building.collections.push (number, part) }
  pure value

/-- The value of a node. -/
def value (number : Nat) : Build Value := do
  let building ← get
  match building.values[number]? with
  | some (some value) => pure value
  | _ =>
    match (Graph.nodeAt building.nodes number).tag with
    | .sequence | .pairs | .orderedMapping => openCollection number (.list [])
    | .mapping => openCollection number (.mapping [])
    | .set => openCollection number (.set [])
    | _ =>
      let value ← scalar building.nodes number
      setValue number value
      pure value

/-! ## Collections -/

/-- The items of a sequence. -/
def items (number : Nat) : Build (List Nat) := do
  match (Graph.nodeAt (← get).nodes number).content with
  | .sequence items => pure items
  | _ => throw .malformed

/-- A pair from a mapping of one entry. -/
def pair (number : Nat) : Build Value := do
  match (Graph.nodeAt (← get).nodes number).content with
  | .mapping [(key, item)] =>
    let key ← value key
    addPart (.pair key (← value item))
  | _ => throw .malformed

/-- The node that a key comes from, unless its text is a mark that names one thing everywhere. -/
def keySource (nodes : Array Node) (number : Nat) : Option Nat :=
  match scalarText nodes (nodes.size + 1) number with
  | .ok text => if Scalar.marksUndefined text then none else some number
  | .error _ => some number

/-- The entries of a mapping with one more. -/
def addEntry (entries : List KeyedEntry) (entry : Nat × Nat) : Build (List KeyedEntry) := do
  let key ← value entry.1
  match KeyForm.ofValue? (keySource (← get).nodes entry.1) key with
  | none => throw .malformed
  | some form => pure (KeyedEntry.insert ⟨form, key, ← value entry.2⟩ entries)

/-- The entries of a mapping with what its merge keys bring in. -/
def entries (number : Nat) : Build (List KeyedEntry) := do
  match (Graph.nodeAt (← get).nodes number).content with
  | .mapping _ =>
    let ((), nodes) ← (Graph.merge number).run (← get).nodes
    modify fun building => { building with nodes }
    (Graph.entriesOf nodes number).foldlM addEntry []
  | _ => throw .malformed

/-- What a collection holds. -/
def contents (number : Nat) : Build Value := do
  match (Graph.nodeAt (← get).nodes number).tag with
  | .sequence => return .list (← (← items number).mapM value)
  | .pairs | .orderedMapping => return .list (← (← items number).mapM pair)
  | .set => return .set ((setOrder (← entries number)).map KeyedEntry.key)
  | _ => return .mapping ((← entries number).map fun entry => (entry.key, entry.value))

/-- Fills the collections from an index on. -/
def fillFrom : (fuel : Nat) → (index : Nat) → Build Unit
  | 0, _ => pure ()
  | fuel + 1, index => do
    match (← get).collections[index]? with
    | none => pure ()
    | some (number, part) =>
      let value ← contents number
      modify fun building => { building with parts := building.parts.setIfInBounds part value }
      fillFrom fuel (index + 1)

/-- The document of a graph. Every collection is a node. -/
def document (graph : Graph) : Build Document := do
  let root ← value graph.root
  fillFrom graph.nodes.size 0
  return ⟨(← get).parts, root⟩

end Build

def Graph.document (graph : Graph) : Except Error Document :=
  (Build.document graph).run' ⟨graph.nodes, graph.nodes.map fun _ => none, #[], #[]⟩

/-- The only document of a stream, null for a stream without one. -/
def read (stream : Stream) : Except Error Document := do
  match ← Graph.ofTokens? (.ofStream stream) with
  | none => .ok (.ofValue .null)
  | some graph => graph.document

end FileRouting.Yaml
