import FileRouting.Yaml.Lexer
import FileRouting.Yaml.Tag

/-!
# Graphs of nodes

The tokens of a stream are read into nodes, each with its type. Nodes refer to one another by their
numbers: an alias stands for the node that was given its name before, which may be a node around it.
Tokens are asked for one by one, so an error behind them shows only if it is reached.
-/

namespace FileRouting.Yaml

open FileRouting.Text

/-- What a node holds; other nodes by their numbers. -/
inductive Content
  | scalar (text : RawText)
  | sequence (items : List Nat)
  | mapping (entries : List (Nat × Nat))

/-- A node with its type. -/
structure Node where
  tag : Tag
  content : Content

/-- A scalar that is not written. -/
def Node.absent : Node := ⟨.null, .scalar []⟩

/-- Nodes by their numbers, and the number of the one around all others. -/
structure Graph where
  nodes : Array Node
  root : Nat

/-! ## Reading -/

/-- The tokens and nodes of a stream while it is read: the tokens that are left with what lies
behind them, the nodes so far, and those that were given names. -/
structure Reading where
  tokens : Tokens
  nodes : Array Node
  anchors : List (String × Nat)

/-- A step of reading. -/
abbrev Read := StateT Reading (Except Error)

namespace Read

/-- The next token, none at the end of the stream. -/
def peek : Read (Option Token) := do
  let tokens := (← get).tokens
  match tokens.tokens, tokens.behind with
  | token :: _, _ => pure (some token)
  | [], none => pure none
  | [], some error => throw error

/-- Passes over the next token. -/
def skip : Read Unit :=
  modify fun reading =>
    { reading with tokens := { reading.tokens with tokens := reading.tokens.tokens.tail } }

/-- Passes over the next token if it is a certain one. -/
def accept (token : Token) : Read Bool := do
  if (← peek) = some token then
    skip
    pure true
  else pure false

/-- Whether the next token is one of some. -/
def atOneOf (tokens : List Token) : Read Bool := do
  match ← peek with
  | some token => pure (tokens.contains token)
  | none => pure false

def add (node : Node) : Read Nat := do
  let number := (← get).nodes.size
  modify fun reading => { reading with nodes := reading.nodes.push node }
  pure number

def fill (number : Nat) (node : Node) : Read Unit :=
  modify fun reading => { reading with nodes := reading.nodes.setIfInBounds number node }

/-- Adds a node under a name, if it has one. No name is given twice. -/
def addNamed (name : Option String) (node : Node) : Read Nat := do
  match name with
  | none => add node
  | some name =>
    if ((← get).anchors.lookup name).isSome then throw .malformed
    let number ← add node
    modify fun reading => { reading with anchors := (name, number) :: reading.anchors }
    pure number

/-- The node with a name. -/
def named (name : String) : Read Nat := do
  match (← get).anchors.lookup name with
  | some number => pure number
  | none => throw .malformed

/-! ## Properties -/

/-- The tags that handles of a document stand for. -/
abbrev Handles := List (String × String)

def defaultHandles : Handles :=
  [("!", "!"), ("!!", Tag.standardHead)]

/-- A node as far as its first tokens tell: its name and its tag. -/
structure Properties where
  anchor : Option String
  tag : Option String

/-- The tag that is written with a handle, which must be known. -/
def wholeTag (handles : Handles) (name : TagName) : Read String :=
  match name.handle with
  | none => pure name.suffix
  | some handle =>
    match handles.lookup handle with
    | some head => pure (head ++ name.suffix)
    | none => throw .malformed

/-- The name at this place, if there is one. -/
def anchor? : Read (Option String) := do
  match ← peek with
  | some (.anchor name) =>
    skip
    pure (some name)
  | _ => pure none

/-- The tag at this place, if there is one. -/
def tag? : Read (Option TagName) := do
  match ← peek with
  | some (.tag name) =>
    skip
    pure (some name)
  | _ => pure none

/-- The name and the tag of a node, in either order. -/
def properties (handles : Handles) : Read Properties := do
  let first ← anchor?
  let tag ← tag?
  let anchor ← if first.isNone ∧ tag.isSome then anchor? else pure first
  match tag with
  | none => pure ⟨anchor, none⟩
  | some name => pure ⟨anchor, some (← wholeTag handles name)⟩

namespace Properties

/-- Whether the type is left to the content. -/
def isOpen (p : Properties) : Bool :=
  p.tag = none ∨ p.tag = some "!"

/-- The type of a collection. -/
def collectionTag (p : Properties) (usual : Tag) : Tag :=
  if p.isOpen then usual else ((p.tag.map Tag.ofText).getD usual)

/-- The type of a scalar. A quoted one without a tag is a text. -/
def scalarTag (p : Properties) (text : RawText) (plain : Bool) : Tag :=
  match p.tag with
  | none => if plain then Tag.ofPlain text else .text
  | some "!" => Tag.ofPlain text
  | some tag => .ofText tag

end Properties

/-- Adds a scalar. -/
def addScalar (p : Properties) (text : RawText) (plain : Bool) : Read Nat :=
  addNamed p.anchor ⟨p.scalarTag text plain, .scalar text⟩

/-- A node that has a name or a tag and nothing else. -/
def addBare (p : Properties) : Read Nat :=
  if p.anchor.isSome ∨ p.tag.isSome then addScalar p [] true else throw .malformed

/-- Adds a sequence, whose items may refer to it. -/
def addSequence (p : Properties) (items : Read (List Nat)) : Read Nat := do
  let tag := p.collectionTag .sequence
  let number ← addNamed p.anchor ⟨tag, .sequence []⟩
  fill number ⟨tag, .sequence (← items)⟩
  pure number

/-- Adds a mapping, whose entries may refer to it. -/
def addMapping (p : Properties) (entries : Read (List (Nat × Nat))) : Read Nat := do
  let tag := p.collectionTag .mapping
  let number ← addNamed p.anchor ⟨tag, .mapping []⟩
  fill number ⟨tag, .mapping (← entries)⟩
  pure number

/-! ## Nodes -/

/-- Where a node stands: in a flow collection, in a block, or as a key or value of a block mapping,
where a sequence need not be indented. -/
inductive Place
  | flow
  | block
  | blockValue
deriving DecidableEq

/-- How deep nodes may be nested. -/
def maxDepth : Nat := 490

mutual

def node (handles : Handles) : (fuel depth : Nat) → Place → Read Nat
  | 0, _, _ => throw .malformed
  | fuel + 1, depth, place => do
    if let some (.alias name) ← peek then
      skip
      named name
    else
      let p ← properties handles
      let next ← peek
      if depth ≥ maxDepth ∧ next ≠ none then throw (.fault .tooDeep)
      match next, place with
      | some (.scalar text plain), _ =>
        skip
        addScalar p text plain
      | some .flowSequenceStart, _ =>
        skip
        addSequence p (flowItems handles fuel (depth + 1) true)
      | some .flowMappingStart, _ =>
        skip
        addMapping p (flowEntries handles fuel (depth + 1) true)
      | some .entry, .blockValue => addSequence p (openItems handles fuel (depth + 1))
      | some .blockSequenceStart, .block | some .blockSequenceStart, .blockValue =>
        skip
        addSequence p (blockItems handles fuel (depth + 1))
      | some .blockMappingStart, .block | some .blockMappingStart, .blockValue =>
        skip
        addMapping p (blockEntries handles fuel (depth + 1))
      | _, _ => addBare p

/-- The node of an entry, absent if the entry ends at once. -/
def entryNode (handles : Handles) : (fuel depth : Nat) → Place → (ends : List Token) → Read Nat
  | 0, _, _, _ => throw .malformed
  | fuel + 1, depth, place, ends => do
    if ← atOneOf ends then add .absent else node handles fuel depth place

/-- The node behind the colon of an entry, absent without a colon. -/
def valueNode (handles : Handles) : (fuel depth : Nat) → Place → (ends : List Token) → Read Nat
  | 0, _, _, _ => throw .malformed
  | fuel + 1, depth, place, ends => do
    if ← accept .value then entryNode handles fuel depth place ends else add .absent

/-- The items of a block sequence up to its end. -/
def blockItems (handles : Handles) : (fuel depth : Nat) → Read (List Nat)
  | 0, _ => throw .malformed
  | fuel + 1, depth => do
    if ← accept .entry then
      let item ← entryNode handles fuel depth .block [.entry, .blockEnd]
      pure (item :: (← blockItems handles fuel depth))
    else if ← accept .blockEnd then pure []
    else throw .malformed

/-- The items of a sequence that is not indented. -/
def openItems (handles : Handles) : (fuel depth : Nat) → Read (List Nat)
  | 0, _ => throw .malformed
  | fuel + 1, depth => do
    if ← accept .entry then
      let item ← entryNode handles fuel depth .block [.entry, .key, .value, .blockEnd]
      pure (item :: (← openItems handles fuel depth))
    else pure []

/-- The entries of a block mapping up to its end. -/
def blockEntries (handles : Handles) : (fuel depth : Nat) → Read (List (Nat × Nat))
  | 0, _ => throw .malformed
  | fuel + 1, depth => do
    let ends := [Token.key, .value, .blockEnd]
    if ← accept .key then
      let key ← entryNode handles fuel depth .blockValue ends
      let value ← valueNode handles fuel depth .blockValue ends
      pure ((key, value) :: (← blockEntries handles fuel depth))
    else if ← accept .blockEnd then pure []
    else throw .malformed

/-- The items of a flow sequence up to its end, with a comma before each but the first. -/
def flowItems (handles : Handles) : (fuel depth : Nat) → (first : Bool) → Read (List Nat)
  | 0, _, _ => throw .malformed
  | fuel + 1, depth, first => do
    if ← accept .flowSequenceEnd then pure []
    else
      if !first then
        if !(← accept .flowEntry) then throw .malformed
      if ← accept .flowSequenceEnd then pure []
      else
        let item ← flowItem handles fuel depth
        pure (item :: (← flowItems handles fuel depth false))

/-- An item of a flow sequence. A key among them is a mapping of one entry. -/
def flowItem (handles : Handles) : (fuel depth : Nat) → Read Nat
  | 0, _ => throw .malformed
  | fuel + 1, depth => do
    if (← peek) = some .key then
      if depth ≥ maxDepth then throw (.fault .tooDeep)
      addMapping ⟨none, none⟩ do
        skip
        let key ←
          entryNode handles fuel (depth + 1) .flow [.value, .flowEntry, .flowSequenceEnd]
        let value ← valueNode handles fuel (depth + 1) .flow [.flowEntry, .flowSequenceEnd]
        pure [(key, value)]
    else node handles fuel depth .flow

/-- The entries of a flow mapping up to its end, with a comma before each but the first. -/
def flowEntries (handles : Handles) :
    (fuel depth : Nat) → (first : Bool) → Read (List (Nat × Nat))
  | 0, _, _ => throw .malformed
  | fuel + 1, depth, first => do
    if ← accept .flowMappingEnd then pure []
    else
      if !first then
        if !(← accept .flowEntry) then throw .malformed
      if ← accept .flowMappingEnd then pure []
      else
        let entry ← flowEntry handles fuel depth
        pure (entry :: (← flowEntries handles fuel depth false))

/-- An entry of a flow mapping. A node without a mark is a key without value. -/
def flowEntry (handles : Handles) : (fuel depth : Nat) → Read (Nat × Nat)
  | 0, _ => throw .malformed
  | fuel + 1, depth => do
    if ← accept .key then
      let key ← entryNode handles fuel depth .flow [.value, .flowEntry, .flowMappingEnd]
      let value ← valueNode handles fuel depth .flow [.flowEntry, .flowMappingEnd]
      pure (key, value)
    else
      let key ← node handles fuel depth .flow
      let _ ← peek
      pure (key, ← add .absent)

end

/-! ## Documents -/

/-- The handles that the directives at the start of a document declare. A handle is declared once,
and so is the version, which must be 1. -/
def directives : (fuel : Nat) → (version : Bool) → Handles → Read Handles
  | 0, _, handles => pure handles
  | fuel + 1, version, handles => do
    match ← peek with
    | some (.directive directive) =>
      skip
      match directive with
      | .version major _ =>
        if version ∨ major ≠ 1 then throw .malformed else directives fuel true handles
      | .tag handle head =>
        if (handles.lookup handle).isSome then throw .malformed
        else directives fuel version ((handle, head) :: handles)
      | .unknown => directives fuel version handles
    | _ => pure handles

/-- The handles of a document that starts with directives and a mark. -/
def documentStart (fuel : Nat) : Read Handles := do
  let handles ← directives fuel false []
  if ← accept .documentStart then pure (handles ++ defaultHandles) else throw .malformed

/-- What stands behind a mark for the start of a document. -/
def documentNode (fuel : Nat) (handles : Handles) : Read Nat := do
  match ← peek with
  | none | some .documentStart | some .documentEnd | some (.directive _) => add .absent
  | some _ => node handles fuel 0 .block

/-- Passes over marks for the end of a document. -/
def documentEnds : (fuel : Nat) → Read Unit
  | 0 => pure ()
  | fuel + 1 => do
    if ← accept .documentEnd then documentEnds fuel

/-- The node of the only document of a stream, if there is one. -/
def document? (fuel : Nat) : Read (Option Nat) := do
  match ← peek with
  | none => pure none
  | some token =>
    let root ←
      match token with
      | .directive _ | .documentStart => do documentNode fuel (← documentStart fuel)
      | _ => node defaultHandles fuel 0 .block
    documentEnds fuel
    if (← peek).isNone then pure (some root)
    else
      let _ ← documentStart fuel
      throw .malformed

end Read

/-- The graph of the only document of a stream, if there is one. -/
def Graph.ofTokens? (tokens : Tokens) : Except Error (Option Graph) := do
  let fuel := 4 * tokens.tokens.length + 8
  let (root, reading) ← (Read.document? fuel).run ⟨tokens, #[], []⟩
  return root.map fun root => ⟨reading.nodes, root⟩

end FileRouting.Yaml
