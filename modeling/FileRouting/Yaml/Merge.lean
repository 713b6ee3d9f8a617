import FileRouting.Yaml.Graph

/-!
# Merge keys

A merge key brings the entries of other mappings into its own mapping, before the entries that stand
there. Merging changes the mapping itself, so the change shows wherever the mapping is used later.
Merge keys are taken out before their values are looked at, so a mapping may bring in itself.
-/

namespace FileRouting.Yaml

namespace Graph

abbrev Change := StateT (Array Node) (Except Error)

def nodeAt (nodes : Array Node) (number : Nat) : Node :=
  nodes[number]?.getD .absent

def entriesOf (nodes : Array Node) (number : Nat) : List (Nat × Nat) :=
  match (nodeAt nodes number).content with
  | .mapping entries => entries
  | _ => []

def isMergeKey (nodes : Array Node) (entry : Nat × Nat) : Bool :=
  (nodeAt nodes entry.1).tag = .merge

def setTag (number : Nat) (tag : Tag) : Change Unit :=
  modify fun nodes =>
    nodes.setIfInBounds number { nodeAt nodes number with tag }

def setEntries (number : Nat) (entries : List (Nat × Nat)) : Change Unit :=
  modify fun nodes =>
    nodes.setIfInBounds number { nodeAt nodes number with content := .mapping entries }

/-- Passes over entries up to a merge key, and tells how many there were. A default key that is
passed over is a text from then on. -/
def passOver : List (Nat × Nat) → Change Nat
  | [] => pure 0
  | (key, _) :: entries => do
    match (nodeAt (← get) key).tag with
    | .merge => pure 0
    | .default =>
      setTag key .text
      pure ((← passOver entries) + 1)
    | _ => pure ((← passOver entries) + 1)

/-- The mappings that the value of a merge key names, of which the first counts most. -/
def sources (nodes : Array Node) (value : Nat) : Except Error (List Nat) :=
  match (nodeAt nodes value).content with
  | .mapping _ => .ok [value]
  | .sequence items => .ok items
  | .scalar _ => .error .malformed

/-- Merges the entries of a mapping from an index on, behind some entries that were brought in. -/
def mergeFrom : (fuel : Nat) → (number index : Nat) → (brought : List (Nat × Nat)) → Change Unit
  | 0, _, _, _ => throw .malformed
  | fuel + 1, number, index, brought => do
    let index := index + (← passOver ((entriesOf (← get) number).drop index))
    let entries := entriesOf (← get) number
    match entries[index]? with
    | none => setEntries number (brought ++ entries)
    | some (_, value) =>
      setEntries number (entries.eraseIdx index)
      let parts ← (← sources (← get) value).mapM fun source => do
        match (nodeAt (← get) source).content with
        | .mapping _ =>
          mergeFrom fuel source 0 []
          pure (entriesOf (← get) source)
        | _ => throw .malformed
      mergeFrom fuel number index (brought ++ parts.reverse.flatten)

/-- How many merge keys there are. -/
def mergeCount (nodes : Array Node) : Nat :=
  nodes.toList.foldl (fun count node =>
    match node.content with
    | .mapping entries => count + entries.countP (isMergeKey nodes)
    | _ => count) 0

/-- Merges the entries of a mapping. Every step takes out a merge key, and none is ever added. -/
def merge (number : Nat) : Change Unit := do
  let nodes ← get
  let count := if (entriesOf nodes number).any (isMergeKey nodes) then mergeCount nodes else 0
  mergeFrom (count + 1) number 0 []

end Graph

end FileRouting.Yaml
