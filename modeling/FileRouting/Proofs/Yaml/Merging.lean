import FileRouting.Proofs.Yaml.Outcome
import FileRouting.Yaml.Merge

/-!
# What merging leaves of the nodes

Merging moves entries between mappings and makes texts of default keys. Scalars and sequences keep
what they hold, mappings stay mappings, and no other type changes. The only error is a value that
names no mappings. The main statement is `Graph.keeps_merge`.
-/

namespace FileRouting.Yaml

/-! ## Nodes -/

/-- What a node holds, but for the entries of a mapping. -/
def Content.kind : Content → Content
  | .mapping _ => .mapping []
  | content => content

theorem Content.kind_eq_scalar {content : Content} {text : Text.RawText} :
    content.kind = .scalar text ↔ content = .scalar text := by
  cases content <;> simp [kind]

theorem Content.kind_eq_mapping {content : Content} :
    content.kind = .mapping [] ↔ ∃ entries, content = .mapping entries := by
  cases content <;> simp [kind]

/-- Whether a node is one that merging may make of another. -/
structure Node.Becomes (node changed : Node) : Prop where
  tag : changed.tag = node.tag ∨ (node.tag = .default ∧ changed.tag = .text)
  content : changed.content.kind = node.content.kind

theorem Node.Becomes.refl (node : Node) : node.Becomes node :=
  ⟨.inl rfl, rfl⟩

theorem Node.Becomes.trans {node changed last : Node} (first : node.Becomes changed)
    (second : changed.Becomes last) : node.Becomes last := by
  refine ⟨?_, second.content.trans first.content⟩
  rcases second.tag with same | ⟨default, text⟩
  · rw [same]
    exact first.tag
  · rcases first.tag with same | ⟨_, other⟩
    · exact .inr ⟨same ▸ default, text⟩
    · rw [default] at other
      cases other

namespace Graph

def Becomes (nodes changed : Array Node) : Prop :=
  ∀ number, (nodeAt nodes number).Becomes (nodeAt changed number)

theorem Becomes.refl (nodes : Array Node) : Becomes nodes nodes :=
  fun number => .refl (nodeAt nodes number)

theorem nodeAt_setIfInBounds (nodes : Array Node) (number other : Nat) (node : Node) :
    nodeAt (nodes.setIfInBounds number node) other =
      if number = other ∧ number < nodes.size then node else nodeAt nodes other := by
  rw [nodeAt, Array.getElem?_setIfInBounds]
  split
  · next same =>
    subst same
    split
    · next bound => simp [bound]
    · next bound => simp [bound, nodeAt]
  · next other => simp [other, nodeAt]

theorem Becomes.set {nodes changed : Array Node} (becomes : Becomes nodes changed) {number : Nat}
    {node : Node} (one : (nodeAt changed number).Becomes node) :
    Becomes nodes (changed.setIfInBounds number node) := by
  intro other
  rw [nodeAt_setIfInBounds]
  split
  · next same => exact (becomes other).trans (same.1 ▸ one)
  · exact becomes other

/-! ## Merging -/

/-- Whether a step of merging keeps the nodes but for what merging may make of them. -/
abbrev Keeps {α : Type} (nodes : Array Node) (step : Change α) : Prop :=
  Meets (· = Error.malformed) (Becomes nodes) step fun _ => Becomes nodes

variable {nodes : Array Node}

theorem keeps_passOver (entries : List (Nat × Nat)) : Keeps nodes (passOver entries) := by
  induction entries with
  | nil => exact meets_pure fun _ becomes => becomes
  | cons entry entries ih =>
    obtain ⟨key, item⟩ := entry
    have others : Keeps nodes (do pure ((← passOver entries) + 1)) :=
      ih.bind fun _ => meets_pure fun _ becomes => becomes
    refine meets_get.bind fun changed => ?_
    split
    · exact meets_pure fun _ out => out.2
    · next default =>
      have text : Meets (· = Error.malformed) (fun state => changed = state ∧ Becomes nodes state)
          (setTag key .text) fun _ => Becomes nodes := by
        rintro _ ⟨rfl, becomes⟩
        exact becomes.set ⟨.inr ⟨default, rfl⟩, rfl⟩
      exact text.bind fun _ => others
    · exact others.mono (fun _ out => out.2) fun _ _ becomes => becomes

theorem keeps_setEntries {number : Nat} (mapping : (nodeAt nodes number).content.kind = .mapping [])
    (entries : List (Nat × Nat)) : Keeps nodes (setEntries number entries) := by
  intro changed becomes
  have kind := (becomes number).content.trans mapping
  exact becomes.set ⟨.inl rfl, kind.symm⟩

theorem yields_sources (nodes : Array Node) (value : Nat) :
    Yields (fun _ => True) (· = Error.malformed) (sources nodes value) := by
  rw [sources]
  split
  · trivial
  · trivial
  · rfl

theorem keeps_mergeFrom (fuel : Nat) {number : Nat}
    (mapping : (nodeAt nodes number).content.kind = .mapping []) (index : Nat)
    (brought : List (Nat × Nat)) : Keeps nodes (mergeFrom fuel number index brought) := by
  induction fuel generalizing number index brought with
  | zero => exact meets_throw fun _ _ => rfl
  | succ fuel ih =>
    have source : ∀ number, Keeps nodes (do
        match (nodeAt (← get) number).content with
        | .mapping _ =>
          mergeFrom fuel number 0 []
          pure (entriesOf (← get) number)
        | _ => throw .malformed) := by
      intro number
      refine meets_get.bind fun changed => ?_
      split
      · next entries found =>
        rintro _ ⟨rfl, becomes⟩
        have kind := (becomes number).content.symm.trans (Content.kind_eq_mapping.2 ⟨_, found⟩)
        have merged : Keeps nodes (do
            mergeFrom fuel number 0 []
            pure (entriesOf (← get) number)) := by
          refine (ih kind 0 []).bind fun _ => ?_
          exact meets_read.bind fun _ => meets_pure fun _ becomes => becomes
        exact merged changed becomes
      · exact meets_throw fun _ _ => rfl
    rw [mergeFrom]
    refine meets_read.bind fun changed => ?_
    refine (keeps_passOver _).bind fun passed => ?_
    refine meets_read.bind fun changed => ?_
    dsimp only
    split
    · exact keeps_setEntries mapping _
    refine (keeps_setEntries mapping _).bind fun _ => ?_
    refine meets_read.bind fun changed => ?_
    refine (meets_lift fun _ _ => yields_sources changed _).bind fun sources => ?_
    refine Meets.bind (Meets.mono (meets_mapM fun number _ => source number)
      (fun _ out => out.2) fun _ _ becomes => becomes) fun parts => ?_
    exact ih mapping _ _

theorem keeps_merge {number : Nat} (mapping : (nodeAt nodes number).content.kind = .mapping []) :
    Keeps nodes (merge number) := by
  refine meets_get.bind fun changed => ?_
  exact (keeps_mergeFrom _ mapping 0 []).mono (fun _ out => out.2) fun _ _ becomes => becomes

end Graph

end FileRouting.Yaml
