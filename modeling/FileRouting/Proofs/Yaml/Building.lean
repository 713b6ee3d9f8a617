import FileRouting.Proofs.Yaml.Merging
import FileRouting.Yaml.Document

/-!
# Reading the values of nodes

A graph has no document if it breaks the grammar of values, or for a scalar that cannot be built: its
text writes no value of its type, which the tag or the form of the text gives. A mapping that is
tagged as a scalar stands for the text under its default key. The main statement is
`Graph.raises_of_document`.
-/

namespace FileRouting.Yaml

open FileRouting.Text

namespace Graph

/-- Whether a node can stand for a text as a scalar: its own, or another one if it is a mapping. -/
inductive StandsFor (graph : Graph) (number : Nat) : RawText → Prop
  | itself {text : RawText} : (nodeAt graph.nodes number).content = .scalar text →
      StandsFor graph number text
  | other {entries : List (Nat × Nat)} {key : Nat} {text : RawText} :
      (nodeAt graph.nodes number).content = .mapping entries →
      (nodeAt graph.nodes key).content = .scalar text → StandsFor graph number text

/-- Why a graph that keeps to the grammar has no document. -/
inductive Unbuildable (graph : Graph) : Fault → Prop
  | scalar {number : Nat} {text : RawText} {fault : Fault} : graph.StandsFor number text →
      Scalar.value (nodeAt graph.nodes number).tag text = .error (.fault fault) →
      Unbuildable graph fault
  | timestamp {number : Nat} {entries : List (Nat × Nat)} :
      (nodeAt graph.nodes number).content = .mapping entries →
      (nodeAt graph.nodes number).tag = .timestamp → Unbuildable graph .timestampInMapping
  | endless {number : Nat} {entries : List (Nat × Nat)} :
      (nodeAt graph.nodes number).content = .mapping entries →
      Build.isScalarTag (nodeAt graph.nodes number).tag ∨
        (nodeAt graph.nodes number).tag = .default → Unbuildable graph .tooDeep

inductive Raises (graph : Graph) : Error → Prop
  | malformed : Raises graph .malformed
  | unbuildable {fault : Fault} : graph.Unbuildable fault → Raises graph (.fault fault)

end Graph

namespace Build

variable {α : Type} {graph : Graph} {nodes : Array Node}

/-! ## Scalars -/

theorem yields_scalarText (nodes : Array Node) (fuel number : Nat) :
    Yields (fun text => ∃ other, (Graph.nodeAt nodes other).content = .scalar text)
      (fun error => error = .malformed ∨ error = .fault .tooDeep)
      (scalarText nodes fuel number) := by
  induction fuel generalizing number with
  | zero => exact .inr rfl
  | succ fuel ih =>
    rw [scalarText]
    split
    · next found => exact ⟨number, found⟩
    · exact .inl rfl
    · split
      · exact ih _
      · exact .inl rfl

theorem raises_of_value (becomes : Graph.Becomes graph.nodes nodes) {number : Nat} {text : RawText}
    (stands : graph.StandsFor number text) {error : Error}
    (raised : Scalar.value (Graph.nodeAt nodes number).tag text = .error error) :
    graph.Raises error := by
  cases error with
  | malformed => exact .malformed
  | fault fault =>
    -- What merging makes a text of has no fault, and every other type is as it was.
    rcases (becomes number).tag with same | ⟨_, isText⟩
    · exact .unbuildable (.scalar stands (same ▸ raised))
    · rw [isText] at raised
      cases raised

theorem yields_text (becomes : Graph.Becomes graph.nodes nodes) {number : Nat}
    (typed : isScalarTag (Graph.nodeAt nodes number).tag = true) :
    Yields (graph.StandsFor number) graph.Raises (scalarText nodes (nodes.size + 1) number) := by
  have same := (becomes number).content
  cases found : (Graph.nodeAt nodes number).content with
  | scalar text =>
    rw [scalarText, found]
    rw [found] at same
    exact .itself (Content.kind_eq_scalar.1 same.symm)
  | sequence items =>
    rw [scalarText, found]
    exact .malformed
  | mapping entries =>
    rw [found] at same
    obtain ⟨entries, mapping⟩ := Content.kind_eq_mapping.1 same.symm
    refine (yields_scalarText nodes _ number).imp ?_ ?_
    · rintro text ⟨key, found⟩
      have key_same := (becomes key).content
      rw [found] at key_same
      exact .other mapping (Content.kind_eq_scalar.1 key_same.symm)
    · rintro error (rfl | rfl)
      · exact .malformed
      · refine .unbuildable (.endless mapping ?_)
        rcases (becomes number).tag with same | ⟨default, _⟩
        · exact .inl (same ▸ typed)
        · exact .inr default

theorem yields_scalar (becomes : Graph.Becomes graph.nodes nodes) (number : Nat) :
    Yields (fun _ => True) graph.Raises (scalar nodes number) := by
  rw [scalar]
  dsimp only
  split
  · exact .malformed
  next typed =>
  refine (yields_text becomes (by simpa using typed)).bind fun text stands => ?_
  split
  · next isTimestamp found =>
    have same := (becomes number).content
    rw [found] at same
    obtain ⟨entries, mapping⟩ := Content.kind_eq_mapping.1 same.symm
    refine .unbuildable (.timestamp mapping ?_)
    rcases (becomes number).tag with same | ⟨_, isText⟩
    · exact same ▸ isTimestamp
    · rw [isText] at isTimestamp
      cases isTimestamp
  · cases valued : Scalar.value (Graph.nodeAt nodes number).tag text with
    | ok value => trivial
    | error error => exact raises_of_value becomes stands valued

/-! ## Steps -/

/-- Whether a step keeps the nodes but for what merging may make of them. -/
abbrev Keeps (graph : Graph) (step : Build α) : Prop :=
  Meets graph.Raises (fun building => Graph.Becomes graph.nodes building.nodes) step
    fun _ building => Graph.Becomes graph.nodes building.nodes

theorem keeps_malformed : Keeps graph (throw .malformed : Build α) :=
  fun _ _ => .malformed

theorem keeps_value (number : Nat) : Keeps graph (value number) := by
  refine meets_get.bind fun building => ?_
  split
  · exact meets_pure fun _ out => out.2
  split
  · exact fun _ out => out.2
  · exact fun _ out => out.2
  · exact fun _ out => out.2
  · exact fun _ out => out.2
  · exact fun _ out => out.2
  · have built : Meets graph.Raises
        (fun state => building = state ∧ Graph.Becomes graph.nodes state.nodes)
        (liftM (scalar building.nodes number))
        fun _ state => Graph.Becomes graph.nodes state.nodes := by
      rintro _ ⟨rfl, becomes⟩
      exact (yields_scalar becomes number).bind fun _ _ => becomes
    refine built.bind fun value => ?_
    exact fun _ becomes => becomes

theorem keeps_items (number : Nat) : Keeps graph (items number) := by
  refine meets_read.bind fun building => ?_
  split
  · exact meets_pure fun _ becomes => becomes
  · exact keeps_malformed

theorem keeps_pair (number : Nat) : Keeps graph (pair number) := by
  refine meets_read.bind fun building => ?_
  split
  · refine (keeps_value _).bind fun key => ?_
    refine (keeps_value _).bind fun item => ?_
    exact fun _ becomes => becomes
  · exact keeps_malformed

theorem keeps_addEntry (entries : List KeyedEntry) (entry : Nat × Nat) :
    Keeps graph (addEntry entries entry) := by
  refine (keeps_value _).bind fun key => ?_
  refine meets_read.bind fun building => ?_
  split
  · exact keeps_malformed
  · exact (keeps_value _).bind fun value => meets_pure fun _ becomes => becomes

theorem keeps_entries (number : Nat) : Keeps graph (entries number) := by
  refine meets_get.bind fun building => ?_
  split
  · next found =>
    refine meets_get.bind fun inner => ?_
    have merging : Meets graph.Raises
        (fun state => inner = state ∧ building = state ∧ Graph.Becomes graph.nodes state.nodes)
        (liftM ((Graph.merge number).run inner.nodes))
        fun out _ => Graph.Becomes graph.nodes out.2 := by
      rintro _ ⟨rfl, rfl, becomes⟩
      have kind := (becomes number).content.symm.trans (Content.kind_eq_mapping.2 ⟨_, found⟩)
      have merged : Yields (fun out => Graph.Becomes graph.nodes out.2) graph.Raises
          ((Graph.merge number).run building.nodes) := by
        refine (Graph.keeps_merge kind _ becomes).imp (fun _ out => out) ?_
        rintro _ rfl
        exact .malformed
      exact merged.bind fun _ becomes => becomes
    refine merging.bind fun (_, nodes) => ?_
    have changed : Meets graph.Raises (fun _ => Graph.Becomes graph.nodes nodes)
        (modify fun building : Building => { building with nodes })
        fun _ state => Graph.Becomes graph.nodes state.nodes := fun _ becomes => becomes
    exact changed.bind fun _ => meets_foldlM keeps_addEntry []
  · exact fun _ _ => .malformed

theorem keeps_contents (number : Nat) : Keeps graph (contents number) := by
  refine meets_read.bind fun building => ?_
  split
  · refine (keeps_items number).bind fun items => ?_
    refine (meets_mapM fun item _ => keeps_value item).bind fun _ => ?_
    exact meets_pure fun _ becomes => becomes
  · refine (keeps_items number).bind fun items => ?_
    refine (meets_mapM fun item _ => keeps_pair item).bind fun _ => ?_
    exact meets_pure fun _ becomes => becomes
  · refine (keeps_items number).bind fun items => ?_
    refine (meets_mapM fun item _ => keeps_pair item).bind fun _ => ?_
    exact meets_pure fun _ becomes => becomes
  · exact (keeps_entries number).bind fun _ => meets_pure fun _ becomes => becomes
  · exact (keeps_entries number).bind fun _ => meets_pure fun _ becomes => becomes

theorem keeps_fillFrom (fuel index : Nat) : Keeps graph (fillFrom fuel index) := by
  induction fuel generalizing index with
  | zero => exact meets_pure fun _ becomes => becomes
  | succ fuel ih =>
    refine meets_read.bind fun building => ?_
    split
    · exact meets_pure fun _ becomes => becomes
    · next number part _ =>
      refine (keeps_contents number).bind fun value => ?_
      have filled : Keeps graph (modify fun building : Building =>
          { building with parts := building.parts.setIfInBounds part value }) :=
        fun _ becomes => becomes
      exact filled.bind fun _ => ih (index + 1)

theorem keeps_document : Keeps graph (document graph) := by
  refine (keeps_value _).bind fun root => ?_
  refine (keeps_fillFrom _ 0).bind fun _ => ?_
  exact meets_read.bind fun _ => meets_pure fun _ becomes => becomes

end Build

theorem Graph.raises_of_document {graph : Graph} {error : Error}
    (raised : graph.document = .error error) : graph.Raises error := by
  have read := Build.keeps_document ⟨graph.nodes, graph.nodes.map fun _ => none, #[], #[]⟩
    (Graph.Becomes.refl graph.nodes)
  have value : Yields (fun _ => True) graph.Raises graph.document :=
    read.map fun _ _ => trivial
  exact value.error raised

end FileRouting.Yaml
