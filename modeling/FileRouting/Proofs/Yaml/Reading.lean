import FileRouting.Proofs.Yaml.Outcome
import FileRouting.Yaml.Graph

/-!
# Reading the nodes of a stream

Reading tokens into nodes breaks off for the grammar, for what lies behind the tokens, or for nodes
that are nested too deeply. A node is never deeper than there are tokens before it, so only many
tokens can be too deep. The main statement is `Graph.raises_of_ofTokens`.
-/

namespace FileRouting.Yaml

open FileRouting.Text

/-- Why some tokens cannot be read as nodes. -/
inductive Tokens.Raises (tokens : Tokens) : Error → Prop
  | malformed : Raises tokens .malformed
  | behind {error : Error} : tokens.behind = some error → Raises tokens error
  | nesting : Read.maxDepth < tokens.tokens.length → Raises tokens (.fault .tooDeep)

/-- Whether some tokens are left behind so many others. -/
structure Tokens.Leave (tokens : Tokens) (passed : Nat) (left : Tokens) : Prop where
  behind : left.behind = tokens.behind
  passed_le : left.tokens.length + passed ≤ tokens.tokens.length

theorem Tokens.Leave.mono {tokens left : Tokens} {passed fewer : Nat}
    (leave : tokens.Leave passed left) (le : fewer ≤ passed) : tokens.Leave fewer left :=
  ⟨leave.behind, by have := leave.passed_le; omega⟩

namespace Read

variable {α : Type} {tokens : Tokens} {passed : Nat}

/-- Whether a step that starts with some tokens left ends with others left. -/
abbrev Leads (tokens : Tokens) (before : Tokens → Prop) (step : Read α)
    (after : α → Tokens → Prop) : Prop :=
  Meets tokens.Raises (fun reading => before reading.tokens) step
    fun value reading => after value reading.tokens

/-- Whether a step that starts behind so many tokens ends behind them. -/
abbrev Passes (tokens : Tokens) (passed : Nat) (step : Read α) : Prop :=
  Leads tokens (tokens.Leave passed) step fun _ => tokens.Leave passed

/-! ## Tokens -/

theorem leads_peek : Leads tokens (tokens.Leave passed) peek fun token left =>
    tokens.Leave passed left ∧ (token ≠ none → left.tokens ≠ []) := by
  refine meets_get.bind fun reading => ?_
  rintro _ ⟨rfl, leave⟩
  dsimp only
  cases same : reading.tokens.tokens with
  | cons token tail => exact ⟨leave, fun _ nothing => List.cons_ne_nil _ _ (same ▸ nothing)⟩
  | nil =>
    cases behind : reading.tokens.behind with
    | none => exact ⟨leave, fun some => absurd rfl some⟩
    | some error => exact .behind (leave.behind ▸ behind)

theorem passes_peek : Passes tokens passed peek :=
  leads_peek.mono (fun _ leave => leave) fun _ _ out => out.1

theorem leads_skip : Leads tokens (fun left => tokens.Leave passed left ∧ left.tokens ≠ []) skip
    fun _ => tokens.Leave (passed + 1) := by
  refine meets_modify ?_
  rintro reading ⟨leave, some⟩
  refine ⟨leave.behind, ?_⟩
  have pos := List.length_pos_iff.2 some
  have le := leave.passed_le
  simp only [List.length_tail]
  omega

theorem passes_skip : Passes tokens passed skip := by
  refine meets_modify ?_
  rintro reading leave
  refine ⟨leave.behind, ?_⟩
  have le := leave.passed_le
  simp only [List.length_tail]
  omega

theorem leads_accept (token : Token) : Leads tokens (tokens.Leave passed) (accept token)
    fun taken => tokens.Leave (if taken then passed + 1 else passed) := by
  refine leads_peek.bind fun next => ?_
  split
  · next found =>
    have some : next ≠ none := by
      rw [found]
      exact Option.some_ne_none token
    refine Meets.bind (leads_skip.mono (fun _ out => ⟨out.1, out.2 some⟩) fun _ _ left => left) ?_
    exact fun _ => meets_pure fun _ left => left
  · exact meets_pure fun _ out => out.1

theorem passes_accept (token : Token) : Passes tokens passed (accept token) := by
  refine (leads_accept token).mono (fun _ leave => leave) fun taken _ leave => leave.mono ?_
  split <;> omega

theorem passes_atOneOf (ends : List Token) : Passes tokens passed (atOneOf ends) := by
  refine passes_peek.bind fun next => ?_
  split
  · exact meets_pure fun _ leave => leave
  · exact meets_pure fun _ leave => leave

/-! ## Nodes and names -/

section Nodes

variable {before : Tokens → Prop} {after : Tokens → Prop}

theorem leads_add (node : Node) : Leads tokens before (add node) fun _ => before :=
  fun _ holds => holds

theorem leads_fill (number : Nat) (node : Node) :
    Leads tokens before (fill number node) fun _ => before :=
  fun _ holds => holds

theorem leads_addNamed (name : Option String) (node : Node) :
    Leads tokens before (addNamed name node) fun _ => before := by
  cases name with
  | none => exact leads_add node
  | some name =>
    refine meets_get.bind fun reading => ?_
    split
    · exact fun _ _ => .malformed
    · exact fun _ out => out.2

theorem leads_named (name : String) : Leads tokens before (named name) fun _ => before := by
  refine meets_get.bind fun reading => ?_
  split
  · exact fun _ out => out.2
  · exact fun _ _ => .malformed

theorem leads_wholeTag (handles : Handles) (name : TagName) :
    Leads tokens before (wholeTag handles name) fun _ => before := by
  rw [wholeTag]
  split
  · exact fun _ holds => holds
  · split
    · exact fun _ holds => holds
    · exact fun _ _ => .malformed

theorem leads_addScalar (p : Properties) (text : RawText) (plain : Bool) :
    Leads tokens before (addScalar p text plain) fun _ => before :=
  leads_addNamed _ _

theorem leads_addBare (p : Properties) : Leads tokens before (addBare p) fun _ => before := by
  rw [addBare]
  split
  · exact leads_addScalar p [] true
  · exact fun _ _ => .malformed

theorem leads_addSequence (p : Properties) {items : Read (List Nat)}
    (leads : Leads tokens before items fun _ => after) :
    Leads tokens before (addSequence p items) fun _ => after := by
  refine (leads_addNamed _ _).bind fun number => ?_
  refine leads.bind fun items => ?_
  exact (leads_fill _ _).bind fun _ => meets_pure fun _ holds => holds

theorem leads_addMapping (p : Properties) {entries : Read (List (Nat × Nat))}
    (leads : Leads tokens before entries fun _ => after) :
    Leads tokens before (addMapping p entries) fun _ => after := by
  refine (leads_addNamed _ _).bind fun number => ?_
  refine leads.bind fun entries => ?_
  exact (leads_fill _ _).bind fun _ => meets_pure fun _ holds => holds

end Nodes

theorem passes_anchor : Passes tokens passed anchor? := by
  refine passes_peek.bind fun next => ?_
  split
  · exact passes_skip.bind fun _ => meets_pure fun _ leave => leave
  · exact meets_pure fun _ leave => leave

theorem passes_tag : Passes tokens passed tag? := by
  refine passes_peek.bind fun next => ?_
  split
  · exact passes_skip.bind fun _ => meets_pure fun _ leave => leave
  · exact meets_pure fun _ leave => leave

theorem passes_properties (handles : Handles) : Passes tokens passed (properties handles) := by
  refine passes_anchor.bind fun first => ?_
  refine passes_tag.bind fun tag => ?_
  cases tag with
  | none =>
    dsimp only
    split
    · exact passes_anchor.bind fun _ => meets_pure fun _ leave => leave
    · exact meets_pure fun _ leave => leave
  | some name =>
    have tagged : ∀ anchor : Option String, Passes tokens passed (do
        pure (⟨anchor, some (← wholeTag handles name)⟩ : Properties)) := by
      intro anchor
      exact (leads_wholeTag handles name).bind fun _ => meets_pure fun _ leave => leave
    dsimp only
    split
    · exact passes_anchor.bind tagged
    · exact (meets_pure fun _ leave => leave).bind tagged

/-! ## Nodes in nodes -/

/-- Whether the readers of nodes and of their parts pass tokens, with some fuel. The items of an
open sequence are one deeper than their first token. -/
structure NodesPass (tokens : Tokens) (handles : Handles) (fuel : Nat) : Prop where
  node : ∀ depth place, Passes tokens depth (node handles fuel depth place)
  entryNode : ∀ depth place ends, Passes tokens depth (entryNode handles fuel depth place ends)
  valueNode : ∀ depth place ends, Passes tokens depth (valueNode handles fuel depth place ends)
  blockItems : ∀ depth, Passes tokens depth (blockItems handles fuel depth)
  openItems : ∀ depth, Passes tokens depth (openItems handles fuel (depth + 1))
  blockEntries : ∀ depth, Passes tokens depth (blockEntries handles fuel depth)
  flowItems : ∀ depth first, Passes tokens depth (flowItems handles fuel depth first)
  flowItem : ∀ depth, Passes tokens depth (flowItem handles fuel depth)
  flowEntries : ∀ depth first, Passes tokens depth (flowEntries handles fuel depth first)
  flowEntry : ∀ depth, Passes tokens depth (flowEntry handles fuel depth)

variable {handles : Handles} {fuel : Nat}

theorem passes_malformed : Passes tokens passed (throw .malformed : Read α) :=
  fun _ _ => .malformed

theorem nodesPass_zero : NodesPass tokens handles 0 := by
  constructor
  all_goals
    intros
    simp only [node, entryNode, valueNode, blockItems, openItems, blockEntries, flowItems,
      flowItem, flowEntries, flowEntry]
    exact passes_malformed

/-- What stands in a node is one deeper, and the token that has been seen is one more. -/
theorem leads_inner {token : Token} {depth : Nat} {step : Read α}
    (inner : Passes tokens (depth + 1) step) :
    Leads tokens
      (fun left => tokens.Leave depth left ∧ (some token ≠ none → left.tokens ≠ []))
      (do skip; step) fun _ => tokens.Leave depth := by
  refine Meets.bind (leads_skip.mono (fun _ out => ⟨out.1, out.2 (Option.some_ne_none token)⟩)
    fun _ _ left => left) fun _ => ?_
  exact inner.mono (fun _ leave => leave) fun _ _ leave => leave.mono (Nat.le_succ depth)

/-- A token that is seen so deep is one of many. -/
theorem leads_tooDeep {token : Token} {depth : Nat} (deep : maxDepth ≤ depth)
    {after : α → Tokens → Prop} {step : PUnit → Read α} :
    Leads tokens
      (fun left => tokens.Leave depth left ∧ (some token ≠ none → left.tokens ≠ []))
      (throw (.fault .tooDeep) >>= step) after := by
  rintro reading ⟨leave, seen⟩
  have pos := List.length_pos_iff.2 (seen (Option.some_ne_none token))
  have le := leave.passed_le
  exact .nesting (by omega)

theorem passes_node (inner : NodesPass tokens handles fuel) (depth : Nat) (place : Place) :
    Passes tokens depth (node handles (fuel + 1) depth place) := by
  rw [node]
  refine passes_peek.bind fun first => ?_
  split
  · exact passes_skip.bind fun _ => leads_named _
  refine (passes_properties handles).bind fun p => ?_
  refine leads_peek.bind fun next => ?_
  dsimp only
  split
  · next deep =>
    obtain ⟨token, rfl⟩ := Option.ne_none_iff_exists'.1 deep.2
    exact leads_tooDeep deep.1
  split
  · exact (passes_skip.bind fun _ => leads_addScalar p _ _).mono (fun _ => And.left) fun _ _ out => out
  · exact leads_inner (leads_addSequence p (inner.flowItems (depth + 1) true))
  · exact leads_inner (leads_addMapping p (inner.flowEntries (depth + 1) true))
  · exact (leads_addSequence p (inner.openItems depth)).mono (fun _ => And.left) fun _ _ out => out
  · exact leads_inner (leads_addSequence p (inner.blockItems (depth + 1)))
  · exact leads_inner (leads_addSequence p (inner.blockItems (depth + 1)))
  · exact leads_inner (leads_addMapping p (inner.blockEntries (depth + 1)))
  · exact leads_inner (leads_addMapping p (inner.blockEntries (depth + 1)))
  · exact (leads_addBare p).mono (fun _ => And.left) fun _ _ out => out

theorem passes_entryNode (inner : NodesPass tokens handles fuel) (depth : Nat) (place : Place)
    (ends : List Token) :
    Passes tokens depth (entryNode handles (fuel + 1) depth place ends) := by
  rw [entryNode]
  refine (passes_atOneOf ends).bind fun ended => ?_
  split
  · exact leads_add _
  · exact inner.node depth place

theorem passes_valueNode (inner : NodesPass tokens handles fuel) (depth : Nat) (place : Place)
    (ends : List Token) :
    Passes tokens depth (valueNode handles (fuel + 1) depth place ends) := by
  rw [valueNode]
  refine (passes_accept .value).bind fun marked => ?_
  split
  · exact inner.entryNode depth place ends
  · exact leads_add _

theorem passes_blockItems (inner : NodesPass tokens handles fuel) (depth : Nat) :
    Passes tokens depth (blockItems handles (fuel + 1) depth) := by
  rw [blockItems]
  refine (passes_accept .entry).bind fun marked => ?_
  split
  · refine (inner.entryNode depth _ _).bind fun item => ?_
    exact (inner.blockItems depth).bind fun _ => meets_pure fun _ leave => leave
  refine (passes_accept .blockEnd).bind fun ended => ?_
  split
  · exact meets_pure fun _ leave => leave
  · exact passes_malformed

theorem passes_openItems (inner : NodesPass tokens handles fuel) (depth : Nat) :
    Passes tokens depth (openItems handles (fuel + 1) (depth + 1)) := by
  rw [openItems]
  refine (leads_accept .entry).bind fun marked => ?_
  cases marked with
  | true =>
    refine (inner.entryNode (depth + 1) _ _).bind fun item => ?_
    have others := (inner.openItems depth).mono
      (fun _ leave => Tokens.Leave.mono leave (Nat.le_succ depth)) fun _ _ out => out
    exact others.bind fun _ => meets_pure fun _ leave => leave
  | false => exact meets_pure fun _ leave => leave

theorem passes_blockEntries (inner : NodesPass tokens handles fuel) (depth : Nat) :
    Passes tokens depth (blockEntries handles (fuel + 1) depth) := by
  rw [blockEntries]
  refine (passes_accept .key).bind fun marked => ?_
  split
  · refine (inner.entryNode depth _ _).bind fun key => ?_
    refine (inner.valueNode depth _ _).bind fun value => ?_
    exact (inner.blockEntries depth).bind fun _ => meets_pure fun _ leave => leave
  refine (passes_accept .blockEnd).bind fun ended => ?_
  split
  · exact meets_pure fun _ leave => leave
  · exact passes_malformed

/-- What a flow collection holds up to its end, behind a comma. -/
theorem passes_others (close : Token) {item : Read α} {items : Read (List α)}
    (one : Passes tokens passed item) (many : Passes tokens passed items) :
    Passes tokens passed (do
      if ← accept close then pure []
      else
        let first ← item
        pure (first :: (← items))) := by
  refine (passes_accept close).bind fun ended => ?_
  split
  · exact meets_pure fun _ leave => leave
  · refine one.bind fun first => ?_
    exact many.bind fun _ => meets_pure fun _ leave => leave

theorem passes_flowItems (inner : NodesPass tokens handles fuel) (depth : Nat) (first : Bool) :
    Passes tokens depth (flowItems handles (fuel + 1) depth first) := by
  have others := passes_others .flowSequenceEnd (inner.flowItem depth) (inner.flowItems depth false)
  rw [flowItems]
  refine (passes_accept .flowSequenceEnd).bind fun ended => ?_
  split
  · exact meets_pure fun _ leave => leave
  dsimp only
  split
  · refine (passes_accept .flowEntry).bind fun apart => ?_
    split
    · exact fun _ _ => .malformed
    · exact others
  · exact others

theorem passes_flowItem (inner : NodesPass tokens handles fuel) (depth : Nat) :
    Passes tokens depth (flowItem handles (fuel + 1) depth) := by
  rw [flowItem]
  refine leads_peek.bind fun next => ?_
  split
  · next key =>
    subst key
    dsimp only
    split
    · next deep => exact leads_tooDeep deep
    refine leads_addMapping ⟨none, none⟩ (leads_inner ?_)
    refine (inner.entryNode (depth + 1) _ _).bind fun key => ?_
    exact (inner.valueNode (depth + 1) _ _).bind fun value => meets_pure fun _ leave => leave
  · exact (inner.node depth .flow).mono (fun _ => And.left) fun _ _ out => out

theorem passes_flowEntries (inner : NodesPass tokens handles fuel) (depth : Nat) (first : Bool) :
    Passes tokens depth (flowEntries handles (fuel + 1) depth first) := by
  have others := passes_others .flowMappingEnd (inner.flowEntry depth) (inner.flowEntries depth false)
  rw [flowEntries]
  refine (passes_accept .flowMappingEnd).bind fun ended => ?_
  split
  · exact meets_pure fun _ leave => leave
  dsimp only
  split
  · refine (passes_accept .flowEntry).bind fun apart => ?_
    split
    · exact fun _ _ => .malformed
    · exact others
  · exact others

theorem passes_flowEntry (inner : NodesPass tokens handles fuel) (depth : Nat) :
    Passes tokens depth (flowEntry handles (fuel + 1) depth) := by
  rw [flowEntry]
  refine (passes_accept .key).bind fun marked => ?_
  split
  · refine (inner.entryNode depth _ _).bind fun key => ?_
    exact (inner.valueNode depth _ _).bind fun value => meets_pure fun _ leave => leave
  · refine (inner.node depth .flow).bind fun key => ?_
    refine passes_peek.bind fun _ => ?_
    exact (leads_add _).bind fun _ => meets_pure fun _ leave => leave

theorem nodesPass (tokens : Tokens) (handles : Handles) (fuel : Nat) :
    NodesPass tokens handles fuel := by
  induction fuel with
  | zero => exact nodesPass_zero
  | succ fuel inner =>
    exact {
      node := passes_node inner
      entryNode := passes_entryNode inner
      valueNode := passes_valueNode inner
      blockItems := passes_blockItems inner
      openItems := passes_openItems inner
      blockEntries := passes_blockEntries inner
      flowItems := passes_flowItems inner
      flowItem := passes_flowItem inner
      flowEntries := passes_flowEntries inner
      flowEntry := passes_flowEntry inner }

/-! ## Documents -/

theorem passes_directives (fuel : Nat) (version : Bool) (handles : Handles) :
    Passes tokens passed (directives fuel version handles) := by
  induction fuel generalizing version handles with
  | zero => exact meets_pure fun _ leave => leave
  | succ fuel ih =>
    rw [directives]
    refine passes_peek.bind fun next => ?_
    split
    · refine passes_skip.bind fun _ => ?_
      split
      · split
        · exact passes_malformed
        · exact ih true handles
      · split
        · exact passes_malformed
        · exact ih version _
      · exact ih version handles
    · exact meets_pure fun _ leave => leave

theorem passes_documentStart (fuel : Nat) : Passes tokens passed (documentStart fuel) := by
  refine (passes_directives fuel false []).bind fun handles => ?_
  refine (passes_accept .documentStart).bind fun marked => ?_
  split
  · exact meets_pure fun _ leave => leave
  · exact passes_malformed

theorem passes_documentNode (fuel : Nat) (handles : Handles) :
    Passes tokens 0 (documentNode fuel handles) := by
  refine passes_peek.bind fun next => ?_
  split
  · exact leads_add _
  · exact leads_add _
  · exact leads_add _
  · exact leads_add _
  · exact (nodesPass tokens handles fuel).node 0 .block

theorem passes_documentEnds (fuel : Nat) : Passes tokens passed (documentEnds fuel) := by
  induction fuel with
  | zero => exact meets_pure fun _ leave => leave
  | succ fuel ih =>
    rw [documentEnds]
    refine (passes_accept .documentEnd).bind fun marked => ?_
    split
    · exact ih
    · exact meets_pure fun _ leave => leave

theorem passes_document (fuel : Nat) : Passes tokens 0 (document? fuel) := by
  refine passes_peek.bind fun first => ?_
  split
  · exact meets_pure fun _ leave => leave
  have ends : ∀ root : Nat, Passes tokens 0 (do
      documentEnds fuel
      if (← peek).isNone then pure (some root)
      else
        let _ ← documentStart fuel
        throw .malformed) := by
    intro root
    refine (passes_documentEnds fuel).bind fun _ => ?_
    refine passes_peek.bind fun next => ?_
    split
    · exact meets_pure fun _ leave => leave
    · exact (passes_documentStart fuel).bind fun _ => passes_malformed
  dsimp only
  split
  · refine (passes_documentStart fuel).bind fun handles => ?_
    exact (passes_documentNode fuel handles).bind ends
  · refine (passes_documentStart fuel).bind fun handles => ?_
    exact (passes_documentNode fuel handles).bind ends
  · exact ((nodesPass tokens defaultHandles fuel).node 0 .block).bind ends

end Read

theorem Graph.raises_of_ofTokens {tokens : Tokens} {error : Error}
    (raised : Graph.ofTokens? tokens = .error error) : tokens.Raises error := by
  have start : tokens.Leave 0 tokens := ⟨rfl, Nat.le_refl _⟩
  have read := Read.passes_document (4 * tokens.tokens.length + 8) ⟨tokens, #[], []⟩ start
  rw [Graph.ofTokens?] at raised
  cases parsed : Read.document? (4 * tokens.tokens.length + 8) ⟨tokens, #[], []⟩ with
  | ok out => simp [StateT.run, parsed, bind, Except.bind, pure, Except.pure] at raised
  | error reason =>
    simp only [StateT.run, parsed, bind, Except.bind, Except.error.injEq] at raised
    exact raised ▸ read.error parsed

end FileRouting.Yaml
