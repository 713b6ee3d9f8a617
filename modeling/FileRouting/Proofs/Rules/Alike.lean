import FileRouting.Proofs.Rules.Violation
import FileRouting.Rules.RuleBook
import Mathlib.Data.List.Forall2
import Mathlib.Data.Set.Defs

/-!
# Alike documents

Documents are alike if they show the same at every place. The order of keys does not count, and
neither does which parts are shared. Alike documents conform together, `Document.Alike.conforms`,
and have the same entries, `RuleEntry.ofDocument_eq_of_alike`. Documents that conform are alike if
their rules have the same texts, `Document.Alike.of_texts`.
-/

namespace FileRouting

open FileRouting.Text

/-- What there is to see of a value without a further step. -/
inductive Face
  | mapping (keys : Set Value)
  | list (length : Nat)
  | text (text : RawText)
  | other (value : Value)

namespace Document

def face (document : Document) : Face :=
  match document.top with
  | .mapping entries => .mapping {key | key ∈ entries.map (·.1)}
  | .list items => .list items.length
  | .text text => .text (.ofString text)
  | .raw text => .text text
  | value => .other value

def Alike (document document' : Document) : Prop :=
  ∀ place, (document.at? place).map face = (document'.at? place).map face

section

variable {document document' : Document}

theorem Alike.refl (document : Document) : document.Alike document :=
  fun _ => rfl

theorem Alike.symm (h : document.Alike document') : document'.Alike document :=
  fun place => (h place).symm

theorem Alike.face_eq (h : document.Alike document') : document.face = document'.face := by
  simpa [at?] using h []

/-- From alike documents every step leads to alike documents, or nowhere. -/
theorem Alike.step (h : document.Alike document') (step : Step) :
    Option.Rel Alike (document.step? step) (document'.step? step) := by
  have below : ∀ place, ((document.step? step).bind (·.at? place)).map face =
      ((document'.step? step).bind (·.at? place)).map face := fun place => h (step :: place)
  cases here : document.step? step with
  | none =>
    cases there : document'.step? step with
    | none => exact .none
    | some value => simpa [here, there, at?] using below []
  | some value =>
    cases there : document'.step? step with
    | none => simpa [here, there, at?] using below []
    | some value' =>
      rw [here, there] at below
      exact .some below

theorem Alike.field (h : document.Alike document') {key : String} {value : Document}
    (found : document.field? key = some value) :
    ∃ value', document'.field? key = some value' ∧ value.Alike value' := by
  have steps := h.step (.key key)
  simp only [step?, found] at steps
  generalize document'.field? key = found' at steps
  cases steps with
  | some alike => exact ⟨_, rfl, alike⟩

theorem Alike.field_eq_none (h : document.Alike document') {key : String}
    (absent : document.field? key = none) : document'.field? key = none := by
  cases found : document'.field? key with
  | none => rfl
  | some value' =>
    obtain ⟨value, found', _⟩ := h.symm.field found
    rw [absent] at found'
    cases found'

/-! ## What a face says -/

theorem entries?_eq_none_iff :
    document.entries? = none ↔ ∀ keys, document.face ≠ .mapping keys := by
  unfold entries? face
  cases document.top <;> simp

theorem mem_keys_iff {keys : Set Value} (h : document.face = .mapping keys) {key : Value} :
    key ∈ keys ↔ key ∈ (document.entries?.getD []).map (·.1) := by
  unfold face at h
  split at h <;> cases h
  next top => rw [entries?, top]; rfl

theorem text?_eq_some_iff {text : RawText} :
    document.text? = some text ↔ document.face = .text text := by
  unfold text? face Value.rawText?
  cases document.top <;> simp

theorem length_items?_eq_some_iff {length : Nat} :
    document.items?.map List.length = some length ↔ document.face = .list length := by
  unfold items? face
  cases document.top <;> simp

theorem Alike.entries?_eq_none (h : document.Alike document') (other : document.entries? = none) :
    document'.entries? = none := by
  rw [entries?_eq_none_iff] at other ⊢
  rwa [← h.face_eq]

theorem Alike.isSome_entries? (h : document.Alike document') (mapping : document.entries?.isSome) :
    document'.entries?.isSome := by
  rw [Option.isSome_iff_ne_none] at mapping ⊢
  exact mt h.symm.entries?_eq_none mapping

theorem Alike.text?_eq (h : document.Alike document') : document.text? = document'.text? := by
  ext text
  rw [text?_eq_some_iff, text?_eq_some_iff, h.face_eq]

theorem Alike.items?_eq_none (h : document.Alike document') (other : document.items? = none) :
    document'.items? = none := by
  rw [← Option.map_eq_none_iff (f := List.length), Option.eq_none_iff_forall_ne_some] at other ⊢
  simpa only [ne_eq, length_items?_eq_some_iff, h.face_eq] using other

theorem Alike.items (h : document.Alike document') {items : List Document}
    (list : document.items? = some items) :
    ∃ items', document'.items? = some items' ∧ List.Forall₂ Alike items items' := by
  have length := congrArg (Option.map List.length) list
  rw [Option.map_some, length_items?_eq_some_iff, h.face_eq, ← length_items?_eq_some_iff,
    Option.map_eq_some_iff] at length
  obtain ⟨items', list', same⟩ := length
  refine ⟨items', list', List.forall₂_iff_get.2 ⟨same.symm, ?_⟩⟩
  intro index inside inside'
  have steps := h.step (.index index)
  simp only [step?, list, list', Option.bind_some, List.getElem?_eq_getElem inside,
    List.getElem?_eq_getElem inside'] at steps
  cases steps with
  | some alike => exact alike

theorem Alike.keysOtherThan_ne_nil (h : document.Alike document') {known : List String}
    (others : document.keysOtherThan known ≠ []) : document'.keysOtherThan known ≠ [] := by
  obtain ⟨key, member⟩ := List.exists_mem_of_ne_nil _ others
  obtain ⟨listed, unknown⟩ := List.mem_filter.1 member
  cases mapping : document.entries? with
  | none => simp [mapping] at listed
  | some entries =>
    have face : ∃ keys, document.face = .mapping keys := by
      by_contra other
      rw [entries?_eq_none_iff.2 (not_exists.1 other)] at mapping
      cases mapping
    obtain ⟨keys, face⟩ := face
    rw [← mem_keys_iff face, mem_keys_iff (h.face_eq ▸ face)] at listed
    exact List.ne_nil_of_mem (List.mem_filter.2 ⟨listed, unknown⟩)

end

end Document

/-! ## Violations of alike documents -/

theorem RuleViolates.of_alike {item item' : Document} (alike : item.Alike item') {place : Place}
    {violation : Violation} (violates : RuleViolates item place violation) :
    ∃ violation', RuleViolates item' place violation' := by
  cases violates with
  | notMapping h => exact ⟨_, .notMapping (alike.entries?_eq_none h)⟩
  | missing field mapping required h =>
    exact ⟨_, .missing field (alike.isSome_entries? mapping) required (alike.field_eq_none h)⟩
  | otherKeys h => exact ⟨_, .otherKeys (alike.keysOtherThan_ne_nil h)⟩
  | notText found h =>
    obtain ⟨value', found', below⟩ := alike.field found
    exact ⟨_, .notText found' (below.text?_eq ▸ h)⟩
  | otherName found shows h =>
    obtain ⟨value', found', below⟩ := alike.field found
    exact ⟨_, .otherName found' (below.text?_eq ▸ shows) h⟩
  | emptyPattern found shows =>
    obtain ⟨value', found', below⟩ := alike.field found
    exact ⟨_, .emptyPattern found' (below.text?_eq ▸ shows)⟩

theorem Violates.of_alike {document document' : Document} (alike : document.Alike document')
    {place : Place} {violation : Violation} (violates : Violates document place violation) :
    ∃ violation', Violates document' place violation' := by
  cases violates with
  | notMapping h => exact ⟨_, .notMapping (alike.entries?_eq_none h)⟩
  | missing mapping h =>
    exact ⟨_, .missing (alike.isSome_entries? mapping) (alike.field_eq_none h)⟩
  | otherKeys h => exact ⟨_, .otherKeys (alike.keysOtherThan_ne_nil h)⟩
  | notList found h =>
    obtain ⟨rules', found', below⟩ := alike.field found
    exact ⟨_, .notList found' (below.items?_eq_none h)⟩
  | rule found list at_index h =>
    obtain ⟨rules', found', below⟩ := alike.field found
    obtain ⟨items', list', items⟩ := below.items list
    obtain ⟨inside, rfl⟩ := List.getElem?_eq_some_iff.1 at_index
    have inside' := items.length_eq ▸ inside
    obtain ⟨violation', h'⟩ := h.of_alike (items.get inside inside')
    exact ⟨violation', .rule found' list' (List.getElem?_eq_getElem inside') h'⟩

theorem Document.Alike.conforms {document document' : Document}
    (alike : document.Alike document')
    (conforms : ∀ place violation, ¬Violates document place violation) :
    ∀ place violation, ¬Violates document' place violation := by
  intro place violation violates
  obtain ⟨violation', violates'⟩ := violates.of_alike alike.symm
  exact conforms place violation' violates'

/-! ## Entries of alike documents -/

theorem RuleEntry.textOf_eq_of_alike {item item' : Document} (alike : item.Alike item')
    (field : RuleField) : textOf item field = textOf item' field := by
  rw [textOf, textOf]
  cases found : item.field? field.key with
  | none => rw [alike.field_eq_none found]
  | some value =>
    obtain ⟨value', found', below⟩ := alike.field found
    rw [found', Option.bind_some, Option.bind_some, below.text?_eq]

theorem RuleEntry.ofMapping_eq_of_alike {item item' : Document} (alike : item.Alike item') :
    ofMapping item = ofMapping item' := by
  simp only [ofMapping, textOf_eq_of_alike alike]

theorem RuleEntry.ofDocument_eq_of_alike {document document' : Document}
    (alike : document.Alike document') : ofDocument document = ofDocument document' := by
  rw [ofDocument, ofDocument]
  cases found : document.field? "rules" with
  | none => rw [alike.field_eq_none found]
  | some rules =>
    obtain ⟨rules', found', below⟩ := alike.field found
    rw [found', Option.bind_some, Option.bind_some]
    cases list : rules.items? with
    | none => rw [below.items?_eq_none list]
    | some items =>
      obtain ⟨items', list', pairs⟩ := below.items list
      rw [list', Option.getD_some, Option.getD_some]
      have entries : List.Forall₂ (fun item item' => ofMapping item = ofMapping item') items items' :=
        pairs.imp fun _ _ => ofMapping_eq_of_alike
      rwa [← List.forall₂_eq_eq_eq, List.forall₂_map_left_iff, List.forall₂_map_right_iff]

/-! ## Documents of the same texts -/

namespace Document

section

variable {document document' : Document}

theorem Alike.of_steps (face : document.face = document'.face)
    (steps : ∀ step, Option.Rel Alike (document.step? step) (document'.step? step)) :
    document.Alike document' := by
  intro place
  cases place with
  | nil => simpa [at?] using face
  | cons step place =>
    have below := steps step
    rw [at?, at?]
    generalize document.step? step = here at below
    generalize document'.step? step = there at below
    cases below with
    | none => rfl
    | some alike => exact alike place

theorem step?_eq_none_of_text {text : RawText} (shows : document.text? = some text)
    (step : Step) : document.step? step = none := by
  unfold text? Value.rawText? at shows
  cases step with
  | key name => cases top : document.top <;> simp_all [step?, field?, entries?]
  | index position => cases top : document.top <;> simp_all [step?, items?]

theorem Alike.of_text {text : RawText} (shows : document.text? = some text)
    (shows' : document'.text? = some text) : document.Alike document' := by
  refine .of_steps ?_ fun step => ?_
  · rw [text?_eq_some_iff.1 shows, text?_eq_some_iff.1 shows']
  · rw [step?_eq_none_of_text shows, step?_eq_none_of_text shows']
    exact .none

theorem isSome_lookup?_iff {entries : List (Value × Value)} {key : String} :
    (Value.lookup? entries key).isSome ↔ .text key ∈ entries.map (·.1) := by
  induction entries with
  | nil => simp [Value.lookup?]
  | cons entry entries ih =>
    obtain ⟨first, value⟩ := entry
    cases first with
    | text name =>
      by_cases same : name = key
      · simp [Value.lookup?, same]
      · simp [Value.lookup?, same, ih, Ne.symm same]
    | _ => simp [Value.lookup?, ih]

theorem step?_index_of_mapping (mapping : document.entries?.isSome) (position : Nat) :
    document.step? (.index position) = none := by
  unfold entries? at mapping
  cases top : document.top <;> simp_all [step?, items?]

theorem step?_key_of_list {items : List Document} (list : document.items? = some items)
    (name : String) : document.step? (.key name) = none := by
  unfold items? at list
  cases top : document.top <;> simp_all [step?, field?, entries?]

/-- A mapping without other keys than some shows which of these it has. -/
theorem face_eq_of_closed {known : List String} (mapping : document.entries?.isSome)
    (closed : document.keysOtherThan known = []) :
    document.face = .mapping {key | ∃ name ∈ known, key = .text name ∧
      (document.field? name).isSome} := by
  obtain ⟨entries, found⟩ := Option.isSome_iff_exists.1 mapping
  cases face : document.face with
  | mapping keys =>
    congr 1
    ext key
    rw [mem_keys_iff face, found, Option.getD_some]
    constructor
    · intro listed
      rw [keysOtherThan, found, Option.getD_some, List.filter_eq_nil_iff] at closed
      have here := closed key listed
      simp only [List.all_eq_true, Bool.not_eq_true', not_forall, Bool.not_eq_false] at here
      obtain ⟨name, member, same⟩ := here
      unfold Value.isText at same
      split at same
      · next text =>
        obtain rfl := of_decide_eq_true same
        refine ⟨text, member, rfl, ?_⟩
        simpa [field?, found] using isSome_lookup?_iff.2 listed
      · cases same
    · rintro ⟨name, _, rfl, present⟩
      exact isSome_lookup?_iff.1 (by simpa [field?, found] using present)
  | _ =>
    rw [entries?_eq_none_iff.2 (by simp [face])] at found
    cases found

theorem field?_eq_none_of_closed {known : List String}
    (closed : document.keysOtherThan known = []) {key : String} (other : key ∉ known) :
    document.field? key = none := by
  cases mapping : document.entries? with
  | none => exact field?_eq_none_of_entries? mapping key
  | some entries =>
    have face := face_eq_of_closed (by simp [mapping]) closed
    rw [← Option.not_isSome_iff_eq_none]
    intro present
    have listed : .text key ∈ entries.map (·.1) :=
      isSome_lookup?_iff.1 (by simpa [field?, mapping] using present)
    rw [show entries = document.entries?.getD [] by rw [mapping, Option.getD_some],
      ← mem_keys_iff face] at listed
    obtain ⟨name, member, same, _⟩ := listed
    cases same
    exact other member

theorem Alike.of_fields {known : List String} (mapping : document.entries?.isSome)
    (mapping' : document'.entries?.isSome) (closed : document.keysOtherThan known = [])
    (closed' : document'.keysOtherThan known = [])
    (fields : ∀ key ∈ known, Option.Rel Alike (document.field? key) (document'.field? key)) :
    document.Alike document' := by
  have present : ∀ key ∈ known, (document.field? key).isSome = (document'.field? key).isSome := by
    intro key member
    have here := fields key member
    generalize document.field? key = found at here
    generalize document'.field? key = found' at here
    cases here <;> rfl
  refine .of_steps ?_ fun step => ?_
  · rw [face_eq_of_closed mapping closed, face_eq_of_closed mapping' closed']
    congr 1
    ext key
    constructor
    · rintro ⟨name, member, rfl, here⟩
      exact ⟨name, member, rfl, present name member ▸ here⟩
    · rintro ⟨name, member, rfl, here⟩
      exact ⟨name, member, rfl, present name member ▸ here⟩
  · cases step with
    | key name =>
      by_cases member : name ∈ known
      · exact fields name member
      · rw [step?, step?, field?_eq_none_of_closed closed member,
          field?_eq_none_of_closed closed' member]
        exact .none
    | index position =>
      rw [step?_index_of_mapping mapping, step?_index_of_mapping mapping']
      exact .none

theorem Alike.of_items {items items' : List Document} (list : document.items? = some items)
    (list' : document'.items? = some items') (alike : List.Forall₂ Alike items items') :
    document.Alike document' := by
  refine .of_steps ?_ fun step => ?_
  · have length := length_items?_eq_some_iff.1 (congrArg (Option.map List.length) list)
    have length' := length_items?_eq_some_iff.1 (congrArg (Option.map List.length) list')
    rw [length, length', alike.length_eq]
  · cases step with
    | key name =>
      rw [step?_key_of_list list, step?_key_of_list list']
      exact .none
    | index position =>
      rw [step?, step?, list, list', Option.bind_some, Option.bind_some]
      clear list list'
      induction alike generalizing position with
      | nil => exact .none
      | cons here _ ih =>
        cases position with
        | zero => exact .some here
        | succ position => exact ih position

end

end Document

def Document.fieldTexts (item : Document) : List (Option RawText) :=
  RuleField.all.map fun field => (item.field? field.key).bind Document.text?

def Document.texts (document : Document) : List (List (Option RawText)) :=
  (((document.field? "rules").bind Document.items?).getD []).map Document.fieldTexts

theorem exists_text_of_field {item value : Document}
    (conforms : ∀ place violation, ¬RuleViolates item place violation) {field : RuleField}
    (found : item.field? field.key = some value) : ∃ text, value.text? = some text := by
  cases shows : value.text? with
  | none => exact absurd (.notText found shows) (conforms _ _)
  | some text => exact ⟨text, rfl⟩

theorem closed_of_conforms {item : Document}
    (conforms : ∀ place violation, ¬RuleViolates item place violation) :
    item.entries?.isSome ∧ item.keysOtherThan (RuleField.all.map RuleField.key) = [] := by
  refine ⟨Option.isSome_iff_ne_none.2 fun h => conforms _ _ (.notMapping h), ?_⟩
  by_contra others
  exact conforms _ _ (.otherKeys others)

theorem Document.Alike.of_fieldTexts {item item' : Document}
    (conforms : ∀ place violation, ¬RuleViolates item place violation)
    (conforms' : ∀ place violation, ¬RuleViolates item' place violation)
    (same : item.fieldTexts = item'.fieldTexts) : item.Alike item' := by
  have texts : ∀ field : RuleField, (item.field? field.key).bind Document.text? =
      (item'.field? field.key).bind Document.text? := by
    intro field
    have here := List.map_inj_left.1 same field
    exact here (by cases field <;> simp [RuleField.all])
  have fields : ∀ field : RuleField, Option.Rel Document.Alike (item.field? field.key)
      (item'.field? field.key) := by
    intro field
    have text := texts field
    cases found : item.field? field.key with
    | none =>
      cases found' : item'.field? field.key with
      | none => exact .none
      | some value' =>
        obtain ⟨text', shows'⟩ := exists_text_of_field conforms' found'
        simp [found, found', shows'] at text
    | some value =>
      obtain ⟨text', shows⟩ := exists_text_of_field conforms found
      cases found' : item'.field? field.key with
      | none => simp [found, found', shows] at text
      | some value' =>
        rw [found, found', Option.bind_some, Option.bind_some, shows] at text
        exact .some (.of_text shows text.symm)
  obtain ⟨mapping, closed⟩ := closed_of_conforms conforms
  obtain ⟨mapping', closed'⟩ := closed_of_conforms conforms'
  refine .of_fields mapping mapping' closed closed' fun key member => ?_
  obtain ⟨field, _, rfl⟩ := List.mem_map.1 member
  exact fields field

theorem exists_rules_of_conforms {document : Document}
    (conforms : ∀ place violation, ¬Violates document place violation) :
    document.entries?.isSome ∧ document.keysOtherThan ["rules"] = [] ∧
      ∃ rules items, document.field? "rules" = some rules ∧ rules.items? = some items ∧
        ∀ item ∈ items, ∀ place violation, ¬RuleViolates item place violation := by
  have mapping : document.entries?.isSome :=
    Option.isSome_iff_ne_none.2 fun h => conforms _ _ (.notMapping h)
  have closed : document.keysOtherThan ["rules"] = [] := by
    by_contra others
    exact conforms _ _ (.otherKeys others)
  refine ⟨mapping, closed, ?_⟩
  cases found : document.field? "rules" with
  | none => exact absurd (.missing mapping found) (conforms _ _)
  | some rules =>
    cases list : rules.items? with
    | none => exact absurd (.notList found list) (conforms _ _)
    | some items =>
      refine ⟨rules, items, rfl, list, fun item member place violation violates => ?_⟩
      obtain ⟨index, at_index⟩ := List.mem_iff_getElem?.1 member
      exact conforms _ _ (.rule found list at_index violates)

theorem Document.Alike.of_texts {document document' : Document}
    (conforms : ∀ place violation, ¬Violates document place violation)
    (conforms' : ∀ place violation, ¬Violates document' place violation)
    (same : document.texts = document'.texts) : document.Alike document' := by
  obtain ⟨mapping, others, rules, items, found, list, each⟩ :=
    exists_rules_of_conforms conforms
  obtain ⟨mapping', others', rules', items', found', list', each'⟩ :=
    exists_rules_of_conforms conforms'
  refine .of_fields mapping mapping' others others' fun key known => ?_
  obtain rfl := List.mem_singleton.1 known
  rw [found, found']
  refine .some (.of_items list list' ?_)
  rw [Document.texts, Document.texts, found, found', Option.bind_some, Option.bind_some, list, list',
    Option.getD_some, Option.getD_some, ← List.forall₂_eq_eq_eq, List.forall₂_map_left_iff,
    List.forall₂_map_right_iff] at same
  obtain ⟨length, rows⟩ := List.forall₂_iff_get.1 same
  refine List.forall₂_iff_get.2 ⟨length, fun index inside inside' => ?_⟩
  exact .of_fieldTexts (each _ (List.get_mem _ _)) (each' _ (List.get_mem _ _))
    (rows index inside inside')

end FileRouting
