import FileRouting.Yaml.Error

/-!
# Values and errors of computations

What a computation gives and what it raises are stated together, so a proof follows the steps of the
function that it is about. A step that changes a state has a property of the state before it and one
of the state behind it as well.
-/

namespace FileRouting.Yaml

/-! ## Computations -/

/-- Whether the value that a computation gives has a property, or the error that it raises has
another. -/
def Yields {α ε : Type} (gives : α → Prop) (raises : ε → Prop) : Except ε α → Prop
  | .ok value => gives value
  | .error error => raises error

section Yields

variable {α β ε : Type} {gives : α → Prop} {after : β → Prop} {raises : ε → Prop}
  {x : Except ε α}

theorem Yields.bind (first : Yields gives raises x) {f : α → Except ε β}
    (continues : ∀ value, gives value → Yields after raises (f value)) :
    Yields after raises (x >>= f) := by
  cases x with
  | error error => exact first
  | ok value => exact continues value first

theorem Yields.map (first : Yields gives raises x) {f : α → β}
    (continues : ∀ value, gives value → after (f value)) : Yields after raises (x.map f) := by
  cases x with
  | error error => exact first
  | ok value => exact continues value first

theorem Yields.imp (first : Yields gives raises x) {weaker : α → Prop} {reasons : ε → Prop}
    (continues : ∀ value, gives value → weaker value)
    (breaks : ∀ error, raises error → reasons error) : Yields weaker reasons x := by
  cases x with
  | error error => exact breaks error first
  | ok value => exact continues value first

theorem Yields.mono (first : Yields gives raises x) {weaker : α → Prop}
    (continues : ∀ value, gives value → weaker value) : Yields weaker raises x :=
  first.imp continues fun _ raised => raised

theorem Yields.error (yields : Yields gives raises x) {error : ε} (raised : x = .error error) :
    raises error := by
  rwa [raised] at yields

theorem Yields.ok (yields : Yields gives raises x) {value : α} (given : x = .ok value) :
    gives value := by
  rwa [given] at yields

end Yields

theorem yields_forIn {α ε : Type} {raises : ε → Prop} {holds : α → Prop} {items : List α}
    {body : α → PUnit → Except ε (ForInStep PUnit)}
    (step : ∀ a ∈ items, Yields (fun next => next = .yield ⟨⟩ ∧ holds a) raises (body a ⟨⟩)) :
    Yields (fun _ => ∀ a ∈ items, holds a) raises (forIn items PUnit.unit body) := by
  induction items with
  | nil =>
    intro a member
    cases member
  | cons a items ih =>
    rw [List.forIn_cons]
    refine (step a List.mem_cons_self).bind ?_
    rintro _ ⟨rfl, first⟩
    refine (ih fun b member => step b (List.mem_cons_of_mem a member)).mono ?_
    intro _ others b member
    rcases List.mem_cons.1 member with rfl | member
    · exact first
    · exact others b member

theorem yields_mapM {α β ε : Type} {raises : ε → Prop} {read : α → Except ε β}
    (each : ∀ a, Yields (fun _ => True) raises (read a)) (items : List α) :
    Yields (fun _ => True) raises (items.mapM read) := by
  induction items with
  | nil => trivial
  | cons a items ih =>
    rw [List.mapM_cons]
    refine (each a).bind fun _ _ => ?_
    exact ih.bind fun _ _ => trivial

/-! ## Computations with a state -/

/-- Whether a computation that starts in a state with a property yields a value and a state with
another one. -/
def Meets {α σ ε : Type} (raises : ε → Prop) (before : σ → Prop) (step : StateT σ (Except ε) α)
    (after : α → σ → Prop) : Prop :=
  ∀ state, before state → Yields (fun out => after out.1 out.2) raises (step state)

section Meets

variable {α β σ ε : Type} {raises : ε → Prop} {before : σ → Prop} {middle : α → σ → Prop}
  {after : β → σ → Prop} {step : StateT σ (Except ε) α}

theorem Meets.bind (first : Meets raises before step middle) {f : α → StateT σ (Except ε) β}
    (continues : ∀ value, Meets raises (middle value) (f value) after) :
    Meets raises before (step >>= f) after := by
  intro state holds
  refine (first state holds).bind ?_
  rintro ⟨value, state⟩ holds
  exact continues value state holds

theorem Meets.mono (meets : Meets raises before step middle) {earlier : σ → Prop}
    {later : α → σ → Prop} (weakens : ∀ state, earlier state → before state)
    (continues : ∀ value state, middle value state → later value state) :
    Meets raises earlier step later :=
  fun state holds => (meets state (weakens state holds)).mono fun out => continues out.1 out.2

theorem meets_pure {value : α} (holds : ∀ state, before state → middle value state) :
    Meets raises before (pure value : StateT σ (Except ε) α) middle :=
  fun state => holds state

theorem meets_throw {error : ε} (raised : ∀ state, before state → raises error) :
    Meets raises before (throw error : StateT σ (Except ε) α) middle :=
  fun state => raised state

theorem meets_get : Meets raises before (get : StateT σ (Except ε) σ)
    fun value state => value = state ∧ before state :=
  fun _ holds => ⟨rfl, holds⟩

theorem meets_read : Meets raises before (get : StateT σ (Except ε) σ) fun _ => before :=
  fun _ holds => holds

theorem meets_modify {change : σ → σ} {changed : σ → Prop}
    (holds : ∀ state, before state → changed (change state)) :
    Meets raises before (modify change : StateT σ (Except ε) PUnit) fun _ => changed :=
  fun state => holds state

/-- A step that leaves the state alone. -/
theorem meets_lift {gives : α → Prop} {x : Except ε α}
    (yields : ∀ state, before state → Yields gives raises x) :
    Meets raises before (liftM x : StateT σ (Except ε) α)
      fun value state => gives value ∧ before state := by
  intro state out
  refine (yields state out).bind ?_
  exact fun value given => ⟨given, out⟩

end Meets

/-! ## Lists of steps -/

section Steps

variable {α β σ ε : Type} {raises : ε → Prop} {holds : σ → Prop}

theorem meets_mapM {step : α → StateT σ (Except ε) β} {items : List α}
    (each : ∀ a ∈ items, Meets raises holds (step a) fun _ => holds) :
    Meets raises holds (items.mapM step) fun _ => holds := by
  induction items with
  | nil => exact meets_pure fun _ out => out
  | cons a items ih =>
    rw [List.mapM_cons]
    refine (each a List.mem_cons_self).bind fun _ => ?_
    refine (ih fun b member => each b (List.mem_cons_of_mem a member)).bind fun _ => ?_
    exact meets_pure fun _ out => out

theorem meets_foldlM {step : β → α → StateT σ (Except ε) β} {items : List α}
    (each : ∀ b a, Meets raises holds (step b a) fun _ => holds) (start : β) :
    Meets raises holds (items.foldlM step start) fun _ => holds := by
  induction items generalizing start with
  | nil => exact meets_pure fun _ out => out
  | cons a items ih =>
    rw [List.foldlM_cons]
    exact (each start a).bind ih

end Steps

end FileRouting.Yaml
