import FileRouting.Exchange

/-!
# Beans

A bean is a value, a function of an exchange, or an object with methods and other attributes that
may itself be callable. Beans are registered under names; a name is looked up when an expression is
evaluated, and the last bean registered under it counts.
-/

namespace FileRouting

open FileRouting.Text

/-! ## Actions -/

/-- Why an action has no result. -/
inductive ActionError
  | absent (name : String)
  | raised (message : String)
deriving DecidableEq

/-- What a function or method does with an exchange. Whatever else one does is a function of the
number of its runs and the exchange. -/
inductive Action
  | constant (value : Value)
  | header (name : String)
  | property (name : String)
  | path
  | fail (message : String)
  | setHeader (name : String) (value : Value)
  | setProperty (name : String) (value : Value)
  | countCalls
  | other (run : Nat → Exchange → Except ActionError (Value × Exchange))

/-- What is said of an action without a result; an absent name is quoted. -/
def ActionError.message : ActionError → String
  | absent name => quote name
  | raised message => message

/-- The result of an action, and the exchange after it, where `calls` counts its runs including this
one. -/
def Action.run (calls : Nat) (exchange : Exchange) : Action → Except ActionError (Value × Exchange)
  | constant value => .ok (value, exchange)
  | header name =>
    match exchange.headers.lookup name with
    | some value => .ok (value, exchange)
    | none => .error (.absent name)
  | property name =>
    match exchange.properties.lookup name with
    | some value => .ok (value, exchange)
    | none => .error (.absent name)
  | path => .ok ((exchange.file.map fun file => Value.text file.text).getD .null, exchange)
  | fail message => .error (.raised message)
  | setHeader name value =>
    let headers := Entries.set name value exchange.headers
    .ok (.int headers.length, { exchange with headers })
  | setProperty name value =>
    let properties := Entries.set name value exchange.properties
    .ok (.int properties.length, { exchange with properties })
  | countCalls => .ok (.int calls, exchange)
  | other run => run calls exchange

/-! ## Beans -/

/-- What can be registered. -/
inductive Bean
  | value (value : Value)
  | function (action : Action)
  | object (methods : List (String × Action)) (attributes : Entries) (call : Option Action)

namespace Bean

/-- The action of calling the bean itself. -/
def callable? : Bean → Option Action
  | value _ => none
  | function action => some action
  | object _ _ call => call

/-- The action of a method. An attribute of the same name hides it. -/
def method? (name : String) : Bean → Option Action
  | object methods attributes _ =>
    if (attributes.lookup name).isSome then none else methods.lookup name
  | _ => none

def action? (bean : Bean) : Option String → Option Action
  | none => bean.callable?
  | some name => bean.method? name

end Bean

/-! ## The registry -/

/-- A registered bean, with the number of runs of each of its actions so far. -/
structure Registered where
  bean : Bean
  runs : List (Option String × Nat)

/-- The registered beans by name. -/
structure Registry where
  beans : List (String × Registered)

namespace Registry

def empty : Registry := ⟨[]⟩

/-- The registry with a bean under a name, in place of any other. -/
def register (registry : Registry) (name : String) (bean : Bean) : Registry :=
  ⟨(name, ⟨bean, []⟩) :: registry.beans.filter (·.1 ≠ name)⟩

def find? (registry : Registry) (name : String) : Option Registered :=
  registry.beans.lookup name

def isRegistered (registry : Registry) (name : String) : Bool :=
  (registry.find? name).isSome

/-- The registered names in rising order. -/
def names (registry : Registry) : List String :=
  (registry.beans.map (·.1)).mergeSort fun a b => decide (a ≤ b)

/-- How often an action of a bean has run, and the registry after one more run. -/
def countRun (registry : Registry) (name : String) (method : Option String) : Nat × Registry :=
  match registry.find? name with
  | none => (0, registry)
  | some registered =>
    let runs := (registered.runs.lookup method).getD 0 + 1
    let counted := (method, runs) :: registered.runs.filter (·.1 ≠ method)
    (runs, ⟨registry.beans.map fun entry =>
      if entry.1 = name then (name, { registered with runs := counted }) else entry⟩)

/-- What is said of a name that no bean is registered under. -/
def absentMessage (name : String) : String :=
  "Bean '" ++ name ++ "' is not registered. " ++
    "Beans must be registered before expressions using them are evaluated."

end Registry

end FileRouting
