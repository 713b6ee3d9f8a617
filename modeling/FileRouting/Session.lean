import FileRouting.Expression.Evaluation
import FileRouting.Expression.Pattern
import FileRouting.Path.Edit

/-!
# Sessions

A session works with one language and one registry. It compiles patterns to expressions under names,
evaluates them for exchanges under names, and keeps a record of all texts that the language was
handed. Between its steps beans, exchanges, files and the clock may change.
-/

namespace FileRouting

open FileRouting.Time

structure Session where
  host : Host
  language : Language
  registry : Registry
  renders : Nat
  expressions : List (String × Expression)
  exchanges : List (String × Exchange)
  handedOn : List Delegation

/-- A change of an exchange. What is not given stays. -/
structure Exchange.Change where
  headers : Entries
  properties : Entries
  file : Option (Option Path)
  modified : Option (Option Stamp)

inductive Session.Step
  | register (name : String) (bean : Bean)
  | clear
  | find (name : String)
  | isRegistered (name : String)
  | names
  | compile (pattern name : String)
  | create (pattern name : String)
  | setExchange (name : String) (exchange : Exchange)
  | changeExchange (name : String) (change : Exchange.Change)
  | showExchange (name : String)
  | evaluate (expression exchange : String)
  | compare (first second : String)
  | editFiles (edits : List FileSystem.Edit)
  | setClock (today : Date) (clock : TimeOfDay)

/-- What a step answers. -/
inductive Session.Answer
  | done
  | bean (bean : Bean)
  | truth (value : Bool)
  | names (names : List String)
  | compilation (compilation : Compilation)
  | expression (expression : Expression)
  | exchange (exchange : Exchange) (modified : Option Stamp)
  | value (value : Value)

/-- Why a step has no answer. -/
inductive Session.StepError
  | unregistered (bean : String)
  | syntaxError (error : SyntaxError)
  | evaluation (failure : Failure)
  | modified (error : ModifiedError)
  | noExpression (name : String)

def Exchange.change (exchange : Exchange) (change : Change) : Exchange where
  file := change.file.getD exchange.file
  headers :=
    change.headers.foldl (fun all entry => Entries.set entry.1 entry.2 all) exchange.headers
  properties :=
    change.properties.foldl (fun all entry => Entries.set entry.1 entry.2 all) exchange.properties
  modified := change.modified.getD exchange.modified

namespace Session

/-- A session at its start, with one exchange under the empty name. -/
def start (host : Host) (renderer : Option Renderer) (exchange : Exchange) : Session where
  host := host
  language := .standard renderer
  registry := .empty
  renders := 0
  expressions := []
  exchanges := [("", exchange)]
  handedOn := []

def exchange (session : Session) (name : String) : Exchange :=
  (session.exchanges.lookup name).getD .empty

def setExchange (session : Session) (name : String) (exchange : Exchange) : Session :=
  { session with exchanges := (name, exchange) :: session.exchanges }

/-- The session after a pattern was compiled. An expression is kept under a name, in place of any
other. -/
def compiled (session : Session) (pattern name : String) : Session :=
  let expressions :=
    match session.language.create pattern with
    | .ok expression => (name, expression) :: session.expressions
    | .error _ => session.expressions
  let handedOn := (session.language.events pattern).filterMap Event.delegation?
  { session with expressions, handedOn := session.handedOn ++ handedOn }

/-- The answer to evaluating an expression for an exchange, and the session after it. -/
def evaluate (session : Session) (expression : Expression) (name : String) :
    Except StepError Answer × Session :=
  let state : State := ⟨session.registry, session.renders, session.exchange name⟩
  match expression.evaluate session.host state with
  | .ok (value, state) =>
    let session := session.setExchange name state.exchange
    (.ok (.value value), { session with registry := state.registry, renders := state.renders })
  | .error failure => (.error (.evaluation failure), session)

def step (session : Session) : Step → Except StepError Answer × Session
  | .register name bean =>
    (.ok .done, { session with registry := session.registry.register name bean })
  | .clear => (.ok .done, { session with registry := .empty })
  | .find name =>
    match session.registry.find? name with
    | some registered => (.ok (.bean registered.bean), session)
    | none => (.error (.unregistered name), session)
  | .isRegistered name => (.ok (.truth (session.registry.isRegistered name)), session)
  | .names => (.ok (.names session.registry.names), session)
  | .compile pattern name =>
    (.ok (.compilation (session.language.compile pattern)), session.compiled pattern name)
  | .create pattern name =>
    match session.language.create pattern with
    | .ok expression => (.ok (.expression expression), session.compiled pattern name)
    | .error error => (.error (.syntaxError error), session.compiled pattern name)
  | .setExchange name exchange => (.ok .done, session.setExchange name exchange)
  | .changeExchange name change =>
    (.ok .done, session.setExchange name ((session.exchange name).change change))
  | .showExchange name =>
    match (session.exchange name).lastModified session.host with
    | .ok modified => (.ok (.exchange (session.exchange name) modified), session)
    | .error error => (.error (.modified error), session)
  | .evaluate expression exchange =>
    match session.expressions.lookup expression with
    | some e => session.evaluate e exchange
    | none => (.error (.noExpression expression), session)
  | .compare first second =>
    match session.expressions.lookup first, session.expressions.lookup second with
    | some e, some e' => (.ok (.truth (e.same e')), session)
    | none, _ => (.error (.noExpression first), session)
    | _, none => (.error (.noExpression second), session)
  | .editFiles edits =>
    let files := edits.foldl FileSystem.edit session.host.files
    (.ok .done, { session with host := { session.host with files } })
  | .setClock today clock =>
    (.ok .done, { session with host := { session.host with today, clock } })

/-- The answers to steps, and the session after them. -/
def run (session : Session) : List Step → List (Except StepError Answer) × Session
  | [] => ([], session)
  | step :: steps =>
    let (answer, session) := session.step step
    let (answers, session) := session.run steps
    (answer :: answers, session)

end Session

end FileRouting
