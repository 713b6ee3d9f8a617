import FileRouting.DatePattern.Format
import FileRouting.Expression.Basic

/-!
# Evaluation

An expression is evaluated against an exchange. Beans and template engines may change the exchange
and count their calls, so evaluation passes a state along; where it fails the state stays as it was.
-/

namespace FileRouting

open FileRouting.Text FileRouting.Time

/-! ## Errors -/

/-- Why an expression has no value for an exchange. -/
inductive EvaluationError
  | attributeWithoutFile (read : Attribute)
  | dateWithoutFile
  | unknownCommand (command : String)
  | unregistered (bean : String)
  | notCallable (bean : String)
  | noMethod (bean method : String)
  | noRenderer (text : String)
deriving DecidableEq

def EvaluationError.message : EvaluationError → String
  | attributeWithoutFile read =>
    "file:" ++ read.key ++ " requires an exchange with a file"
  | dateWithoutFile => "date:file requires an exchange with a file or last_modified"
  | unknownCommand command => "Command not supported for dateExpression: " ++ command
  | unregistered bean => Registry.absentMessage bean
  | notCallable bean => "Bean '" ++ bean ++ "' is not callable and no method was given"
  | noMethod bean method => "Bean '" ++ bean ++ "' has no method '" ++ method ++ "'"
  | noRenderer text => "No template renderer configured for simple expression: " ++ text

/-- All that can end an evaluation without a value. -/
inductive Failure
  | evaluation (error : EvaluationError)
  | datePattern (error : DatePattern.Error)
  | date (fault : Date.Fault)
  | path (error : PathError)
  | action (error : ActionError)
  | undefined
deriving DecidableEq

def Failure.message : Failure → String
  | evaluation error => error.message
  | datePattern error => error.message
  | date fault => fault.message
  | path error => error.message
  | action error => error.message
  | undefined => ""

/-! ## Rendering -/

/-- The text of a header value in a template: of texts and whole numbers only. -/
def headerText? : Value → Option (List Char)
  | .text s => some s.toList
  | .int n => some (signedDecimal n)
  | _ => none

theorem length_behindHeader {head text name rest : List Char}
    (h : (after? head text).bind (cutAt? ['\x7d']) = some (name, rest)) :
    rest.length < text.length := by
  obtain ⟨behind, hbehind, hcut⟩ := Option.bind_eq_some_iff.1 h
  have htext := congrArg List.length (after?_eq_some_iff.1 hbehind)
  have hrest := congrArg List.length (eq_of_cutAt? hcut)
  simp only [List.length_append, List.length_cons, List.length_nil] at htext hrest
  omega

/-- A text with each `${in.header.NAME}` replaced by the header's text; what names no such header
stays. -/
def fillHeaders (headers : Entries) (text : List Char) : List Char :=
  match text with
  | [] => []
  | c :: text =>
    match h : (after? "$\x7bin.header.".toList (c :: text)).bind (cutAt? ['\x7d']) with
    | none => c :: fillHeaders headers text
    | some (name, rest) =>
      have : rest.length < (c :: text).length := length_behindHeader h
      ((headers.lookup (String.ofList name)).bind headerText?).elim (c :: fillHeaders headers text)
        fun value => value ++ fillHeaders headers rest
  termination_by text.length
  decreasing_by all_goals simp only [List.length_cons] at *; omega

/-- The value of a text in a template engine, where `calls` counts the calls including this one. -/
def Renderer.render (calls : Nat) (exchange : Exchange) (text : String) :
    Renderer → Except ActionError Value
  | prepend head => .ok (.text (head ++ text))
  | fillHeaders =>
    .ok (.text (String.ofList (FileRouting.fillHeaders exchange.headers text.toList)))
  | constant value => .ok value
  | countCalls => .ok (.int calls)
  | fail message => .error (.raised message)
  | other render => render calls exchange text

/-! ## Evaluating -/

/-- What evaluations change: the exchange, the counts kept with the beans, and the number of calls
of the template engine. -/
structure State where
  registry : Registry
  renders : Nat
  exchange : Exchange

/-- The text of an attribute of a file. -/
def Attribute.read (files : FileSystem) (file : Path) : Attribute → Except PathError String
  | name => .ok file.name
  | nameWithoutExtension => .ok (Path.withoutExtension file.name)
  | parent => .ok file.parent.text
  | path => .ok file.text
  | absolute => .ok (files.workingDirectory.join file).text
  | canonicalPath => (files.canonical file).map Path.text

/-- The stamp that a date command asks for. -/
def stampOf (host : Host) (exchange : Exchange) (command : String) : Except Failure Stamp :=
  if command = "now" then
    match ZonedTime.ofLocal host.today host.clock host.zone with
    | .ok moment => .ok (.zoned moment)
    | .error fault => .error (.date fault)
  else if command = "file" then
    match exchange.lastModified host with
    | .ok (some stamp) => .ok stamp
    | .ok none => .error (.evaluation .dateWithoutFile)
    | .error (.path e) => .error (.path e)
    | .error (.date fault) => .error (.date fault)
  else .error (.evaluation (.unknownCommand command))

/-- Formats the stamp that a date command asks for. -/
def evaluateDate (host : Host) (exchange : Exchange) (command pattern : String) :
    Except Failure Value := do
  let stamp ← stampOf host exchange command
  match DatePattern.format host.zone stamp pattern with
  | .ok text => .ok (.text text)
  | .error (.date fault) => .error (.date fault)
  | .error (.pattern e) => .error (.datePattern e)

/-- Calls what a reference names, with the beans that are registered now. -/
def Reference.call (reference : Reference) (state : State) : Except Failure (Value × State) :=
  match state.registry.find? reference.bean with
  | none => .error (.evaluation (.unregistered reference.bean))
  | some registered =>
    match registered.bean.action? reference.method with
    | none =>
      .error (.evaluation
        (match reference.method with
        | none => .notCallable reference.bean
        | some method => .noMethod reference.bean method))
    | some action =>
      let (runs, registry) := state.registry.countRun reference.bean reference.method
      match action.run runs state.exchange with
      | .error e => .error (.action e)
      | .ok (value, exchange) => .ok (value, { state with registry, exchange })

/-- The value of an expression, and the state after finding it. -/
def Expression.evaluate (host : Host) (state : State) :
    Expression → Except Failure (Value × State)
  | file a =>
    match state.exchange.file with
    | none => .error (.evaluation (.attributeWithoutFile a))
    | some path =>
      match a.read host.files path with
      | .ok text => .ok (.text text, state)
      | .error e => .error (.path e)
  | date command pattern =>
    (evaluateDate host state.exchange command pattern).map fun value => (value, state)
  | bean _ reference => reference.call state
  | simple text none => .error (.evaluation (.noRenderer text))
  | simple text (some renderer) =>
    match renderer.render (state.renders + 1) state.exchange text with
    | .ok value => .ok (value, { state with renders := state.renders + 1 })
    | .error e => .error (.action e)

/-- The value of an expression of any kind; a kind that says nothing on evaluation has none. -/
def evaluateAny (host : Host) (state : State) :
    Option Expression → Except Failure (Value × State)
  | some expression => expression.evaluate host state
  | none => .error .undefined

end FileRouting
