import FileRouting.Text.Quoted
import FileRouting.Text.Similarity
import FileRouting.Text.Split

/-!
# Arguments

The words behind a command are options and arguments. An option starts with two hyphens; its value
is the next word or stands behind an equals sign. Two hyphens alone end the options. A word that
starts with a single hyphen is an option that no command has, except the hyphen alone.
-/

namespace FileRouting.Command

open FileRouting.Text

structure OptionForm where
  name : String
  takesValue : Bool
deriving DecidableEq

/-- A command as it is called: its words, what its usage line says behind them, and its options. -/
structure Usage where
  words : String
  form : String
  options : List OptionForm

/-- The line that shows how a command is called. -/
def Usage.line (usage : Usage) : String :=
  "Usage: " ++ usage.words ++ " " ++ usage.form

def helpOption : OptionForm := ⟨"--help", false⟩

/-- What is wrong with the words behind a command. -/
inductive UsageFault
  | missingValue (option : String)
  | unwantedValue (option : String)
  | unknownOption (name : String) (similar : List String)
  | unknownCommand (name : String) (similar : List String)
  | missingCommand
  | missingArgument (name : String)
  | extraArguments (words : List String)
  | illegalHeader (item : String)
deriving DecidableEq

namespace UsageFault

/-- What is asked where similar words are known. -/
def question : List String → String
  | [] => ""
  | [word] => " Did you mean " ++ quote word ++ "?"
  | words => " (Did you mean one of: " ++ ", ".intercalate (words.map quote) ++ "?)"

def message : UsageFault → String
  | missingValue option => "Option " ++ quote option ++ " requires an argument."
  | unwantedValue option => "Option " ++ quote option ++ " does not take a value."
  | unknownOption name similar => "No such option " ++ quote name ++ "." ++ question similar
  | unknownCommand name similar => "No such command " ++ quote name ++ "." ++ question similar
  | missingCommand => "Missing command."
  | missingArgument name => "Missing argument '" ++ name ++ "'."
  | extraArguments [word] => "Got unexpected extra argument (" ++ word ++ ")"
  | extraArguments words =>
    "Got unexpected extra arguments (" ++ " ".intercalate words ++ ")"
  | illegalHeader item =>
    "Invalid value for --header: Expected KEY=VALUE, got '" ++ item ++ "'"

/-- Whether the fault is told without a reminder of the usage. -/
def isBrief : UsageFault → Bool
  | missingValue _ | unwantedValue _ => true
  | _ => false

def lines (usage : Usage) (fault : UsageFault) : List String :=
  let error := "Error: " ++ fault.message
  if fault.isBrief then [error]
  else
    [usage.line, "Try '" ++ usage.words ++ " " ++ helpOption.name ++ "' for help.", "", error]

end UsageFault

/-! ## Words -/

/-- What a word is. A long option may bring its value along. -/
inductive Word
  | argument
  | endOfOptions
  | option (name : String) (value : Option String)
  | shortOption (name : String)
deriving DecidableEq

/-- The kind of a word. -/
def Word.ofText (text : String) : Word :=
  match text.toList with
  | ['-', '-'] => .endOfOptions
  | '-' :: '-' :: _ =>
    match cutAt? ['='] text.toList with
    | some (name, value) => .option (String.ofList name) (some (String.ofList value))
    | none => .option text none
  | '-' :: c :: _ => .shortOption (String.ofList ['-', c])
  | _ => .argument

/-- The options with their values, and the arguments, in their order. -/
structure Arguments where
  options : List (String × String)
  arguments : List String

namespace Arguments

/-- The last value of an option. -/
def value? (arguments : Arguments) (name : String) : Option String :=
  arguments.options.reverse.lookup name

def values (arguments : Arguments) (name : String) : List String :=
  (arguments.options.filter (·.1 = name)).map (·.2)

def has (arguments : Arguments) (name : String) : Bool :=
  arguments.options.any (·.1 = name)

/-- The arguments with an option before them. -/
def withOption (name value : String) (arguments : Arguments) : Arguments :=
  { arguments with options := (name, value) :: arguments.options }

def withArgument (word : String) (arguments : Arguments) : Arguments :=
  { arguments with arguments := word :: arguments.arguments }

/-- The options and arguments that words are. The first argument ends the options of a command that
is followed by another one. -/
def ofWords (options : List OptionForm) (leads : Bool) :
    List String → Except UsageFault Arguments
  | [] => .ok ⟨[], []⟩
  | word :: words =>
    match Word.ofText word with
    | .endOfOptions => .ok ⟨[], words⟩
    | .argument =>
      if leads then .ok ⟨[], word :: words⟩
      else (ofWords options leads words).map (withArgument word)
    | .shortOption name => .error (.unknownOption name [])
    | .option name value =>
      match options.find? (·.name = name), value, words with
      | none, _, _ => .error (.unknownOption name (similarWords (options.map (·.name)) name))
      | some ⟨_, false⟩, none, words => (ofWords options leads words).map (withOption name "")
      | some ⟨_, false⟩, some _, _ => .error (.unwantedValue name)
      | some ⟨_, true⟩, some value, words =>
        (ofWords options leads words).map (withOption name value)
      | some ⟨_, true⟩, none, value :: words =>
        (ofWords options leads words).map (withOption name value)
      | some ⟨_, true⟩, none, [] => .error (.missingValue name)

end Arguments

end FileRouting.Command
