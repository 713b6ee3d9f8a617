import FileRouting.Command.Compile
import FileRouting.Command.Rules

/-!
# The command line

The first word names a command or a group of commands. Options stand anywhere behind a command, but
between the names only those that no command has.
-/

namespace FileRouting.Command

open FileRouting.Text

/-! ## Usages -/

def rootUsage : Usage where
  words := "filelang"
  form := "[OPTIONS] COMMAND [ARGS]..."
  options := [helpOption]

def rulesUsage : Usage where
  words := "filelang rules"
  form := "[OPTIONS] COMMAND [ARGS]..."
  options := [helpOption]

def validateUsage : Usage where
  words := "filelang rules validate"
  form := "[OPTIONS]"
  options := [⟨"--strict", false⟩, ⟨"--path", true⟩, helpOption]

def listUsage : Usage where
  words := "filelang rules list"
  form := "[OPTIONS]"
  options := [⟨"--path", true⟩, helpOption]

/-! ## Words -/

/-- The outcome of a command with its arguments, unless they cannot be read or ask for help. -/
def withArguments (usage : Usage) (leads : Bool) (words : List String)
    (use : Arguments → Outcome) : Outcome :=
  match Arguments.ofWords usage.options leads words with
  | .error fault => .misuse usage fault
  | .ok arguments =>
    if arguments.has helpOption.name then .success [.ofString usage.line] else use arguments

/-- The outcome of a group of commands, which runs the command that the first argument names with
the words behind it. What names no command may still be an option, even behind two hyphens. -/
def withCommand (usage : Usage) (words : List String)
    (commands : List (String × (List String → Outcome))) : Outcome :=
  withArguments usage true words fun arguments =>
    match arguments.arguments with
    | [] => .misuse usage .missingCommand
    | name :: words =>
      match commands.lookup name with
      | some command => command words
      | none =>
        withArguments usage true (name :: words) fun _ =>
          .misuse usage (.unknownCommand name (similarWords (commands.map (·.1)) name))

/-- The outcome with the path in an option. No path holds a null character. -/
def withPath (arguments : Arguments) (option : String) (use : Option Path → Outcome) : Outcome :=
  match arguments.value? option with
  | none => use none
  | some text =>
    if '\x00' ∈ text.toList then .broken (.path .nullCharacter) else use (some (.ofText text))

/-- The outcome of a command, if no argument is left over. -/
def noMore (usage : Usage) (words : List String) (outcome : Outcome) : Outcome :=
  if words.isEmpty then outcome else .misuse usage (.extraArguments words)

/-! ## Commands -/

def runCompile (host : Host) (registry : Registry) (settings : Settings) (words : List String) :
    Outcome :=
  let usage := CompileRequest.usage
  withArguments usage false words fun arguments =>
    withPath arguments "--file" fun file =>
      match arguments.arguments with
      | [] => .misuse usage (.missingArgument "PATTERN")
      | pattern :: rest =>
        noMore usage rest <| compile host registry settings.threshold
          ⟨pattern, file, arguments.values "--header", arguments.has "--json"⟩

def runValidate (files : FileSystem) (settings : Settings) (words : List String) : Outcome :=
  withArguments validateUsage false words fun arguments =>
    withPath arguments "--path" fun file =>
      noMore validateUsage arguments.arguments <|
        validate files settings (arguments.has "--strict") file

def runList (files : FileSystem) (settings : Settings) (words : List String) : Outcome :=
  withArguments listUsage false words fun arguments =>
    withPath arguments "--path" fun file =>
      noMore listUsage arguments.arguments <| list files settings file

def runRules (files : FileSystem) (settings : Settings) (words : List String) : Outcome :=
  withCommand rulesUsage words
    [("validate", runValidate files settings), ("list", runList files settings)]

/-- Runs the command that words name. -/
def run (host : Host) (registry : Registry) (environment : Environment) (words : List String) :
    Outcome :=
  let settings := Settings.ofEnvironment environment host.files.workingDirectory none
  withCommand rootUsage words
    [("compile", runCompile host registry settings), ("rules", runRules host.files settings)]

end FileRouting.Command
