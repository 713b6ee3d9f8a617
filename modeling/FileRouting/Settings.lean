import FileRouting.Log
import FileRouting.Path.Basic
import FileRouting.Text.UpperCase

/-!
# Settings

Where the rules are read from and how much is logged. Both can be set by variables of the
environment.
-/

namespace FileRouting

open FileRouting.Text

/-- The variables of the environment that are set. -/
abbrev Environment := List (String × String)

/-- The rules file to use and the name of the log level. -/
structure Settings where
  rulesFile : Path
  logLevel : String
deriving DecidableEq

namespace Settings

def rulesFileName : Path :=
  .ofText "rules.yaml"

def defaultLogLevel : String := "WARNING"

/-- The settings of an environment: the rules file is the one that a variable names if it is not
empty, or else the one in the base directory, which is the working directory unless it is given. -/
def ofEnvironment (environment : Environment) (workingDirectory : Path) (base : Option Path) :
    Settings where
  rulesFile :=
    match environment.lookup "FILELANG_RULES_PATH" with
    | none | some "" => (base.getD workingDirectory).join rulesFileName
    | some text => .ofText text
  logLevel := upper ((environment.lookup "FILELANG_LOG_LEVEL").getD defaultLogLevel)

/-- The least level that is logged; an unknown name stands for warnings. -/
def threshold (settings : Settings) : LogLevel :=
  (LogLevel.ofName? settings.logLevel).getD .warning

end Settings

end FileRouting
