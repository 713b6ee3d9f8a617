import FileRouting.Yaml.Error

/-!
# Tokens of a YAML stream
-/

namespace FileRouting.Yaml

open FileRouting.Text

/-- A tag as it is written: a handle with a suffix, or a whole tag. -/
structure TagName where
  handle : Option String
  suffix : String
deriving DecidableEq

/-- What a directive says; unknown directives say nothing. -/
inductive Directive
  | version (major minor : Nat)
  | tag (handle head : String)
  | unknown
deriving DecidableEq

/-- The pieces of a stream. Block collections start and end where the indentation changes. -/
inductive Token
  | directive (directive : Directive)
  | documentStart
  | documentEnd
  | blockSequenceStart
  | blockMappingStart
  | blockEnd
  | flowSequenceStart
  | flowSequenceEnd
  | flowMappingStart
  | flowMappingEnd
  | entry
  | flowEntry
  | key
  | value
  | alias (name : String)
  | anchor (name : String)
  | tag (name : TagName)
  | scalar (text : RawText) (plain : Bool)
deriving DecidableEq

/-- Tokens, and the error that lies behind them, if any. -/
structure Tokens where
  tokens : List Token
  behind : Option Error

end FileRouting.Yaml
