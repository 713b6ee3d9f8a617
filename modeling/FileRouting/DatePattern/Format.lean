import FileRouting.DatePattern.Token

/-!
# Formatting by a date pattern

A stamp is first put into its zone, then the pattern is read, and then every field is replaced by
its text for that moment.
-/

namespace FileRouting.DatePattern

open FileRouting.Time

/-- Why a stamp cannot be formatted: its place in the calendar comes before the pattern. -/
inductive FormatError
  | date (fault : Date.Fault)
  | pattern (error : Error)
deriving DecidableEq

def Piece.text (moment : ZonedTime) : Piece → List Char
  | .field f count => f.text moment count
  | .literal text => text

def render (moment : ZonedTime) (tokens : List Token) : List Char :=
  tokens.flatMap fun token => token.piece.text moment

def formatMoment (moment : ZonedTime) (pattern : String) : Except Error String :=
  (tokens pattern).map fun tokens => String.ofList (render moment tokens)

/-- A stamp formatted by a pattern; a stamp without a zone is in the local one. -/
def format (localZone : Zone) (stamp : Stamp) (pattern : String) : Except FormatError String :=
  match stamp.inZone localZone with
  | .error fault => .error (.date fault)
  | .ok moment => (formatMoment moment pattern).mapError .pattern

end FileRouting.DatePattern
