import FileRouting.Path.FileSystem
import FileRouting.Rules.RuleBook
import FileRouting.Yaml.Document

/-!
# Rules files

A rules file is a YAML stream in UTF-8. A stream that breaks the grammar, and one without content,
give a book with one issue. What ends the reading is a file that cannot be read, any other fault of
the stream, and an issue that cannot be written.
-/

namespace FileRouting

open FileRouting.Text

/-- Why a rules file gives no book. -/
inductive LoadError
  | path (error : PathError)
  | stream (fault : Yaml.Fault)
  | unprintable (reason : Document.Unprintable)
deriving DecidableEq

def LoadError.message : LoadError → String
  | path error => error.message
  | stream fault => fault.message
  | unprintable reason => reason.message

namespace RuleBook

/-- The book of a file about which there is one thing to say. -/
def ofFinding (finding : Finding) : RuleBook :=
  ⟨[], [⟨Place.document, finding⟩]⟩

def ofStream (language : Language) (document : Document) :
    Except LoadError (RuleBook × List LoadEvent) :=
  match document.top with
  | .null => .ok (ofFinding .empty, [])
  | _ => (ofDocument language document).mapError .unprintable

def ofBytes (language : Language) (bytes : List UInt8) :
    Except LoadError (RuleBook × List LoadEvent) :=
  match Yaml.read (.ofBytes bytes) with
  | .ok document => ofStream language document
  | .error .malformed => .ok (ofFinding .unreadable, [])
  | .error (.fault fault) => .error (.stream fault)

def load (language : Language) (files : FileSystem) (path : Path) :
    Except LoadError (RuleBook × List LoadEvent) :=
  match files.read path with
  | .ok bytes => ofBytes language bytes
  | .error error => .error (.path error)

end RuleBook

end FileRouting
