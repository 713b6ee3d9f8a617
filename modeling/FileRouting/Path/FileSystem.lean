import FileRouting.Path.Basic
import FileRouting.Text.Quoted

/-!
# File systems

A file system is a tree of directories, regular files and symbolic links, seen from a working
directory. A path is followed name by name: `..` leads to the parent, a link is replaced by its
target, and after forty links the walk is given up.
-/

namespace FileRouting

open FileRouting.Text

/-- Where an entry is: the names from the root, none of them a link or a dot. -/
abbrev Location := List String

/-- What stands at a location. Modification times are nanoseconds from the start of 1970. -/
inductive Entry
  | directory (modified : Int)
  | file (content : List UInt8) (modified : Int)
  | link (target : String)
deriving DecidableEq

/-- A tree of entries and the directory that relative paths start from. -/
structure FileSystem where
  entries : List (Location × Entry)
  workingDirectory : Path

/-! ## Errors -/

/-- Why the system refuses to follow a path. -/
inductive FileFault
  | notFound
  | notDirectory
  | isDirectory
  | nameTooLong
  | tooManyLinks
deriving DecidableEq, Repr

/-- Why a path leads to no answer. -/
inductive PathError
  | nullCharacter
  | refused (fault : FileFault) (path : String)
  | linkLoop (path : String)
deriving DecidableEq

def FileFault.number : FileFault → Nat
  | notFound => 2
  | notDirectory => 20
  | isDirectory => 21
  | nameTooLong => 36
  | tooManyLinks => 40

def FileFault.message : FileFault → String
  | notFound => "No such file or directory"
  | notDirectory => "Not a directory"
  | isDirectory => "Is a directory"
  | nameTooLong => "File name too long"
  | tooManyLinks => "Too many levels of symbolic links"

def PathError.message : PathError → String
  | nullCharacter => "embedded null byte"
  | refused fault path =>
    "[Errno " ++ toString fault.number ++ "] " ++ fault.message ++ ": " ++ quote path
  | linkLoop path => "Symlink loop from " ++ quote path

namespace FileSystem

/-! ## Walking -/

/-- The most bytes of a name. -/
def maxNameSize : Nat := 255

/-- The most bytes of a written path. -/
def maxPathSize : Nat := 4095

/-- The most links that are followed in one walk. -/
def maxLinks : Nat := 40

/-- The entry at a location; the root is always a directory. -/
def entry? (fs : FileSystem) (location : Location) : Option Entry :=
  if location = [] then some (.directory 0) else fs.entries.lookup location

/-- Where names lead from a location, with `follow` for the names of a link's target and of what
comes behind it. -/
def walkWith (fs : FileSystem)
    (follow : Location → List String → Except FileFault Location) :
    Location → List String → Except FileFault Location
  | here, [] => .ok here
  | here, name :: names =>
    match fs.entry? here with
    | some (.directory _) =>
      if name = "" ∨ name = "." then walkWith fs follow here names
      else if name = ".." then walkWith fs follow here.dropLast names
      else if name.utf8ByteSize > maxNameSize then .error .nameTooLong
      else
        match fs.entry? (here ++ [name]) with
        | none => .error .notFound
        | some (.link target) =>
          let start := if (Path.Anchor.ofText target.toList) = .relative then here else []
          follow start (Path.namesOf target ++ names)
        | some _ => walkWith fs follow (here ++ [name]) names
    | some _ => .error .notDirectory
    | none => .error .notFound

/-- Where names lead from a location on a walk that may follow some more links. -/
def walk (fs : FileSystem) : (links : Nat) → Location → List String → Except FileFault Location
  | 0 => fs.walkWith fun _ _ => .error .tooManyLinks
  | links + 1 => fs.walkWith (fs.walk links)

def start (fs : FileSystem) (path : Path) : Location :=
  if path.isAbsolute then [] else fs.workingDirectory.names

def locate (fs : FileSystem) (path : Path) : Except PathError Location :=
  if '\x00' ∈ path.text.toList then .error .nullCharacter
  else if path.text.utf8ByteSize > maxPathSize then .error (.refused .nameTooLong path.text)
  else (fs.walk maxLinks (fs.start path) path.names).mapError (.refused · path.text)

/-! ## Asking -/

/-- The modification time at a path, or none where no file is to be found. A name that is too long
is an error. -/
def modified? (fs : FileSystem) (path : Path) : Except PathError (Option Int) :=
  match fs.locate path with
  | .error (.refused .nameTooLong text) => .error (.refused .nameTooLong text)
  | .error _ => .ok none
  | .ok location =>
    match fs.entry? location with
    | some (.directory modified) => .ok (some modified)
    | some (.file _ modified) => .ok (some modified)
    | _ => .ok none

def has (fs : FileSystem) (path : Path) : Except PathError Bool :=
  (fs.modified? path).map Option.isSome

def read (fs : FileSystem) (path : Path) : Except PathError (List UInt8) := do
  let location ← fs.locate path
  match fs.entry? location with
  | some (.file content _) => .ok content
  | some (.directory _) => .error (.refused .isDirectory path.text)
  | _ => .error (.refused .notFound path.text)

end FileSystem

end FileRouting
