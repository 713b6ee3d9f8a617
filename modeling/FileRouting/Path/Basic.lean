import FileRouting.Text.Split

/-!
# Paths

A path is a sequence of names behind an anchor. Reading a path drops empty names and names that are
a single dot, so every path has one written form; `..` is a name like any other.
-/

namespace FileRouting

open FileRouting.Text

/-- Where a path starts: at the working directory, at the root, or at the root as written with two
slashes. -/
inductive Path.Anchor
  | relative
  | root
  | doubleRoot
deriving DecidableEq, Repr

/-- Whether a text can stand between two slashes of a path. -/
def Path.IsName (name : String) : Prop :=
  name ≠ "" ∧ name ≠ "." ∧ '/' ∉ name.toList

instance (name : String) : Decidable (Path.IsName name) :=
  inferInstanceAs (Decidable (_ ∧ _ ∧ _))

/-- A path in its only written form. -/
@[ext]
structure Path where
  anchor : Path.Anchor
  names : List String
  isName : ∀ name ∈ names, Path.IsName name
deriving DecidableEq

namespace Path

/-! ## Reading and writing -/

/-- Only exactly two slashes at the start are kept apart from one. -/
def Anchor.ofText : List Char → Anchor
  | '/' :: '/' :: '/' :: _ => root
  | '/' :: '/' :: _ => doubleRoot
  | '/' :: _ => root
  | _ => relative

def Anchor.text : Anchor → List Char
  | relative => []
  | root => ['/']
  | doubleRoot => ['/', '/']

/-- The path of these names, less those that no path keeps. -/
def ofNames (anchor : Anchor) (names : List String) : Path where
  anchor := anchor
  names := names.filter (IsName ·)
  isName := by simp

/-- The texts between the slashes. -/
def namesOf (text : String) : List String :=
  (fields '/' text.toList).map String.ofList

def ofText (text : String) : Path :=
  ofNames (.ofText text.toList) (namesOf text)

/-- The written form of a path, a single dot for the empty one. -/
def text (path : Path) : String :=
  if path.anchor = .relative ∧ path.names = [] then "."
  else String.ofList (path.anchor.text ++ joinFields '/' (path.names.map String.toList))

/-! ## Parts -/

def isAbsolute (path : Path) : Bool :=
  path.anchor ≠ .relative

/-- The last name, empty if there is none. -/
def name (path : Path) : String :=
  path.names.getLast?.getD ""

/-- The path without its last name; a path without names is its own parent. -/
def parent (path : Path) : Path where
  anchor := path.anchor
  names := path.names.dropLast
  isName := fun name h => path.isName name ((List.dropLast_sublist path.names).subset h)

/-- A name up to its last dot. -/
def withoutExtension (name : String) : String :=
  match cutAtLast? '.' name.toList with
  | some (stem, _) => String.ofList stem
  | none => name

/-! ## Joining -/

/-- A path seen from a directory: an absolute path stands for itself. -/
def join (directory path : Path) : Path :=
  if path.isAbsolute then path
  else
    { anchor := directory.anchor
      names := directory.names ++ path.names
      isName := by
        intro name h
        rcases List.mem_append.1 h with h | h
        · exact directory.isName name h
        · exact path.isName name h }

end Path

end FileRouting
