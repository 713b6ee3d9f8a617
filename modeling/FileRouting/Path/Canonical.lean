import FileRouting.Path.FileSystem

/-!
# Canonical paths

The canonical form of a path is absolute and has neither dots nor links. Names are taken from left
to right: `..` drops the name before it, a link is replaced by the canonical form of its target,
and what does not exist is kept as it is. A link that is met while its own target is still being
resolved is a loop; what is left of the way is then put behind it as it is written.
-/

namespace FileRouting

open FileRouting.Text

/-- The part of a path that is resolved: the names behind an anchor. Without a root, some `..` may
stand at the start. -/
structure Trail where
  anchor : Path.Anchor
  names : List String
deriving DecidableEq

namespace Trail

def root : Trail := ⟨.root, []⟩

def isAbsolute (trail : Trail) : Bool :=
  trail.anchor ≠ .relative

def push (trail : Trail) (name : String) : Trail :=
  { trail with names := trail.names ++ [name] }

/-- One directory up. The root is its own parent. -/
def up (trail : Trail) : Trail :=
  match trail.names.getLast? with
  | none => if trail.isAbsolute then trail else trail.push ".."
  | some last =>
    if last = ".." then trail.push ".." else { trail with names := trail.names.dropLast }

/-- Names put behind a trail as they are written; they replace it if they start at the root. -/
def join (trail : Trail) (names : List String) : Trail :=
  match Path.Anchor.ofText (joinFields '/' (names.map String.toList)) with
  | .relative => { trail with names := trail.names ++ names }
  | anchor => ⟨anchor, names⟩

/-- The names with `..` taken to drop the name before it. -/
def fold (start : Location) (names : List String) : Location :=
  names.foldl
    (fun location name =>
      if name = "" ∨ name = "." then location
      else if name = ".." then location.dropLast
      else location ++ [name])
    start

def location (trail : Trail) (workingDirectory : Path) : Location :=
  fold (if trail.isAbsolute then [] else workingDirectory.names) trail.names

def path (trail : Trail) (workingDirectory : Path) : Path :=
  .ofNames (if trail.isAbsolute then trail.anchor else workingDirectory.anchor)
    (trail.location workingDirectory)

/-- How many bytes a trail from one root takes when it is written. -/
def size (trail : Trail) : Nat :=
  trail.names.foldl (fun bytes name => bytes + name.utf8ByteSize + 1) 0 -
    (if trail.isAbsolute then 0 else 1)

end Trail

namespace FileSystem

/-! ## Resolving -/

/-- The links met so far, each with what it resolves to, or with nothing while that is not known. -/
abbrev Met := List (Trail × Option Trail)

/-- How resolving a sequence of names ends. A loop keeps the names that were not reached. -/
inductive Resolution
  | resolved (trail : Trail)
  | looping (trail : Trail)
deriving DecidableEq

/-- The target of the link at the end of a trail. -/
def linkAt? (fs : FileSystem) (trail : Trail) : Option String :=
  if trail.size > maxPathSize then none
  else
    match fs.entry? (trail.location fs.workingDirectory) with
    | some (.link target) => some target
    | _ => none

/-- Resolves names behind a trail, with `follow` for the target of a link. -/
def resolveWith (fs : FileSystem)
    (follow : Met → Trail → List String → Except PathError (Met × Resolution)) :
    Met → Trail → List String → Except PathError (Met × Resolution)
  | met, trail, [] => .ok (met, .resolved trail)
  | met, trail, name :: names =>
    if name = "" ∨ name = "." then resolveWith fs follow met trail names
    else if name = ".." then resolveWith fs follow met trail.up names
    else if '\x00' ∈ name.toList then .error .nullCharacter
    else
      let next := trail.push name
      match fs.linkAt? next with
      | none => resolveWith fs follow met next names
      | some target =>
        match met.lookup next with
        | some (some known) => resolveWith fs follow met known names
        | some none => .ok (met, .looping (next.join names))
        | none =>
          let start := if Path.Anchor.ofText target.toList = .relative then trail else .root
          match follow ((next, none) :: met) start (Path.namesOf target) with
          | .error e => .error e
          | .ok (met, .looping rest) => .ok (met, .looping (rest.join names))
          | .ok (met, .resolved known) =>
            resolveWith fs follow ((next, some known) :: met) known names

/-- Resolves names behind a trail, where links may be nested up to a depth. -/
def resolve (fs : FileSystem) :
    (depth : Nat) → Met → Trail → List String → Except PathError (Met × Resolution)
  | 0 => fs.resolveWith fun met trail names => .ok (met, .looping (trail.join names))
  | depth + 1 => fs.resolveWith (fs.resolve depth)

/-- How deep links may be nested. On a path without a loop no link stands inside its own target, so
one level for each entry is enough; a loop may go through every link once more before it is met. -/
def linkDepth (fs : FileSystem) : Nat :=
  4 * (fs.entries.length + 1)

/-- The canonical form of a path. A path through a loop has one if its names, as they are written,
lead around the loop. -/
def canonical (fs : FileSystem) (path : Path) : Except PathError Path := do
  let start := if path.isAbsolute then Trail.root else ⟨.relative, []⟩
  let (_, resolution) ← fs.resolve fs.linkDepth [] start path.names
  let trail :=
    match resolution with
    | .resolved trail => trail
    | .looping trail => trail
  let found := trail.path fs.workingDirectory
  match fs.locate found with
  | .error .nullCharacter => .error .nullCharacter
  | .error (.refused .tooManyLinks text) => .error (.linkLoop text)
  | _ => .ok found

end FileSystem

end FileRouting
