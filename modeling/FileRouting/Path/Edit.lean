import FileRouting.Path.Canonical

/-!
# Changing a file system

Entries are put at the canonical location of a path, so that writing goes through links, while a
link is made or removed at the location of its own name. Parent directories are made as needed.
-/

namespace FileRouting

namespace FileSystem

def put (fs : FileSystem) (location : Location) (entry : Entry) : FileSystem :=
  { fs with entries := (location, entry) :: fs.entries.filter (·.1 ≠ location) }

/-- Makes the directories above a location that are missing. -/
def makeParents (fs : FileSystem) (location : Location) : FileSystem :=
  (List.range location.length).foldl
    (fun fs length =>
      let parent := location.take length
      if (fs.entry? parent).isSome then fs else fs.put parent (.directory 0))
    fs

/-- The location of the target of a path; a path through a loop has none. -/
def targetOf (fs : FileSystem) (path : Path) : Option Location :=
  (fs.canonical path).toOption.map Path.names

/-- The location of a path itself, which may be a link. -/
def placeOf (fs : FileSystem) (path : Path) : Option Location :=
  (fs.targetOf path.parent).map (· ++ [path.name])

/-- A change of one entry. -/
inductive Edit
  | directory (path : Path) (modified : Int)
  | file (path : Path) (content : List UInt8) (modified : Int)
  | link (path : Path) (target : String)
  | remove (path : Path)

/-- The file system after a change. -/
def edit (fs : FileSystem) : Edit → FileSystem
  | .directory path modified =>
    match fs.targetOf path with
    | some location => (fs.makeParents location).put location (.directory modified)
    | none => fs
  | .file path content modified =>
    match fs.targetOf path with
    | some location => (fs.makeParents location).put location (.file content modified)
    | none => fs
  | .link path target =>
    match fs.placeOf path with
    | some location => (fs.makeParents location).put location (.link target)
    | none => fs
  | .remove path =>
    match fs.placeOf path with
    | some location => { fs with entries := fs.entries.filter fun e => !location.isPrefixOf e.1 }
    | none => fs

def empty (workingDirectory : Path) : FileSystem :=
  let fs : FileSystem := ⟨[], workingDirectory⟩
  (fs.makeParents workingDirectory.names).put workingDirectory.names (.directory 0)

end FileSystem

end FileRouting
