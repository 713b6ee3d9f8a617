import FileRouting.Proofs.Expression.DateEnding
import FileRouting.Proofs.Path.Text

/-!
# The attributes of a file

The attributes of one file fit together: its path is put together from its parent and its name, its
name from the name without extension and the extension, and its absolute path from the working
directory and its path. The main statement, `Language.fileAttributes_fit`, is about the values of
the compiled attributes.
-/

namespace FileRouting

open FileRouting.Text

/-! ## Reading an attribute -/

/-- The state for a file that is given as a text. -/
def State.withFile (state : State) (file : String) : State :=
  { state with exchange := { state.exchange with file := some (.ofText file) } }

/-- A pattern has a text as its value for a file. -/
def Language.Shows (language : Language) (host : Host) (state : State)
    (pattern file text : String) : Prop :=
  language.ending host (state.withFile file) pattern = .value (.text text)

namespace Language

variable (language : Language) (host : Host) (state : State) (file : String)

theorem ending_attribute (read : Attribute) :
    language.ending host (state.withFile file) ("file:" ++ read.key) =
      match read.read host.files (.ofText file) with
      | .ok text => .value (.text text)
      | .error error => .failed (.path error) := by
  rw [ending, (language.create_attribute read).1]
  simp only [Expression.evaluate, State.withFile]
  cases read.read host.files (.ofText file) <;> rfl

theorem shows_iff (read : Attribute) {text : String} :
    language.Shows host state ("file:" ++ read.key) file text ↔
      read.read host.files (.ofText file) = .ok text := by
  rw [Shows, ending_attribute]
  cases read.read host.files (.ofText file) <;> simp

end Language

/-! ## Attributes that fit together -/

/-- How the attributes of a file are put together, as texts. -/
structure FitTogether (workingDirectory path name stem parent absolute : String) : Prop where
  noSlash : '/' ∉ name.toList
  unnamed : name = "" → parent = path
  named : name ≠ "" → path = Path.under parent name
  extension : (name = stem ∧ '.' ∉ name.toList) ∨
    ∃ extension : String, name = stem ++ "." ++ extension ∧ '.' ∉ extension.toList
  rooted : absolute.toList.head? = some '/'
  atRoot : path.toList.head? = some '/' → absolute = path
  below : path.toList.head? ≠ some '/' →
    absolute = if path = "." then workingDirectory else Path.under workingDirectory path

namespace Path

theorem fitTogether {workingDirectory : Path} (rooted : workingDirectory.isAbsolute) (path : Path) :
    FitTogether workingDirectory.text path.text path.name (withoutExtension path.name)
      path.parent.text (workingDirectory.join path).text where
  noSlash := path.slash_not_mem_name
  unnamed unnamed := by rw [path.parent_of_name_eq_empty unnamed]
  named named := path.text_eq_under named
  extension := withoutExtension_cases path.name
  rooted := (head?_text _).2 (isAbsolute_join rooted path)
  atRoot starts := by rw [join, if_pos (path.head?_text.1 starts)]
  below starts := by
    have relative : path.anchor = .relative := by
      simpa [isAbsolute] using mt path.head?_text.2 starts
    exact text_join workingDirectory relative

end Path

namespace Language

theorem fileAttributes_fit (language : Language) (host : Host) (state : State)
    (rooted : host.files.workingDirectory.isAbsolute) (file : String) :
    ∃ path name stem parent absolute,
      language.Shows host state "file:path" file path ∧
      language.Shows host state "file:name" file name ∧
      language.Shows host state "file:name.noext" file stem ∧
      language.Shows host state "file:parent" file parent ∧
      language.Shows host state "file:absolute" file absolute ∧
      FitTogether host.files.workingDirectory.text path name stem parent absolute ∧
      language.Shows host state "file:path" path path ∧
      language.Shows host state "file:absolute" absolute absolute := by
  have shows : ∀ (read : Attribute) (file text : String),
      read.read host.files (.ofText file) = .ok text →
      language.Shows host state ("file:" ++ read.key) file text :=
    fun read file text => (language.shows_iff host state file read).2
  let path := Path.ofText file
  let absolute := host.files.workingDirectory.join path
  have again : host.files.workingDirectory.join (.ofText absolute.text) = absolute := by
    rw [Path.ofText_text, Path.join, if_pos (Path.isAbsolute_join rooted path)]
  refine ⟨path.text, path.name, Path.withoutExtension path.name, path.parent.text, absolute.text,
    shows .path _ _ rfl, shows .name _ _ rfl, shows .nameWithoutExtension _ _ rfl,
    shows .parent _ _ rfl, shows .absolute _ _ rfl, Path.fitTogether rooted path,
    shows .path _ _ ?_, shows .absolute _ _ ?_⟩
  · rw [Attribute.read, Path.ofText_text]
  · rw [Attribute.read, again]

/-- A host whose working directory is below the root. -/
def workHost : Host :=
  { epochHost with files.workingDirectory := .ofText "/work" }

theorem fileAttributes_fit_dots : ∃ path name stem parent absolute,
    (standard none).Shows workHost (stateWith none) "file:path" "in//./../a.tar.gz/" path ∧
    (standard none).Shows workHost (stateWith none) "file:name" "in//./../a.tar.gz/" name ∧
    (standard none).Shows workHost (stateWith none) "file:name.noext" "in//./../a.tar.gz/" stem ∧
    (standard none).Shows workHost (stateWith none) "file:parent" "in//./../a.tar.gz/" parent ∧
    (standard none).Shows workHost (stateWith none) "file:absolute" "in//./../a.tar.gz/" absolute ∧
    FitTogether "/work" path name stem parent absolute ∧
    (standard none).Shows workHost (stateWith none) "file:path" path path ∧
    (standard none).Shows workHost (stateWith none) "file:absolute" absolute absolute :=
  fileAttributes_fit (standard none) workHost (stateWith none) (by decide) "in//./../a.tar.gz/"

end Language

end FileRouting
