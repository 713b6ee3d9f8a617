import FileRouting.Proofs.Rules.Loading
import FileRouting.Proofs.Yaml.Refusal

/-!
# Refused files

A rules file of text that breaks the grammar of YAML has a book with one error and no rules. Any
other fault of the stream is no error of the book, and leaves the file without one. The main
statement is `load_of_text`.
-/

namespace FileRouting

open FileRouting.Text

/-- Whether a book says that its file cannot be read, and nothing else. -/
structure RuleBook.IsRefusal (book : RuleBook) : Prop where
  rules : book.rules = []
  issue : ∃ issue, book.issues = [issue] ∧ issue.isError ∧ issue.place = Place.document ∧
    issue.finding.message = .ofString "YAML parse error"

namespace RuleBook

theorem isRefusal_unreadable : (ofFinding .unreadable).IsRefusal :=
  ⟨rfl, _, rfl, rfl, rfl, rfl⟩

variable {language : Language} {files : FileSystem} {path : Path} {bytes : List UInt8}

theorem load_of_fault (file : files.read path = .ok bytes) {fault : Yaml.Fault}
    (raised : Yaml.read (.ofBytes bytes) = .error (.fault fault)) :
    load language files path = .error (.stream fault) := by
  rw [load_eq_ofBytes file]
  unfold ofBytes
  rw [raised]

theorem load_of_malformed (file : files.read path = .ok bytes)
    (raised : Yaml.read (.ofBytes bytes) = .error .malformed) :
    load language files path = .ok (ofFinding .unreadable, []) := by
  rw [load_eq_ofBytes file]
  unfold ofBytes
  rw [raised]

theorem exists_ofStream_iff (language : Language) (document : Document) :
    (∃ book events, ofStream language document = .ok (book, events)) ↔
      document.top = .null ∨ rulesSchema.unprintable? document = none := by
  by_cases content : document.top = .null
  · simp [ofStream, content]
  rw [ofStream_eq language content, ofDocument, Issue.ofDocument]
  cases rulesSchema.unprintable? document with
  | some reason =>
    refine iff_of_false ?_ (by simp [content])
    rintro ⟨book, events, loaded⟩
    cases loaded
  | none =>
    refine ⟨fun _ => .inr rfl, fun _ => ?_⟩
    generalize (rulesSchema.sortedViolations document).map _ = issues
    cases issues with
    | nil => exact ⟨_, _, rfl⟩
    | cons issue issues => exact ⟨_, _, rfl⟩

/-- Whether a file has a book, which says no more than that if it cannot be read. -/
def IsReported (language : Language) (files : FileSystem) (path : Path) (bytes : List UInt8) :
    Prop :=
  ∃ book events, load language files path = .ok (book, events) ∧
    ∀ error, Yaml.read (.ofBytes bytes) = .error error → book.IsRefusal

theorem isReported_iff (language : Language) (file : files.read path = .ok bytes) :
    IsReported language files path bytes ↔
      (∀ fault, Yaml.read (.ofBytes bytes) ≠ .error (.fault fault)) ∧
      ∀ document, Yaml.read (.ofBytes bytes) = .ok document →
        document.top = .null ∨ rulesSchema.unprintable? document = none := by
  cases read : Yaml.read (.ofBytes bytes) with
  | ok document =>
    have loaded : ∀ book events, load language files path = .ok (book, events) ↔
        ofStream language document = .ok (book, events) := by
      intro book events
      rw [load_of_document file read]
    simp [IsReported, read, loaded, exists_ofStream_iff]
  | error error =>
    cases error with
    | malformed =>
      have reported : IsReported language files path bytes :=
        ⟨_, _, load_of_malformed file read, fun _ _ => isRefusal_unreadable⟩
      simp [reported]
    | fault fault => simp [IsReported, load_of_fault file read]

theorem load_of_text (language : Language) {chars : List Char}
    (file : files.read path = .ok bytes) (text : decodeUtf8 bytes = .ok chars) :
    (IsReported language files path bytes ↔
      (∀ fault, Yaml.read (.ofBytes bytes) ≠ .error (.fault fault)) ∧
      ∀ document, Yaml.read (.ofBytes bytes) = .ok document →
        document.top = .null ∨ rulesSchema.unprintable? document = none) ∧
    ∀ fault, Yaml.read (.ofBytes bytes) = .error (.fault fault) →
      load language files path = .error (.stream fault) ∧
      (Yaml.Stream.ofBytes bytes).Unreadable fault ∧ ∀ error, fault ≠ .encoding error := by
  refine ⟨isReported_iff language file, ?_⟩
  intro fault raised
  have unreadable := Yaml.Stream.fault_of_text text raised
  exact ⟨load_of_fault file raised, unreadable, unreadable.ne_encoding⟩

/-! ## Two files -/

def asciiBytes (text : String) : List UInt8 :=
  text.toList.map fun c => UInt8.ofNat c.toNat

/-- A file with a sequence that does not end. -/
def endlessSequence : FileSystem :=
  ⟨[(["rules.yaml"], .file (asciiBytes "rules: [\n") 0)], .ofText "/"⟩

/-- A file with a date in a month that there is not. -/
def impossibleDate : FileSystem :=
  ⟨[(["rules.yaml"], .file (asciiBytes "rules: 2024-13-45") 0)], .ofText "/"⟩

def errorOf? (stream : Yaml.Stream) : Option Yaml.Error :=
  match Yaml.read stream with
  | .ok _ => none
  | .error error => some error

theorem read_of_errorOf? {stream : Yaml.Stream} {error : Yaml.Error}
    (found : errorOf? stream = some error) : Yaml.read stream = .error error := by
  unfold errorOf? at found
  split at found
  · cases found
  · next raised => rw [raised, Option.some.inj found]

theorem read_endlessSequence :
    Yaml.read (.ofBytes (asciiBytes "rules: [\n")) = .error .malformed :=
  read_of_errorOf? (by decide +kernel)

theorem read_impossibleDate :
    Yaml.read (.ofBytes (asciiBytes "rules: 2024-13-45")) = .error (.fault (.date .month)) :=
  read_of_errorOf? (by decide +kernel)

theorem load_of_text_twoFiles :
    IsReported (.standard none) endlessSequence (.ofText "rules.yaml") (asciiBytes "rules: [\n") ∧
      ¬IsReported (.standard none) impossibleDate (.ofText "rules.yaml")
        (asciiBytes "rules: 2024-13-45") ∧
      (Yaml.Stream.ofBytes (asciiBytes "rules: 2024-13-45")).Unreadable (.date .month) := by
  obtain ⟨endless, _⟩ := @load_of_text endlessSequence (.ofText "rules.yaml")
    (asciiBytes "rules: [\n") (.standard none) "rules: [\n".toList (by decide)
    (by decide)
  obtain ⟨impossible, faults⟩ := @load_of_text impossibleDate (.ofText "rules.yaml")
    (asciiBytes "rules: 2024-13-45") (.standard none) "rules: 2024-13-45".toList
    (by decide) (by decide)
  refine ⟨endless.2 ?_, ?_, (faults _ read_impossibleDate).2.1⟩
  · rw [read_endlessSequence]
    exact ⟨by simp, by simp⟩
  · intro reported
    exact (impossible.1 reported).1 _ read_impossibleDate

/-- A file of text that is refused without a book. -/
theorem load_impossibleDate :
    impossibleDate.read (.ofText "rules.yaml") = .ok (asciiBytes "rules: 2024-13-45") ∧
      decodeUtf8 (asciiBytes "rules: 2024-13-45") = .ok "rules: 2024-13-45".toList ∧
      ∀ language, load language impossibleDate (.ofText "rules.yaml") =
        .error (.stream (.date .month)) := by
  have file : impossibleDate.read (.ofText "rules.yaml") = .ok (asciiBytes "rules: 2024-13-45") := by
    decide
  exact ⟨file, by decide, fun language => load_of_fault file read_impossibleDate⟩

end RuleBook

end FileRouting
