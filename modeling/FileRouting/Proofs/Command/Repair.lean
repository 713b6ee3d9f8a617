import FileRouting.Proofs.Command.Validate
import FileRouting.Proofs.Rules.Loading
import FileRouting.Proofs.Rules.Repair

/-!
# Repaired rules files

The commands on a rules file that was repaired, that is, whose rules with errors were deleted. The
rules are listed as before, and the validation ends well unless a warning cannot be written,
`repaired_files`.
-/

namespace FileRouting.Command

open FileRouting.Text

/-- The rules file of a command holds a document, up to the sharing of parts. -/
def Holds (files : FileSystem) (settings : Settings) (file : Option Path) (document : Document) :
    Prop :=
  ∃ bytes read, files.read (file.getD settings.rulesFile) = .ok bytes ∧
    Yaml.read (.ofBytes bytes) = .ok read ∧ document.Alike read

section

variable {files : FileSystem} {settings : Settings} {file : Option Path} {document : Document}

theorem load_of_holds (holds : Holds files settings file document)
    (conforms : ∀ place violation, ¬Violates document place violation) (language : Language) :
    RuleBook.load language files (file.getD settings.rulesFile) =
      .ok (RuleBook.ofEntries language (RuleEntry.ofDocument document)) := by
  obtain ⟨bytes, read, found, parsed, alike⟩ := holds
  have loaded := RuleBook.ofStream_of_conforms language (alike.conforms conforms)
  rw [← RuleEntry.ofDocument_eq_of_alike alike] at loaded
  exact (RuleBook.load_of_document found parsed).trans loaded

theorem list_of_holds (holds : Holds files settings file document)
    (conforms : ∀ place violation, ¬Violates document place violation) :
    ∃ reports, list files settings file = (listOutcome
      (RuleBook.ofEntries (.standard none) (RuleEntry.ofDocument document)).1).after reports := by
  obtain ⟨reports, outcomes⟩ := withBook_eq (load_of_holds holds conforms (.standard none))
  exact ⟨reports, outcomes fun _ => listOutcome⟩

theorem status_validate_of_holds (holds : Holds files settings file document)
    (conforms : ∀ place violation, ¬Violates document place violation) (strict : Bool) :
    let book := (RuleBook.ofEntries (.standard none) (RuleEntry.ofDocument document)).1
    (Clean strict book → (validate files settings strict file).status = 0) ∧
      (¬Clean strict book → (validate files settings strict file).status = 1) := by
  obtain ⟨reports, outcomes⟩ := validate_eq (load_of_holds holds conforms (.standard none))
  constructor
  · intro clean
    obtain ⟨_, plain⟩ := rules_of_clean conforms rfl clean
    rw [outcomes]
    exact (validationOutcome_of_clean _ clean plain).1
  · intro unclean
    rw [outcomes]
    exact (validationOutcome_of_not_clean _ unclean).1

theorem clean_without_reports_iff (language : Language) (entries : List RuleEntry) :
    Clean false (RuleBook.ofEntries language
        (without (RuleBook.ofEntries language entries).1.reports entries)).1 ↔
      ∀ warning ∈ (RuleBook.ofEntries language entries).1.warnings,
        warning.finding.message.any Glyph.isSurrogate = false := by
  obtain ⟨errors, _, findings⟩ := RuleBook.ofEntries_without_reports language entries
  have issues := RuleBook.warnings_eq_issues errors
  have messages : (∀ issue ∈ (RuleBook.ofEntries language
      (without (RuleBook.ofEntries language entries).1.reports entries)).1.issues,
        issue.finding.message.any Glyph.isSurrogate = false) ↔
      ∀ warning ∈ (RuleBook.ofEntries language entries).1.warnings,
        warning.finding.message.any Glyph.isSurrogate = false := by
    rw [← issues]
    constructor
    · intro writable warning member
      have listed := List.mem_map_of_mem (f := Issue.finding) member
      rw [← findings] at listed
      obtain ⟨issue, member', same⟩ := List.mem_map.1 listed
      exact same ▸ writable issue member'
    · intro writable issue member
      have listed := List.mem_map_of_mem (f := Issue.finding) member
      rw [findings] at listed
      obtain ⟨warning, member', same⟩ := List.mem_map.1 listed
      exact same ▸ writable warning member'
  constructor
  · exact fun clean => messages.1 clean.writable
  · intro writable
    exact ⟨errors, fun strict => absurd strict Bool.false_ne_true, messages.2 writable⟩

/-- What the two commands do on a repaired file. Which rules are deleted does not depend on the
language, and the commands use the standard one. -/
theorem outcomes_of_repaired {files' : FileSystem} {settings' : Settings} {file' : Option Path}
    {book : RuleBook} {language : Language}
    (conforms : ∀ place violation, ¬Violates document place violation)
    (made : book = (RuleBook.ofEntries language (RuleEntry.ofDocument document)).1)
    (holds : Holds files settings file document)
    (holds' : Holds files' settings' file' (document.deleteRules book.reports)) :
    (list files' settings' file').printed = (list files settings file).printed ∧
      (list files' settings' file').status = (list files settings file).status ∧
      (list files' settings' file').breakdown = (list files settings file).breakdown ∧
      ((∀ warning ∈ book.warnings, warning.finding.message.any Glyph.isSurrogate = false) →
        (validate files' settings' false file').status = 0) ∧
      ((¬∀ warning ∈ book.warnings, warning.finding.message.any Glyph.isSurrogate = false) →
        (validate files' settings' false file').status = 1) := by
  obtain ⟨items, listed, _⟩ :=
    RuleEntry.written_ofDocument (violations_rulesSchema_eq_nil_iff.2 conforms)
  have conforms' := Document.conforms_deleteRules book.reports conforms listed
  have entries : RuleEntry.ofDocument (document.deleteRules book.reports) =
      without (RuleBook.ofEntries (.standard none) (RuleEntry.ofDocument document)).1.reports
        (RuleEntry.ofDocument document) := by
    rw [RuleBook.ofDocument_deleteRules listed, made,
      RuleBook.reports_ofEntries_eq language (.standard none)]
  obtain ⟨_, rules, _⟩ :=
    RuleBook.ofEntries_without_reports (.standard none) (RuleEntry.ofDocument document)
  obtain ⟨reports, lists⟩ := list_of_holds holds conforms
  obtain ⟨reports', lists'⟩ := list_of_holds holds' conforms'
  rw [entries, listOutcome, rules] at lists'
  obtain ⟨passes, fails⟩ := status_validate_of_holds holds' conforms' false
  rw [entries, clean_without_reports_iff] at passes fails
  simp only [RuleBook.mem_warnings_ofEntries_iff (.standard none) language, ← made] at passes fails
  rw [lists, lists']
  exact ⟨rfl, rfl, rfl, passes, fails⟩

end

/-- A document that gives patterns to names. -/
def patternsDocument (rules : List (String × RawText)) : Document :=
  .ofValue (.mapping [(.text "rules", .list (rules.map fun rule =>
    .mapping [(.text "name", .text rule.1), (.text "pattern", .ofRaw rule.2)]))])

/-- Whether a file has a document that conforms, with certain texts. -/
def holdsTexts (files : FileSystem) (path : Path) (texts : List (List (Option RawText))) : Bool :=
  match files.read path with
  | .ok bytes =>
    match Yaml.read (.ofBytes bytes) with
    | .ok document => (rulesSchema.violations document).isEmpty && document.texts = texts
    | .error _ => false
  | .error _ => false

theorem holds_of_holdsTexts {files : FileSystem} {settings : Settings} {file : Option Path}
    {document : Document} (conforms : ∀ place violation, ¬Violates document place violation)
    (h : holdsTexts files (file.getD settings.rulesFile) document.texts) :
    Holds files settings file document := by
  unfold holdsTexts at h
  split at h
  · next bytes found =>
    split at h
    · next read parsed =>
      rw [Bool.and_eq_true, List.isEmpty_iff, decide_eq_true_eq] at h
      obtain ⟨conforms', same⟩ := h
      exact ⟨bytes, read, found, parsed,
        .of_texts conforms (violations_rulesSchema_eq_nil_iff.1 conforms') same.symm⟩
    · cases h
  · cases h

/-- Rules of which the first is rejected and the third is a duplicate. -/
def faultyRules : Document :=
  patternsDocument [("a", "date:now"), ("a", "b"), ("a", "c"), ("z", "file:x")]

def faultyFile : FileSystem :=
  rulesDirectory ("rules:\n- name: a\n  pattern: 'date:now'\n- name: a\n  pattern: b\n" ++
    "- name: a\n  pattern: c\n- name: z\n  pattern: file:x\n")

def repairedFile : FileSystem :=
  rulesDirectory "rules:\n- name: a\n  pattern: b\n- name: z\n  pattern: file:x\n"

/-- A document of patterns, with its book, a file that holds it, and one that is repaired. -/
structure IsRepair (document : Document) (book : RuleBook) (events : List LoadEvent)
    (files files' : FileSystem) : Prop where
  loaded : RuleBook.ofStream (.standard none) document = .ok (book, events)
  conforms : ∀ place violation, ¬Violates document place violation
  holds : Holds files rulesSettings none document
  holds' : Holds files' rulesSettings none (document.deleteRules book.reports)

theorem isRepair_of_tests {document : Document} {items : List Document} {files files' : FileSystem}
    (valid : (rulesSchema.violations document).isEmpty)
    (listed : (document.field? "rules").bind Document.items? = some items)
    (texts : holdsTexts files rulesSettings.rulesFile document.texts)
    (texts' : holdsTexts files' rulesSettings.rulesFile (document.deleteRules
      (RuleBook.ofEntries (.standard none) (RuleEntry.ofDocument document)).1.reports).texts) :
    IsRepair document (RuleBook.ofEntries (.standard none) (RuleEntry.ofDocument document)).1
      (RuleBook.ofEntries (.standard none) (RuleEntry.ofDocument document)).2 files files' := by
  have conforms := violations_rulesSchema_eq_nil_iff.1 (List.isEmpty_iff.1 valid)
  have conforms' := Document.conforms_deleteRules
    (RuleBook.ofEntries (.standard none) (RuleEntry.ofDocument document)).1.reports conforms listed
  exact ⟨RuleBook.ofStream_of_conforms _ conforms, conforms, holds_of_holdsTexts conforms texts,
    holds_of_holdsTexts conforms' texts'⟩

/-- Rules of which the first is rejected and the second is worth a warning with a surrogate. -/
def surrogateRules : Document :=
  patternsDocument [("a", "date:now"), ("b", RawText.ofString "file:" ++ [.surrogate 0xD800])]

def surrogateFile : FileSystem :=
  rulesDirectory
    "rules:\n- name: a\n  pattern: 'date:now'\n- name: b\n  pattern: \"file:\\uD800\"\n"

def repairedSurrogateFile : FileSystem :=
  rulesDirectory "rules:\n- name: b\n  pattern: \"file:\\uD800\"\n"

end FileRouting.Command
