import FileRouting.Proofs.Command.Validation
import FileRouting.Proofs.Rules.Names
import Mathlib.Data.List.Nodup

/-!
# Validating a rules file

When the validation of a file that could be loaded ends with status 0, by what the document says:
`validate_status_eq_zero_iff`. What stands between the document and the outcome is the book of its
entries, `clean_iff_passes`.
-/

namespace FileRouting

open FileRouting.Text

/-! ## Documents that pass -/

/-- The texts in a field of the rules of a document. -/
def Document.ruleTexts (document : Document) (field : RuleField) : List RawText :=
  (((document.field? "rules").bind Document.items?).getD []).filterMap fun item =>
    (item.field? field.key).bind Document.text?

/-- What a document has to be like for its validation to end well. A warning is printed, so the
pattern that it shows must not hold surrogates. -/
structure Document.Passes (strict : Bool) (document : Document) : Prop where
  conforms : ∀ place violation, ¬Violates document place violation
  distinct : (document.ruleTexts .name).Nodup
  dates : ∀ pattern ∈ document.ruleTexts .pattern, ¬IsMalformedDate pattern
  attributes : ∀ pattern ∈ document.ruleTexts .pattern, IsUnknownAttribute pattern →
    strict = false ∧ pattern.any Glyph.isSurrogate = false

theorem HoldsName.not_mem_escape {name : String} (h : HoldsName (.ofString name)) :
    '\x1b' ∉ name.toList := by
  obtain ⟨first, rest, behind, same, starts, continues, last⟩ := h
  rw [RawText.ofChars_inj.1 same]
  intro member
  simp only [List.cons_append, List.mem_cons, List.mem_append] at member
  rcases member with rfl | member | member
  · cases starts
  · cases continues _ member
  · rcases last with rfl | rfl
    · cases member
    · cases List.mem_singleton.1 member

section

variable {document : Document} {items : List Document} {entries : List RuleEntry}

theorem ruleTexts_eq (list : (document.field? "rules").bind Document.items? = some items)
    (written : List.Forall₂ RuleEntry.Written items entries) :
    document.ruleTexts .name = entries.map (fun entry => .ofString entry.name) ∧
      document.ruleTexts .pattern = entries.map (·.pattern) := by
  simp only [Document.ruleTexts, list, Option.getD_some, RuleField.key]
  clear list
  induction written with
  | nil => exact ⟨rfl, rfl⟩
  | cons here _ ih =>
    simp only [List.filterMap_cons, here.name, here.pattern, ih, List.map_cons, and_self]

theorem any_isSurrogate_unknownAttribute (pattern : RawText) :
    (Finding.unknownAttribute pattern).message.any Glyph.isSurrogate =
      pattern.any Glyph.isSurrogate := by
  simp only [Finding.message, List.any_append, any_isSurrogate_ofString, Bool.false_or,
    Bool.or_false]

theorem clean_ofEntries_iff {language : Language} {strict : Bool} :
    Command.Clean strict (RuleBook.ofEntries language entries).1 ↔
      (entries.map (·.name)).Nodup ∧ ∀ entry ∈ entries, ¬IsMalformedDate entry.pattern ∧
        (IsUnknownAttribute entry.pattern →
          strict = false ∧ entry.pattern.any Glyph.isSurrogate = false) := by
  have errors := RuleBook.errors_ofEntries_eq_nil_iff language entries
  simp only [RuleBook.compiles_iff] at errors
  constructor
  · rintro ⟨none, quiet, writable⟩
    obtain ⟨distinct, dates⟩ := errors.1 none
    refine ⟨distinct, fun entry member => ⟨dates entry member, fun unknown => ?_⟩⟩
    obtain ⟨index, found⟩ := List.mem_iff_getElem?.1 member
    have warned := (RuleBook.mem_warnings_of_errors_eq_nil language none).2
      ⟨index, entry, found, unknown, rfl⟩
    constructor
    · cases strict with
      | false => rfl
      | true =>
        rw [quiet rfl] at warned
        cases warned
    · rw [← any_isSurrogate_unknownAttribute]
      exact writable _ (List.mem_filter.1 warned).1
  · rintro ⟨distinct, patterns⟩
    have none := errors.2 ⟨distinct, fun entry member => (patterns entry member).1⟩
    refine ⟨none, ?_, ?_⟩
    · intro isStrict
      rw [List.eq_nil_iff_forall_not_mem]
      intro issue warned
      obtain ⟨index, entry, found, unknown, _⟩ :=
        (RuleBook.mem_warnings_of_errors_eq_nil language none).1 warned
      have lenient := ((patterns entry (List.mem_of_getElem? found)).2 unknown).1
      rw [isStrict] at lenient
      cases lenient
    · intro issue member
      rw [← RuleBook.warnings_eq_issues none] at member
      obtain ⟨index, entry, found, unknown, rfl⟩ :=
        (RuleBook.mem_warnings_of_errors_eq_nil language none).1 member
      rw [any_isSurrogate_unknownAttribute]
      exact ((patterns entry (List.mem_of_getElem? found)).2 unknown).2

theorem clean_iff_passes {language : Language} {strict : Bool}
    (conforms : ∀ place violation, ¬Violates document place violation)
    (list : (document.field? "rules").bind Document.items? = some items)
    (written : List.Forall₂ RuleEntry.Written items entries) :
    Command.Clean strict (RuleBook.ofEntries language entries).1 ↔ document.Passes strict := by
  obtain ⟨names, patterns⟩ := ruleTexts_eq list written
  have distinct : (document.ruleTexts .name).Nodup ↔ (entries.map (·.name)).Nodup := by
    rw [names, ← List.nodup_map_iff (f := RawText.ofString), List.map_map]
    · rfl
    · intro name name' same
      exact RawText.ofString_inj.1 same
  rw [clean_ofEntries_iff, ← distinct]
  constructor
  · rintro ⟨distinct, faultless⟩
    refine ⟨conforms, distinct, ?_, ?_⟩
    · rw [patterns, List.forall_mem_map]
      exact fun entry member => (faultless entry member).1
    · rw [patterns, List.forall_mem_map]
      exact fun entry member => (faultless entry member).2
  · rintro ⟨_, distinct, dates, attributes⟩
    rw [patterns, List.forall_mem_map] at dates attributes
    exact ⟨distinct, fun entry member => ⟨dates entry member, attributes entry member⟩⟩

end

/-! ## The command -/

theorem FileSystem.has_of_read {files : FileSystem} {path : Path} {bytes : List UInt8}
    (h : files.read path = .ok bytes) : files.has path = .ok true := by
  rw [read] at h
  cases located : files.locate path with
  | error error =>
    rw [located] at h
    cases h
  | ok location =>
    rw [located] at h
    rw [has, modified?, located]
    cases entry : files.entry? location with
    | none => simp [entry, bind, Except.bind] at h
    | some entry' =>
      cases entry' with
      | directory modified => simp [entry, bind, Except.bind] at h
      | link target => simp [entry, bind, Except.bind] at h
      | file content modified => simp [entry, Except.map]

namespace Command

/-- A text names an entry of a document and the kind of what its pattern stands for. -/
def Checks (item : Document) (text : String) : Prop :=
  ∃ name pattern expression,
    (item.field? "name").bind Document.text? = some (.ofString name) ∧
    (item.field? "pattern").bind Document.text? = some pattern ∧
    (Language.standard none).create pattern.shown = .ok expression ∧
    text = "  ✓ " ++ name ++ " (" ++ expression.kindName ++ ")"

theorem checks_of_compiled? {item : Document} {entry : RuleEntry} {rule : Rule}
    (written : RuleEntry.Written item entry)
    (compiled : RuleBook.compiled? (.standard none) entry = some rule) :
    Checks item (checkText rule) := by
  unfold RuleBook.compiled? at compiled
  split at compiled
  · next expression created =>
    cases compiled
    exact ⟨_, _, expression, written.name, written.pattern, created, rfl⟩
  · cases compiled

theorem forall₂_checks {items : List Document} {entries : List RuleEntry} {rules : List Rule}
    (written : List.Forall₂ RuleEntry.Written items entries)
    (compiled : List.Forall₂ (fun entry rule =>
      RuleBook.compiled? (.standard none) entry = some rule) entries rules) :
    List.Forall₂ Checks items (rules.map checkText) := by
  induction written generalizing rules with
  | nil =>
    cases compiled
    exact .nil
  | cons here _ ih =>
    cases compiled with
    | cons first others => exact .cons (checks_of_compiled? here first) (ih others)

section

variable {files : FileSystem} {settings : Settings} {file : Option Path} {book : RuleBook}
  {events : List LoadEvent}

theorem rules_of_clean {document : Document} {strict : Bool}
    (conforms : ∀ place violation, ¬Violates document place violation)
    (made : book = (RuleBook.ofEntries (.standard none) (RuleEntry.ofDocument document)).1)
    (clean : Clean strict book) :
    (∃ items, (document.field? "rules").bind Document.items? = some items ∧
      List.Forall₂ Checks items (book.rules.map checkText)) ∧
    ∀ rule ∈ book.rules, '\x1b' ∉ rule.name.toList := by
  obtain ⟨items, list, written⟩ :=
    RuleEntry.written_ofDocument (violations_rulesSchema_eq_nil_iff.2 conforms)
  have errors := clean.errors
  rw [made, RuleBook.errors_ofEntries_eq_nil_iff] at errors
  obtain ⟨distinct, compiles⟩ := errors
  rw [made, RuleBook.rules_ofEntries_eq (.standard none) distinct compiles]
  constructor
  · exact ⟨items, list,
      forall₂_checks written (RuleBook.forall₂_filterMap_compiled? (.standard none) compiles)⟩
  · intro rule member
    obtain ⟨entry, listed, compiled⟩ := List.mem_filterMap.1 member
    rw [RuleBook.name_of_compiled? (.standard none) compiled]
    exact (holdsName_of_written conforms list written entry listed).not_mem_escape

theorem withBook_eq
    (loaded : RuleBook.load (.standard none) files (file.getD settings.rulesFile) =
      .ok (book, events)) :
    ∃ reports, ∀ use, withBook files settings file use =
      (use (file.getD settings.rulesFile) book).after reports := by
  obtain ⟨bytes, read, _⟩ := RuleBook.load_cases loaded
  refine ⟨shownLines settings.threshold
    (events.filterMap (LogLine.ofLoadEvent? (file.getD settings.rulesFile).text)), ?_⟩
  intro use
  simp only [withBook, FileSystem.has_of_read read, loaded]

theorem validate_eq
    (loaded : RuleBook.load (.standard none) files (file.getD settings.rulesFile) =
      .ok (book, events)) :
    ∃ reports, ∀ strict, validate files settings strict file =
      (validationOutcome strict (file.getD settings.rulesFile) book).after reports := by
  obtain ⟨reports, outcomes⟩ := withBook_eq loaded
  exact ⟨reports, fun strict => outcomes (validationOutcome strict)⟩

theorem clean_iff_of_load
    (loaded : RuleBook.load (.standard none) files (file.getD settings.rulesFile) =
      .ok (book, events)) :
    ∃ bytes, files.read (file.getD settings.rulesFile) = .ok bytes ∧
      ∀ strict, (Clean strict book ↔
          ∃ document, Yaml.read (.ofBytes bytes) = .ok document ∧ document.Passes strict) ∧
        (Clean strict book → (∃ document items, Yaml.read (.ofBytes bytes) = .ok document ∧
            (document.field? "rules").bind Document.items? = some items ∧
            List.Forall₂ Checks items (book.rules.map checkText)) ∧
          ∀ rule ∈ book.rules, '\x1b' ∉ rule.name.toList) := by
  obtain ⟨bytes, read, ⟨errors, violates⟩ | ⟨document, parsed, conforms, made⟩⟩ :=
    RuleBook.load_cases loaded
  · refine ⟨bytes, read, fun strict => ⟨iff_of_false ?_ ?_, ?_⟩⟩
    · exact fun clean => errors clean.errors
    · rintro ⟨document, parsed, passes⟩
      obtain ⟨place, violation, violated⟩ := violates document parsed
      exact passes.conforms place violation violated
    · exact fun clean => absurd clean.errors errors
  · refine ⟨bytes, read, fun strict => ⟨?_, ?_⟩⟩
    · obtain ⟨items, list, written⟩ :=
        RuleEntry.written_ofDocument (violations_rulesSchema_eq_nil_iff.2 conforms)
      rw [made, clean_iff_passes conforms list written]
      constructor
      · exact fun passes => ⟨document, parsed, passes⟩
      · rintro ⟨document', parsed', passes⟩
        obtain rfl := Except.ok.inj (parsed.symm.trans parsed')
        exact passes
    · intro clean
      obtain ⟨⟨items, list, checks⟩, plain⟩ := rules_of_clean conforms made clean
      exact ⟨⟨document, items, parsed, list, checks⟩, plain⟩

end

/-! ## Two files -/

/-- A directory with one rules file of ASCII characters. -/
def rulesDirectory (text : String) : FileSystem :=
  ⟨[(["rules.yaml"], .file (text.toList.map fun c => UInt8.ofNat c.toNat) 0)], .ofText "/"⟩

def rulesSettings : Settings :=
  ⟨.ofText "rules.yaml", "WARNING"⟩

/-- A rule with an attribute that there is not. -/
def unknownRule : FileSystem :=
  rulesDirectory "rules:\n- name: a\n  pattern: file:x\n"

/-- A rule with an attribute that there is not, which is written with a surrogate. -/
def surrogateRule : FileSystem :=
  rulesDirectory "rules:\n- name: a\n  pattern: \"file:\\uD800\"\n"

/-- Whether a file has a document that conforms, with one pattern, which is `file:` and a
surrogate. -/
def holdsSurrogate (files : FileSystem) (path : Path) : Bool :=
  match files.read path with
  | .ok bytes =>
    match Yaml.read (.ofBytes bytes) with
    | .ok document =>
      (rulesSchema.violations document).isEmpty &&
        document.ruleTexts .name = [.ofString "a"] &&
        document.ruleTexts .pattern = [RawText.ofString "file:" ++ [.surrogate 0xD800]]
    | .error _ => false
  | .error _ => false

end Command

end FileRouting
