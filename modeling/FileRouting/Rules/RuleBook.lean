import FileRouting.Rules.Issue

/-!
# Rule books

A rule book holds the rules of a document and the issues found on the way. A document that violates
the form has no rules. Otherwise the entries are taken in order: one whose name already belongs to
a rule is a duplicate, one whose pattern does not compile is rejected, and any other becomes a
rule. So a name is free again after its first entry was rejected.
-/

namespace FileRouting

open FileRouting.Text

/-- A named expression, which is that of the pattern as it is shown. -/
structure Rule where
  name : String
  pattern : RawText
  expression : Expression
  description : RawText

/-- What a text that the expression gives stands for: it may show surrogates of the pattern. -/
def Rule.meaning (rule : Rule) (text : String) : RawText :=
  match rule.pattern.chars? with
  | some _ => .ofString text
  | none => .ofShown text

/-- The rules of a document under different names, in its order, and the issues found. -/
structure RuleBook where
  rules : List Rule
  issues : List Issue

/-- What happens while rules are loaded. -/
inductive LoadEvent
  | compiling (pattern : RawText) (event : Event)
  | violations
  | issues (count : Nat)
deriving DecidableEq

namespace RuleBook

def empty : RuleBook := ⟨[], []⟩

def find? (book : RuleBook) (name : String) : Option Rule :=
  book.rules.find? (·.name = name)

def names (book : RuleBook) : List String :=
  book.rules.map (·.name)

def errors (book : RuleBook) : List Issue :=
  book.issues.filter Issue.isError

def warnings (book : RuleBook) : List Issue :=
  book.issues.filter Issue.isWarning

end RuleBook

/-! ## Entries -/

/-- What a document says of a rule. -/
structure RuleEntry where
  name : String
  pattern : RawText
  description : RawText
deriving DecidableEq

namespace RuleEntry

/-- The text in a field of a mapping, empty if there is none. -/
def textOf (document : Document) (field : RuleField) : RawText :=
  ((document.field? field.key).bind Document.text?).getD []

/-- The entry that a mapping of the right form writes. Its name has no surrogates. -/
def ofMapping (document : Document) : RuleEntry :=
  ⟨(textOf document .name).shown, textOf document .pattern, textOf document .description⟩

/-- The entries of a document of the right form. -/
def ofDocument (document : Document) : List RuleEntry :=
  (((document.field? "rules").bind Document.items?).getD []).map ofMapping

end RuleEntry

/-! ## Loading -/

/-- What becomes of an entry. -/
inductive Fate
  | duplicate
  | rejected (error : SyntaxError)
  | loaded (expression : Expression)

/-- The fate of an entry after some rules. No surrogate changes the form of a pattern. -/
def RuleEntry.fate (language : Language) (rules : List Rule) (entry : RuleEntry) : Fate :=
  if rules.any (·.name = entry.name) then .duplicate
  else
    match language.create entry.pattern.shown with
    | .ok expression => .loaded expression
    | .error error => .rejected error

/-- What there is to say of an entry with a fate: a pattern that names a file attribute and yet is a
text for the template engine deserves a warning. -/
def RuleEntry.issue? (index : Nat) (entry : RuleEntry) : Fate → Option Issue
  | .duplicate => some ⟨Place.rule index, .duplicateName entry.name⟩
  | .rejected error =>
    some ⟨Place.field index .pattern, .illegalPattern entry.pattern error.explanation⟩
  | .loaded expression =>
    if (afterPrefix? "file:" entry.pattern.shown).isSome ∧ expression.isSimple then
      some ⟨Place.field index .pattern, .unknownAttribute entry.pattern⟩
    else none

def RuleEntry.rule? (entry : RuleEntry) : Fate → Option Rule
  | .loaded expression => some ⟨entry.name, entry.pattern, expression, entry.description⟩
  | _ => none

/-- What happens while an entry with a fate is loaded: that of a duplicate is not compiled. -/
def RuleEntry.events (language : Language) (entry : RuleEntry) : Fate → List LoadEvent
  | .duplicate => []
  | _ => (language.events entry.pattern.shown).map (.compiling entry.pattern)

namespace RuleBook

def add (language : Language) (book : RuleBook) (index : Nat) (entry : RuleEntry) :
    RuleBook × List LoadEvent :=
  let fate := entry.fate language book.rules
  (⟨book.rules ++ (entry.rule? fate).toList, book.issues ++ (entry.issue? index fate).toList⟩,
    entry.events language fate)

/-- A book with entries added, of which the first has an index. -/
def addAll (language : Language) (book : RuleBook) (index : Nat) :
    List RuleEntry → RuleBook × List LoadEvent
  | [] => (book, [])
  | entry :: entries =>
    let (book, first) := book.add language index entry
    let (book, rest) := book.addAll language (index + 1) entries
    (book, first ++ rest)

/-- The book of a document of the right form. -/
def ofEntries (language : Language) (entries : List RuleEntry) : RuleBook × List LoadEvent :=
  let (book, events) := empty.addAll language 0 entries
  (book, events ++ (if book.issues.isEmpty then [] else [LoadEvent.issues book.issues.length]))

def ofDocument (language : Language) (document : Document) :
    Except Document.Unprintable (RuleBook × List LoadEvent) := do
  match ← Issue.ofDocument document with
  | [] => .ok (ofEntries language (RuleEntry.ofDocument document))
  | issues => .ok (⟨[], issues⟩, [.violations])

end RuleBook

end FileRouting
