import FileRouting.Proofs.DatePattern.Parity
import FileRouting.Proofs.DatePattern.Scan
import FileRouting.Proofs.Expression.Dispatch
import FileRouting.Proofs.Time.Calendar

/-!
# How a date ends

Compiling a pattern behind `date:` and evaluating what it stands for ends in one of five ways. The
form of the text is looked at first, then the command, then the time that it asks for, and the date
pattern comes last. The main statement is `Language.ending_date`.
-/

namespace FileRouting

open FileRouting.Text FileRouting.Time FileRouting.DatePattern

/-! ## Endings -/

/-- What comes of compiling a pattern and then evaluating its expression. -/
inductive Ending
  | illegal (error : SyntaxError)
  | failed (failure : Failure)
  | value (value : Value)

def Language.ending (language : Language) (host : Host) (state : State) (pattern : String) :
    Ending :=
  match language.create pattern with
  | .error error => .illegal error
  | .ok expression =>
    match expression.evaluate host state with
    | .error failure => .failed failure
    | .ok (value, _) => .value value

/-- A text is a command and a date pattern with a colon between them, and perhaps colons at the
end. -/
def WritesDate (text command format : String) : Prop :=
  ':' ∉ command.toList ∧ format ≠ "" ∧ ':' ∉ format.toList ∧
    ∃ count, text = command ++ ":" ++ format ++ String.ofList (List.replicate count ':')

/-! ## Times -/

/-- There is a file or a directory at a path, last modified at a time. -/
def FileSystem.Holds (files : FileSystem) (path : Path) (modified : Int) : Prop :=
  ∃ location, files.locate path = .ok location ∧
    (files.entry? location = some (.directory modified) ∨
      ∃ content, files.entry? location = some (.file content modified))

/-- The moment that a command asks for. A file is looked at only if the exchange was given no time
of last modification. -/
inductive Asks (host : Host) (exchange : Exchange) : String → ZonedTime → Prop
  | now {moment : ZonedTime}
      (shown : ZonedTime.ofLocal host.today host.clock host.zone = .ok moment) :
      Asks host exchange "now" moment
  | given {stamp : Stamp} {moment : ZonedTime} (given : exchange.modified = some stamp)
      (shown : stamp.inZone host.zone = .ok moment) : Asks host exchange "file" moment
  | file {path : Path} {modified : Int} {moment : ZonedTime} (unset : exchange.modified = none)
      (file : exchange.file = some path) (holds : host.files.Holds path modified)
      (shown : ZonedTime.ofEpoch (microsOfNanos modified) host.zone = .ok moment) :
      Asks host exchange "file" moment

/-- The exchange was given no time, and no file that there is. -/
def HasNoTime (host : Host) (exchange : Exchange) : Prop :=
  exchange.modified = none ∧
    ∀ path, exchange.file = some path → ∀ modified, ¬host.files.Holds path modified

/-- The number of the day that a zone's clock shows at a time of last modification. -/
def localDay (zone : Zone) (modified : Int) : Int :=
  epochOrdinal + (microsOfNanos modified + zone.offset.getD 0).fdiv Zone.microsPerDay

/-- What a command is assumed to find: a time of the calendar which, if it has no zone, is not on
the first day, and a file whose status can be asked for. -/
structure IsTimely (host : Host) (exchange : Exchange) (command : String) : Prop where
  now : command = "now" → host.today ≠ Date.first
  day : command = "file" → exchange.modified ≠ some (.day Date.first)
  unzoned : command = "file" → ∀ time, exchange.modified ≠ some (.unzoned Date.first time)
  status : command = "file" → exchange.modified = none → ∀ path, exchange.file = some path →
    ∀ text, host.files.locate path ≠ .error (.refused .nameTooLong text)
  file : command = "file" → exchange.modified = none → ∀ path, exchange.file = some path →
    ∀ modified, host.files.Holds path modified →
      2 ≤ localDay host.zone modified ∧ localDay host.zone modified ≤ lastOrdinal

/-! ## Ways to end -/

/-- A date pattern has an odd number of quotes, or a letter behind an even number of them that names
no field. -/
def IsMalformedFormat (format : String) : Prop :=
  ¬Even (format.toList.count '\'') ∨
    ∃ index c, FreeLetter format.toList index c ∧ c ∉ fieldLetters

/-- How a text behind `date:` ends. -/
inductive DateEnds (host : Host) (exchange : Exchange) (text : String) : Ending → Prop
  | malformed (h : ¬∃ command format, WritesDate text command format) :
      DateEnds host exchange text (.illegal ⟨"date:" ++ text, dateHint⟩)
  | unknownCommand {command format : String} (form : WritesDate text command format)
      (notNow : command ≠ "now") (notFile : command ≠ "file") :
      DateEnds host exchange text (.failed (.evaluation (.unknownCommand command)))
  | withoutTime {format : String} (form : WritesDate text "file" format)
      (none : HasNoTime host exchange) :
      DateEnds host exchange text (.failed (.evaluation .dateWithoutFile))
  | malformedFormat {command format : String} {moment : ZonedTime} {fault : FaultAt}
      (form : WritesDate text command format) (asks : Asks host exchange command moment)
      (malformed : IsMalformedFormat format)
      (verdict : Verdict 0 format.toList (.error fault)) :
      DateEnds host exchange text (.failed (.datePattern ⟨format, fault.fault, fault.position⟩))
  | formatted {command format : String} {moment : ZonedTime}
      (form : WritesDate text command format) (asks : Asks host exchange command moment)
      (wellFormed : ¬IsMalformedFormat format) :
      DateEnds host exchange text (.value (.text (String.ofList (scan moment false format.toList))))

/-! ## Finding a file -/

section

variable {files : FileSystem} {path : Path}

theorem FileSystem.modified?_eq_some_iff {modified : Int} :
    files.modified? path = .ok (some modified) ↔ files.Holds path modified := by
  unfold modified? Holds
  cases located : files.locate path with
  | error error =>
    refine iff_of_false ?_ (by simp)
    split <;> simp_all
  | ok location =>
    simp only [Except.ok.injEq, exists_eq_left']
    cases files.entry? location with
    | none => simp
    | some entry => cases entry <;> simp

theorem FileSystem.modified?_eq_none (absent : ∀ modified, ¬files.Holds path modified)
    (status : ∀ text, files.locate path ≠ .error (.refused .nameTooLong text)) :
    files.modified? path = .ok none := by
  have none : ∀ modified, files.modified? path ≠ .ok (some modified) :=
    fun modified found => absent modified (modified?_eq_some_iff.1 found)
  unfold modified? at none ⊢
  split
  · next text located => exact absurd located (status text)
  · rfl
  · next location located =>
    simp only [located] at none
    split
    · next modified entry => simp [entry] at none
    · next modified entry => simp [entry] at none
    · rfl

end

/-! ## The time that is asked for -/

section

variable {host : Host} {exchange : Exchange} {command : String}

theorem stampOf_of_unknown (notNow : command ≠ "now") (notFile : command ≠ "file") :
    stampOf host exchange command = .error (.evaluation (.unknownCommand command)) := by
  rw [stampOf, if_neg notNow, if_neg notFile]

theorem stampOf_file (host : Host) (exchange : Exchange) : stampOf host exchange "file" =
    match exchange.lastModified host with
    | .ok (some stamp) => .ok stamp
    | .ok none => .error (.evaluation .dateWithoutFile)
    | .error (.path e) => .error (.path e)
    | .error (.date fault) => .error (.date fault) := by
  unfold stampOf
  exact (if_neg (by decide)).trans (if_pos rfl)

theorem stampOf_of_hasNoTime (timely : IsTimely host exchange "file")
    (none : HasNoTime host exchange) :
    stampOf host exchange "file" = .error (.evaluation .dateWithoutFile) := by
  obtain ⟨unset, absent⟩ := none
  have noTime : exchange.lastModified host = .ok .none := by
    rw [Exchange.lastModified, unset]
    cases file : exchange.file with
    | none => rfl
    | some path =>
      have status := timely.status rfl unset path file
      simp only [FileSystem.modified?_eq_none (absent path file) status]
  rw [stampOf_file, noTime]

theorem lastModified_of_file {path : Path} {modified : Int} {moment : ZonedTime}
    (unset : exchange.modified = none) (file : exchange.file = some path)
    (holds : host.files.Holds path modified)
    (shown : ZonedTime.ofEpoch (microsOfNanos modified) host.zone = .ok moment) :
    exchange.lastModified host = .ok (some (.zoned moment)) := by
  -- Under a name of its own the time is not computed when the proof is checked.
  obtain ⟨timeAt, same⟩ : ∃ timeAt, timeAt = ZonedTime.ofEpoch := ⟨_, rfl⟩
  unfold Exchange.lastModified
  rw [← same] at shown ⊢
  simp only [unset, file, FileSystem.modified?_eq_some_iff.2 holds, shown]

/-- The stamp of a moment that is asked for gives that moment again. -/
theorem stampOf_of_asks {moment : ZonedTime} (asks : Asks host exchange command moment) :
    ∃ stamp, stampOf host exchange command = .ok stamp ∧
      stamp.inZone host.zone = .ok moment := by
  cases asks with
  | now shown =>
    rw [stampOf, if_pos rfl, shown]
    exact ⟨_, rfl, rfl⟩
  | @given stamp _ given shown =>
    have found : exchange.lastModified host = .ok (some stamp) := by
      rw [Exchange.lastModified, given]
    rw [stampOf_file, found]
    exact ⟨stamp, rfl, shown⟩
  | @file path modified _ unset file holds shown =>
    have found := lastModified_of_file unset file holds shown
    rw [stampOf_file, found]
    exact ⟨_, rfl, rfl⟩

theorem ofLocal_eq_ok {date : Date} (notFirst : date ≠ Date.first) (time : TimeOfDay)
    (zone : Zone) : ZonedTime.ofLocal date time zone = .ok ⟨date, time, zone⟩ :=
  if_neg notFirst

/-- A command that is known finds no time or asks for a moment. -/
theorem hasNoTime_or_asks (timely : IsTimely host exchange command)
    (known : command = "now" ∨ command = "file") :
    (command = "file" ∧ HasNoTime host exchange) ∨
      ∃ moment, Asks host exchange command moment := by
  rcases known with rfl | rfl
  · exact .inr ⟨_, .now (ofLocal_eq_ok (timely.now rfl) host.clock host.zone)⟩
  · cases given : exchange.modified with
    | some stamp =>
      right
      cases stamp with
      | day date =>
        have notFirst : date ≠ Date.first := by
          rintro rfl
          exact timely.day rfl given
        exact ⟨_, .given given (ofLocal_eq_ok notFirst .midnight host.zone)⟩
      | unzoned date time =>
        have notFirst : date ≠ Date.first := by
          rintro rfl
          exact timely.unzoned rfl time given
        exact ⟨_, .given given (ofLocal_eq_ok notFirst time host.zone)⟩
      | zoned moment => exact ⟨_, .given given rfl⟩
    | none =>
      by_cases found : ∃ path modified, exchange.file = some path ∧ host.files.Holds path modified
      · obtain ⟨path, modified, file, holds⟩ := found
        obtain ⟨later, inside⟩ := timely.file rfl given path file modified holds
        obtain ⟨moment, shown⟩ := ZonedTime.ofEpoch_of_mem_calendar later inside
        exact .inr ⟨moment, .file given file holds shown⟩
      · refine .inl ⟨rfl, given, fun path file modified holds => ?_⟩
        exact found ⟨path, modified, file, holds⟩

/-! ## The text of a moment -/

theorem isMalformedFormat_of_verdict {format : String} {fault : FaultAt}
    (h : Verdict 0 format.toList (.error fault)) : IsMalformedFormat format := by
  cases h with
  | unknownLetter index c first => exact .inr ⟨index, c, first.free, first.illegal⟩
  | unterminatedQuote index last odd legal => exact .inl odd

theorem not_isMalformedFormat_of_verdict {format : String} {tokens : List Token}
    (h : Verdict 0 format.toList (.ok tokens)) : ¬IsMalformedFormat format := by
  cases h with
  | ok _ even legal =>
    rintro (odd | ⟨index, c, free, illegal⟩)
    · exact odd even
    · exact illegal (legal index c free)

theorem tokensAt_of_verdict {format : String} {fault : FaultAt}
    (h : Verdict 0 format.toList (.error fault)) : tokensAt 0 format.toList = .error fault := by
  have verdict := tokensAt_verdict 0 format.toList
  cases read : tokensAt 0 format.toList with
  | error fault' =>
    rw [read] at verdict
    rw [h.fault_unique verdict]
  | ok tokens =>
    rw [read] at verdict
    exact absurd (isMalformedFormat_of_verdict h) (not_isMalformedFormat_of_verdict verdict)

theorem exists_verdict_of_isMalformedFormat {format : String} (h : IsMalformedFormat format) :
    ∃ fault, Verdict 0 format.toList (.error fault) := by
  have verdict := tokensAt_verdict 0 format.toList
  cases read : tokensAt 0 format.toList with
  | error fault => exact ⟨fault, read ▸ verdict⟩
  | ok tokens =>
    rw [read] at verdict
    exact absurd h (not_isMalformedFormat_of_verdict verdict)

theorem exists_tokens_of_wellFormed {format : String} (h : ¬IsMalformedFormat format) :
    ∃ tokens, tokensAt 0 format.toList = .ok tokens := by
  rw [exists_tokensAt_iff]
  constructor
  · by_contra odd
    exact h (.inl odd)
  · intro index c free
    by_contra illegal
    exact h (.inr ⟨index, c, free, illegal⟩)

theorem evaluateDate_of_fault {format : String} {moment : ZonedTime} {fault : FaultAt}
    (asks : Asks host exchange command moment)
    (verdict : Verdict 0 format.toList (.error fault)) :
    evaluateDate host exchange command format =
      .error (.datePattern ⟨format, fault.fault, fault.position⟩) := by
  obtain ⟨stamp, found, shown⟩ := stampOf_of_asks asks
  simp only [evaluateDate, found, bind, Except.bind, DatePattern.format, shown, formatMoment,
    DatePattern.tokens, tokensAt_of_verdict verdict]
  rfl

theorem evaluateDate_of_wellFormed {format : String} {moment : ZonedTime}
    (asks : Asks host exchange command moment) (wellFormed : ¬IsMalformedFormat format) :
    evaluateDate host exchange command format =
      .ok (.text (String.ofList (scan moment false format.toList))) := by
  obtain ⟨stamp, found, shown⟩ := stampOf_of_asks asks
  obtain ⟨tokens, read⟩ := exists_tokens_of_wellFormed wellFormed
  simp only [evaluateDate, found, bind, Except.bind, DatePattern.format, shown, formatMoment,
    DatePattern.tokens, read, scan_eq_render moment read]
  rfl

end

/-! ## The ending -/

namespace Language

section

variable (language : Language) (host : Host) (state : State) {text : String}

theorem create_date_of_writes {command format : String} (form : WritesDate text command format) :
    language.create ("date:" ++ text) = .ok (.date command format) := by
  have read := Form.ofDate_eq_date_iff.2 form
  rcases (language.create_date text).1 with ⟨command', format', read', created⟩ | ⟨other, _⟩
  · obtain ⟨rfl, rfl⟩ := Form.date.inj (read.symm.trans read')
    exact created
  · exact absurd read (other command format)

theorem create_date_of_malformed (malformed : ¬∃ command format, WritesDate text command format) :
    language.create ("date:" ++ text) = .error ⟨"date:" ++ text, dateHint⟩ := by
  rcases (language.create_date text).1 with ⟨command, format, read, _⟩ | ⟨_, fails⟩
  · exact absurd ⟨command, format, Form.ofDate_eq_date_iff.1 read⟩ malformed
  · exact fails

theorem ending_of_writes {command format : String} (form : WritesDate text command format) :
    language.ending host state ("date:" ++ text) =
      match evaluateDate host state.exchange command format with
      | .ok value => .value value
      | .error failure => .failed failure := by
  rw [ending, create_date_of_writes language form]
  simp only [Expression.evaluate]
  generalize evaluateDate host state.exchange command format = result
  cases result <;> rfl

theorem evaluateDate_of_stampOf {host : Host} {exchange : Exchange} {command : String}
    {failure : Failure} (h : stampOf host exchange command = .error failure) (format : String) :
    evaluateDate host exchange command format = .error failure := by
  simp only [evaluateDate, h, bind, Except.bind]

theorem ending_of_dateEnds {ending : Ending}
    (timely : ∀ command format, WritesDate text command format →
      IsTimely host state.exchange command)
    (ends : DateEnds host state.exchange text ending) :
    language.ending host state ("date:" ++ text) = ending := by
  cases ends with
  | malformed h => rw [Language.ending, create_date_of_malformed language h]
  | unknownCommand form notNow notFile =>
    rw [ending_of_writes language host state form,
      evaluateDate_of_stampOf (stampOf_of_unknown notNow notFile)]
  | withoutTime form none =>
    rw [ending_of_writes language host state form,
      evaluateDate_of_stampOf (stampOf_of_hasNoTime (timely _ _ form) none)]
  | malformedFormat form asks _ verdict =>
    rw [ending_of_writes language host state form, evaluateDate_of_fault asks verdict]
  | formatted form asks wellFormed =>
    rw [ending_of_writes language host state form, evaluateDate_of_wellFormed asks wellFormed]

theorem exists_dateEnds (timely : ∀ command format, WritesDate text command format →
      IsTimely host state.exchange command) :
    ∃ ending, DateEnds host state.exchange text ending := by
  by_cases form : ∃ command format, WritesDate text command format
  · obtain ⟨command, format, form⟩ := form
    by_cases known : command = "now" ∨ command = "file"
    · rcases hasNoTime_or_asks (timely _ _ form) known with ⟨rfl, none⟩ | ⟨moment, asks⟩
      · exact ⟨_, .withoutTime form none⟩
      · by_cases malformed : IsMalformedFormat format
        · obtain ⟨fault, verdict⟩ := exists_verdict_of_isMalformedFormat malformed
          exact ⟨_, .malformedFormat form asks malformed verdict⟩
        · exact ⟨_, .formatted form asks malformed⟩
    · obtain ⟨notNow, notFile⟩ := not_or.1 known
      exact ⟨_, .unknownCommand form notNow notFile⟩
  · exact ⟨_, .malformed form⟩

end

theorem stampOf_of_modified {host : Host} {exchange : Exchange} {stamp : Stamp}
    (given : exchange.modified = some stamp) (files : FileSystem) (file : Option Path)
    (command : String) :
    stampOf { host with files } { exchange with file } command = stampOf host exchange command := by
  have found : exchange.lastModified host = .ok (some stamp) := by
    rw [Exchange.lastModified, given]
  have found' : Exchange.lastModified { host with files } { exchange with file } =
      .ok (some stamp) := by
    simp only [Exchange.lastModified, given]
  simp only [stampOf, found, found']

/-- A host with one file, which was last modified at the start of 1970. -/
def epochHost : Host :=
  ⟨.first, .midnight, .utc, ⟨[(["a"], .file [] 0)], .ofText "/"⟩⟩

def stateWith (file : Option Path) : State :=
  ⟨.empty, 0, ⟨file, [], [], none⟩⟩

theorem holds_epochHost {modified : Int} :
    epochHost.files.Holds (.ofText "a") modified ↔ modified = 0 := by
  rw [← FileSystem.modified?_eq_some_iff,
    show epochHost.files.modified? (.ofText "a") = .ok (some 0) by decide]
  simp [eq_comm]

theorem isTimely_epochHost {command : String} (notNow : command ≠ "now") :
    IsTimely epochHost (stateWith (some (.ofText "a"))).exchange command where
  now isNow := absurd isNow notNow
  day _ given := by cases given
  unzoned _ _ given := by cases given
  status := by
    rintro - - path found text refused
    obtain rfl := Option.some.inj found
    rw [show epochHost.files.locate (.ofText "a") = .ok ["a"] by decide] at refused
    cases refused
  file := by
    rintro - - path found modified holds
    obtain rfl := Option.some.inj found
    obtain rfl := holds_epochHost.1 holds
    decide +kernel

theorem isTimely_withoutFile (host : Host) {command : String} (notNow : command ≠ "now") :
    IsTimely host (stateWith none).exchange command where
  now isNow := absurd isNow notNow
  day _ given := by cases given
  unzoned _ _ given := by cases given
  status _ _ _ found := by cases found
  file _ _ _ found := by cases found

theorem writesDate_file {format : String} (nonempty : format ≠ "") (apart : ':' ∉ format.toList) :
    WritesDate ("file:" ++ format) "file" format :=
  ⟨by decide, nonempty, apart, 0, by simp⟩

theorem command_of_writes_file {text command format : String}
    (form : WritesDate ("file:" ++ text) command format) : command ≠ "now" := by
  rintro rfl
  obtain ⟨_, _, _, count, same⟩ := form
  have first := congrArg (fun text => text.toList.head?) same
  simp at first

theorem asks_epochHost : ∃ moment,
    Asks epochHost (stateWith (some (.ofText "a"))).exchange "file" moment ∧
      String.ofList (scan moment false "yyyy".toList) = "1970" := by
  have year : (ZonedTime.ofEpoch (microsOfNanos 0) .utc).map
      (fun moment => String.ofList (scan moment false "yyyy".toList)) = .ok "1970" := by
    decide +kernel
  cases shown : ZonedTime.ofEpoch (microsOfNanos 0) .utc with
  | error fault =>
    rw [shown] at year
    cases year
  | ok moment =>
    rw [shown] at year
    exact ⟨moment, .file rfl rfl (holds_epochHost.2 rfl) shown, Except.ok.inj year⟩

theorem not_isMalformedFormat_year : ¬IsMalformedFormat "yyyy" := by
  rintro (odd | ⟨index, c, free, illegal⟩)
  · exact odd (by decide)
  · have member := List.mem_of_getElem? free.getElem?_eq
    obtain rfl : c = 'y' := by simpa using member
    exact illegal (by decide)

end Language

end FileRouting
