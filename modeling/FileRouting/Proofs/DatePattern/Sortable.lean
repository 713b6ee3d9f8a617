import FileRouting.Proofs.DatePattern.Composition
import FileRouting.Proofs.Time.Order

/-!
# Sortable stamps

A pattern that shows the year, the month, the day and the time down to the millisecond, each in a
fixed number of digits, gives texts that sort as the moments do. All of them have one length, and
two of them are the same only for moments within one millisecond. What stands between the fields is
of no matter, as long as it stands for itself. The main statement is `format_sortable`.
-/

namespace FileRouting.DatePattern

open FileRouting.Text FileRouting.Time

/-! ## Fields with gaps between them -/

/-- A field and the number of times its letter is repeated. -/
abbrev Part := Field × Nat

/-- A text is made of these parts in this order, with plain text before, between and behind them,
which may be empty. -/
inductive Spells : List Part → List Char → Prop
  | last (gap : List Char) (plain : ∀ c ∈ gap, isPlain c) : Spells [] gap
  | part (gap : List Char) (plain : ∀ c ∈ gap, isPlain c) (field : Field) (count : Nat)
      {parts : List Part} {text : List Char} (more : Spells parts text) :
      Spells ((field, count + 1) :: parts)
        (gap ++ (List.replicate (count + 1) field.letter ++ text))

namespace Spells

variable {parts : List Part} {text : List Char}

theorem plain_or_letter (spells : Spells parts text) :
    ∀ c ∈ text, isPlain c ∨ ∃ field : Field, field.letter = c := by
  induction spells with
  | last _ plain => exact fun c member => .inl (plain c member)
  | part _ plain field count _ ih =>
    intro c member
    rcases List.mem_append.1 member with member | member
    · exact .inl (plain c member)
    · rcases List.mem_append.1 member with member | member
      · exact .inr ⟨field, (List.eq_of_mem_replicate member).symm⟩
      · exact ih c member

/-- Where such a text starts with a letter, the letter is that of the first part. -/
theorem exists_part_of_head? (spells : Spells parts text) {field : Field}
    (starts : text.head? = some field.letter) : ∃ part ∈ parts, part.1 = field := by
  have not_plain {gap : List Char} (plain : ∀ c ∈ gap, isPlain c)
      (starts : gap.head? = some field.letter) : False := by
    have letter := plain _ (List.mem_of_head? starts)
    simp [isPlain, isLetter_letter field] at letter
  cases spells with
  | last _ plain => exact (not_plain plain starts).elim
  | part gap plain first count more =>
    rw [List.head?_append] at starts
    cases ends : gap.head? with
    | some c =>
      rw [ends, Option.some_or] at starts
      exact (not_plain plain (ends.trans starts)).elim
    | none =>
      rw [ends, Option.none_or, List.replicate_succ] at starts
      have same : some first = some field := by
        rw [← Field.ofLetter?_letter first, Option.some.inj starts, Field.ofLetter?_letter]
      exact ⟨_, List.mem_cons_self, Option.some.inj same⟩

end Spells

/-! ## Numbers in fixed widths -/

/-- A part shows a number in as many digits as its letter is repeated. -/
structure Fits (moment : ZonedTime) (part : Part) (number : Nat) : Prop where
  text : part.1.text moment part.2 = padded part.2 number
  positive : 1 ≤ part.2
  small : number < 10 ^ part.2

section

variable {a b : ZonedTime} {part : Part} {number number' : Nat}

theorem Fits.length_eq (fits : Fits a part number) :
    (part.1.text a part.2).length = part.2 := by
  rw [fits.text, length_padded fits.positive fits.small]

theorem Fits.compare_eq (fits : Fits a part number) (fits' : Fits b part number') :
    compare (part.1.text a part.2) (part.1.text b part.2) = compare number number' := by
  rw [fits.text, fits'.text, compare_padded fits.positive fits.small fits'.small]

/-- Two texts of one pattern have one length and compare as the lists of their numbers do. -/
theorem Spells.compare_scan {parts : List Part} {text : List Char} (spells : Spells parts text)
    (distinct : (parts.map Prod.fst).Nodup) {numbers numbers' : List Nat}
    (fits : List.Forall₂ (Fits a) parts numbers) (fits' : List.Forall₂ (Fits b) parts numbers') :
    (scan a false text).length = (scan b false text).length ∧
      compare (scan a false text) (scan b false text) = compare numbers numbers' := by
  induction spells generalizing numbers numbers' with
  | last gap plain =>
    cases fits
    cases fits'
    have verbatim (moment : ZonedTime) : scan moment false gap = gap := by
      simpa [scan_nil] using scan_plain_append moment plain []
    rw [verbatim, verbatim, Std.compare_self, Std.compare_self]
    exact ⟨rfl, rfl⟩
  | @part gap plain field count _ text more ih =>
    obtain ⟨fresh, distinct⟩ := List.nodup_cons.1 distinct
    cases fits with
    | cons shown fits =>
    cases fits' with
    | cons shown' fits' =>
    -- The next part has another letter, so that the run of this one ends where it should.
    have ends : text.head? ≠ some field.letter := by
      intro starts
      obtain ⟨part, member, same⟩ := more.exists_part_of_head? starts
      exact fresh (List.mem_map.2 ⟨part, member, same⟩)
    have split (moment : ZonedTime) :
        scan moment false (gap ++ (List.replicate (count + 1) field.letter ++ text)) =
          gap ++ (field.text moment (count + 1) ++ scan moment false text) := by
      rw [scan_plain_append moment plain,
        scan_replicate moment (isLetter_letter field) count ends, letterText,
        Field.ofLetter?_letter]
    have width := shown.length_eq.trans shown'.length_eq.symm
    obtain ⟨length, order⟩ := ih distinct fits fits'
    rw [split, split]
    constructor
    · simp only [List.length_append, length]
      rw [width]
    · rw [compare_append rfl, Std.compare_self, Ordering.eq_then, compare_append width,
        shown.compare_eq shown', order, List.compare_cons_cons]

end

/-! ## Stamps -/

/-- The parts of a stamp, from the year, in the given number of digits, to the millisecond. -/
def stampParts (years : Nat) : List Part :=
  [(.year, years), (.month, 2), (.dayOfMonth, 2), (.hour, 2), (.minute, 2), (.second, 2),
    (.millisecond, 3)]

/-- The numbers that the parts of a stamp show. -/
def stampNumbers (moment : ZonedTime) : List Nat :=
  [moment.date.year, moment.date.month, moment.date.day, moment.time.hour, moment.time.minute,
    moment.time.second, moment.time.milli]

theorem fits_year (moment : ZonedTime) {years : Nat} (long : 4 ≤ years) :
    Fits moment (.year, years) moment.date.year where
  text := if_neg (by omega)
  positive := by
    show 1 ≤ years
    omega
  small := by
    have four : 10 ^ 4 ≤ 10 ^ years := Nat.pow_le_pow_right (by decide) long
    have year : moment.date.year ≤ 9999 := moment.date.year_le
    show moment.date.year < 10 ^ years
    omega

theorem fits_stamp (moment : ZonedTime) {years : Nat} (long : 4 ≤ years) :
    List.Forall₂ (Fits moment) (stampParts years) (stampNumbers moment) := by
  have month : moment.date.month < 10 ^ 2 := by
    have := moment.date.month_le
    omega
  have day : moment.date.day < 10 ^ 2 := by
    have := moment.date.day_le.trans (daysInMonth_le _ _)
    omega
  have hour : moment.time.hour.val < 10 ^ 2 := by omega
  have minute : moment.time.minute.val < 10 ^ 2 := by omega
  have second : moment.time.second.val < 10 ^ 2 := by omega
  have milli : moment.time.milli < 10 ^ 3 := by
    rw [TimeOfDay.milli]
    omega
  exact .cons (fits_year moment long) <| .cons ⟨rfl, by decide, month⟩ <|
    .cons ⟨rfl, by decide, day⟩ <| .cons ⟨rfl, by decide, hour⟩ <|
    .cons ⟨rfl, by decide, minute⟩ <| .cons ⟨rfl, by decide, second⟩ <|
    .cons ⟨rfl, by decide, milli⟩ .nil

theorem compare_stampNumbers {a b : ZonedTime} (same : a.zone.offset = b.zone.offset) :
    compare (stampNumbers a) (stampNumbers b) = compare a.cut.instant b.cut.instant := by
  rw [ZonedTime.compare_cut same]
  simp only [stampNumbers, List.compare_cons_cons, List.compare_nil_nil, Ordering.then_eq]

/-- Two moments at one offset, shown by one pattern: the texts have one length, they compare as the
moments do when these are cut down to milliseconds, and they are the same for the same
millisecond. -/
theorem format_sortable (localZone : Zone) {a b : ZonedTime}
    (same : a.zone.offset = b.zone.offset) {years : Nat} (long : 4 ≤ years) {pattern : String}
    (spells : Spells (stampParts years) pattern.toList) :
    ∃ text text', format localZone (.zoned a) pattern = .ok text ∧
      format localZone (.zoned b) pattern = .ok text' ∧
      text.length = text'.length ∧
      compare text.toList text'.toList = compare a.cut.instant b.cut.instant ∧
      (text = text' ↔ a.SameMilli b) := by
  obtain ⟨found, reads⟩ := exists_tokensAt_of_plain_or_letter spells.plain_or_letter
  obtain ⟨length, order⟩ := spells.compare_scan (by simp [stampParts])
    (fits_stamp a long) (fits_stamp b long)
  rw [compare_stampNumbers same] at order
  refine ⟨_, _, format_of_tokensAt localZone a reads, format_of_tokensAt localZone b reads,
    ?_, ?_, ?_⟩
  · rwa [String.length_ofList, String.length_ofList]
  · rwa [String.toList_ofList, String.toList_ofList]
  · rw [String.ofList_inj, ← Std.compare_eq_iff_eq, order, Std.compare_eq_iff_eq,
      ZonedTime.cut_instant_eq_iff same]

/-- The last microsecond of a minute, in a zone twelve hours west of UTC. -/
def minuteEnd : ZonedTime :=
  ⟨.first, .ofMicros 59999999, .fixed (-43200000000) none⟩

/-- The microsecond behind it, in a zone of the same offset. -/
def nextMinute : ZonedTime :=
  ⟨.first, .ofMicros 60000000, .fixed (-43200000000) (some "Y")⟩

theorem format_sortable_nextMinute :
    ∃ text text', format .utc (.zoned minuteEnd) "yyyyyMMdd HHmmss.SSS" = .ok text ∧
      format .utc (.zoned nextMinute) "yyyyyMMdd HHmmss.SSS" = .ok text' ∧
      text.length = text'.length ∧
      compare text.toList text'.toList = compare minuteEnd.cut.instant nextMinute.cut.instant ∧
      (text = text' ↔ minuteEnd.SameMilli nextMinute) := by
  have space : ∀ c ∈ [' '], isPlain c := List.forall_mem_singleton.2 rfl
  have point : ∀ c ∈ ['.'], isPlain c := List.forall_mem_singleton.2 rfl
  have spells : Spells (stampParts 5) "yyyyyMMdd HHmmss.SSS".toList :=
    .part [] (List.forall_mem_nil _) .year 4 <| .part [] (List.forall_mem_nil _) .month 1 <|
    .part [] (List.forall_mem_nil _) .dayOfMonth 1 <| .part [' '] space .hour 1 <|
    .part [] (List.forall_mem_nil _) .minute 1 <| .part [] (List.forall_mem_nil _) .second 1 <|
    .part ['.'] point .millisecond 2 <| .last [] (List.forall_mem_nil _)
  have same : minuteEnd.zone.offset = nextMinute.zone.offset := rfl
  exact format_sortable .utc same (by decide) spells

example : format .utc (.zoned minuteEnd) "yyyyyMMdd HHmmss.SSS" = .ok "000010101 000059.999" := by
  decide +kernel

end FileRouting.DatePattern
