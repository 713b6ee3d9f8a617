import FileRouting.Proofs.Yaml.Outcome
import FileRouting.Yaml.Scalar

/-!
# Faults of scalars

Every type of scalars has its own faults: those of the texts that do not write a value of it. The
main statement is `Scalar.refuses_of_value`.
-/

namespace FileRouting.Yaml.Scalar

open FileRouting.Text FileRouting.Time FileRouting.Number

/-- Whether a text may have a fault as a scalar of a type. -/
inductive Refuses : Tag → Fault → Prop
  | bool (text : RawText) : Refuses .bool (.notBool text)
  | noInteger : Refuses .int .noDigits
  | integer (base : Nat) (text : RawText) : Refuses .int (.notInteger base text)
  | longInteger (count : Nat) : Refuses .int (.tooManyDigits count)
  | noFloat : Refuses .float .noDigits
  | float (text : RawText) : Refuses .float (.notFloat text)
  | largePlace : Refuses .float .placeTooLarge
  | timestamp : Refuses .timestamp .notTimestamp
  | date (fault : Date.Fault) : Refuses .timestamp (.date fault)
  | time (fault : TimeOfDay.Fault) : Refuses .timestamp (.time fault)
  | zone (literal : List Char) : Refuses .timestamp (.zoneOffset literal)

/-- Whether the reader of a type has no faults but its own. -/
abbrev Reads {α : Type} (tag : Tag) (x : Except Fault α) : Prop :=
  Yields (fun _ => True) (Refuses tag) x

theorem reads_bool (text : RawText) : Reads .bool (bool text) := by
  rw [bool]
  dsimp only
  split
  · trivial
  · split
    · trivial
    · exact .bool _

/-! ## Numbers -/

theorem yields_signed {raises : Fault → Prop} (none : raises .noDigits) (text : RawText) :
    Yields (fun _ => True) raises (signed text) := by
  rw [signed.eq_def]
  split
  · exact none
  · trivial
  · trivial
  · trivial

theorem reads_integer (base : Nat) (text : RawText) : Reads .int (integer base text) := by
  have long : ∀ (digits rest : List Char) (number : Int), Reads .int
      (if base = 10 ∧ digits.length > maxDigits then .error (.tooManyDigits digits.length)
        else if digits = [] ∨ rest ≠ [] then .error (.notInteger base text) else .ok number) := by
    intro digits rest number
    split
    · exact Refuses.longInteger digits.length
    · split
      · exact Refuses.integer base text
      · trivial
  exact long _ _ _

theorem reads_int (text : RawText) : Reads .int (int text) := by
  refine (yields_signed .noInteger _).bind fun (negative, body) _ => ?_
  dsimp only
  split
  · exact .noInteger
  · exact (reads_integer _ _).map fun _ _ => trivial
  · exact (reads_integer _ _).map fun _ _ => trivial
  · exact (reads_integer _ _).map fun _ _ => trivial
  · split
    · exact (yields_mapM (reads_integer 10) _).map fun _ _ => trivial
    · exact (reads_integer _ _).map fun _ _ => trivial

theorem reads_decimal (text : RawText) : Reads .float (decimal text) := by
  have written : ∀ (whole part : List Char) (value : Double), Reads .float
      (if whole = [] ∧ part = [] then .error (.notFloat text) else .ok value) := by
    intro whole part value
    split
    · exact Refuses.float text
    · trivial
  rw [decimal]
  dsimp only
  split
  · trivial
  split
  · trivial
  generalize exponent? _ = power?
  cases power? with
  | none => exact Refuses.float text
  | some power => exact written _ _ _

theorem reads_sixtyDoubles (size : Nat) (sum : Double) (numbers : List Double) :
    Reads .float (sixtyDoubles size sum numbers) := by
  induction numbers generalizing size sum with
  | nil => trivial
  | cons number numbers ih =>
    rw [sixtyDoubles]
    split
    · exact Refuses.largePlace
    · exact ih _ _

theorem reads_float (text : RawText) : Reads .float (float text) := by
  refine (yields_signed .noFloat _).bind fun (negative, body) _ => ?_
  dsimp only
  split
  · trivial
  · split
    · trivial
    · split
      · refine (yields_mapM reads_decimal _).bind fun numbers _ => ?_
        exact (reads_sixtyDoubles _ _ _).map fun _ _ => trivial
      · exact (reads_decimal body).map fun _ _ => trivial

/-! ## Moments -/

theorem yields_mapError {α ε δ : Type} {raises : δ → Prop} {named : ε → δ}
    (each : ∀ error, raises (named error)) (x : Except ε α) :
    Yields (fun _ => True) raises (x.mapError named) := by
  cases x with
  | ok value => trivial
  | error error => exact each error

theorem reads_zone (text : List Char) : Reads .timestamp (zone? text) := by
  rw [zone?]
  split
  · trivial
  · split
    · trivial
    · exact .zone _

theorem reads_moment (text : List Char) : Reads .timestamp (moment text) := by
  rw [moment]
  dsimp only
  split
  · exact (yields_mapError .date _).map fun _ _ => trivial
  refine (reads_zone _).bind fun zone _ => ?_
  refine (yields_mapError .date _).bind fun date _ => ?_
  refine (yields_mapError .time _).bind fun time _ => ?_
  split
  · trivial
  · trivial

theorem reads_timestamp (text : RawText) : Reads .timestamp (timestamp text) := by
  have read : ∀ chars : List Char, Reads .timestamp
      (if readableMoment.accepts chars then (moment chars).map Value.time
        else .error .notTimestamp) := by
    intro chars
    split
    · exact (reads_moment chars).map fun _ _ => trivial
    · exact Refuses.timestamp
  exact read _

/-! ## All types -/

theorem binary_ne_fault (text : RawText) (fault : Fault) : binary text ≠ .error (.fault fault) := by
  rw [binary]
  split
  · split
    · split
      · simp
      · simp
    · simp
  · simp

theorem refuses_of_value {tag : Tag} {text : RawText} {fault : Fault}
    (raised : value tag text = .error (.fault fault)) : Refuses tag fault := by
  have named : ∀ (read : RawText → Except Fault Value), (∀ text, Reads tag (read text)) →
      (read text).mapError Error.fault = .error (.fault fault) → Refuses tag fault := by
    intro read reads failed
    cases refused : read text with
    | ok value =>
      rw [refused] at failed
      cases failed
    | error reason =>
      rw [refused] at failed
      cases failed
      exact (reads text).error refused
  cases tag with
  | bool => exact named bool reads_bool raised
  | int => exact named int reads_int raised
  | float => exact named float reads_float raised
  | timestamp => exact named timestamp reads_timestamp raised
  | binary => exact absurd raised (binary_ne_fault text fault)
  | null | text => cases raised
  | _ => cases raised

end FileRouting.Yaml.Scalar
