import FileRouting.Number.Style
import FileRouting.Text.Quoted
import FileRouting.Time.Stamp

/-!
# Data values

The values of documents, headers and results: scalars, moments, lists and mappings. Each value has a
literal form, in which text is quoted, and a display form, in which text and moments stand as they
are. The collections of a document may be shared and may hold themselves; there they are parts,
which are kept apart and stand in values by their numbers.
-/

namespace FileRouting

open FileRouting.Text FileRouting.Time FileRouting.Number

/-- A data value. The entries of a mapping keep the order in which their keys first came. -/
inductive Value
  | null
  | bool (value : Bool)
  | int (value : Int)
  | float (value : Double)
  | text (value : String)
  | raw (value : RawText)
  | bytes (value : List UInt8)
  | time (value : Stamp)
  | list (items : List Value)
  | pair (key value : Value)
  | set (items : List Value)
  | mapping (entries : List (Value × Value))
  | part (number : Nat)

namespace Value

/-! ## Texts -/

/-- The value that a text is; only a text with surrogates is raw. -/
def ofRaw (value : RawText) : Value :=
  match value.chars? with
  | some chars => text (String.ofList chars)
  | none => raw value

def rawText? : Value → Option RawText
  | text value => some (.ofString value)
  | raw value => some value
  | _ => none

/-! ## Scalars -/

/-- Floating-point numbers are positional from `0.0001` to below `10 ^ 16`. -/
def floatStyle : Style where
  low := -4
  high := 16
  mark := 'e'
  width := 2
  infinity := ['i', 'n', 'f']
  notANumber := ['n', 'a', 'n']

/-- A duration in microseconds as days, seconds and microseconds, of which only the days may be
negative and parts that are zero are left out. -/
def durationLiteral (micros : Int) : List Char :=
  let days := micros.fdiv Zone.microsPerDay
  let rest := (micros.fmod Zone.microsPerDay).toNat
  let part := fun (name : String) (count : Int) =>
    if count = 0 then [] else [name.toList ++ '=' :: signedDecimal count]
  let parts := part "days" days ++ part "seconds" (rest / 1000000 : Nat) ++
    part "microseconds" (rest % 1000000 : Nat)
  "datetime.timedelta(".toList ++
    (if parts.isEmpty then ['0'] else [',', ' '].intercalate parts) ++ [')']

/-- A zone as the expression that makes it. -/
def zoneLiteral (zone : Zone) : List Char :=
  let offset := zone.offset.getD 0
  if offset = 0 then "datetime.timezone.utc".toList
  else "datetime.timezone(".toList ++ durationLiteral offset ++ [')']

/-- The numbers of a date and time; seconds and microseconds that are zero are left out. -/
def dateTimeNumbers (date : Date) (clock : TimeOfDay) : List Nat :=
  let seconds :=
    if clock.micro.val ≠ 0 then [clock.second.val, clock.micro.val]
    else if clock.second.val ≠ 0 then [clock.second.val]
    else []
  [date.year, date.month, date.day, clock.hour.val, clock.minute.val] ++ seconds

/-- A stamp as the expression that makes it. -/
def stampLiteral (stamp : Stamp) : List Char :=
  let call := fun (name : String) (arguments : List (List Char)) =>
    name.toList ++ '(' :: [',', ' '].intercalate arguments ++ [')']
  match stamp with
  | .day date => call "datetime.date" ([date.year, date.month, date.day].map decimal)
  | .unzoned date clock => call "datetime.datetime" ((dateTimeNumbers date clock).map decimal)
  | .zoned ⟨date, clock, zone⟩ =>
    call "datetime.datetime"
      ((dateTimeNumbers date clock).map decimal ++ ["tzinfo=".toList ++ zoneLiteral zone])

/-! ## Literal form -/

mutual

/-- The literal form of a value, with a literal form for each part. -/
def literalWith (partText : Nat → List Char) : Value → List Char
  | null => "None".toList
  | bool true => "True".toList
  | bool false => "False".toList
  | int n => signedDecimal n
  | float x => floatStyle.text x
  | text s => quoted s.toList
  | raw s => quotedRaw s
  | bytes b => quotedBytes b
  | time stamp => stampLiteral stamp
  | list items => '[' :: itemsWith partText items ++ [']']
  | pair key value =>
    '(' :: literalWith partText key ++ ',' :: ' ' :: literalWith partText value ++ [')']
  | set [] => "set()".toList
  | set (item :: items) => '\x7b' :: itemsWith partText (item :: items) ++ ['\x7d']
  | mapping entries => '\x7b' :: entriesWith partText entries ++ ['\x7d']
  | part number => partText number

/-- Items with a comma between them. -/
def itemsWith (partText : Nat → List Char) : List Value → List Char
  | [] => []
  | [item] => literalWith partText item
  | item :: items => literalWith partText item ++ ',' :: ' ' :: itemsWith partText items

/-- Entries with a comma between them. -/
def entriesWith (partText : Nat → List Char) : List (Value × Value) → List Char
  | [] => []
  | [(key, value)] => literalWith partText key ++ ':' :: ' ' :: literalWith partText value
  | (key, value) :: entries =>
    literalWith partText key ++ ':' :: ' ' :: literalWith partText value ++
      ',' :: ' ' :: entriesWith partText entries

end

/-- The literal form of a value without parts. -/
def literalText (value : Value) : List Char :=
  value.literalWith fun _ => "...".toList

/-- The literal form of a value without parts. -/
def literal (value : Value) : String :=
  String.ofList value.literalText

def display : Value → String
  | text s => s
  | raw s => s.shown
  | time stamp => String.ofList (stamp.isoTextWith ' ')
  | value => value.literal

/-- The display form of a value with its surrogates. -/
def rawDisplay (value : Value) : RawText :=
  (value.rawText?).getD (.ofString value.display)

/-! ## Looking up -/

/-- The value under a text key. -/
def lookup? (entries : List (Value × Value)) (key : String) : Option Value :=
  match entries with
  | [] => none
  | (text k, value) :: entries => if k = key then some value else lookup? entries key
  | _ :: entries => lookup? entries key

end Value

end FileRouting
