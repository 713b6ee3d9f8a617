import FileRouting.Text.Numeral
import FileRouting.Text.Raw

/-!
# UTF-8

Bytes are read as text from left to right. The first sequence that is no character ends the reading
with an error that names its bytes. The bytes of a text may come in pieces; a character that a piece
cuts off is read again with the next piece, and positions count from where a piece with what was
left before it starts. A text with surrogates cannot be written.
-/

namespace FileRouting.Text

/-! ## Reading -/

/-- What is wrong with a sequence of bytes. -/
inductive Utf8Fault
  | invalidStart
  | invalidContinuation
  | unexpectedEnd
deriving DecidableEq, Repr

/-- A sequence that is no character: its first byte, where it starts and how many bytes it has. -/
structure Utf8Error where
  fault : Utf8Fault
  byte : UInt8
  position : Nat
  length : Nat
deriving DecidableEq

def Utf8Fault.message : Utf8Fault → String
  | invalidStart => "invalid start byte"
  | invalidContinuation => "invalid continuation byte"
  | unexpectedEnd => "unexpected end of data"

def Utf8Error.message (e : Utf8Error) : String :=
  let place :=
    if e.length = 1 then
      "byte 0x" ++ String.ofList (Nat.toDigits 16 e.byte.toNat) ++ " in position " ++
        toString e.position
    else
      "bytes in position " ++ toString e.position ++ "-" ++ toString (e.position + e.length - 1)
  "'utf-8' codec can't decode " ++ place ++ ": " ++ e.fault.message

/-- How many bytes follow a first byte, and the range of the one after it. -/
def followers? (byte : UInt8) : Option (Nat × UInt8 × UInt8) :=
  if byte < 0xC2 then none
  else if byte < 0xE0 then some (1, 0x80, 0xBF)
  else if byte = 0xE0 then some (2, 0xA0, 0xBF)
  else if byte = 0xED then some (2, 0x80, 0x9F)
  else if byte < 0xF0 then some (2, 0x80, 0xBF)
  else if byte = 0xF0 then some (3, 0x90, 0xBF)
  else if byte < 0xF4 then some (3, 0x80, 0xBF)
  else if byte = 0xF4 then some (3, 0x80, 0x8F)
  else none

/-- The bits that a first byte gives to a character. -/
def leadBits (byte : UInt8) : Nat :=
  if byte < 0xE0 then byte.toNat % 0x20 else if byte < 0xF0 then byte.toNat % 0x10
  else byte.toNat % 0x08

/-- A character of which some bytes have been read: these bytes and what they give to it, how many
are missing, and the range of the next one. -/
structure Utf8Start where
  first : UInt8
  bytes : List UInt8
  bits : Nat
  missing : Nat
  low : UInt8
  high : UInt8

/-- Whether two bytes that end a piece are the first ones of a surrogate. They only prove wrong with
the next piece. -/
def isCutSurrogate (first byte : UInt8) (rest : List UInt8) : Bool :=
  first = 0xED && 0xA0 ≤ byte && byte ≤ 0xBF && rest.isEmpty

/-- The text that the bytes of a piece write, with the text before it given from its end, and the
bytes of a character that is cut off. The last piece may not cut off any. -/
def decodeFrom (last : Bool) (text : List Char) (position : Nat) (start : Option Utf8Start) :
    List UInt8 → Except Utf8Error (List Char × List UInt8)
  | [] =>
    match start with
    | none => .ok (text.reverse, [])
    | some s =>
      if last then
        .error ⟨.unexpectedEnd, s.first, position - s.bytes.length, s.bytes.length⟩
      else .ok (text.reverse, s.bytes)
  | byte :: bytes =>
    match start with
    | none =>
      if byte < 0x80 then
        decodeFrom last (Char.ofNat byte.toNat :: text) (position + 1) none bytes
      else
        match followers? byte with
        | none => .error ⟨.invalidStart, byte, position, 1⟩
        | some (count, low, high) =>
          decodeFrom last text (position + 1)
            (some ⟨byte, [byte], leadBits byte, count, low, high⟩) bytes
    | some s =>
      if s.low ≤ byte ∧ byte ≤ s.high then
        let bits := s.bits * 64 + byte.toNat % 64
        if s.missing = 1 then
          decodeFrom last (Char.ofNat bits :: text) (position + 1) none bytes
        else
          decodeFrom last text (position + 1)
            (some ⟨s.first, s.bytes ++ [byte], bits, s.missing - 1, 0x80, 0xBF⟩) bytes
      else if !last && s.bytes.length = 1 && isCutSurrogate s.first byte bytes then
        .ok (text.reverse, s.bytes ++ [byte])
      else .error ⟨.invalidContinuation, s.first, position - s.bytes.length, s.bytes.length⟩

/-- The text that a piece of bytes writes, and the bytes of a character that is cut off. -/
def decodePiece (last : Bool) (bytes : List UInt8) :
    Except Utf8Error (List Char × List UInt8) :=
  decodeFrom last [] 0 none bytes

def decodeUtf8 (bytes : List UInt8) : Except Utf8Error (List Char) :=
  (decodePiece true bytes).map (·.1)

/-! ## Writing -/

/-- A run of surrogates in a text, which no bytes write: the number of the first one, where it
stands and how many there are. -/
structure SurrogateRun where
  number : Nat
  position : Nat
  length : Nat
deriving DecidableEq

def SurrogateRun.message (run : SurrogateRun) : String :=
  let place :=
    if run.length = 1 then
      "character '\\u" ++ String.ofList (paddedHexadecimal 4 run.number) ++ "' in position " ++
        toString run.position
    else
      "characters in position " ++ toString run.position ++ "-" ++
        toString (run.position + run.length - 1)
  "'utf-8' codec can't encode " ++ place ++ ": surrogates not allowed"

/-- The characters of a text from a position on, or its first run of surrogates. -/
def charactersFrom (position : Nat) : RawText → Except SurrogateRun (List Char)
  | [] => .ok []
  | .char c :: text => (charactersFrom (position + 1) text).map (c :: ·)
  | .surrogate number :: text =>
    .error ⟨number, position, (text.takeWhile Glyph.isSurrogate).length + 1⟩

/-- A text as it can be written. -/
def writable (text : RawText) : Except SurrogateRun String :=
  (charactersFrom 0 text).map String.ofList

end FileRouting.Text
