import FileRouting.Text.Source
import FileRouting.Yaml.Character
import FileRouting.Yaml.Error

/-!
# Streams

A stream is read in blocks. It has characters up to the first block that cannot be decoded or that
holds a character that is not allowed; what is wrong with that block shows only when a character of
it is needed.
-/

namespace FileRouting.Yaml

open FileRouting.Text

/-- The characters of a stream up to its end or to an error. -/
structure Stream where
  text : List Char
  behind : Option Error

namespace Stream

/-- The number of characters of a block. -/
def blockSize : Nat := 4096

/-- The stream with some characters before it, if they are allowed. -/
def prepend (text : List Char) (stream : Stream) : Stream :=
  if text.all isAllowed then ⟨text ++ stream.text, stream.behind⟩ else ⟨[], some .malformed⟩

/-- The stream of what a source has left behind some characters, which are needed together with the
next block. -/
def behindText (text : List Char) : (fuel : Nat) → Source → Stream
  | 0, _ => ⟨text, none⟩
  | fuel + 1, source =>
    match source.read blockSize with
    | .error error => ⟨[], some (.fault (.encoding error))⟩
    | .ok (block, source) =>
      if block.isEmpty then prepend text ⟨[], none⟩
      else prepend (text ++ block) (behindText [] fuel source)

/-- The stream that bytes write. The first two blocks are needed together. Every block takes a
byte. -/
def ofBytes (bytes : List UInt8) : Stream :=
  match (Source.ofBytes bytes).read blockSize with
  | .error error => ⟨[], some (.fault (.encoding error))⟩
  | .ok (block, source) => behindText block (bytes.length + 1) source

end Stream

end FileRouting.Yaml
