/-!
# Characters of a YAML stream

The classes of characters that the grammar tells apart. The end of the stream is taken as U+0000,
which no stream may hold.
-/

namespace FileRouting.Yaml

/-- The character that stands for the end of the stream. -/
def endMark : Char := '\x00'

/-- Characters that a stream may hold. -/
def isAllowed (c : Char) : Bool :=
  c = '\t' ∨ c = '\n' ∨ c = '\r' ∨ (' ' ≤ c ∧ c ≤ '~') ∨ c = '\x85' ∨
    ('\xa0' ≤ c ∧ c.toNat ≤ 0xFFFD) ∨ 0x10000 ≤ c.toNat

def isBreak (c : Char) : Bool :=
  c = '\n' ∨ c = '\r' ∨ c = '\x85' ∨ c = '\u2028' ∨ c = '\u2029'

/-- Breaks and the end. -/
def isLineEnd (c : Char) : Bool :=
  c = endMark ∨ isBreak c

/-- A space, a break or the end. -/
def isSpaceOrEnd (c : Char) : Bool :=
  c = ' ' ∨ isLineEnd c

/-- A space, a tab, a break or the end. -/
def isBlankOrEnd (c : Char) : Bool :=
  c = '\t' ∨ isSpaceOrEnd c

def isSpaceOrTab (c : Char) : Bool :=
  c = ' ' ∨ c = '\t'

/-- Characters of the names of anchors, directives and tag handles. -/
def isNameChar (c : Char) : Bool :=
  c.isAlphanum ∨ c = '-' ∨ c = '_'

def isTagChar (c : Char) : Bool :=
  c.isAlphanum ∨ "-;/?:@&=+$,_.!~*'()[]%".toList.contains c

/-- Characters that end a plain scalar in a flow collection. -/
def isFlowMark (c : Char) : Bool :=
  c = ',' ∨ c = '?' ∨ c = '[' ∨ c = ']' ∨ c = '\x7b' ∨ c = '\x7d'

/-- Characters that no plain scalar starts with. -/
def isIndicator (c : Char) : Bool :=
  "-?:,[]\x7b\x7d#&*!|>'\"%@\x60".toList.contains c

end FileRouting.Yaml
