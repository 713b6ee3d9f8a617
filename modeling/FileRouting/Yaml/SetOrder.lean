import FileRouting.Yaml.Key

/-!
# The order of sets

The numbers of a set are put into a table, each in the slot of its residue or in the first free one
on its way from there, and stand in the order of the slots. A set with other members keeps the order
in which they came.
-/

namespace FileRouting.Yaml

open FileRouting.Number

/-! ## Residues -/

/-- The modulus of residues. -/
def modulus : Nat := Nat.pow 2 61 - 1

/-- What an infinite number has for a residue. -/
def infiniteResidue : Nat := 314159

/-- A residue with a sign. None is minus one. -/
def signedResidue (negative : Bool) (residue : Nat) : Int :=
  if !negative then residue else if residue = 1 then -2 else -residue

/-- The residue of a number with its sign. As `2 ^ 61` has the residue one, the least magnitude,
`2 ^ -1074`, has that of `2 ^ 24`. -/
def KeyForm.residue? : KeyForm → Option Int
  | int n => some (signedResidue (n < 0) (n.natAbs % modulus))
  | float (.finite negative size) =>
    some (signedResidue negative (size.units * Nat.pow 2 24 % modulus))
  | float (.infinite negative) => some (signedResidue negative infiniteResidue)
  | _ => none

/-! ## Slots -/

/-- A table of slots, of which some are free. -/
abbrev Slots := Array (Option KeyedEntry)

namespace Slots

/-- How many slots are tried one after the other. -/
def runLength : Nat := 10

/-- The slots that are tried from one on; a run that would leave the table is a single slot. -/
def runFrom (slots : Slots) (slot : Nat) : List Nat :=
  if slot + runLength ≤ slots.size then (List.range runLength).map (slot + ·) else [slot]

/-- The first free slot on the way from a slot, which is disturbed by what is left of a residue. -/
def freeFrom? (slots : Slots) : (fuel : Nat) → (disturbance slot : Nat) → Option Nat
  | 0, _, _ => none
  | fuel + 1, disturbance, slot =>
    match (slots.runFrom slot).find? fun slot => (slots[slot]?.bind id).isNone with
    | some free => some free
    | none =>
      let disturbance := disturbance / 32
      freeFrom? slots fuel disturbance ((slot * 5 + 1 + disturbance) % slots.size)

/-- The table with an entry in its slot. After thirteen steps a residue is used up, and from then on
the way goes through the whole table. -/
def put (slots : Slots) (residue : Int) (entry : KeyedEntry) : Slots :=
  let start := (residue % (Nat.pow 2 64 : Nat)).toNat
  match slots.freeFrom? (slots.size + 14) start (start % slots.size) with
  | some free => slots.setIfInBounds free (some entry)
  | none => slots

/-- The number of slots for some entries: a power of two, and more than twice as many unless a table
of eight slots is filled no more than by half. -/
def sizeFor (count : Nat) : Nat :=
  if count ≤ 4 then 8 else Nat.pow 2 ((2 * count).log2 + 1)

end Slots

/-- The entries of a set in the order of their keys. -/
def setOrder (entries : List KeyedEntry) : List KeyedEntry :=
  match entries.mapM fun entry => entry.form.residue? with
  | none => entries
  | some residues =>
    let slots : Slots := Array.replicate (Slots.sizeFor entries.length) none
    let filled := (residues.zip entries).foldl (fun slots e => slots.put e.1 e.2) slots
    filled.toList.filterMap id

end FileRouting.Yaml
