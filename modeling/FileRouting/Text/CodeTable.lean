/-!
# Tables of code points

Properties and mappings of characters are given by tables of ranges in rising order.
-/

namespace FileRouting.Text

/-- Whether a number is in one of the ranges, which are in rising order. -/
def inRanges (ranges : List (Nat × Nat)) (number : Nat) : Bool :=
  match ranges with
  | [] => false
  | (low, high) :: ranges =>
    if number < low then false else if number ≤ high then true else inRanges ranges number

/-- Every `step`-th number from `low` to `high` is mapped to one at distance `shift`. -/
structure Run where
  low : Nat
  high : Nat
  step : Nat
  shift : Int

/-- What a table of runs maps a number to; a number in no run is mapped to itself. -/
def mapped (runs : List Run) (number : Nat) : Nat :=
  match runs.find? fun run => run.low ≤ number && number ≤ run.high with
  | some run => if (number - run.low) % run.step = 0 then (number + run.shift).toNat else number
  | none => number

end FileRouting.Text
