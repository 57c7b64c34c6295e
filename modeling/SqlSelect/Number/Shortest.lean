import SqlSelect.Number.Binary64
import SqlSelect.Number.Decimal

/-! # The shortest decimal text of a double

A decimal number reads back as a given double exactly if it lies in the interval of
reals that round to it. The shortest such number lies on the coarsest grid of multiples
of a power of ten that meets the interval, and on that grid it is the point nearest to
the double itself.

All numbers here are natural numbers, in units of `10 ^ (-324) * 2 ^ (-1076)`. A quarter
of the smallest double and the finest decimal grid are both whole numbers of units. -/

namespace SqlSelect.Number

/-- A double between the ends of the interval that rounds to it. -/
structure RoundingInterval where
  low : Nat
  middle : Nat
  high : Nat
  /-- The ends round to the double as well. -/
  closed : Bool
  deriving DecidableEq, Repr

namespace RoundingInterval

def contains (i : RoundingInterval) (x : Nat) : Bool :=
  if i.closed then i.low ≤ x && x ≤ i.high else i.low < x && x < i.high

/-- The interval half way to both neighbours. The lower neighbour of a power of two is
only half as far away as the upper one, and a tie goes to the even significand. -/
def ofBinary64 (x : Binary64) : RoundingInterval :=
  let quarter := 2 ^ x.shift * 10 ^ (324 : Nat)
  let below := if x.fraction = 0 ∧ 1 < x.exponentField then 1 else 2
  { low := (4 * x.significand - below) * quarter
    middle := 4 * x.significand * quarter
    high := (4 * x.significand + 2) * quarter
    closed := x.significand % 2 = 0 }

/-- The multiple of `step` in the interval that is nearest to its middle, as a factor. Of
two that are equally near it is the larger. -/
def nearest? (i : RoundingInterval) (step : Nat) : Option Nat :=
  let below := i.middle / step
  match i.contains (below * step), i.contains ((below + 1) * step) with
  | true, true => some (if 2 * (i.middle - below * step) < step then below else below + 1)
  | true, false => some below
  | false, true => some (below + 1)
  | false, false => none

/-- The nearest point on the coarsest grid that meets the interval, among the grids of
step `10 ^ k` with `k` at most the given number; `10 ^ 324` is the number one. -/
def coarsest (i : RoundingInterval) : Nat → Decimal
  | 0 => ⟨(i.nearest? (2 ^ (1076 : Nat))).getD 0, -324⟩
  | k + 1 =>
    match i.nearest? (10 ^ (k + 1) * 2 ^ (1076 : Nat)) with
    | some factor => ⟨factor, (k + 1 : Int) - 324⟩
    | none => i.coarsest k

end RoundingInterval

/-- The shortest decimal number that reads back as the magnitude of a finite double. No
double exceeds the grid of step `10 ^ 308`. -/
def Binary64.shortest (x : Binary64) : Decimal :=
  if x.isZero then ⟨0, 0⟩ else (RoundingInterval.ofBinary64 x).coarsest 632

/-- A finite double in positional notation: the fewest digits that read back, no exponent
and no fraction where it is a whole number. A negative zero keeps its sign. -/
def Binary64.positional (x : Binary64) : List Char :=
  if x.isNegative then '-' :: x.shortest.positional else x.shortest.positional

example : String.ofList (Binary64.positional ⟨0x3fb999999999999a⟩) = "0.1" := by
  decide +kernel

example : String.ofList (Binary64.positional ⟨0x8000000000000000⟩) = "-0" := by
  decide +kernel

/-- Between the neighbours that both read back the nearer one is chosen. -/
example : (Binary64.shortest ⟨1⟩) = ⟨5, -324⟩ := by decide +kernel

end SqlSelect.Number
