import SqlSelect.Number.Digits

/-! # Decimal numbers in positional notation

A decimal number is a significand and a power of ten. Its positional text never uses an
exponent: a non-negative power becomes trailing zeros, a negative one a decimal point. -/

namespace SqlSelect.Number

/-- The number `significand * 10 ^ exponent`. -/
structure Decimal where
  significand : Nat
  exponent : Int
  deriving DecidableEq, Repr

namespace Decimal

/-- The number written out in full; a fraction shows every place down to the exponent. -/
def positional (x : Decimal) : List Char :=
  if 0 ≤ x.exponent then
    digits (x.significand * 10 ^ x.exponent.natAbs)
  else
    let places := x.exponent.natAbs
    digits (x.significand / 10 ^ places) ++ '.' :: fixedDigits places x.significand

example : String.ofList (positional ⟨15, -1⟩) = "1.5" := by decide +kernel
example : String.ofList (positional ⟨5, -4⟩) = "0.0005" := by decide +kernel
example : String.ofList (positional ⟨12, 3⟩) = "12000" := by decide +kernel
example : String.ofList (positional ⟨0, 0⟩) = "0" := by decide +kernel

end Decimal

end SqlSelect.Number
