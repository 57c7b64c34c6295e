import SqlSelect.Number.Digits

/-! # Double-precision numbers

A double is its 64 bits: a sign, eleven bits of exponent and 52 bits of fraction. The
magnitude of a finite double is `significand * 2 ^ shift` in units of the smallest
positive double, `2 ^ (-1074)`. Working on the bits keeps every fact about a double a
fact about natural numbers. -/

namespace SqlSelect.Number

/-- A double-precision number, by its bits. -/
structure Binary64 where
  bits : UInt64
  deriving DecidableEq, Repr

namespace Binary64

/-- The sign bit is set. -/
def isNegative (x : Binary64) : Bool :=
  2 ^ (63 : Nat) ≤ x.bits.toNat

/-- The eleven exponent bits. -/
def exponentField (x : Binary64) : Nat :=
  x.bits.toNat / 2 ^ (52 : Nat) % 2 ^ (11 : Nat)

/-- The 52 fraction bits. -/
def fraction (x : Binary64) : Nat :=
  x.bits.toNat % 2 ^ (52 : Nat)

/-- Not an infinity and not a NaN. -/
def isFinite (x : Binary64) : Bool :=
  x.exponentField != 2047

def isNaN (x : Binary64) : Bool :=
  x.exponentField == 2047 && x.fraction != 0

/-- Both signs of zero. -/
def isZero (x : Binary64) : Bool :=
  x.exponentField == 0 && x.fraction == 0

/-- The significand with its leading one, which subnormal numbers lack. -/
def significand (x : Binary64) : Nat :=
  if x.exponentField = 0 then x.fraction else 2 ^ (52 : Nat) + x.fraction

/-- The power of two by which the significand is scaled. -/
def shift (x : Binary64) : Nat :=
  x.exponentField - 1

theorem isFinite_of_isZero {x : Binary64} (h : x.isZero = true) : x.isFinite = true := by
  simp_all [isZero, isFinite]

/-- Equality of numbers: a NaN equals nothing, and the two zeros are equal. -/
protected def beq (x y : Binary64) : Bool :=
  !x.isNaN && !y.isNaN && (x.bits == y.bits || x.isZero && y.isZero)

instance : BEq Binary64 := ⟨Binary64.beq⟩

theorem beq_self (x : Binary64) : (x == x) = !x.isNaN := by
  change Binary64.beq x x = _
  simp [Binary64.beq]

/-- The double with the given sign, exponent field and fraction. -/
def assemble (negative : Bool) (exponentField fraction : Nat) : Binary64 :=
  ⟨.ofNat ((if negative then 2 ^ (63 : Nat) else 0) + exponentField * 2 ^ (52 : Nat) + fraction)⟩

/-- The double of the same value as a single-precision number given by its bits. A
subnormal single is a normal double, so its leading one has to be found. -/
def ofSingle (bits : UInt32) : Binary64 :=
  let word := bits.toNat
  let field := word / 2 ^ (23 : Nat) % 2 ^ (8 : Nat)
  let fraction := word % 2 ^ (23 : Nat)
  let negative : Bool := 2 ^ (31 : Nat) ≤ word
  if field = 255 then
    assemble negative 2047 (fraction * 2 ^ (29 : Nat))
  else if field ≠ 0 then
    assemble negative (field + 896) (fraction * 2 ^ (29 : Nat))
  else if fraction = 0 then
    assemble negative 0 0
  else
    let top := fraction.log2
    assemble negative (top + 874) ((fraction - 2 ^ top) * 2 ^ (52 - top))

/-- One and a half, the smallest subnormal and an infinity. -/
example : (ofSingle 0x3fc00000).bits = 0x3ff8000000000000 ∧
    (ofSingle 0x00000001).bits = 0x36a0000000000000 ∧
    (ofSingle 0xff800000).bits = 0xfff0000000000000 := by decide +kernel

/-- How a number that is not finite is called in messages. -/
def nonFiniteName (x : Binary64) : String :=
  if x.isNaN then "NaN" else if x.isNegative then "-inf" else "inf"

end Binary64

end SqlSelect.Number
