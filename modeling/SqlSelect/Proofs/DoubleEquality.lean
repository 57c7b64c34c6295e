import SqlSelect.Number.Binary64

/-!
# Doubles are equal as numbers

A double that is not a NaN denotes a number or an infinity. The equality of doubles looks at their
bits, and is the equality of what they denote: zero has two doubles, and everything else that has
a double has one.
-/

namespace SqlSelect.Number

/-- What a double can denote: a number, in units of the smallest positive double, or an
infinity. -/
inductive Denotation where
  | number (units : Int)
  | infinity (negative : Bool)
  deriving DecidableEq, Repr

namespace Binary64

/-- The magnitude of a finite double in units of the smallest positive one. -/
def magnitude (x : Binary64) : Nat :=
  x.significand * 2 ^ x.shift

/-- The number of units that a finite double denotes. -/
def units (x : Binary64) : Int :=
  if x.isNegative then -x.magnitude else x.magnitude

/-- What a double denotes. A NaN denotes nothing. -/
def denotation? (x : Binary64) : Option Denotation :=
  if x.isNaN then none
  else if x.isFinite then some (.number x.units)
  else some (.infinity x.isNegative)

theorem fraction_lt (x : Binary64) : x.fraction < 2 ^ (52 : Nat) :=
  Nat.mod_lt _ (by decide)

variable {x y : Binary64}

/-- The sign, the exponent and the fraction make up the bits. -/
theorem eq_of_fields (signs : x.isNegative = y.isNegative)
    (exponents : x.exponentField = y.exponentField) (fractions : x.fraction = y.fraction) :
    x = y := by
  have xBound := x.bits.toNat_lt
  have yBound := y.bits.toNat_lt
  have bits : x.bits.toNat = y.bits.toNat := by
    simp only [isNegative, exponentField, fraction, decide_eq_decide] at signs exponents fractions
    omega
  cases x
  cases y
  exact congrArg mk (UInt64.toNat_inj.mp bits)

theorem magnitude_lt (x : Binary64) : x.magnitude < 2 ^ (52 : Nat) * 2 ^ x.exponentField := by
  have small := x.fraction_lt
  unfold magnitude significand shift
  by_cases subnormal : x.exponentField = 0
  · rw [if_pos subnormal, subnormal]
    omega
  · have double : 2 ^ x.exponentField = 2 * 2 ^ (x.exponentField - 1) := by
      rw [Nat.mul_comm, ← Nat.pow_succ]
      congr 1
      omega
    rw [if_neg subnormal, double, ← Nat.mul_assoc]
    exact Nat.mul_lt_mul_of_pos_right (by omega) (Nat.two_pow_pos _)

theorem le_magnitude (normal : x.exponentField ≠ 0) :
    2 ^ (52 : Nat) * 2 ^ (x.exponentField - 1) ≤ x.magnitude := by
  rw [magnitude, significand, if_neg normal, shift]
  exact Nat.mul_le_mul_right _ (Nat.le_add_right _ _)

/-- With a larger exponent every double is larger, whatever the fractions are. -/
theorem magnitude_lt_of_exponentField_lt (lt : x.exponentField < y.exponentField) :
    x.magnitude < y.magnitude := by
  have normal : y.exponentField ≠ 0 := Nat.ne_zero_of_lt lt
  calc x.magnitude
      < 2 ^ (52 : Nat) * 2 ^ x.exponentField := x.magnitude_lt
    _ ≤ 2 ^ (52 : Nat) * 2 ^ (y.exponentField - 1) :=
        Nat.mul_le_mul_left _ (Nat.pow_le_pow_right (by decide) (by omega))
    _ ≤ y.magnitude := le_magnitude normal

theorem fields_of_magnitude_eq (same : x.magnitude = y.magnitude) :
    x.exponentField = y.exponentField ∧ x.fraction = y.fraction := by
  have exponent : x.exponentField = y.exponentField := by
    rcases Nat.lt_trichotomy x.exponentField y.exponentField with lt | eq | gt
    · exact absurd same (Nat.ne_of_lt (magnitude_lt_of_exponentField_lt lt))
    · exact eq
    · exact absurd same (Nat.ne_of_gt (magnitude_lt_of_exponentField_lt gt))
  refine ⟨exponent, ?_⟩
  have significands : x.significand = y.significand := by
    unfold magnitude shift at same
    rw [exponent] at same
    exact Nat.eq_of_mul_eq_mul_right (Nat.two_pow_pos _) same
  unfold significand at significands
  rw [exponent] at significands
  split at significands
  · exact significands
  · exact Nat.add_left_cancel significands

theorem magnitude_eq_zero_iff : x.magnitude = 0 ↔ x.isZero = true := by
  constructor
  · intro none
    have zero : (⟨0⟩ : Binary64).magnitude = 0 := rfl
    obtain ⟨exponent, fraction⟩ := fields_of_magnitude_eq (none.trans zero.symm)
    rw [isZero, exponent, fraction]
    rfl
  · intro zero
    simp only [isZero, Bool.and_eq_true, beq_iff_eq] at zero
    rw [magnitude, significand, if_pos zero.1, zero.2, Nat.zero_mul]

theorem isNaN_of_isFinite (finite : x.isFinite = true) : x.isNaN = false := by
  rw [isFinite, bne_iff_ne] at finite
  simp [isNaN, finite]

theorem denotation?_of_isFinite (finite : x.isFinite = true) :
    x.denotation? = some (.number x.units) := by
  rw [denotation?, isNaN_of_isFinite finite, finite]
  rfl

theorem denotation?_eq_number_iff {i : Int} :
    x.denotation? = some (.number i) ↔ x.isFinite = true ∧ x.units = i := by
  constructor
  · intro denotes
    unfold denotation? at denotes
    split at denotes
    · cases denotes
    · split at denotes
      · next finite =>
          cases denotes
          exact ⟨finite, rfl⟩
      · cases denotes
  · rintro ⟨finite, rfl⟩
    exact denotation?_of_isFinite finite

theorem denotation?_eq_infinity_iff {negative : Bool} :
    x.denotation? = some (.infinity negative) ↔
      x.exponentField = 2047 ∧ x.fraction = 0 ∧ x.isNegative = negative := by
  unfold denotation?
  by_cases special : x.exponentField = 2047 <;> by_cases none : x.fraction = 0 <;>
    simp [isNaN, isFinite, special, none]

theorem denotation?_eq_none_iff : x.denotation? = none ↔ x.isNaN = true := by
  unfold denotation?
  split
  · next notNumber => simp [notNumber]
  · next number => split <;> simp [number]

/-- Among the finite doubles only the zeros denote one number twice. -/
theorem eq_or_isZero_of_units_eq (same : x.units = y.units) :
    x = y ∨ x.isZero = true ∧ y.isZero = true := by
  unfold units at same
  by_cases signs : x.isNegative = y.isNegative
  · have magnitudes : x.magnitude = y.magnitude := by
      rw [signs] at same
      split at same <;> omega
    obtain ⟨exponents, fractions⟩ := fields_of_magnitude_eq magnitudes
    exact .inl (eq_of_fields signs exponents fractions)
  · have none : x.magnitude = 0 ∧ y.magnitude = 0 := by
      split at same <;> split at same
      · next negative other => exact absurd (negative.trans other.symm) signs
      · omega
      · omega
      · next positive other =>
          rw [Bool.not_eq_true] at positive other
          exact absurd (positive.trans other.symm) signs
    exact .inr (none.imp magnitude_eq_zero_iff.mp magnitude_eq_zero_iff.mp)

theorem beq_iff :
    (x == y) = true ↔ x.isNaN = false ∧ y.isNaN = false ∧
      (x = y ∨ x.isZero = true ∧ y.isZero = true) := by
  have bits : x.bits = y.bits ↔ x = y := by
    cases x
    cases y
    simp
  change Binary64.beq x y = true ↔ _
  simp [Binary64.beq, bits, and_assoc]

theorem isNaN_of_denotation? {n : Denotation} (denotes : x.denotation? = some n) :
    x.isNaN = false := by
  rw [Bool.eq_false_iff, Ne, ← denotation?_eq_none_iff, denotes]
  exact Option.some_ne_none n

/-- Doubles are equal exactly if they denote the same. -/
theorem beq_iff_denotation? :
    (x == y) = true ↔ ∃ n, x.denotation? = some n ∧ y.denotation? = some n := by
  rw [beq_iff]
  constructor
  · rintro ⟨number, -, rfl | ⟨xZero, yZero⟩⟩
    · cases denotes : x.denotation? with
      | none =>
          rw [denotation?_eq_none_iff.mp denotes] at number
          cases number
      | some n => exact ⟨n, rfl, rfl⟩
    · have none : x.units = 0 ∧ y.units = 0 := by
        simp [units, magnitude_eq_zero_iff.mpr xZero, magnitude_eq_zero_iff.mpr yZero]
      exact ⟨.number 0, denotation?_eq_number_iff.mpr ⟨isFinite_of_isZero xZero, none.1⟩,
        denotation?_eq_number_iff.mpr ⟨isFinite_of_isZero yZero, none.2⟩⟩
  · rintro ⟨n, left, right⟩
    refine ⟨isNaN_of_denotation? left, isNaN_of_denotation? right, ?_⟩
    cases n with
    | number i =>
        obtain ⟨-, rfl⟩ := denotation?_eq_number_iff.mp left
        exact eq_or_isZero_of_units_eq (denotation?_eq_number_iff.mp right).2.symm
    | infinity negative =>
        obtain ⟨xExponent, xFraction, xSign⟩ := denotation?_eq_infinity_iff.mp left
        obtain ⟨yExponent, yFraction, ySign⟩ := denotation?_eq_infinity_iff.mp right
        exact .inl (eq_of_fields (xSign.trans ySign.symm) (xExponent.trans yExponent.symm)
          (xFraction.trans yFraction.symm))

end Binary64

end SqlSelect.Number
