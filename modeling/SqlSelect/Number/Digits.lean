/-! # Decimal digits

Numbers are written either with as many digits as they need or with a fixed number of
digits. A fixed width shows the number modulo the power of ten of that width, so every
number below that power is shown in full. -/

namespace SqlSelect.Number

-- In every module that builds on this one, powers of natural numbers are those of the core
-- library.
attribute [instance (2000)] instPowNat

/-- The character of a single decimal digit. -/
def digitChar (n : Nat) : Char :=
  Nat.digitChar (n % 10)

/-- The digits of a natural number, without leading zeros. -/
def digits (n : Nat) : List Char :=
  Nat.toDigits 10 n

/-- The last `width` digits of a number, with leading zeros. -/
def fixedDigits : (width n : Nat) → List Char
  | 0, _ => []
  | width + 1, n => fixedDigits width (n / 10) ++ [digitChar n]

@[simp] theorem length_fixedDigits (width n : Nat) : (fixedDigits width n).length = width := by
  induction width generalizing n with
  | zero => rfl
  | succ width ih => simp [fixedDigits, ih]

theorem isDigit_of_mem_fixedDigits {width n : Nat} {c : Char} (member : c ∈ fixedDigits width n) :
    c.isDigit = true := by
  induction width generalizing n with
  | zero => cases member
  | succ width ih =>
      rw [fixedDigits, List.mem_append, List.mem_singleton] at member
      obtain inner | rfl := member
      · exact ih inner
      · rw [digitChar, Nat.isDigit_digitChar]
        exact decide_eq_true (Nat.mod_lt n (by decide))

/-- The digits of an integer, behind a minus sign where it is negative. -/
def signedDigits (i : Int) : List Char :=
  if i < 0 then '-' :: digits i.natAbs else digits i.natAbs

theorem ofDigitChars_fixedDigits (width n : Nat) :
    Nat.ofDigitChars 10 (fixedDigits width n) 0 = n % 10 ^ width := by
  induction width generalizing n with
  | zero => simp [fixedDigits, Nat.mod_one]
  | succ width ih =>
      have hd : (digitChar n).toNat - 48 = n % 10 := by
        rw [digitChar, Nat.toNat_digitChar_of_lt_ten (Nat.mod_lt _ (by decide))]
        omega
      rw [fixedDigits, Nat.ofDigitChars_append, ih, Nat.pow_succ, Nat.mul_comm (10 ^ width),
        Nat.mod_mul]
      simp [Nat.ofDigitChars, hd]
      omega

/-- A number that fits the width reads back. -/
theorem ofDigitChars_fixedDigits_of_lt {width n : Nat} (h : n < 10 ^ width) :
    Nat.ofDigitChars 10 (fixedDigits width n) 0 = n := by
  rw [ofDigitChars_fixedDigits, Nat.mod_eq_of_lt h]

end SqlSelect.Number
