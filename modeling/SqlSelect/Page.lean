import SqlSelect.Number.Digits

/-! # Pages of rows

A page is a window of rows: how many, and how many to leave out before them. A window of
no rows counts as no window at all. -/

namespace SqlSelect

/-- A window of `count` rows behind the first `offset` rows. -/
structure Page where
  count : UInt64 := 0
  offset : UInt64 := 0
  deriving DecidableEq, Repr

namespace Page

instance : Inhabited Page := ⟨{}⟩

/-- The difference, or zero where it would be negative. -/
def saturatingSub (a b : UInt64) : UInt64 :=
  if b ≤ a then a - b else 0

/-- The product, or the largest number where it would be out of range. -/
def saturatingMul (a b : UInt64) : UInt64 :=
  if a.toNat * b.toNat < 2 ^ (64 : Nat) then a * b else 0xffffffffffffffff

/-- The page of a given number, counted from one, among pages of one size. Number zero is
the first page as well, and an offset out of range is the largest one. -/
def ofNumber (number size : UInt64) : Page :=
  { count := size, offset := saturatingMul (saturatingSub number 1) size }

/-- The window has rows. -/
def isSet (p : Page) : Bool :=
  p.count != 0

@[simp] theorem isSet_iff {p : Page} : p.isSet = true ↔ p.count ≠ 0 := by
  simp [isSet]

theorem isSet_eq_false_iff {p : Page} : p.isSet = false ↔ p.count = 0 := by
  simp [isSet]

theorem toNat_saturatingSub (a b : UInt64) :
    (saturatingSub a b).toNat = a.toNat - b.toNat := by
  unfold saturatingSub
  split
  · next le => exact UInt64.toNat_sub_of_le a b le
  · next lt =>
      rw [UInt64.le_iff_toNat_le] at lt
      rw [UInt64.toNat_zero]
      omega

theorem toNat_saturatingMul (a b : UInt64) :
    (saturatingMul a b).toNat = min (a.toNat * b.toNat) (2 ^ (64 : Nat) - 1) := by
  unfold saturatingMul
  split
  · next fits =>
      rw [UInt64.toNat_mul, Nat.mod_eq_of_lt fits]
      omega
  · next large =>
      have most : (0xffffffffffffffff : UInt64).toNat = 2 ^ (64 : Nat) - 1 := by decide
      rw [most]
      omega

/-- The clause that takes the window with a limit. -/
def limitClause (p : Page) : String :=
  "LIMIT " ++ p.count.toNat.repr ++ " OFFSET " ++ p.offset.toNat.repr

/-- The clause that takes the window with a fetch. -/
def fetchClause (p : Page) : String :=
  "OFFSET " ++ p.offset.toNat.repr ++ " ROWS FETCH NEXT " ++ p.count.toNat.repr ++ " ROWS ONLY"

/-- How a window is called in messages. -/
def description (p : Page) : String :=
  "Pagination \x7b count: " ++ p.count.toNat.repr ++ ", offset: " ++ p.offset.toNat.repr ++
    " \x7d"

end Page

example : Page.ofNumber 3 25 = ⟨25, 50⟩ ∧ Page.ofNumber 0 25 = ⟨25, 0⟩ := by decide

example : Page.limitClause ⟨10, 20⟩ = "LIMIT 10 OFFSET 20" := by decide +kernel

end SqlSelect
