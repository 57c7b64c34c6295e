import Mathlib.Data.Set.Defs
import SqlSelect.Proofs.EmptyConditions

/-!
# Pages of one size tile the rows

The windows of the pages of one size stand side by side, so a row is on exactly one page, and the
row divided by the size tells which. This holds of every row before the largest offset that there
is: a page further behind has that offset, and shows none of these rows.
-/

namespace SqlSelect

namespace Page

/-- The rows that the window takes. They are natural numbers, so a window can go beyond the range
of the offsets. -/
def rows (p : Page) : Set Nat :=
  {row | p.offset.toNat ≤ row ∧ row < p.offset.toNat + p.count.toNat}

theorem mem_rows_iff {p : Page} {row : Nat} :
    row ∈ p.rows ↔ p.offset.toNat ≤ row ∧ row < p.offset.toNat + p.count.toNat :=
  Iff.rfl

instance (p : Page) (row : Nat) : Decidable (row ∈ p.rows) :=
  decidable_of_iff _ mem_rows_iff.symm

variable {number size : UInt64}

theorem toNat_offset_ofNumber (number size : UInt64) :
    (ofNumber number size).offset.toNat =
      min ((number.toNat - 1) * size.toNat) (2 ^ (64 : Nat) - 1) := by
  have one : (1 : UInt64).toNat = 1 := rfl
  rw [ofNumber, toNat_saturatingMul, toNat_saturatingSub, one]

/-- In range it makes no difference that offsets stop: a page whose offset had to stop is behind
all rows in range, as it would be with its own offset. -/
theorem mem_rows_ofNumber_iff {row : Nat} (inRange : row < 2 ^ (64 : Nat) - 1) :
    row ∈ (ofNumber number size).rows ↔
      (number.toNat - 1) * size.toNat ≤ row ∧
        row < (number.toNat - 1) * size.toNat + size.toNat := by
  have offset := toNat_offset_ofNumber number size
  have count : (ofNumber number size).count = size := rfl
  rw [mem_rows_iff, count]
  omega

/-- A row is on one page only. -/
theorem mem_rows_ofNumber_iff_div {row : Nat} (positive : 0 < size) (first : 1 ≤ number)
    (inRange : row < 2 ^ (64 : Nat) - 1) :
    row ∈ (ofNumber number size).rows ↔ number.toNat = row / size.toNat + 1 := by
  have sizePositive : 0 < size.toNat := UInt64.lt_iff_toNat_lt.mp positive
  have numberPositive : 1 ≤ number.toNat := UInt64.le_iff_toNat_le.mp first
  calc row ∈ (ofNumber number size).rows
      ↔ (number.toNat - 1) * size.toNat ≤ row ∧
          row < (number.toNat - 1) * size.toNat + size.toNat := mem_rows_ofNumber_iff inRange
    _ ↔ row / size.toNat = number.toNat - 1 := by
        rw [Nat.div_eq_iff sizePositive]
        omega
    _ ↔ number.toNat = row / size.toNat + 1 := by omega

/-- A row in range has a page, whose number is in range as well. -/
theorem exists_number (size : UInt64) {row : Nat} (inRange : row < 2 ^ (64 : Nat) - 1) :
    ∃ number : UInt64, 1 ≤ number ∧ number.toNat = row / size.toNat + 1 := by
  have small : row / size.toNat ≤ row := Nat.div_le_self row size.toNat
  have value : (UInt64.ofNat (row / size.toNat + 1)).toNat = row / size.toNat + 1 := by
    rw [UInt64.toNat_ofNat', Nat.mod_eq_of_lt (by omega)]
  refine ⟨UInt64.ofNat (row / size.toNat + 1), ?_, value⟩
  rw [UInt64.le_iff_toNat_le, value]
  exact Nat.le_add_left 1 _

theorem ofNumber_zero (size : UInt64) : ofNumber 0 size = ofNumber 1 size := rfl

/-- A page with a larger number, or among larger pages, does not start earlier. -/
theorem offset_ofNumber_mono {other larger : UInt64} (later : number ≤ other)
    (wider : size ≤ larger) :
    (ofNumber number size).offset ≤ (ofNumber other larger).offset := by
  rw [UInt64.le_iff_toNat_le] at later wider ⊢
  have product : (number.toNat - 1) * size.toNat ≤ (other.toNat - 1) * larger.toNat :=
    Nat.mul_le_mul (Nat.sub_le_sub_right later 1) wider
  rw [toNat_offset_ofNumber, toNat_offset_ofNumber]
  omega

end Page

namespace Query

theorem limitText_eq_empty_iff {p : Page} : limitText p = "" ↔ p.count = 0 := by
  simp [limitText]

theorem fetchText_eq_empty_iff {p : Page} : fetchText p = "" ↔ p.count = 0 := by
  simp [fetchText]

variable (d : Dialect) (q : Query) (p : Page)

/-- A limit leaves no trace in the text exactly if it takes no rows. -/
theorem text_limit_eq_iff :
    (sqlIn d (q.apply (.limit p))).value = (sqlIn d (q.apply .dropLimit)).value ↔
      p.count = 0 := by
  rw [← limitText_eq_empty_iff]
  exact text_render_eq_iff_of_segments ((segments d q).take 7) _ ((segments d q).drop 8)
    rfl rfl rfl

/-- A fetch leaves no trace in the text exactly if it takes no rows. -/
theorem text_fetch_eq_iff :
    (sqlIn d (q.apply (.fetch p))).value = (sqlIn d (q.apply .dropFetch)).value ↔
      p.count = 0 := by
  rw [← fetchText_eq_empty_iff]
  exact text_render_eq_iff_of_segments ((segments d q).take 8) _ [] rfl rfl rfl

end Query

namespace Page

/-- Every row before the largest offset is on exactly one page of a given size, counted from one,
and its number divided by the size tells which. The page of number zero is the first one. The
offset of a page is that of the pages before it, or the largest one if that is out of range, so it
never decreases as the number or the size grows. A query shows such a page as its limit or as its
fetch unless the size is zero. -/
theorem pages_tile_rows (size : UInt64) :
    (0 < size → ∀ row < 2 ^ (64 : Nat) - 1,
      ∃ number : UInt64, 1 ≤ number ∧ number.toNat = row / size.toNat + 1 ∧
        ∀ other : UInt64, 1 ≤ other → (row ∈ (ofNumber other size).rows ↔ other = number)) ∧
    ofNumber 0 size = ofNumber 1 size ∧
    (∀ number : UInt64, (ofNumber number size).count = size ∧
      (ofNumber number size).offset.toNat =
        min ((max number.toNat 1 - 1) * size.toNat) (2 ^ (64 : Nat) - 1)) ∧
    (∀ number other larger : UInt64, number ≤ other → size ≤ larger →
      (ofNumber number size).offset ≤ (ofNumber other larger).offset) ∧
    ∀ (number : UInt64) (d : Dialect) (q : Query),
      (((q.apply (.limit (ofNumber number size))).sqlIn d).value =
          ((q.apply .dropLimit).sqlIn d).value ↔ size = 0) ∧
      (((q.apply (.fetch (ofNumber number size))).sqlIn d).value =
          ((q.apply .dropFetch).sqlIn d).value ↔ size = 0) := by
  refine ⟨?oneEach, ofNumber_zero size, ?offset,
    fun _ _ _ later wider => offset_ofNumber_mono later wider,
    fun number d q => ⟨Query.text_limit_eq_iff d q _, Query.text_fetch_eq_iff d q _⟩⟩
  case oneEach =>
    intro positive row inRange
    obtain ⟨number, first, value⟩ := exists_number size inRange
    refine ⟨number, first, value, fun other otherFirst => ?_⟩
    rw [mem_rows_ofNumber_iff_div positive otherFirst inRange, ← value, UInt64.toNat_inj]
  case offset =>
    intro number
    have first : max number.toNat 1 - 1 = number.toNat - 1 := by omega
    exact ⟨rfl, by rw [first, toNat_offset_ofNumber]⟩

/-- With pages of half the range, the offset of the third page is out of range. The last row in
range is on the second page alone. -/
theorem pages_tile_rows_halves :
    (0 : UInt64) < 0x8000000000000000 ∧ (3 : UInt64) ≤ 4 ∧
      (∃ number : UInt64, number.toNat = 2 ∧ ∀ other : UInt64, 1 ≤ other →
        (2 ^ (64 : Nat) - 2 ∈ (ofNumber other 0x8000000000000000).rows ↔ other = number)) ∧
      (ofNumber 3 0x8000000000000000).offset ≤ (ofNumber 4 0x8000000000000000).offset := by
  have positive : (0 : UInt64) < 0x8000000000000000 := by decide
  have later : (3 : UInt64) ≤ 4 := by decide
  obtain ⟨oneEach, -, -, mono, -⟩ := pages_tile_rows 0x8000000000000000
  obtain ⟨number, -, value, only⟩ := oneEach positive (2 ^ (64 : Nat) - 2) (by decide)
  have quotient : (2 ^ (64 : Nat) - 2) / (0x8000000000000000 : UInt64).toNat + 1 = 2 := by decide
  exact ⟨positive, later, ⟨number, value.trans quotient, only⟩,
    mono 3 4 _ later (UInt64.le_refl _)⟩

/-- The next row is on every page from there on. -/
example : 2 ^ (64 : Nat) - 1 ∈ (ofNumber 2 0x8000000000000000).rows ∧
    2 ^ (64 : Nat) - 1 ∈ (ofNumber 3 0x8000000000000000).rows ∧
    2 ^ (64 : Nat) - 1 ∈ (ofNumber 4 0x8000000000000000).rows := by
  decide

end Page

end SqlSelect
