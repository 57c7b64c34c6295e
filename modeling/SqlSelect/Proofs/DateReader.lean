import Mathlib.Data.List.Induction
import SqlSelect.Proofs.BytesReader
import SqlSelect.Proofs.CalendarReader

/-!
# Reading a date back

The literal of a date is a wrapper of the dialect around four digits of the year and two each of
the month and the day, with a minus sign before the years before zero. The digits read as the
date, and no other text reads as the same date.

## Implementation notes

A minus sign also stands between the parts of a date. A reader tells the two apart by position:
only a sign can come first. Minus zero would be a second spelling of the year zero, so the reader
of a literal refuses it.
-/

namespace SqlSelect

open Number (digitChar fixedDigits isDigit_of_mem_fixedDigits ofDigitChars_fixedDigits_of_lt)

/-- Digits are the digits of the number that they stand for, in as many places. -/
theorem Number.fixedDigits_ofDigitChars {shown : List Char}
    (decimal : ∀ c ∈ shown, c.isDigit = true) :
    fixedDigits shown.length (Nat.ofDigitChars 10 shown 0) = shown := by
  induction shown using List.reverseRecOn with
  | nil => rfl
  | append_singleton front c ih =>
      have bounds := Char.isDigit_iff_toNat.mp (decimal c (by simp))
      change 48 ≤ c.toNat ∧ c.toNat ≤ 57 at bounds
      have last : Nat.digitChar (c.toNat - 48) = c := by
        rw [← Char.toNat_inj, Nat.toNat_digitChar_of_lt_ten (by omega)]
        omega
      have value : Nat.ofDigitChars 10 (front ++ [c]) 0 =
          10 * Nat.ofDigitChars 10 front 0 + (c.toNat - 48) := by
        rw [Nat.ofDigitChars_append, Nat.ofDigitChars_cons, Nat.ofDigitChars_nil]
        rfl
      have before : (10 * Nat.ofDigitChars 10 front 0 + (c.toNat - 48)) / 10 =
          Nat.ofDigitChars 10 front 0 := by omega
      have place : (10 * Nat.ofDigitChars 10 front 0 + (c.toNat - 48)) % 10 = c.toNat - 48 := by
        omega
      rw [List.length_append, List.length_singleton, value, fixedDigits, before, digitChar, place,
        last, ih fun x member => decimal x (List.mem_append_left _ member)]

namespace Calendar

open Reader

/-- A text of so many digits, with leading zeros, that stand for the number. -/
def Shows (width n : Nat) (text : List Char) : Prop :=
  text.length = width ∧ (∀ c ∈ text, c.isDigit = true) ∧ Nat.ofDigitChars 10 text 0 = n

theorem shows_fixedDigits {width n : Nat} (fits : n < 10 ^ width) :
    Shows width n (fixedDigits width n) :=
  ⟨Number.length_fixedDigits width n, fun _ => isDigit_of_mem_fixedDigits,
    ofDigitChars_fixedDigits_of_lt fits⟩

theorem Shows.eq_fixedDigits {width n : Nat} {text : List Char} (shown : Shows width n text) :
    text = fixedDigits width n := by
  obtain ⟨rfl, decimal, rfl⟩ := shown
  exact (Number.fixedDigits_ofDigitChars decimal).symm

namespace Reader

variable {α β : Type} {text rest : List Char}

theorem run_bind_eq_some_iff {p : Reader α} {next : α → Reader β} {y : β} :
    (p >>= next).run text = some (y, rest) ↔
      ∃ x further, p.run text = some (x, further) ∧ (next x).run further = some (y, rest) := by
  rw [StateT.run_bind, Option.bind_eq_bind, Option.bind_eq_some_iff, Prod.exists]

theorem eq_of_run_mark {c : Char} {u : Unit} (read : (mark c).run text = some (u, rest)) :
    text = c :: rest := by
  cases text with
  | nil => cases read
  | cons x further =>
      change (if x = c then some ((), further) else none) = _ at read
      split at read
      · next same =>
          cases read
          rw [same]
      · cases read

theorem eq_of_run_digits {width n : Nat} (read : (digits width).run text = some (n, rest)) :
    text = fixedDigits width n ++ rest := by
  change digits width text = _ at read
  unfold digits at read
  split at read
  · next taken =>
      obtain ⟨rfl, rfl⟩ := Prod.mk.inj (Option.some.inj read)
      have shown : Shows width (Nat.ofDigitChars 10 (text.take width) 0) (text.take width) :=
        ⟨taken.1, List.all_eq_true.mp taken.2, rfl⟩
      rw [← shown.eq_fixedDigits, List.take_append_drop]
  · cases read

/-- A year reads from its digits, behind a minus sign where it is negative. Zero also reads from
digits behind a sign. -/
theorem eq_of_run_year {y : Int} (read : Reader.year.run text = some (y, rest)) :
    0 ≤ y ∧ text = fixedDigits 4 y.natAbs ++ rest ∨
      y ≤ 0 ∧ text = '-' :: fixedDigits 4 y.natAbs ++ rest := by
  change Reader.year text = _ at read
  unfold Reader.year at read
  split at read
  · obtain ⟨⟨n, further⟩, number, same⟩ := Option.map_eq_some_iff.mp read
    cases same
    refine .inr ⟨by omega, ?_⟩
    rw [Int.natAbs_neg, Int.natAbs_natCast, eq_of_run_digits number]
    rfl
  · obtain ⟨⟨n, further⟩, number, same⟩ := Option.map_eq_some_iff.mp read
    cases same
    exact .inl ⟨by omega, eq_of_run_digits number⟩

theorem eq_of_run_of? {year : Int} {month day : Nat} {date : Date}
    (read : (Date.of? year month day : Reader Date).run text = some (date, rest)) :
    (date.year = year ∧ date.month = month ∧ date.day = day) ∧ rest = text := by
  cases found : Date.of? year month day with
  | none =>
      rw [found] at read
      cases read
  | some known =>
      rw [found] at read
      cases read
      exact ⟨Date.of?_eq_some_iff.mp found, rfl⟩

/-- A date reads from nothing but its own text, up to a sign before the year zero. -/
theorem eq_of_run_date {date : Date} (read : Reader.date.run text = some (date, rest)) :
    text = date.iso ++ rest ∨ date.year = 0 ∧ text = '-' :: date.iso ++ rest := by
  obtain ⟨y, afterYear, ofYear, read⟩ := run_bind_eq_some_iff.mp read
  obtain ⟨_, _, ofMark, read⟩ := run_bind_eq_some_iff.mp read
  obtain ⟨m, _, ofMonth, read⟩ := run_bind_eq_some_iff.mp read
  obtain ⟨_, _, ofSecondMark, read⟩ := run_bind_eq_some_iff.mp read
  obtain ⟨dd, _, ofDay, read⟩ := run_bind_eq_some_iff.mp read
  obtain ⟨⟨rfl, rfl, rfl⟩, rfl⟩ := eq_of_run_of? read
  have back : afterYear =
      '-' :: fixedDigits 2 date.month ++ '-' :: fixedDigits 2 date.day ++ rest := by
    rw [eq_of_run_mark ofMark, eq_of_run_digits ofMonth, eq_of_run_mark ofSecondMark,
      eq_of_run_digits ofDay]
    simp
  obtain ⟨notNegative, rfl⟩ | ⟨notPositive, rfl⟩ := eq_of_run_year ofYear
  · have unsigned : ¬date.year < 0 := Int.not_lt.mpr notNegative
    refine .inl ?_
    simp [Date.iso, unsigned, back]
  · by_cases negative : date.year < 0
    · refine .inl ?_
      simp [Date.iso, negative, back]
    · refine .inr ⟨by omega, ?_⟩
      simp [Date.iso, negative, back]

end Reader

/-- A date begins with a minus sign exactly if its year is negative. -/
theorem Date.head?_iso (date : Date) : date.iso.head? = some '-' ↔ date.year < 0 := by
  by_cases negative : date.year < 0
  · simp [Date.iso, negative]
  · have first : date.iso.head? = (fixedDigits 4 date.year.natAbs).head? := by
      simp [Date.iso, negative, fixedDigits]
    have noSign : (fixedDigits 4 date.year.natAbs).head? ≠ some '-' := by
      intro sign
      exact absurd (isDigit_of_mem_fixedDigits (List.mem_of_head? sign)) (by decide)
    simp [first, noSign, negative]

end Calendar

namespace Literal

open Calendar

/-- What the literal of a date has inside the wrapper of the dialect. -/
def datePart? (d : Dialect) (text : List Char) : Option (List Char) :=
  match d with
  | .mysql | .postgresql | .sqlite | .sqlserver => between? "'" "'" text
  | .oracle => between? "DATE '" "'" text

theorem datePart?_eq_some_iso_iff {d : Dialect} {text : List Char} {date : Date} :
    datePart? d text = some date.iso ↔ text = ofDate d date := by
  cases d <;> exact between?_eq_some_iff

/-- The date that the literal of a date stands for. Its year has a sign exactly if it is
negative. -/
def date? (d : Dialect) (text : List Char) : Option Date :=
  (datePart? d text).bind fun inner =>
    (Reader.date.run inner).bind fun (date, rest) =>
      if rest = [] ∧ (inner.head? = some '-' ↔ date.year < 0) then some date else none

theorem date?_eq_some_iff {d : Dialect} {text : List Char} {date : Date} :
    date? d text = some date ↔ text = ofDate d date := by
  constructor
  · intro read
    obtain ⟨inner, stripped, read⟩ := Option.bind_eq_some_iff.mp read
    obtain ⟨⟨found, rest⟩, digits, accepted⟩ := Option.bind_eq_some_iff.mp read
    simp only [Option.ite_none_right_eq_some, Option.some.injEq] at accepted
    obtain ⟨⟨rfl, sign⟩, rfl⟩ := accepted
    obtain rfl | ⟨zero, rfl⟩ := Reader.eq_of_run_date digits
    · rw [List.append_nil] at stripped
      exact datePart?_eq_some_iso_iff.mp stripped
    · have negative := sign.mp rfl
      omega
  · rintro rfl
    rw [date?, datePart?_eq_some_iso_iff.mpr rfl, Option.bind_some, (reads_date date).run_eq,
      Option.bind_some]
    exact if_pos ⟨rfl, date.head?_iso⟩

/-- There is no year minus zero. -/
example : date? .mysql "'-0000-03-15'".toList = none := by decide +kernel

end Literal

namespace Value

open Calendar

/-- Every date has a literal in every dialect. Without the wrapper of the dialect four digits of
the year and two each of the month and the day are left, with leading zeros, and a minus sign in
front of them exactly if the year is negative. They read as the date. The literal is the only text
that does, so no other date has it. -/
theorem date_reads_back (d : Dialect) (date : Date) :
    ∃ (literal : String) (sign year month day : List Char),
      (Value.date date).literal d = .ok literal ∧
      Literal.datePart? d literal.toList =
        some (sign ++ year ++ '-' :: month ++ '-' :: day) ∧
      (date.year < 0 ∧ sign = ['-'] ∨ 0 ≤ date.year ∧ sign = []) ∧
      Shows 4 date.year.natAbs year ∧ Shows 2 date.month month ∧ Shows 2 date.day day ∧
      Reader.date.run (sign ++ year ++ '-' :: month ++ '-' :: day) = some (date, []) ∧
      (∀ text, Literal.date? d text = some date ↔ text = literal.toList) ∧
      ∀ other, (Value.date other).literal d = .ok literal → other = date := by
  refine ⟨String.ofList (Literal.ofDate d date), if date.year < 0 then ['-'] else [],
    fixedDigits 4 date.year.natAbs, fixedDigits 2 date.month, fixedDigits 2 date.day, rfl, ?_⟩
  rw [String.toList_ofList]
  refine ⟨Literal.datePart?_eq_some_iso_iff.mpr rfl, ?signed, shows_fixedDigits date.year_lt,
    shows_fixedDigits date.month_lt, shows_fixedDigits date.day_lt, (reads_date date).run_eq,
    fun text => Literal.date?_eq_some_iff, ?distinct⟩
  case signed =>
    by_cases negative : date.year < 0
    · exact .inl ⟨negative, if_pos negative⟩
    · exact .inr ⟨Int.not_lt.mp negative, if_neg negative⟩
  case distinct =>
    intro other same
    have chars := String.ofList_injective (Except.ok.inj same)
    have read := Literal.date?_eq_some_iff.mpr chars.symm
    rw [Literal.date?_eq_some_iff.mpr rfl] at read
    exact (Option.some.inj read).symm

/-- The same day of a year before zero and of one after it has another literal. -/
theorem date_reads_back_beforeZero :
    ∃ literal : String,
      (Value.date (Date.mk (-44) 3 15)).literal .oracle = .ok literal ∧
      literal = "DATE '-0044-03-15'" ∧
      Literal.date? .oracle literal.toList = some (Date.mk (-44) 3 15) ∧
      (Value.date (Date.mk 44 3 15)).literal .oracle ≠ .ok literal := by
  obtain ⟨literal, -, -, -, -, written, -, -, -, -, -, -, only, distinct⟩ :=
    date_reads_back .oracle (Date.mk (-44) 3 15)
  have text : literal = "DATE '-0044-03-15'" := by
    cases written
    decide +kernel
  refine ⟨literal, written, text, (only _).mpr rfl, ?_⟩
  intro same
  exact absurd (distinct _ same) (by decide)

end Value

end SqlSelect
