import SqlSelect.Number.Digits

/-! # Calendar dates

Dates of the proleptic Gregorian calendar with a year zero, from the year -9999 to the
year 9999. Days are numbered without gaps, and the day after a date has the next
number.

## Implementation notes

Values get their dates from a calendar library, and a date here follows what is documented of
that library: which dates there are is `IsDate`, that the day after a date has the next number
is `Date.dayNumber_of_next?`, that only the last day of the calendar has no day after it is
`Date.next?_eq_none_iff`, and how the parts of a date are written is `Date.iso`. -/

namespace SqlSelect.Calendar

open SqlSelect.Number (fixedDigits)

def isLeapYear (year : Int) : Bool :=
  year % 4 = 0 && (year % 100 ≠ 0 || year % 400 = 0)

theorem isLeapYear_iff (year : Int) :
    isLeapYear year = true ↔ year % 4 = 0 ∧ (year % 100 ≠ 0 ∨ year % 400 = 0) := by
  simp [isLeapYear]

/-- The number of days of a month; there is no thirteenth month. -/
def monthLength (year : Int) : (month : Nat) → Nat
  | 1 | 3 | 5 | 7 | 8 | 10 | 12 => 31
  | 4 | 6 | 9 | 11 => 30
  | 2 => if isLeapYear year then 29 else 28
  | _ => 0

/-- Every month has at least four weeks. -/
theorem le_monthLength {year : Int} {month : Nat} (one : 1 ≤ month) (le : month ≤ 12) :
    28 ≤ monthLength year month := by
  obtain rfl | rfl | rfl | rfl | rfl | rfl | rfl | rfl | rfl | rfl | rfl | rfl :
      month = 1 ∨ month = 2 ∨ month = 3 ∨ month = 4 ∨ month = 5 ∨ month = 6 ∨ month = 7 ∨
        month = 8 ∨ month = 9 ∨ month = 10 ∨ month = 11 ∨ month = 12 := by omega
  case inr.inl => simp only [monthLength]; split <;> omega
  all_goals simp [monthLength]

/-- The calendar has a day of this year, month and day of the month. -/
def IsDate (year : Int) (month day : Nat) : Prop :=
  -9999 ≤ year ∧ year ≤ 9999 ∧ 1 ≤ month ∧ 1 ≤ day ∧ day ≤ monthLength year month

instance (year : Int) (month day : Nat) : Decidable (IsDate year month day) :=
  inferInstanceAs (Decidable (_ ∧ _))

/-- A day of the calendar. -/
structure Date where
  year : Int
  month : Nat
  day : Nat
  isDate : IsDate year month day := by decide
  deriving DecidableEq, Repr

namespace Date

/-- The date of the given parts, if the calendar has it. -/
def of? (year : Int) (month day : Nat) : Option Date :=
  if h : IsDate year month day then some ⟨year, month, day, h⟩ else none

theorem of?_eq_some_iff {year : Int} {month day : Nat} {d : Date} :
    of? year month day = some d ↔ d.year = year ∧ d.month = month ∧ d.day = day := by
  unfold of?
  constructor
  · intro h
    split at h
    · cases h
      exact ⟨rfl, rfl, rfl⟩
    · cases h
  · rintro ⟨rfl, rfl, rfl⟩
    rw [dif_pos d.isDate]

theorem of?_eq_none_iff {year : Int} {month day : Nat} :
    of? year month day = none ↔ ¬ IsDate year month day := by
  simp [of?]

theorem month_le (d : Date) : d.month ≤ 12 := by
  obtain ⟨_, _, _, one, le⟩ := d.isDate
  unfold monthLength at le
  split at le <;> omega

/-- The last day of the calendar. -/
def last : Date := ⟨9999, 12, 31, by decide⟩

/-- The following day, which the last day of the calendar does not have. -/
def next? (d : Date) : Option Date :=
  (of? d.year d.month (d.day + 1)).or <|
    (of? d.year (d.month + 1) 1).or (of? (d.year + 1) 1 1)

/-- The days of a year before a month. -/
def daysBeforeMonth (year : Int) : (month : Nat) → Nat
  | 0 | 1 => 0
  | month + 2 => daysBeforeMonth year (month + 1) + monthLength year (month + 1)

theorem daysBeforeMonth_succ {year : Int} {month : Nat} (one : 1 ≤ month) :
    daysBeforeMonth year (month + 1) = daysBeforeMonth year month + monthLength year month := by
  obtain ⟨k, rfl⟩ : ∃ k, month = k + 1 := ⟨month - 1, by omega⟩
  rfl

/-- The days before a year, counted from the first day of the year zero. -/
def daysBeforeYear (year : Int) : Int :=
  365 * year + ((year + 3) / 4 - (year + 99) / 100 + (year + 399) / 400)

theorem daysBeforeYear_succ (year : Int) :
    daysBeforeYear (year + 1) = daysBeforeYear year + if isLeapYear year then 366 else 365 := by
  have leap := isLeapYear_iff year
  unfold daysBeforeYear
  split <;> simp_all <;> omega

/-- The number of a day, counted from the first day of the year zero. -/
def dayNumber (d : Date) : Int :=
  daysBeforeYear d.year + daysBeforeMonth d.year d.month + (d.day - 1)

/-- The day after a date has the next number. -/
theorem dayNumber_of_next? {d e : Date} (h : d.next? = some e) :
    e.dayNumber = d.dayNumber + 1 := by
  have valid := d.isDate
  have twelve := d.month_le
  unfold next? at h
  rw [Option.or_eq_some_iff, of?_eq_some_iff, of?_eq_none_iff, Option.or_eq_some_iff,
    of?_eq_some_iff, of?_eq_none_iff, of?_eq_some_iff] at h
  unfold IsDate at *
  obtain ⟨y, m, dd⟩ | ⟨full, ⟨y, m, dd⟩ | ⟨final, y, m, dd⟩⟩ := h
  · simp only [dayNumber, y, m, dd]
    omega
  · have := @daysBeforeMonth_succ d.year d.month valid.2.2.1
    simp only [dayNumber, y, m, dd, this]
    omega
  · have december : d.month = 12 := by
      have := @le_monthLength d.year (d.month + 1)
      omega
    simp only [dayNumber, y, m, dd, december, daysBeforeYear_succ]
    have length : monthLength d.year d.month = 31 := by rw [december]; rfl
    have before : daysBeforeMonth d.year 12 = if isLeapYear d.year then 335 else 334 := by
      simp only [daysBeforeMonth, monthLength]
      split <;> rfl
    rw [before]
    simp only [daysBeforeMonth]
    split <;> omega

/-- Only the last day of the calendar has no following day. -/
theorem next?_eq_none_iff {d : Date} : d.next? = none ↔ d = last := by
  constructor
  · intro final
    obtain ⟨lower, upper, one, first, le⟩ := d.isDate
    have twelve := d.month_le
    rw [next?, Option.or_eq_none_iff, Option.or_eq_none_iff, of?_eq_none_iff, of?_eq_none_iff,
      of?_eq_none_iff] at final
    obtain ⟨noDay, noMonth, noYear⟩ := final
    have year : d.year = 9999 := by
      have january : monthLength (d.year + 1) 1 = 31 := rfl
      unfold IsDate at noYear
      omega
    have month : d.month = 12 := by
      have length := @le_monthLength d.year (d.month + 1)
      unfold IsDate at noMonth
      omega
    have day : d.day = 31 := by
      have december : monthLength d.year d.month = 31 := by
        rw [month]
        rfl
      unfold IsDate at noDay
      omega
    obtain ⟨y, m, k, _⟩ := d
    cases year
    cases month
    cases day
    rfl
  · rintro rfl
    decide

/-- Year, month and day, largest first. A year before zero has a minus sign in front of
its four digits. -/
def iso (d : Date) : List Char :=
  (if d.year < 0 then ['-'] else []) ++ fixedDigits 4 d.year.natAbs ++
    '-' :: fixedDigits 2 d.month ++ '-' :: fixedDigits 2 d.day

end Date

/-- Century years are leap years only every fourth time. -/
example : [1900, 2000, 2023, 2024, 0, -4].map isLeapYear =
    [false, true, false, true, true, true] := by decide

/-- The calendar ends with the year 9999. -/
example : (Date.mk 9999 12 30).next? = some Date.last ∧ Date.last.next? = none := by decide

example : (Date.mk 2024 2 28).next? = some (Date.mk 2024 2 29) ∧
    (Date.mk (-1) 12 31).next? = some (Date.mk 0 1 1) := by decide

end SqlSelect.Calendar
