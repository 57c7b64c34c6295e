import SqlSelect.Calendar.Date
import SqlSelect.Calendar.TimeOfDay

/-! # Timestamps

A timestamp is a local date and time together with the offset of the local clock from
universal time. Two timestamps are equal as values if they are the same instant; what is
written down is the local time.

## Implementation notes

Values get their timestamps from a calendar library, and a timestamp here follows what is
documented of that library: the range of offsets is `maxOffset`, equality by instants is
`Timestamp.beq_iff`, that a later time is that much later on the same clock is
`Timestamp.localNanoseconds_of_later?`, that it is missing only where the calendar ends before it
is `Timestamp.later?_eq_none_iff`, and how an offset is written is `Timestamp.isoOffset`. -/

namespace SqlSelect.Calendar

open SqlSelect.Number (fixedDigits)

/-- The largest offset from universal time in either direction, in seconds. -/
abbrev maxOffset : Nat := 93599

/-- A local date and time and its offset from universal time in seconds, positive east of
Greenwich. -/
structure Timestamp where
  date : Date
  time : TimeOfDay
  offset : Int
  offset_le : offset.natAbs ≤ maxOffset := by decide
  deriving DecidableEq, Repr

namespace Timestamp

/-- The timestamp of the given parts, if the offset is in its range. -/
def of? (date : Date) (time : TimeOfDay) (offset : Int) : Option Timestamp :=
  if h : offset.natAbs ≤ maxOffset then some ⟨date, time, offset, h⟩ else none

/-- The position on the local time line in nanoseconds. -/
def localNanoseconds (t : Timestamp) : Int :=
  t.date.dayNumber * dayLength + t.time.nanoseconds

/-- The position on the universal time line in nanoseconds. -/
def instant (t : Timestamp) : Int :=
  t.localNanoseconds - t.offset * second

/-- Equality of instants, wherever the local clocks stand. -/
protected def beq (a b : Timestamp) : Bool :=
  a.instant == b.instant

instance : BEq Timestamp := ⟨Timestamp.beq⟩

theorem beq_iff {t u : Timestamp} : (t == u) = true ↔ t.instant = u.instant := by
  change (t.instant == u.instant) = true ↔ t.instant = u.instant
  exact beq_iff_eq

@[simp] theorem beq_self (t : Timestamp) : (t == t) = true :=
  beq_iff.mpr rfl

/-- The timestamp a few nanoseconds later on the same clock, unless the calendar ends
before. -/
def later? (t : Timestamp) (nanoseconds : Nat) : Option Timestamp :=
  let total := t.time.nanoseconds + nanoseconds
  if h : total < dayLength then
    some { t with time := ⟨total, h⟩ }
  else if h : total - dayLength < dayLength then
    t.date.next?.map fun date => { t with date, time := ⟨total - dayLength, h⟩ }
  else
    none

theorem localNanoseconds_of_later? {t u : Timestamp} {nanoseconds : Nat}
    (h : t.later? nanoseconds = some u) :
    u.localNanoseconds = t.localNanoseconds + nanoseconds := by
  simp only [later?] at h
  split at h
  · cases h
    simp only [localNanoseconds]
    omega
  · split at h
    · obtain ⟨date, next, rfl⟩ := Option.map_eq_some_iff.1 h
      have := Date.dayNumber_of_next? next
      simp only [localNanoseconds, this, dayLength, second] at *
      omega
    · cases h

/-- Half a microsecond later, so that cutting off digits rounds to the nearest
microsecond. At the end of the calendar the time stays as it is. -/
def rounded (t : Timestamp) : Timestamp :=
  (t.later? 500).getD t

/-- The local date and time with the given number of decimal places. -/
def iso (places : Nat) (t : Timestamp) : List Char :=
  t.date.iso ++ ' ' :: t.time.iso places

/-- The offset in hours and minutes. Seconds are cut off, and the sign is that of the
offset itself, so an offset of less than a minute keeps it. -/
def isoOffset (t : Timestamp) : List Char :=
  (if t.offset < 0 then '-' else '+') ::
    fixedDigits 2 (t.offset.natAbs / 3600) ++ ':' :: fixedDigits 2 (t.offset.natAbs / 60 % 60)

end Timestamp

/-- Rounding carries into the next year. -/
example : (Timestamp.mk ⟨1999, 12, 31, by decide⟩ ⟨86399999999500, by decide⟩ 0).rounded =
    ⟨⟨2000, 1, 1, by decide⟩, ⟨0, by decide⟩, 0, by decide⟩ := by decide

example : String.ofList (Timestamp.mk Date.last ⟨0, by decide⟩ (-59)).isoOffset = "-00:00" := by
  decide +kernel

end SqlSelect.Calendar
