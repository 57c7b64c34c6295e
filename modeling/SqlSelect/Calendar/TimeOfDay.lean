import SqlSelect.Number.Digits

/-! # Time of day

A time of day is the number of nanoseconds since midnight, in a day of 24 hours without
leap seconds.

## Implementation notes

Values get their times of day from a calendar library that documents them by their parts. That
each part is in its range is `TimeOfDay.hour_lt` and the lemmas behind it, and that a time of day
is that of its parts is `TimeOfDay.of?_parts`. How the parts are written, with further decimal
places cut off, is `TimeOfDay.iso`. -/

namespace SqlSelect.Calendar

open SqlSelect.Number (fixedDigits)

/-- Nanoseconds in a second. -/
abbrev second : Nat := 1000000000

/-- Nanoseconds in a day. -/
abbrev dayLength : Nat := 86400 * second

/-- The nanoseconds passed since midnight. -/
structure TimeOfDay where
  nanoseconds : Nat
  isLt : nanoseconds < dayLength := by decide
  deriving DecidableEq, Repr

namespace TimeOfDay

/-- The time of the given parts, if each is in its range. -/
def of? (hour minute seconds nanosecond : Nat) : Option TimeOfDay :=
  if h : hour < 24 ∧ minute < 60 ∧ seconds < 60 ∧ nanosecond < second then
    some ⟨((hour * 60 + minute) * 60 + seconds) * second + nanosecond, by
      obtain ⟨_, _, _, _⟩ := h
      simp only [second, dayLength] at *
      omega⟩
  else
    none

def hour (t : TimeOfDay) : Nat := t.nanoseconds / (3600 * second)

def minute (t : TimeOfDay) : Nat := t.nanoseconds / (60 * second) % 60

def seconds (t : TimeOfDay) : Nat := t.nanoseconds / second % 60

/-- The nanoseconds passed since the last full second. -/
def subsecond (t : TimeOfDay) : Nat := t.nanoseconds % second

section Parts

variable (t : TimeOfDay)

theorem hour_lt : t.hour < 24 := by
  have inDay := t.isLt
  simp only [hour, second, dayLength] at *
  omega

theorem minute_lt : t.minute < 60 := Nat.mod_lt _ (by decide)

theorem seconds_lt : t.seconds < 60 := Nat.mod_lt _ (by decide)

theorem subsecond_lt : t.subsecond < second := Nat.mod_lt _ (by decide)

theorem fullSeconds_eq : (t.hour * 60 + t.minute) * 60 + t.seconds = t.nanoseconds / second := by
  simp only [hour, minute, seconds, second]
  omega

/-- Every time of day is that of its parts. -/
theorem of?_parts : of? t.hour t.minute t.seconds t.subsecond = some t := by
  have inRange : t.hour < 24 ∧ t.minute < 60 ∧ t.seconds < 60 ∧ t.subsecond < second :=
    ⟨t.hour_lt, t.minute_lt, t.seconds_lt, t.subsecond_lt⟩
  have parts : ((t.hour * 60 + t.minute) * 60 + t.seconds) * second + t.subsecond =
      t.nanoseconds := by
    rw [fullSeconds_eq]
    exact Nat.div_add_mod' t.nanoseconds second
  simp only [of?, dif_pos inRange, parts]

end Parts

/-- Hours, minutes and seconds, with the given number of decimal places, at most nine.
Further places are cut off. -/
def iso (places : Nat) (t : TimeOfDay) : List Char :=
  fixedDigits 2 t.hour ++ ':' :: fixedDigits 2 t.minute ++ ':' :: fixedDigits 2 t.seconds ++
    '.' :: fixedDigits places (t.subsecond / 10 ^ (9 - places))

end TimeOfDay

example : ((TimeOfDay.of? 23 59 58 1500000).map (String.ofList <| ·.iso 3)) =
    some "23:59:58.001" := by decide +kernel

end SqlSelect.Calendar
