import SqlSelect.Proofs.CalendarReader
import SqlSelect.Proofs.PlainText

/-!
# Rounding of timestamps

A timestamp is written half a microsecond later than it is, so that the digits that are cut off
round it to the nearest microsecond. The position that is read back is that of the later time,
however far the carry goes, and that of the timestamp itself in the last half microsecond of the
calendar, where there is no later time.
-/

namespace SqlSelect

namespace Calendar

namespace Date

/-- The months of a year and their days fit in the year. -/
theorem dayNumber_lt (d : Date) : d.dayNumber < daysBeforeYear (d.year + 1) := by
  obtain ⟨-, -, one, -, le⟩ := d.isDate
  have twelve := d.month_le
  rw [daysBeforeYear_succ]
  unfold dayNumber
  generalize d.month = month at *
  obtain rfl | rfl | rfl | rfl | rfl | rfl | rfl | rfl | rfl | rfl | rfl | rfl :
      month = 1 ∨ month = 2 ∨ month = 3 ∨ month = 4 ∨ month = 5 ∨ month = 6 ∨ month = 7 ∨
        month = 8 ∨ month = 9 ∨ month = 10 ∨ month = 11 ∨ month = 12 := by omega
  all_goals
    cases leap : isLeapYear d.year <;> simp [daysBeforeMonth, monthLength, leap] at le ⊢ <;> omega

theorem dayNumber_le_last (d : Date) : d.dayNumber ≤ last.dayNumber := by
  have upper : d.year ≤ 9999 := d.isDate.2.1
  have within := d.dayNumber_lt
  have final : last.dayNumber + 1 = daysBeforeYear 10000 := by decide
  have years : daysBeforeYear (d.year + 1) ≤ daysBeforeYear 10000 := by
    unfold daysBeforeYear
    omega
  omega

/-- A day before the last one is at least one day before it. -/
theorem dayNumber_lt_last {d : Date} (before : d ≠ last) : d.dayNumber < last.dayNumber := by
  obtain ⟨e, next⟩ := Option.ne_none_iff_exists'.mp (mt next?_eq_none_iff.mp before)
  have successor := dayNumber_of_next? next
  have := e.dayNumber_le_last
  omega

end Date

namespace Timestamp

/-- The last nanosecond of the calendar, on the clock of universal time. -/
def last : Timestamp := { date := .last, time := ⟨dayLength - 1, by decide⟩, offset := 0 }

/-- There is no later time only if the calendar would end before it. -/
theorem later?_eq_none_iff {t : Timestamp} {nanoseconds : Nat} (short : nanoseconds ≤ dayLength) :
    t.later? nanoseconds = none ↔
      last.localNanoseconds < t.localNanoseconds + nanoseconds := by
  have inDay := t.time.isLt
  have final : last.localNanoseconds =
      Date.last.dayNumber * dayLength + (dayLength - 1 : Nat) := rfl
  rw [final, localNanoseconds]
  by_cases same : t.time.nanoseconds + nanoseconds < dayLength
  case pos =>
    have bound := t.date.dayNumber_le_last
    simp only [later?, same, dite_true, reduceCtorEq, false_iff]
    simp only [dayLength, second] at *
    omega
  case neg =>
    have carried : t.time.nanoseconds + nanoseconds - dayLength < dayLength := by omega
    simp only [later?, same, dite_false, carried, dite_true, Option.map_eq_none_iff,
      Date.next?_eq_none_iff]
    clear carried final
    constructor
    · intro lastDay
      rw [lastDay]
      simp only [dayLength, second] at *
      omega
    · intro beyond
      refine Decidable.byContradiction fun earlier => ?_
      have before := Date.dayNumber_lt_last earlier
      simp only [dayLength, second] at *
      omega

/-- A rounded timestamp stands half a microsecond later, unless the calendar ends before. -/
theorem localNanoseconds_rounded (t : Timestamp) :
    t.rounded.localNanoseconds =
      if t.localNanoseconds + 500 ≤ last.localNanoseconds then t.localNanoseconds + 500
      else t.localNanoseconds := by
  have none_iff : t.later? 500 = none ↔
      last.localNanoseconds < t.localNanoseconds + 500 := later?_eq_none_iff (by decide)
  cases found : t.later? 500 with
  | none =>
      have beyond := none_iff.mp found
      rw [if_neg (Int.not_le.mpr beyond), rounded, found, Option.getD_none]
  | some u =>
      have within : ¬ last.localNanoseconds < t.localNanoseconds + 500 := by
        rw [← none_iff, found]
        exact Option.some_ne_none u
      rw [if_pos (Int.not_lt.mp within), rounded, found, Option.getD_some]
      exact localNanoseconds_of_later? found

end Timestamp

namespace Reader

/-- What a dialect shows of a timestamp: the position on the local time line, in milliseconds or
microseconds, and the offset, if it is shown. -/
def timestamp : Dialect → Reader (Int × Option (Char × Int))
  | .mysql | .oracle => do
    let position ← localTime 6
    return (position, none)
  | .sqlite => do
    let position ← localTime 3
    return (position, none)
  | .postgresql | .sqlserver => do
    let position ← localTime 6
    mark ' '
    let offset ← offset
    return (position, some offset)

end Reader

open Reader

theorem reads_timestampText (d : Dialect) (t : Timestamp) :
    Reads (Reader.timestamp d) (Literal.timestampText d t)
      (t.rounded.localNanoseconds / (if d = .sqlite then 1000000 else 1000),
        if d = .postgresql ∨ d = .sqlserver then
          some (if t.offset < 0 then '-' else '+', t.offset.tdiv 60)
        else none) := by
  have millis : Reads (localTime 3) (t.rounded.iso 3) (t.rounded.localNanoseconds / 1000000) :=
    reads_localTime (show 3 ≤ 9 by decide) t.rounded
  have micros : Reads (localTime 6) (t.rounded.iso 6) (t.rounded.localNanoseconds / 1000) :=
    reads_localTime (show 6 ≤ 9 by decide) t.rounded
  cases d with
  | mysql | oracle =>
      change Reads _ _ (t.rounded.localNanoseconds / 1000, none)
      rw [← List.append_nil (Literal.timestampText _ t)]
      exact micros.bind (reads_pure _)
  | sqlite =>
      change Reads _ _ (t.rounded.localNanoseconds / 1000000, none)
      rw [← List.append_nil (Literal.timestampText _ t)]
      exact millis.bind (reads_pure _)
  | postgresql | sqlserver =>
      change Reads _ _ (t.rounded.localNanoseconds / 1000, some _)
      have shape : t.rounded.iso 6 ++ ' ' :: t.isoOffset =
          t.rounded.iso 6 ++ ([' '] ++ (t.isoOffset ++ [])) := by simp
      rw [Literal.timestampText, shape]
      exact micros.bind <| (reads_mark ' ').bind <| (reads_offset t).bind (reads_pure _)

end Calendar

namespace Literal

/-- What stands between the first two quotes of a text. -/
def quotedPart (text : List Char) : List Char :=
  (text.dropWhile (· ≠ '\'')).tail.takeWhile (· ≠ '\'')

theorem quotedPart_eq {front inner : List Char} (noneBefore : '\'' ∉ front)
    (noneInside : '\'' ∉ inner) (back : List Char) :
    quotedPart (front ++ '\'' :: (inner ++ '\'' :: back)) = inner := by
  have other {text : List Char} (absent : '\'' ∉ text) :
      ∀ c ∈ text, decide (c ≠ '\'') = true := by
    intro c member
    rw [decide_eq_true_iff]
    rintro rfl
    exact absent member
  rw [quotedPart, List.dropWhile_append_of_pos (other noneBefore)]
  change (inner ++ '\'' :: back).takeWhile _ = inner
  rw [List.takeWhile_append_of_pos (other noneInside)]
  exact List.append_nil inner

theorem exists_quotes_timestampWrapper (d : Dialect) :
    ∃ front back : List Char, '\'' ∉ front ∧
      (timestampWrapper d).1.toList = front ++ ['\''] ∧
      (timestampWrapper d).2.toList = '\'' :: back := by
  cases d with
  | oracle =>
      exact ⟨"to_timestamp(".toList, ", 'YYYY-MM-DD HH24:MI:SS.FF')".toList, by decide, by decide,
        by decide⟩
  | mysql | sqlite | postgresql | sqlserver => exact ⟨[], [], by decide, by decide, by decide⟩

theorem quotedPart_ofTimestamp (d : Dialect) (t : Calendar.Timestamp) :
    quotedPart (ofTimestamp d t) = timestampText d t := by
  obtain ⟨front, back, noneBefore, opening, closing⟩ := exists_quotes_timestampWrapper d
  have noneInside : '\'' ∉ timestampText d t := (plainText_timestamp d t).not_mem (by decide)
  have shape : ofTimestamp d t = front ++ '\'' :: (timestampText d t ++ '\'' :: back) := by
    simp [ofTimestamp, opening, closing]
  rw [shape]
  exact quotedPart_eq noneBefore noneInside back

end Literal

namespace Value

open Calendar

/-- Every timestamp has a literal in every dialect. What is read back between its quotes is the
position half a microsecond later on the local time line, in full milliseconds for SQLite and in
full microseconds for the others; in the last half microsecond of the calendar it is the position
itself. PostgreSQL and SQL Server show the full minutes of the offset as well, and its sign even
if there are none. -/
theorem timestamp_reads_back (d : Dialect) (t : Timestamp) :
    ∃ (literal : String) (position : Int) (offset : Option (Char × Int)),
      (Value.timestamp t).literal d = .ok literal ∧
        (Reader.timestamp d).run (Literal.quotedPart literal.toList) =
          some ((position, offset), []) ∧
        position =
          (if t.localNanoseconds + 500 ≤ Timestamp.last.localNanoseconds
            then t.localNanoseconds + 500 else t.localNanoseconds) /
            (if d = .sqlite then 1000000 else 1000) ∧
        offset =
          if d = .postgresql ∨ d = .sqlserver then
            some (if t.offset < 0 then '-' else '+', t.offset.tdiv 60)
          else none := by
  refine ⟨String.ofList (Literal.ofTimestamp d t), _, _, rfl, ?_, rfl, rfl⟩
  rw [String.toList_ofList, Literal.quotedPart_ofTimestamp, ← Timestamp.localNanoseconds_rounded]
  exact (reads_timestampText d t).run_eq

/-- The carry goes into the year zero, and the offset keeps its sign. -/
example :
    ((Value.timestamp ⟨Date.mk (-1) 12 31, ⟨86399999999500, by decide⟩, -59, by decide⟩).literal
      .postgresql).toOption = some "'0000-01-01 00:00:00.000000 -00:00'" := by
  decide +kernel

end Value

end SqlSelect
