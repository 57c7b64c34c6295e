import SqlSelect.Proofs.Rounding

/-!
# Instants of written timestamps

A literal that shows an offset denotes an instant. The local time in it is rounded to microseconds,
and its offset is cut to minutes, so the clock that it names is behind or ahead of the clock of the
timestamp by the seconds that were cut off. The instant that is denoted is that of the timestamp,
up to less than a microsecond, exactly if there are no such seconds.
-/

namespace SqlSelect

open Calendar

namespace Calendar.Timestamp

/-- The instant of the rounded local time on a clock whose offset is cut to minutes. -/
def shownInstant (t : Timestamp) : Int :=
  t.rounded.localNanoseconds / 1000 * 1000 - t.offset.tdiv 60 * 60 * second

/-- Rounding moves a local time by less than a microsecond. -/
theorem natAbs_rounding_lt (t : Timestamp) :
    (t.rounded.localNanoseconds / 1000 * 1000 - t.localNanoseconds).natAbs < 1000 := by
  rw [localNanoseconds_rounded]
  split <;> omega

/-- The seconds that are cut off the offset move the instant, and rounding hardly does. -/
theorem natAbs_shownInstant_lt (t : Timestamp) :
    (t.shownInstant - (t.instant + t.offset.tmod 60 * second)).natAbs < 1000 := by
  have parts : t.offset.tdiv 60 * 60 + t.offset.tmod 60 = t.offset := Int.tdiv_mul_add_tmod ..
  have difference : t.shownInstant - (t.instant + t.offset.tmod 60 * second) =
      t.rounded.localNanoseconds / 1000 * 1000 - t.localNanoseconds := by
    simp only [shownInstant, instant, second]
    omega
  rw [difference]
  exact t.natAbs_rounding_lt

theorem natAbs_shownInstant_lt_iff (t : Timestamp) :
    (t.shownInstant - t.instant).natAbs < 1000 ↔ t.offset.tmod 60 = 0 := by
  have near := t.natAbs_shownInstant_lt
  simp only [second] at near
  omega

/-- What is written of one instant by two clocks differs by the seconds that are cut off. -/
theorem natAbs_shownInstant_sub_lt_iff {t u : Timestamp} (same : t.instant = u.instant) :
    (t.shownInstant - u.shownInstant).natAbs < 2000 ↔ t.offset.tmod 60 = u.offset.tmod 60 := by
  have nearFirst := t.natAbs_shownInstant_lt
  have nearSecond := u.natAbs_shownInstant_lt
  simp only [second] at nearFirst nearSecond
  constructor
  · intro close
    omega
  · intro cut
    rw [cut] at nearFirst
    omega

end Calendar.Timestamp

namespace Literal

/-- The instant that a local time with an offset denotes, in nanoseconds. -/
def instant? (d : Dialect) (literal : String) : Option Int :=
  match (Reader.timestamp d).run (quotedPart literal.toList) with
  | some ((microseconds, some (_, minutes)), []) =>
    some (microseconds * 1000 - minutes * 60 * second)
  | _ => none

theorem instant?_ofTimestamp {d : Dialect} (shown : d = .postgresql ∨ d = .sqlserver)
    (t : Timestamp) : instant? d (String.ofList (ofTimestamp d t)) = some t.shownInstant := by
  have micros : d ≠ .sqlite := by
    rintro rfl
    simp at shown
  have read := (reads_timestampText d t).run_eq
  rw [if_neg micros, if_pos shown] at read
  rw [instant?, String.toList_ofList, quotedPart_ofTimestamp, read]
  rfl

end Literal

namespace Value

/-- The literal of a timestamp, where it shows an offset, denotes the instant of the timestamp and
the seconds that the offset has besides its minutes, up to less than a microsecond. So it denotes
the instant of the timestamp, up to less than a microsecond, exactly if the offset is in full
minutes, and the literals of equal timestamps denote instants less than two microseconds apart
exactly if their offsets have the same seconds. -/
theorem instant_moved_by_cut_seconds {d : Dialect} (shown : d = .postgresql ∨ d = .sqlserver) :
    (∀ t : Timestamp, ∃ literal instant,
      (Value.timestamp t).literal d = .ok literal ∧ Literal.instant? d literal = some instant ∧
        (instant - (t.instant + t.offset.tmod 60 * second)).natAbs < 1000 ∧
        ((instant - t.instant).natAbs < 1000 ↔ t.offset.tmod 60 = 0)) ∧
    ∀ t u : Timestamp, (Value.timestamp t == Value.timestamp u) = true →
      ∃ left right x y,
        (Value.timestamp t).literal d = .ok left ∧ Literal.instant? d left = some x ∧
        (Value.timestamp u).literal d = .ok right ∧ Literal.instant? d right = some y ∧
        ((x - y).natAbs < 2000 ↔ t.offset.tmod 60 = u.offset.tmod 60) := by
  refine ⟨fun t => ?_, fun t u equal => ?_⟩
  · exact ⟨_, _, rfl, Literal.instant?_ofTimestamp shown t, t.natAbs_shownInstant_lt,
      t.natAbs_shownInstant_lt_iff⟩
  · have same : t.instant = u.instant := beq_iff_eq.mp equal
    exact ⟨_, _, _, _, rfl, Literal.instant?_ofTimestamp shown t, rfl,
      Literal.instant?_ofTimestamp shown u, Timestamp.natAbs_shownInstant_sub_lt_iff same⟩

/-- A time on a clock in the east, half a microsecond behind a full second. -/
def eastern : Timestamp := ⟨⟨2024, 1, 2, by decide⟩, ⟨11045000000500, by decide⟩, 28800, by decide⟩

/-- The same instant on a clock half an hour behind universal time. -/
def western : Timestamp := ⟨⟨2024, 1, 1, by decide⟩, ⟨66845000000500, by decide⟩, -1800, by decide⟩

theorem instant_moved_by_cut_seconds_halfHour :
    (Value.timestamp eastern == Value.timestamp western) = true ∧
      ((Value.timestamp eastern).literal .sqlserver).toOption =
        some "'2024-01-02 03:04:05.000001 +08:00'" ∧
      ((Value.timestamp western).literal .sqlserver).toOption =
        some "'2024-01-01 18:34:05.000001 -00:30'" ∧
      ∃ left right x y,
        (Value.timestamp eastern).literal .sqlserver = .ok left ∧
        Literal.instant? .sqlserver left = some x ∧
        (Value.timestamp western).literal .sqlserver = .ok right ∧
        Literal.instant? .sqlserver right = some y ∧ (x - y).natAbs < 2000 := by
  have equal : (Value.timestamp eastern == Value.timestamp western) = true := by decide +kernel
  have whole : eastern.offset.tmod 60 = western.offset.tmod 60 := by decide +kernel
  obtain ⟨-, pairs⟩ := instant_moved_by_cut_seconds (d := .sqlserver) (.inr rfl)
  obtain ⟨left, right, x, y, written, denoted, writtenToo, denotedToo, close⟩ :=
    pairs eastern western equal
  exact ⟨equal, by decide +kernel, by decide +kernel, left, right, x, y, written, denoted,
    writtenToo, denotedToo, close.mpr whole⟩

/-- A clock that is almost a minute ahead of universal time. -/
def ahead : Timestamp := ⟨⟨2024, 1, 2, by decide⟩, ⟨11045000000000, by decide⟩, 59, by decide⟩

/-- The same instant on the clock of universal time. -/
def universal : Timestamp :=
  { Timestamp.last with date := ⟨2024, 1, 2, by decide⟩, time := ⟨10986000000000, by decide⟩ }

/-- The clock that is ahead is written like that of universal time, so its literal denotes an
instant that is almost a minute later, and not the one that an equal timestamp denotes. -/
theorem cut_seconds_move_instant :
    ((Value.timestamp ahead).literal .postgresql).toOption =
        some "'2024-01-02 03:04:05.000000 +00:00'" ∧
      Literal.instant? .postgresql "'2024-01-02 03:04:05.000000 +00:00'" =
        some (ahead.instant + 59 * second) ∧
      ¬ (ahead.instant + 59 * second - ahead.instant).natAbs < 1000 ∧
      (Value.timestamp ahead == Value.timestamp universal) = true ∧
      ((Value.timestamp universal).literal .postgresql).toOption =
        some "'2024-01-02 03:03:06.000000 +00:00'" ∧
      Literal.instant? .postgresql "'2024-01-02 03:03:06.000000 +00:00'" =
        some universal.instant ∧
      ¬ (ahead.instant + 59 * second - universal.instant).natAbs < 2000 := by
  decide +kernel

end Value

end SqlSelect
