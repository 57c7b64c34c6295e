import SqlSelect.Calendar.Timestamp

/-!
# Reading dates and times back

A reader takes a value off the front of a text. There are readers for digits, dates, times of day
and offsets, and for a date and a time together, which give the position on the local time line
in units of the last decimal place that is shown. Each takes exactly what is written for a value
and gives that value, whatever follows; a time with fewer than nine places gives the last unit
that is not later.

## Implementation notes

What a sequence of readers takes is what they take one after the other, so a proof has the shape
of the reader.
-/

namespace SqlSelect.Calendar

open SqlSelect.Number (fixedDigits isDigit_of_mem_fixedDigits ofDigitChars_fixedDigits_of_lt)

/-- Takes a value off the front of a text, if there is one. -/
abbrev Reader (α : Type) := StateT (List Char) Option α

namespace Reader

/-- A number of so many digits. -/
def digits (width : Nat) : Reader Nat := fun text =>
  if (text.take width).length = width ∧ (text.take width).all Char.isDigit then
    some (Nat.ofDigitChars 10 (text.take width) 0, text.drop width)
  else
    none

/-- A given character. -/
def mark (c : Char) : Reader Unit
  | [] => none
  | x :: rest => if x = c then some ((), rest) else none

/-- A plus or a minus sign. -/
def sign : Reader Char
  | '+' :: rest => some ('+', rest)
  | '-' :: rest => some ('-', rest)
  | _ => none

/-- A year of four digits. A year before zero has a minus sign. -/
def year : Reader Int
  | '-' :: rest => (digits 4 rest).map fun read => (-read.1, read.2)
  | text => (digits 4 text).map fun read => (read.1, read.2)

/-- A date that the calendar has. -/
def date : Reader Date := do
  let year ← year
  mark '-'
  let month ← digits 2
  mark '-'
  let day ← digits 2
  Date.of? year month day

/-- A time of day with so many decimal places, in units of the last place. -/
def clock (places : Nat) : Reader Nat := do
  let hour ← digits 2
  mark ':'
  let minute ← digits 2
  mark ':'
  let seconds ← digits 2
  mark '.'
  let fraction ← digits places
  if hour < 24 ∧ minute < 60 ∧ seconds < 60 then
    return ((hour * 60 + minute) * 60 + seconds) * 10 ^ places + fraction
  else
    failure

/-- A date and a time: the position on the local time line, in units of the last place. -/
def localTime (places : Nat) : Reader Int := do
  let date ← date
  mark ' '
  let clock ← clock places
  return date.dayNumber * (86400 * 10 ^ places : Nat) + clock

/-- A number behind a sign. -/
def signed (sign : Char) (n : Nat) : Int :=
  if sign = '-' then -n else n

/-- An offset in hours and minutes: its sign as it is written, and the minutes. -/
def offset : Reader (Char × Int) := do
  let sign ← sign
  let hours ← digits 2
  mark ':'
  let minutes ← digits 2
  if minutes < 60 then
    return (sign, signed sign (hours * 60 + minutes))
  else
    failure

/-- The sign and the quotient of the magnitude give the quotient rounded toward zero. -/
theorem signed_natAbs_div (i : Int) (n : Nat) :
    signed (if i < 0 then '-' else '+') (i.natAbs / n) = i.tdiv n := by
  split
  · next negative =>
      obtain ⟨k, opposite⟩ := Int.eq_ofNat_of_zero_le (Int.le_of_lt (Int.neg_pos_of_neg negative))
      obtain rfl : i = -k := by omega
      rw [Int.neg_tdiv, Int.natAbs_neg, Int.natAbs_natCast]
      rfl
  · next notNegative =>
      obtain ⟨k, rfl⟩ := Int.eq_ofNat_of_zero_le (Int.not_lt.mp notNegative)
      rfl

variable {α β : Type}

/-- The reader takes exactly the text and gives the value, whatever follows. -/
def Reads (p : Reader α) (text : List Char) (x : α) : Prop :=
  ∀ rest, p.run (text ++ rest) = some (x, rest)

theorem reads_pure (x : α) : Reads (pure x) [] x := fun _ => rfl

theorem Reads.bind {p : Reader α} {next : α → Reader β} {text further : List Char} {x : α} {y : β}
    (first : Reads p text x) (second : Reads (next x) further y) :
    Reads (p >>= next) (text ++ further) y := by
  intro rest
  rw [StateT.run_bind, List.append_assoc, first]
  exact second rest

/-- Nothing is left of the text that a reader takes. -/
theorem Reads.run_eq {p : Reader α} {text : List Char} {x : α} (reads : Reads p text x) :
    p.run text = some (x, []) := by
  simpa using reads []

theorem reads_mark (c : Char) : Reads (mark c) [c] () := by
  intro rest
  exact if_pos rfl

theorem reads_digits {width n : Nat} (fits : n < 10 ^ width) :
    Reads (digits width) (fixedDigits width n) n := by
  intro rest
  have taken : (fixedDigits width n ++ rest).take width = fixedDigits width n := by
    simp
  have left : (fixedDigits width n ++ rest).drop width = rest := by
    simp
  have shown : (fixedDigits width n).all Char.isDigit = true :=
    List.all_eq_true.mpr fun _ member => isDigit_of_mem_fixedDigits member
  change digits width (fixedDigits width n ++ rest) = _
  rw [digits, taken, left, ofDigitChars_fixedDigits_of_lt fits]
  exact if_pos ⟨Number.length_fixedDigits width n, shown⟩

end Reader

open Reader

namespace Date

theorem year_lt (d : Date) : d.year.natAbs < 10 ^ (4 : Nat) := by
  have valid := d.isDate
  unfold IsDate at valid
  omega

theorem month_lt (d : Date) : d.month < 10 ^ (2 : Nat) := by
  have := d.month_le
  omega

theorem day_lt (d : Date) : d.day < 10 ^ (2 : Nat) := by
  have last := d.isDate.2.2.2.2
  unfold monthLength at last
  split at last
  case h_12 => split at last <;> omega
  all_goals omega

end Date

theorem reads_year (d : Date) :
    Reads Reader.year ((if d.year < 0 then ['-'] else []) ++ fixedDigits 4 d.year.natAbs)
      d.year := by
  intro rest
  have number := reads_digits d.year_lt rest
  change Reader.year _ = _
  split
  · next before =>
      have value : -(d.year.natAbs : Int) = d.year := by omega
      change (digits 4 (fixedDigits 4 d.year.natAbs ++ rest)).map _ = _
      rw [show digits 4 _ = _ from number, Option.map_some, value]
  · next after =>
      have value : (d.year.natAbs : Int) = d.year := by omega
      have unsigned : ∀ back, fixedDigits 4 d.year.natAbs ++ rest ≠ '-' :: back := by
        intro back same
        have first : '-' ∈ fixedDigits 4 d.year.natAbs := by
          have nonempty : fixedDigits 4 d.year.natAbs ≠ [] := by
            simp [← List.length_eq_zero_iff]
          obtain ⟨c, cs, shape⟩ := List.exists_cons_of_ne_nil nonempty
          rw [shape, List.cons_append] at same
          rw [shape, (List.cons.inj same).1]
          exact List.mem_cons_self
        exact absurd (isDigit_of_mem_fixedDigits first) (by decide)
      rw [List.nil_append, Reader.year]
      · rw [show digits 4 _ = _ from number, Option.map_some, value]
      · exact unsigned

theorem reads_date (d : Date) : Reads Reader.date d.iso d := by
  have known : Date.of? d.year d.month d.day = some d := Date.of?_eq_some_iff.mpr ⟨rfl, rfl, rfl⟩
  have last : Reads (Date.of? d.year d.month d.day : Reader Date) [] d := by
    intro rest
    rw [known]
    rfl
  have shape : d.iso =
      (if d.year < 0 then ['-'] else []) ++ fixedDigits 4 d.year.natAbs ++
        (['-'] ++ (fixedDigits 2 d.month ++ (['-'] ++ (fixedDigits 2 d.day ++ [])))) := by
    simp [Date.iso]
  rw [shape]
  exact (reads_year d).bind <| (reads_mark '-').bind <| (reads_digits d.month_lt).bind <|
    (reads_mark '-').bind <| (reads_digits d.day_lt).bind last

section Places

variable {places : Nat}

theorem units_mul (short : places ≤ 9) : 10 ^ places * 10 ^ (9 - places) = second := by
  rw [← Nat.pow_add, Nat.add_sub_cancel' short]

namespace TimeOfDay

variable (t : TimeOfDay)

theorem fraction_lt (short : places ≤ 9) : t.subsecond / 10 ^ (9 - places) < 10 ^ places := by
  apply Nat.div_lt_of_lt_mul
  rw [Nat.mul_comm, units_mul short]
  exact t.subsecond_lt

/-- The parts that are shown make up the last unit that is not later. -/
theorem units_eq (short : places ≤ 9) :
    ((t.hour * 60 + t.minute) * 60 + t.seconds) * 10 ^ places +
      t.subsecond / 10 ^ (9 - places) = t.nanoseconds / 10 ^ (9 - places) := by
  have positive : 0 < 10 ^ (9 - places) := Nat.pow_pos (by decide)
  calc ((t.hour * 60 + t.minute) * 60 + t.seconds) * 10 ^ places +
        t.subsecond / 10 ^ (9 - places)
      = t.subsecond / 10 ^ (9 - places) + t.nanoseconds / second * 10 ^ places := by
        rw [fullSeconds_eq, Nat.add_comm]
    _ = (t.subsecond + t.nanoseconds / second * 10 ^ places * 10 ^ (9 - places)) /
          10 ^ (9 - places) := (Nat.add_mul_div_right _ _ positive).symm
    _ = t.nanoseconds / 10 ^ (9 - places) := by
        rw [Nat.mul_assoc, units_mul short, subsecond, Nat.mul_comm, Nat.mod_add_div]

end TimeOfDay

theorem reads_clock (short : places ≤ 9) (t : TimeOfDay) :
    Reads (Reader.clock places) (t.iso places) (t.nanoseconds / 10 ^ (9 - places)) := by
  have two {n : Nat} (small : n < 60) : Reads (digits 2) (fixedDigits 2 n) n :=
    reads_digits (by omega)
  have hour := t.hour_lt
  have last := reads_pure (((t.hour * 60 + t.minute) * 60 + t.seconds) * 10 ^ places +
    t.subsecond / 10 ^ (9 - places))
  have shape : t.iso places =
      fixedDigits 2 t.hour ++ ([':'] ++ (fixedDigits 2 t.minute ++ ([':'] ++
        (fixedDigits 2 t.seconds ++ (['.'] ++
          (fixedDigits places (t.subsecond / 10 ^ (9 - places)) ++ [])))))) := by
    simp [TimeOfDay.iso]
  rw [shape, ← t.units_eq short]
  refine (two (by omega)).bind <| (reads_mark ':').bind <| (two t.minute_lt).bind <|
    (reads_mark ':').bind <| (two t.seconds_lt).bind <| (reads_mark '.').bind <|
    (reads_digits (t.fraction_lt short)).bind ?_
  rwa [if_pos ⟨hour, t.minute_lt, t.seconds_lt⟩]

/-- Full days have a whole number of units, so only the time of day is cut off. -/
theorem Timestamp.localNanoseconds_ediv (short : places ≤ 9) (t : Timestamp) :
    t.localNanoseconds / (10 ^ (9 - places) : Nat) =
      t.date.dayNumber * (86400 * 10 ^ places : Nat) +
        (t.time.nanoseconds / 10 ^ (9 - places) : Nat) := by
  have positive : ((10 ^ (9 - places) : Nat) : Int) ≠ 0 := by
    have := Nat.pow_pos (n := 9 - places) (show 0 < 10 by decide)
    omega
  have day : (dayLength : Int) = (86400 * 10 ^ places : Nat) * (10 ^ (9 - places) : Nat) := by
    rw [dayLength, ← units_mul short, ← Nat.mul_assoc, Int.natCast_mul]
  rw [localNanoseconds, day, ← Int.mul_assoc, Int.add_comm, Int.add_mul_ediv_right _ _ positive,
    Int.natCast_ediv, Int.add_comm]

/-- What is written of a local time is the last unit of the time line that is not later. -/
theorem reads_localTime (short : places ≤ 9) (t : Timestamp) :
    Reads (Reader.localTime places) (t.iso places)
      (t.localNanoseconds / (10 ^ (9 - places) : Nat)) := by
  have shape : t.iso places = t.date.iso ++ ([' '] ++ (t.time.iso places ++ [])) := by
    simp [Timestamp.iso]
  rw [shape, t.localNanoseconds_ediv short]
  exact (reads_date t.date).bind <| (reads_mark ' ').bind <| (reads_clock short t.time).bind <|
    reads_pure _

end Places

/-- What is written of an offset is its sign, and its minutes without the seconds. -/
theorem reads_offset (t : Timestamp) :
    Reads Reader.offset t.isoOffset
      (if t.offset < 0 then '-' else '+', t.offset.tdiv 60) := by
  have range : t.offset.natAbs ≤ 93599 := t.offset_le
  have hours : t.offset.natAbs / 3600 < 10 ^ (2 : Nat) := by omega
  have minutes : t.offset.natAbs / 60 % 60 < 60 := Nat.mod_lt _ (by decide)
  have total : t.offset.natAbs / 3600 * 60 + t.offset.natAbs / 60 % 60 =
      t.offset.natAbs / 60 := by omega
  have sign : Reads Reader.sign [if t.offset < 0 then '-' else '+']
      (if t.offset < 0 then '-' else '+') := by
    intro rest
    split <;> rfl
  have shape : t.isoOffset = [if t.offset < 0 then '-' else '+'] ++
      (fixedDigits 2 (t.offset.natAbs / 3600) ++
        ([':'] ++ (fixedDigits 2 (t.offset.natAbs / 60 % 60) ++ []))) := by
    simp [Timestamp.isoOffset]
  rw [shape]
  refine sign.bind <| (reads_digits hours).bind <| (reads_mark ':').bind <|
    (reads_digits (by omega)).bind ?_
  rw [if_pos minutes, total, signed_natAbs_div]
  exact reads_pure _

end SqlSelect.Calendar
