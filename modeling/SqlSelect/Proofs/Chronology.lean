import SqlSelect.Proofs.Rounding

/-!
# Chronological order of literals

Databases that keep dates and timestamps as text compare them as text. The literals allow it from
the year zero on, where all years have four digits and no sign: what stands at one position of two
texts means the same in both, and the more significant number comes first. A timestamp is rounded
before it is written, but not at the end of the calendar. There the earlier of two timestamps may
be rounded and the later one not, which shows the last digits that there are all the same.

## Implementation notes

Numbers are compared as integers throughout, so that the comparisons of the parts of a date, of a
time and of a position on the time line compose by `Ordering.then`.
-/

namespace SqlSelect

open Calendar
open SqlSelect.Number (fixedDigits digitChar)

section Numbers

/-- Where the first parts differ they decide, and where they do not the rest does. -/
theorem compare_eq_then {i j a b : Int} {rest : Ordering} (before : a < b → i < j)
    (behind : b < a → j < i) (same : a = b → compare i j = rest) :
    compare i j = (compare a b).then rest := by
  rcases Int.lt_trichotomy a b with lt | eq | gt
  · rw [Int.compare_eq_lt.mpr lt, Int.compare_eq_lt.mpr (before lt)]
    rfl
  · rw [Int.compare_eq_eq.mpr eq, same eq]
    rfl
  · rw [Int.compare_eq_gt.mpr gt, Int.compare_eq_gt.mpr (behind gt)]
    rfl

theorem compare_congr {i j k l : Int} (before : k < l → i < j) (behind : l < k → j < i)
    (same : k = l → i = j) : compare i j = compare k l := by
  rw [compare_eq_then before behind fun eq => Int.compare_eq_eq.mpr (same eq), Ordering.then_eq]

/-- Numbers are compared by their multiples of a base first, and then by what is left. -/
theorem compare_mul_add {base k l : Nat} (k_lt : k < base) (l_lt : l < base) (a b : Int) :
    compare (a * base + k) (b * base + l) = (compare a b).then (compare (k : Int) l) := by
  have apart {x y : Int} (lt : x < y) : x * base + base ≤ y * base := by
    have steps := Int.mul_le_mul_of_nonneg_right (show x + 1 ≤ y from lt)
      (Int.natCast_nonneg base)
    rwa [Int.add_mul, Int.one_mul] at steps
  refine compare_eq_then ?_ ?_ ?_
  · intro lt
    have := apart lt
    omega
  · intro gt
    have := apart gt
    omega
  · rintro rfl
    apply compare_congr <;> omega

end Numbers

section Texts

variable {x y : List Char}

theorem compare_eq_lt_iff : compare x y = .lt ↔ x < y := by
  have char {a b : Char} : compare a b = .lt ↔ a < b := compareOfLessAndEq_eq_lt
  induction x generalizing y with
  | nil => cases y <;> simp [List.compare_nil_cons]
  | cons a x ih =>
      cases y with
      | nil => simp [List.compare_cons_nil]
      | cons b y =>
          rw [List.compare_cons_cons, List.cons_lt_cons_iff, Ordering.then_eq_lt, char,
            Std.compare_eq_iff_eq]
          exact or_congr_right (and_congr_right fun _ => ih)

theorem ofList_lt_iff : String.ofList x < String.ofList y ↔ compare x y = .lt := by
  rw [String.lt_iff, String.toList_ofList, String.toList_ofList, compare_eq_lt_iff]

theorem ofList_le_iff : String.ofList x ≤ String.ofList y ↔ (compare x y).isLE = true := by
  rw [← String.not_lt, ofList_lt_iff, Std.OrientedOrd.eq_swap]
  cases compare x y <;> decide

/-- Texts are compared character by character. -/
theorem compare_ofList (x y : List Char) :
    compare (String.ofList x) (String.ofList y) = compare x y := by
  have eq : String.ofList x = String.ofList y ↔ compare x y = .eq := by
    rw [String.ofList_inj, Std.compare_eq_iff_eq]
  change (if String.ofList x < String.ofList y then Ordering.lt
    else if String.ofList x = String.ofList y then .eq else .gt) = _
  simp only [ofList_lt_iff, eq]
  cases compare x y <;> rfl

theorem compare_append (same : x.length = y.length) (xs ys : List Char) :
    compare (x ++ xs) (y ++ ys) = (compare x y).then (compare xs ys) := by
  induction x generalizing y with
  | nil =>
      cases y with
      | nil => rfl
      | cons b y => cases same
  | cons a x ih =>
      cases y with
      | nil => cases same
      | cons b y =>
          have shorter : x.length = y.length := Nat.succ.inj same
          rw [List.cons_append, List.cons_append, List.compare_cons_cons, List.compare_cons_cons,
            ih shorter, Ordering.then_assoc]

theorem compare_append_left (x xs ys : List Char) :
    compare (x ++ xs) (x ++ ys) = compare xs ys := by
  rw [compare_append rfl, Std.ReflOrd.compare_self]
  rfl

theorem compare_append_right (same : x.length = y.length) (rest : List Char) :
    compare (x ++ rest) (y ++ rest) = compare x y := by
  rw [compare_append same, Std.ReflOrd.compare_self, Ordering.then_eq]

/-- What is the same before and behind two texts does not order them. -/
theorem compare_between (same : x.length = y.length) {front back : List Char} :
    compare (front ++ x ++ back) (front ++ y ++ back) = compare x y := by
  rw [compare_append_right (by simp [same]), compare_append_left]

end Texts

theorem compare_digits : ∀ k l : Fin 10,
    compare [Nat.digitChar k] [Nat.digitChar l] = compare ((k : Nat) : Int) (l : Nat) := by
  decide +kernel

theorem compare_fixedDigits {width n m : Nat} (n_lt : n < 10 ^ width) (m_lt : m < 10 ^ width) :
    compare (fixedDigits width n) (fixedDigits width m) = compare (n : Int) m := by
  induction width generalizing n m with
  | zero =>
      obtain rfl : n = 0 := by simpa using n_lt
      obtain rfl : m = 0 := by simpa using m_lt
      rfl
  | succ width ih =>
      have ten {k : Nat} (lt : k < 10 ^ (width + 1)) : k / 10 < 10 ^ width := by
        rw [Nat.pow_succ] at lt
        omega
      have digit : compare [digitChar n] [digitChar m] =
          compare ((n % 10 : Nat) : Int) (m % 10 : Nat) :=
        compare_digits ⟨n % 10, Nat.mod_lt n (by decide)⟩ ⟨m % 10, Nat.mod_lt m (by decide)⟩
      have parts (k : Nat) : (k : Int) = (k / 10 : Nat) * (10 : Nat) + (k % 10 : Nat) := by omega
      rw [fixedDigits, fixedDigits, compare_append (by simp), ih (ten n_lt) (ten m_lt), digit,
        parts n, parts m, compare_mul_add (Nat.mod_lt n (by decide)) (Nat.mod_lt m (by decide))]

namespace Calendar

namespace Date

theorem daysBeforeYear_le_dayNumber (d : Date) : daysBeforeYear d.year ≤ d.dayNumber := by
  have first : 1 ≤ d.day := d.isDate.2.2.2.1
  unfold dayNumber
  omega

theorem daysBeforeYear_mono {year later : Int} (le : year ≤ later) :
    daysBeforeYear year ≤ daysBeforeYear later := by
  unfold daysBeforeYear
  omega

/-- The year zero is the first one that has no day before it. -/
theorem year_nonneg_iff (d : Date) : 0 ≤ d.year ↔ 0 ≤ d.dayNumber := by
  constructor
  · intro notBefore
    exact Int.le_trans (daysBeforeYear_mono notBefore) d.daysBeforeYear_le_dayNumber
  · intro notBefore
    refine Int.not_lt.mp fun before => ?_
    have ended : daysBeforeYear (d.year + 1) ≤ daysBeforeYear 0 := daysBeforeYear_mono before
    exact absurd (Int.lt_of_le_of_lt notBefore d.dayNumber_lt) (Int.not_lt.mpr ended)

theorem daysBeforeMonth_add_le {year : Int} {month later : Nat} (one : 1 ≤ month)
    (lt : month < later) :
    daysBeforeMonth year month + monthLength year month ≤ daysBeforeMonth year later := by
  induction lt with
  | refl => exact Nat.le_of_eq (daysBeforeMonth_succ one).symm
  | @step later before ih =>
      rw [Nat.succ_eq_add_one, daysBeforeMonth_succ (Nat.one_le_of_lt before)]
      omega

variable {d e : Date}

theorem dayNumber_lt_of_year_lt (lt : d.year < e.year) : d.dayNumber < e.dayNumber :=
  calc d.dayNumber
      < daysBeforeYear (d.year + 1) := d.dayNumber_lt
    _ ≤ daysBeforeYear e.year := daysBeforeYear_mono lt
    _ ≤ e.dayNumber := e.daysBeforeYear_le_dayNumber

theorem dayNumber_lt_of_month_lt (year : d.year = e.year) (lt : d.month < e.month) :
    d.dayNumber < e.dayNumber := by
  obtain ⟨-, -, one, -, le⟩ := d.isDate
  have first : 1 ≤ e.day := e.isDate.2.2.2.1
  have before := @daysBeforeMonth_add_le d.year d.month e.month one lt
  unfold dayNumber
  rw [← year]
  omega

/-- Days are numbered in the order of years, months and days of the month. -/
theorem compare_dayNumber (d e : Date) :
    compare d.dayNumber e.dayNumber =
      (compare d.year e.year).then
        ((compare (d.month : Int) e.month).then (compare (d.day : Int) e.day)) := by
  refine compare_eq_then dayNumber_lt_of_year_lt dayNumber_lt_of_year_lt fun year => ?_
  refine compare_eq_then (fun lt => dayNumber_lt_of_month_lt year (Int.ofNat_lt.mp lt))
    (fun gt => dayNumber_lt_of_month_lt year.symm (Int.ofNat_lt.mp gt)) fun month => ?_
  have first : 1 ≤ d.day ∧ 1 ≤ e.day := ⟨d.isDate.2.2.2.1, e.isDate.2.2.2.1⟩
  unfold dayNumber
  rw [year, Int.ofNat_inj.mp month]
  apply compare_congr <;> omega

/-- Dates from the year zero on are written with as many characters. -/
theorem length_iso (notBefore : 0 ≤ d.year) : d.iso.length = 10 := by
  simp [iso, Int.not_lt.mpr notBefore]

theorem compare_iso (dNotBefore : 0 ≤ d.year) (eNotBefore : 0 ≤ e.year) :
    compare d.iso e.iso = compare d.dayNumber e.dayNumber := by
  have shape {c : Date} (notBefore : 0 ≤ c.year) :
      c.iso = fixedDigits 4 c.year.natAbs ++
        (['-'] ++ (fixedDigits 2 c.month ++ (['-'] ++ fixedDigits 2 c.day))) := by
    simp [iso, Int.not_lt.mpr notBefore]
  rw [shape dNotBefore, shape eNotBefore, compare_append (by simp), compare_append_left,
    compare_append (by simp), compare_append_left, compare_fixedDigits d.year_lt e.year_lt,
    compare_fixedDigits d.month_lt e.month_lt, compare_fixedDigits d.day_lt e.day_lt,
    Int.natAbs_of_nonneg dNotBefore, Int.natAbs_of_nonneg eNotBefore, compare_dayNumber]

end Date

section Places

variable {places : Nat}

theorem TimeOfDay.length_iso (t : TimeOfDay) : (t.iso places).length = 9 + places := by
  simp [TimeOfDay.iso]
  omega

theorem TimeOfDay.compare_iso (short : places ≤ 9) (t u : TimeOfDay) :
    compare (t.iso places) (u.iso places) =
      compare ((t.nanoseconds / 10 ^ (9 - places) : Nat) : Int)
        (u.nanoseconds / 10 ^ (9 - places) : Nat) := by
  have shape (v : TimeOfDay) : v.iso places =
      fixedDigits 2 v.hour ++ ([':'] ++ (fixedDigits 2 v.minute ++ ([':'] ++
        (fixedDigits 2 v.seconds ++ (['.'] ++
          fixedDigits places (v.subsecond / 10 ^ (9 - places))))))) := by
    simp [TimeOfDay.iso]
  have units (v : TimeOfDay) : ((v.nanoseconds / 10 ^ (9 - places) : Nat) : Int) =
      (((v.hour : Int) * (60 : Nat) + v.minute) * (60 : Nat) + v.seconds) * (10 ^ places : Nat) +
        (v.subsecond / 10 ^ (9 - places) : Nat) := by
    rw [← v.units_eq short]
    simp only [Int.natCast_add, Int.natCast_mul]
  have two {n : Nat} (small : n < 60) : n < 10 ^ (2 : Nat) := by omega
  have hours (v : TimeOfDay) : v.hour < 60 := Nat.lt_trans v.hour_lt (by decide)
  calc compare (t.iso places) (u.iso places)
      = (compare (t.hour : Int) u.hour).then ((compare (t.minute : Int) u.minute).then
          ((compare (t.seconds : Int) u.seconds).then
            (compare ((t.subsecond / 10 ^ (9 - places) : Nat) : Int)
              (u.subsecond / 10 ^ (9 - places) : Nat)))) := by
        rw [shape, shape, compare_append (by simp), compare_append_left, compare_append (by simp),
          compare_append_left, compare_append (by simp), compare_append_left,
          compare_fixedDigits (two (hours t)) (two (hours u)),
          compare_fixedDigits (two t.minute_lt) (two u.minute_lt),
          compare_fixedDigits (two t.seconds_lt) (two u.seconds_lt),
          compare_fixedDigits (t.fraction_lt short) (u.fraction_lt short)]
    _ = compare ((t.nanoseconds / 10 ^ (9 - places) : Nat) : Int)
          (u.nanoseconds / 10 ^ (9 - places) : Nat) := by
        rw [units, units, compare_mul_add (t.fraction_lt short) (u.fraction_lt short),
          compare_mul_add t.seconds_lt u.seconds_lt, compare_mul_add t.minute_lt u.minute_lt,
          Ordering.then_assoc, Ordering.then_assoc]

namespace Timestamp

variable {t u : Timestamp}

/-- From the year zero on, local times are written with as many characters. -/
theorem length_iso (notBefore : 0 ≤ t.date.year) : (t.iso places).length = 20 + places := by
  have date := Date.length_iso notBefore
  have time := @TimeOfDay.length_iso places t.time
  simp only [iso, List.length_append, List.length_cons, date, time]
  omega

/-- From the year zero on, the text of a local time is ordered like the time that it shows. -/
theorem compare_iso (short : places ≤ 9) (tNotBefore : 0 ≤ t.date.year)
    (uNotBefore : 0 ≤ u.date.year) :
    compare (t.iso places) (u.iso places) =
      compare (t.localNanoseconds / (10 ^ (9 - places) : Nat))
        (u.localNanoseconds / (10 ^ (9 - places) : Nat)) := by
  have day : 10 ^ (9 - places) * (86400 * 10 ^ places) = dayLength := by
    rw [dayLength, ← units_mul short, Nat.mul_comm, Nat.mul_assoc]
  have units (v : Timestamp) :
      v.time.nanoseconds / 10 ^ (9 - places) < 86400 * 10 ^ places := by
    apply Nat.div_lt_of_lt_mul
    rw [day]
    exact v.time.isLt
  have shape (v : Timestamp) : v.iso places = v.date.iso ++ ([' '] ++ v.time.iso places) := by
    simp [iso]
  have length : t.date.iso.length = u.date.iso.length := by
    rw [Date.length_iso tNotBefore, Date.length_iso uNotBefore]
  rw [shape, shape, compare_append length, compare_append_left,
    Date.compare_iso tNotBefore uNotBefore, TimeOfDay.compare_iso short,
    localNanoseconds_ediv short, localNanoseconds_ediv short, compare_mul_add (units t) (units u)]

/-- The year zero is the first one on the local time line. -/
theorem year_nonneg_iff : 0 ≤ t.date.year ↔ 0 ≤ t.localNanoseconds := by
  have inDay := t.time.isLt
  rw [Date.year_nonneg_iff, localNanoseconds]
  simp only [dayLength, second] at *
  omega

theorem year_rounded_nonneg (notBefore : 0 ≤ t.date.year) : 0 ≤ t.rounded.date.year := by
  rw [year_nonneg_iff] at notBefore ⊢
  rw [localNanoseconds_rounded]
  split <;> omega

/-- A later local time is not rounded to an earlier unit. In the last half microsecond of the
calendar, where times are not rounded, both show the last unit. -/
theorem rounded_ediv_mono {unit : Int} (shown : unit = 1000 ∨ unit = 1000000)
    (le : t.localNanoseconds ≤ u.localNanoseconds) :
    t.rounded.localNanoseconds / unit ≤ u.rounded.localNanoseconds / unit := by
  -- The unit that ends with the calendar reaches back behind the time where rounding stops.
  have final : last.localNanoseconds % 1000000 = 999999 := by decide +kernel
  rw [localNanoseconds_rounded, localNanoseconds_rounded]
  rcases shown with rfl | rfl
  all_goals split <;> split <;> omega

theorem isoOffset_congr (clock : t.offset = u.offset) : t.isoOffset = u.isoOffset := by
  rw [isoOffset, isoOffset, clock]

end Timestamp

end Places

end Calendar

namespace Literal

variable {d : Dialect}

theorem compare_ofDate {a b : Date} (aNotBefore : 0 ≤ a.year) (bNotBefore : 0 ≤ b.year) :
    compare (ofDate d a) (ofDate d b) = compare a.dayNumber b.dayNumber := by
  have length : a.iso.length = b.iso.length := by
    rw [Date.length_iso aNotBefore, Date.length_iso bNotBefore]
  rw [ofDate, ofDate, compare_between length, Date.compare_iso aNotBefore bNotBefore]

section SameClock

variable {t u : Timestamp}

theorem length_timestampText (clock : t.offset = u.offset) (tNotBefore : 0 ≤ t.date.year)
    (uNotBefore : 0 ≤ u.date.year) :
    (timestampText d t).length = (timestampText d u).length := by
  have length {v : Timestamp} (notBefore : 0 ≤ v.date.year) (places : Nat) :
      (v.rounded.iso places).length = 20 + places :=
    Timestamp.length_iso (Timestamp.year_rounded_nonneg notBefore)
  cases d <;>
    simp only [timestampText, List.length_append, List.length_cons, length tNotBefore,
      length uNotBefore, Timestamp.isoOffset_congr clock]

/-- On one clock, timestamps are written in the order of the units that are shown. -/
theorem compare_timestampText (clock : t.offset = u.offset) (tNotBefore : 0 ≤ t.date.year)
    (uNotBefore : 0 ≤ u.date.year) :
    compare (timestampText d t) (timestampText d u) =
      compare (t.rounded.localNanoseconds / (if d = .sqlite then 1000000 else 1000))
        (u.rounded.localNanoseconds / (if d = .sqlite then 1000000 else 1000)) := by
  have tRounded := Timestamp.year_rounded_nonneg tNotBefore
  have uRounded := Timestamp.year_rounded_nonneg uNotBefore
  have millis : compare (t.rounded.iso 3) (u.rounded.iso 3) =
      compare (t.rounded.localNanoseconds / 1000000) (u.rounded.localNanoseconds / 1000000) :=
    Timestamp.compare_iso (show 3 ≤ 9 by decide) tRounded uRounded
  have micros : compare (t.rounded.iso 6) (u.rounded.iso 6) =
      compare (t.rounded.localNanoseconds / 1000) (u.rounded.localNanoseconds / 1000) :=
    Timestamp.compare_iso (show 6 ≤ 9 by decide) tRounded uRounded
  cases d with
  | mysql | oracle => exact micros
  | sqlite => exact millis
  | postgresql | sqlserver =>
      have length : (t.rounded.iso 6).length = (u.rounded.iso 6).length := by
        rw [Timestamp.length_iso tRounded, Timestamp.length_iso uRounded]
      rw [timestampText, timestampText, Timestamp.isoOffset_congr clock,
        compare_append_right length]
      exact micros

theorem compare_ofTimestamp (clock : t.offset = u.offset) (tNotBefore : 0 ≤ t.date.year)
    (uNotBefore : 0 ≤ u.date.year) :
    compare (ofTimestamp d t) (ofTimestamp d u) =
      compare (t.rounded.localNanoseconds / (if d = .sqlite then 1000000 else 1000))
        (u.rounded.localNanoseconds / (if d = .sqlite then 1000000 else 1000)) := by
  have length := @length_timestampText d t u clock tNotBefore uNotBefore
  rw [ofTimestamp, ofTimestamp, compare_between length,
    compare_timestampText clock tNotBefore uNotBefore]

end SameClock

end Literal

namespace Value

/-- From the year zero on, the literals of dates are ordered as texts like the dates themselves.
The literals of timestamps on one clock are ordered like the rounded local times, in full
milliseconds for SQLite and in full microseconds for the others. So the literal of a timestamp is
not after that of a later one, whichever of them the end of the calendar keeps from being
rounded. -/
theorem literals_chronological (d : Dialect) :
    (∀ a b : Date, 0 ≤ a.year → 0 ≤ b.year →
      ∃ x y, (Value.date a).literal d = .ok x ∧ (Value.date b).literal d = .ok y ∧
        compare x y = compare a.dayNumber b.dayNumber) ∧
    ∀ t u : Timestamp, t.offset = u.offset → 0 ≤ t.date.year → 0 ≤ u.date.year →
      ∃ x y, (Value.timestamp t).literal d = .ok x ∧ (Value.timestamp u).literal d = .ok y ∧
        compare x y =
          compare (t.rounded.localNanoseconds / (if d = .sqlite then 1000000 else 1000))
            (u.rounded.localNanoseconds / (if d = .sqlite then 1000000 else 1000)) ∧
        (t.localNanoseconds ≤ u.localNanoseconds → x ≤ y) := by
  refine ⟨fun a b aNotBefore bNotBefore => ?_, fun t u clock tNotBefore uNotBefore => ?_⟩
  · refine ⟨_, _, rfl, rfl, ?_⟩
    rw [compare_ofList, Literal.compare_ofDate aNotBefore bNotBefore]
  · have order := @Literal.compare_ofTimestamp d t u clock tNotBefore uNotBefore
    refine ⟨_, _, rfl, rfl, ?_, fun le => ?_⟩
    · rw [compare_ofList, order]
    · have shown : (if d = .sqlite then 1000000 else 1000 : Int) = 1000 ∨
          (if d = .sqlite then 1000000 else 1000 : Int) = 1000000 := by
        split <;> simp
      rw [ofList_le_iff, order, Std.isLE_compare]
      exact Timestamp.rounded_ediv_mono shown le

/-- The last timestamp that is rounded. -/
def lastRounded : Timestamp := { Timestamp.last with time := ⟨dayLength - 501, by decide⟩ }

theorem literals_chronological_calendarEnd :
    (∃ x y, (Value.date ⟨999, 12, 31, by decide⟩).literal .sqlite = .ok x ∧
      (Value.date ⟨1000, 1, 1, by decide⟩).literal .sqlite = .ok y ∧ compare x y = .lt) ∧
    lastRounded.localNanoseconds + 500 = Timestamp.last.localNanoseconds ∧
      ∃ x y, (Value.timestamp lastRounded).literal .sqlite = .ok x ∧
        (Value.timestamp .last).literal .sqlite = .ok y ∧ compare x y = .eq ∧ x ≤ y := by
  obtain ⟨dates, timestamps⟩ := literals_chronological .sqlite
  have apart : compare (Date.dayNumber ⟨999, 12, 31, by decide⟩)
      (Date.dayNumber ⟨1000, 1, 1, by decide⟩) = .lt := by decide
  obtain ⟨x, y, first, second, order⟩ :=
    dates ⟨999, 12, 31, by decide⟩ ⟨1000, 1, 1, by decide⟩ (by decide) (by decide)
  have together : compare (lastRounded.rounded.localNanoseconds / 1000000)
      (Timestamp.last.rounded.localNanoseconds / 1000000) = .eq := by decide +kernel
  have later : lastRounded.localNanoseconds + 500 = Timestamp.last.localNanoseconds := by
    decide +kernel
  obtain ⟨v, w, rounded, kept, sameUnit, notAfter⟩ :=
    timestamps lastRounded .last rfl (by decide) (by decide)
  exact ⟨⟨x, y, first, second, order.trans apart⟩, later,
    v, w, rounded, kept, sameUnit.trans together, notAfter (by omega)⟩

end Value

end SqlSelect
