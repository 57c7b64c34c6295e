import Mathlib.Data.List.Forall2
import SqlSelect.Proofs.DoubleEquality
import SqlSelect.Proofs.Soundness
import SqlSelect.Query.Operand

/-!
# Equality of operands is a partial equivalence

Operands are equal if they have the same form and what stands in them is equal, at every depth of
lists. The relation is symmetric and transitive. An operand equals itself unless something stands
in it that equals nothing: a deferred value, a query or a NaN. Where neither doubles nor timestamps
stand, equal operands are the same operand, and so are their texts.
-/

namespace SqlSelect

open Number

namespace Value

/-- Equality of this kind of value is identity. Doubles and timestamps are equal if they denote
the same. -/
def isExact : Value → Bool
  | float _ | timestamp _ => false
  | null | bool _ | int _ | uint _ | text _ | bytes _ | date _ => true

/-- Two values of one kind that denote the same number or instant, or are the same. -/
inductive Same : Value → Value → Prop
  | float {x y : Binary64} {n : Denotation} (left : x.denotation? = some n)
      (right : y.denotation? = some n) : Same (.float x) (.float y)
  | timestamp {t u : Calendar.Timestamp} (instants : t.instant = u.instant) :
      Same (.timestamp t) (.timestamp u)
  | exact {v : Value} (exact : v.isExact = true) : Same v v

variable {v w u : Value}

theorem beq_def (v w : Value) : (v == w) = Value.beq v w := rfl

theorem eq_of_isExact_of_beq (exact : v.isExact = true) (equal : (v == w) = true) : v = w := by
  rw [beq_def] at equal
  cases v with
  | float x => cases exact
  | timestamp t => cases exact
  | null | bool a | int m | uint m | text s | bytes data | date day =>
      cases w <;> simp_all [Value.beq]

theorem beq_iff_same : (v == w) = true ↔ v.Same w := by
  constructor
  · intro equal
    cases exact : v.isExact with
    | true =>
        obtain rfl := eq_of_isExact_of_beq exact equal
        exact .exact exact
    | false =>
        cases v with
        | float x =>
            cases w with
            | float y =>
                obtain ⟨n, left, right⟩ := Binary64.beq_iff_denotation?.mp equal
                exact .float left right
            | null | bool | int | uint | text | bytes | date | timestamp => cases equal
        | timestamp t =>
            cases w with
            | timestamp u => exact .timestamp (Calendar.Timestamp.beq_iff.mp equal)
            | null | bool | int | uint | float | text | bytes | date => cases equal
        | null | bool | int | uint | text | bytes | date => cases exact
  · intro same
    cases same with
    | float left right => exact Binary64.beq_iff_denotation?.mpr ⟨_, left, right⟩
    | timestamp instants => exact Calendar.Timestamp.beq_iff.mpr instants
    | exact exact => cases v <;> simp_all [beq_def, Value.beq, isExact]

theorem Same.symm (same : v.Same w) : w.Same v := by
  cases same with
  | float left right => exact .float right left
  | timestamp instants => exact .timestamp instants.symm
  | exact exact => exact .exact exact

theorem Same.trans (first : v.Same w) (second : w.Same u) : v.Same u := by
  cases first with
  | exact => exact second
  | timestamp instants =>
      cases second with
      | timestamp others => exact .timestamp (instants.trans others)
      | exact => exact .timestamp instants
  | float left middle =>
      cases second with
      | float middle' right =>
          rw [middle'] at middle
          cases middle
          exact .float left right
      | exact => exact .float left middle

instance : PartialEquivBEq Value where
  symm equal := beq_iff_same.mpr (beq_iff_same.mp equal).symm
  trans first second :=
    beq_iff_same.mpr ((beq_iff_same.mp first).trans (beq_iff_same.mp second))

end Value

namespace Operand

variable {a b c : Operand}

/-- What follows for each item from its relation to another one follows item by item. -/
theorem forall₂_imp_of_mem {R S : Operand → Operand → Prop} {items others : List Operand}
    (each : List.Forall₂ R items others) (step : ∀ x ∈ items, ∀ y, R x y → S x y) :
    List.Forall₂ S items others :=
  ((List.forall₂_and_left items others).mpr ⟨step, each⟩).imp fun _ y both => both.1 y both.2

theorem value_beq_iff {v : Value} : (value v == b) = true ↔ ∃ w, b = value w ∧ (v == w) = true := by
  cases b with
  | value w => simp
  | deferred | raw | list | subquery => simp [beq_def, Operand.beq]

theorem raw_beq_iff {text : String} : (raw text == b) = true ↔ b = raw text := by
  cases b with
  | raw other => rw [raw_beq_raw, beq_iff_eq, raw.injEq, eq_comm]
  | value | deferred | list | subquery => simp [beq_def, Operand.beq]

/-- Lists are equal if their items are, one by one. -/
theorem list_beq_iff {items : List Operand} :
    (list items == b) = true ↔
      ∃ others, b = list others ∧ List.Forall₂ (fun x y => (x == y) = true) items others := by
  have lists (others : List Operand) :
      (items == others) = true ↔ List.Forall₂ (fun x y => (x == y) = true) items others := by
    induction items generalizing others with
    | nil => cases others <;> simp
    | cons x items ih => cases others <;> simp [ih]
  cases b with
  | list others => simp [lists]
  | value | deferred | raw | subquery => simp [beq_def, Operand.beq]

theorem beq_symm (equal : (a == b) = true) : (b == a) = true := by
  induction a using Operand.induction generalizing b with
  | value v =>
      obtain ⟨w, rfl, same⟩ := value_beq_iff.mp equal
      exact value_beq_iff.mpr ⟨v, rfl, BEq.symm same⟩
  | raw text =>
      obtain rfl := raw_beq_iff.mp equal
      exact equal
  | list items ih =>
      obtain ⟨others, rfl, each⟩ := list_beq_iff.mp equal
      have back : List.Forall₂ (fun x y => (y == x) = true) items others :=
        forall₂_imp_of_mem each fun x member y => ih x member
      exact list_beq_iff.mpr ⟨items, rfl, back.flip⟩
  | deferred supply => simp at equal
  | subquery q => simp at equal

theorem beq_trans (first : (a == b) = true) (second : (b == c) = true) : (a == c) = true := by
  induction a using Operand.induction generalizing b c with
  | value v =>
      obtain ⟨w, rfl, same⟩ := value_beq_iff.mp first
      obtain ⟨u, rfl, next⟩ := value_beq_iff.mp second
      exact value_beq_iff.mpr ⟨u, rfl, BEq.trans same next⟩
  | raw text =>
      obtain rfl := raw_beq_iff.mp first
      exact second
  | list items ih =>
      obtain ⟨others, rfl, each⟩ := list_beq_iff.mp first
      obtain ⟨last, rfl, eachNext⟩ := list_beq_iff.mp second
      refine list_beq_iff.mpr ⟨last, rfl, ?_⟩
      clear first second
      induction each generalizing last with
      | nil =>
          cases eachNext
          exact .nil
      | cons same _ rest =>
          cases eachNext with
          | cons next others =>
              obtain ⟨ofItem, ofItems⟩ := List.forall_mem_cons.mp ih
              exact .cons (ofItem same next) (rest ofItems _ others)
  | deferred supply => simp at first
  | subquery q => simp at first

instance : PartialEquivBEq Operand where
  symm := beq_symm
  trans := beq_trans

/-- An operand that equals nothing: a deferred value may be another one whenever it is asked
for, a query is not looked into, and a NaN is not a number. -/
def isElusive : Operand → Bool
  | value v => v.isNaN
  | deferred _ | subquery _ => true
  | raw _ | list _ => false

theorem forall_contains_list_iff {P : Operand → Prop} {items : List Operand} :
    (∀ b, (list items).Contains b → P b) ↔
      P (list items) ∧ ∀ x ∈ items, ∀ b, x.Contains b → P b := by
  constructor
  · intro all
    exact ⟨all _ (.itself _), fun x member b inItem => all b (.list member inItem)⟩
  · rintro ⟨whole, ofItems⟩ b contained
    cases contained with
    | itself => exact whole
    | list member inItem => exact ofItems _ member b inItem

/-- Nothing but itself stands in an operand that is not a list. -/
theorem forall_contains_iff {P : Operand → Prop} (noList : ∀ items, a ≠ list items) :
    (∀ b, a.Contains b → P b) ↔ P a := by
  constructor
  · intro all
    exact all a (.itself a)
  · intro whole b contained
    cases contained with
    | itself => exact whole
    | list => exact absurd rfl (noList _)

theorem beq_self_iff : (a == a) = true ↔ ∀ b, a.Contains b → b.isElusive = false := by
  induction a using Operand.induction with
  | list items ih =>
      calc (list items == list items) = true
          ↔ List.Forall₂ (fun x y => (x == y) = true) items items := by
            rw [list_beq_iff]
            simp
        _ ↔ ∀ x ∈ items, (x == x) = true := List.forall₂_same
        _ ↔ ∀ x ∈ items, ∀ b, x.Contains b → b.isElusive = false := forall₂_congr ih
        _ ↔ ∀ b, (list items).Contains b → b.isElusive = false := by
            rw [forall_contains_list_iff]
            exact (and_iff_right rfl).symm
  | value v =>
      rw [forall_contains_iff (by simp), value_beq_value, Value.beq_self, isElusive]
      simp
  | raw text =>
      rw [forall_contains_iff (by simp), isElusive]
      simp
  | deferred supply =>
      rw [forall_contains_iff (by simp), isElusive]
      simp
  | subquery q =>
      rw [forall_contains_iff (by simp), isElusive]
      simp

/-- Where equality is identity at every depth, equal operands are the same. -/
theorem eq_of_beq_of_exact (exact : ∀ v, a.Contains (.value v) → v.isExact = true)
    (equal : (a == b) = true) : a = b := by
  induction a using Operand.induction generalizing b with
  | value v =>
      obtain ⟨w, rfl, same⟩ := value_beq_iff.mp equal
      rw [Value.eq_of_isExact_of_beq (exact v (.itself _)) same]
  | raw text => exact (raw_beq_iff.mp equal).symm
  | list items ih =>
      obtain ⟨others, rfl, each⟩ := list_beq_iff.mp equal
      have identical : List.Forall₂ (· = ·) items others :=
        forall₂_imp_of_mem each fun x member y =>
          ih x member fun v inItem => exact v (.list member inItem)
      rw [List.forall₂_eq_eq_eq] at identical
      rw [identical]
  | deferred supply => simp at equal
  | subquery q => simp at equal

/-- Equality of operands is symmetric and transitive. An operand equals itself exactly if there is
no deferred value, no query and no NaN in it at any depth of lists. Values are compared kind by
kind, doubles as numbers and timestamps as instants. Equal operands without doubles and timestamps
have one text in every dialect. -/
theorem equality_partial (a b c : Operand) :
    ((a == b) = true → (b == a) = true) ∧
    ((a == b) = true → (b == c) = true → (a == c) = true) ∧
    ((a == a) = true ↔
      (∀ supply, ¬ a.Contains (.deferred supply)) ∧ (∀ q, ¬ a.Contains (.subquery q)) ∧
        ∀ x : Binary64, x.isNaN = true → ¬ a.Contains (.value (.float x))) ∧
    (∀ v w : Value, (value v == value w) = true ↔ v.Same w) ∧
    ((a == b) = true → (∀ x, ¬ a.Contains (.value (.float x))) →
      (∀ t, ¬ a.Contains (.value (.timestamp t))) → ∀ d, a.render d = b.render d) := by
  refine ⟨beq_symm, beq_trans, ?self, ?values, ?texts⟩
  case self =>
    rw [beq_self_iff]
    constructor
    · intro comparable
      refine ⟨fun supply contained => ?_, fun q contained => ?_, fun x notNumber contained => ?_⟩
      · cases comparable _ contained
      · cases comparable _ contained
      · have number : x.isNaN = false := comparable _ contained
        rw [notNumber] at number
        cases number
    · rintro ⟨noDeferred, noQuery, noNaN⟩ b contained
      cases b with
      | deferred supply => exact absurd contained (noDeferred supply)
      | subquery q => exact absurd contained (noQuery q)
      | raw text => rfl
      | list items => rfl
      | value v =>
          cases v with
          | float x => exact Bool.eq_false_iff.mpr fun notNumber => noNaN x notNumber contained
          | null | bool | int | uint | text | bytes | date | timestamp => rfl
  case values =>
    intro v w
    rw [value_beq_value, Value.beq_iff_same]
  case texts =>
    intro equal noFloat noTimestamp d
    have exact : ∀ v, a.Contains (.value v) → v.isExact = true := by
      intro v contained
      cases v with
      | float x => exact absurd contained (noFloat x)
      | timestamp t => exact absurd contained (noTimestamp t)
      | null | bool | int | uint | text | bytes | date => rfl
    rw [eq_of_beq_of_exact exact equal]

/-- A zero, and noon in Greenwich, seen from an hour to the west. -/
def noonWest : Operand :=
  .list [.value (.float ⟨0⟩),
    .list [.value
      (.timestamp ⟨⟨2021, 3, 4, by decide⟩, ⟨39600000000000, by decide⟩, -3600, by decide⟩)]]

/-- The negative zero, and the same instant seen from an hour to the east. -/
def noonEast : Operand :=
  .list [.value (.float ⟨0x8000000000000000⟩),
    .list [.value
      (.timestamp ⟨⟨2021, 3, 4, by decide⟩, ⟨46800000000000, by decide⟩, 3600, by decide⟩)]]

def words : Operand :=
  .list [.value (.text "a"), .raw "b"]

/-- What is equal without being the same is equal both ways; the same words have the same text. -/
theorem equality_partial_noon :
    (noonWest == noonEast) = true ∧ (noonEast == noonWest) = true ∧ (noonWest == noonWest) = true ∧
      (words == words) = true ∧ (∀ x, ¬ words.Contains (.value (.float x))) ∧
      (∀ t, ¬ words.Contains (.value (.timestamp t))) ∧
      words.render .oracle = words.render .oracle := by
  have equal : (noonWest == noonEast) = true := by decide +kernel
  obtain ⟨symm, trans, -, -, -⟩ := equality_partial noonWest noonEast noonWest
  have same : (words == words) = true := by decide +kernel
  have atoms : ∀ b, words.Contains b →
      b = words ∨ b = .value (.text "a") ∨ b = .raw "b" := by
    intro b contained
    cases contained with
    | itself => exact .inl rfl
    | list member inItem =>
        obtain rfl | rfl := List.mem_pair.mp member <;> cases inItem <;> simp
  have noFloat : ∀ x, ¬ words.Contains (.value (.float x)) := by
    intro x contained
    simpa [words] using atoms _ contained
  have noTimestamp : ∀ t, ¬ words.Contains (.value (.timestamp t)) := by
    intro t contained
    simpa [words] using atoms _ contained
  obtain ⟨-, -, -, -, texts⟩ := equality_partial words words words
  exact ⟨equal, symm equal, trans equal (symm equal), same, noFloat, noTimestamp,
    texts same noFloat noTimestamp .oracle⟩

/-- Equal doubles and equal timestamps can have different texts. -/
example : (noonWest.render .postgresql).text = "(0, ('2021-03-04 11:00:00.000000 -01:00'))" ∧
    (noonEast.render .postgresql).text = "(-0, ('2021-03-04 13:00:00.000000 +01:00'))" := by
  decide +kernel

end Operand

end SqlSelect
