import Mathlib.Data.List.Basic
import SqlSelect.Proofs.Induction
import SqlSelect.Query.Fault

/-!
# What is asked of a query

A query is checked against a list of requirements, which come from its clauses and from the
queries inside it in one fixed order. Which requirements there are depends on the shape of
the query alone; the first one that is not met is the fault that is reported.

## Implementation notes

What a requirement asks for and the fault that is reported for it are written out anew, and not
in terms of the functions that look for faults. A requirement of a literal is met in all dialects
or in none, so neither the list nor what it asks for depends on a dialect.
-/

namespace SqlSelect

/-- One thing that is asked of a query. -/
inductive Requirement where
  /-- The rows are taken from somewhere. -/
  | source (given : Option (Source Expr))
  /-- A query that stands for a table has a name. -/
  | tableName (clause : TableClause) (name : Option String)
  /-- A join says which rows match. -/
  | matching (kind : JoinKind) (table : Expr) (on : Condition)
  /-- A range has two bounds. -/
  | bounds (field : Expr) (comparison : Comparison) (operand : Operand)
  /-- A value is supplied and has a literal. -/
  | literal (supply : Except String Value)
  /-- A page is chosen in one way only. -/
  | onePage (limit fetch : Page)

/-- A comparison stands in the condition, however deep in groups. -/
inductive Condition.Contains : Condition → Expr → Comparison → Operand → Prop
  | test (c : Connective) (field : Expr) (comparison : Comparison) (operand : Operand) :
      Contains (.test c field comparison operand) field comparison operand
  | group (c : Connective) {children : List Condition} {x : Condition} {field : Expr}
      {comparison : Comparison} {operand : Operand} (member : x ∈ children)
      (inChild : Contains x field comparison operand) :
      Contains (.group c children) field comparison operand

theorem Condition.isEmpty_eq_false_iff {c : Condition} :
    c.isEmpty = false ↔ ∃ field comparison operand, c.Contains field comparison operand := by
  constructor
  · intro asks
    induction c using Condition.induction with
    | test c field comparison operand => exact ⟨field, comparison, operand, .test ..⟩
    | group c children ih =>
        rw [isEmpty_group, areEmpty_eq_all, List.all_eq_false] at asks
        obtain ⟨x, member, notEmpty⟩ := asks
        obtain ⟨field, comparison, operand, inChild⟩ := ih x member (by simpa using notEmpty)
        exact ⟨field, comparison, operand, .group c member inChild⟩
  · rintro ⟨field, comparison, operand, contained⟩
    induction contained with
    | test => exact isEmpty_test ..
    | group c member inChild ih =>
        rw [isEmpty_group, areEmpty_eq_all, List.all_eq_false]
        exact ⟨_, member, by simp [ih]⟩

/-- There is a literal for the value in every dialect. -/
def Value.HasLiteral (v : Value) : Prop :=
  ∀ d, ∃ text, v.literal d = .ok text

namespace Requirement

/-- What the requirement asks for. -/
def Met : Requirement → Prop
  | source given => given ≠ none
  | tableName _ name => name ≠ none
  | matching kind _ on =>
    kind = .cross ∨ ∃ field comparison operand, on.Contains field comparison operand
  | bounds _ comparison operand =>
    comparison = .between ∨ comparison = .notBetween → ∃ low high, operand = .list [low, high]
  | literal supply => ∃ v, supply = .ok v ∧ v.HasLiteral
  | onePage limit fetch => limit.count = 0 ∨ fetch.count = 0

/-- How an expression is called in a report. -/
def called : Expr → String
  | .raw text => text
  | .subquery _ => "(subquery)"

/-- How many values an operand gives. -/
def given : Operand → Nat
  | .list items => items.length
  | .value _ | .deferred _ | .raw _ | .subquery _ => 1

/-- The fault that is reported if the requirement is not met. -/
def fault? : Requirement → Option Fault
  | source none => some .noSource
  | source (some _) => none
  | tableName clause none => some (.unnamedTable clause)
  | tableName _ (some _) => none
  | matching kind table on =>
    if kind = .cross ∨ on.isEmpty = false then none
    else some (.unmatchedJoin kind (called table))
  | bounds field comparison operand =>
    if (comparison = .between ∨ comparison = .notBetween) ∧ given operand ≠ 2 then
      some (.boundCount (called field) comparison (given operand))
    else none
  | literal (.error reason) => some (.noLiteral (.notSupplied reason))
  | literal (.ok (.float x)) =>
    if x.isFinite then none else some (.noLiteral (.nonFinite x))
  | literal (.ok _) => none
  | onePage limit fetch =>
    if limit.count = 0 ∨ fetch.count = 0 then none else some (.twoPages limit fetch)

theorem label_eq_called (e : Expr) : e.label = called e := by
  cases e <;> rfl

theorem count_eq_given (a : Operand) : a.count = given a := by
  cases a <;> rfl

theorem given_eq_two_iff {a : Operand} : given a = 2 ↔ ∃ low high, a = .list [low, high] := by
  constructor
  · intro two
    cases a with
    | list items =>
        obtain ⟨low, high, rfl⟩ := List.length_eq_two.mp two
        exact ⟨low, high, rfl⟩
    | _ => cases two
  · rintro ⟨low, high, rfl⟩
    rfl

end Requirement

namespace Fault

theorem ofBounds?_eq (field : Expr) (comparison : Comparison) (operand : Operand) :
    ofBounds? field comparison operand =
      (Requirement.bounds field comparison operand).fault? := by
  simp only [ofBounds?, Requirement.fault?, Bool.and_eq_true, bne_iff_ne, Comparison.isRange_iff,
    Requirement.label_eq_called, Requirement.count_eq_given]

theorem ofPages?_eq (limit fetch : Page) :
    ofPages? limit fetch = (Requirement.onePage limit fetch).fault? := by
  simp only [ofPages?, Requirement.fault?, Bool.and_eq_true, Page.isSet_iff]
  by_cases unset : limit.count = 0 ∨ fetch.count = 0
  · rw [if_pos unset, if_neg (not_and_or.mpr (unset.imp not_not.mpr not_not.mpr))]
  · rw [if_neg unset, if_pos (not_or.mp unset)]

/-- Whether there is a literal does not depend on the dialect, and neither does the reason
why there is none. -/
theorem ofSupply?_eq (d : Dialect) (supply : Except String Value) :
    ofSupply? d supply = (Requirement.literal supply).fault? := by
  cases supply with
  | error reason => rfl
  | ok v =>
      cases v with
      | float x =>
          simp only [ofSupply?, Value.suppliedLiteral, Value.literal, Requirement.fault?]
          cases x.isFinite <;> rfl
      | _ => rfl

theorem ofSupply?_eq_none_iff {d : Dialect} {supply : Except String Value} :
    ofSupply? d supply = none ↔ ∃ text, Value.suppliedLiteral d supply = .ok text := by
  unfold ofSupply?
  cases Value.suppliedLiteral d supply with
  | ok text => exact ⟨fun _ => ⟨text, rfl⟩, fun _ => rfl⟩
  | error e => exact ⟨fun h => (nomatch h), fun ⟨_, h⟩ => (nomatch h)⟩

end Fault

namespace Requirement

theorem fault?_literal_eq_none_iff {supply : Except String Value} :
    (literal supply).fault? = none ↔ (literal supply).Met := by
  constructor
  · intro accepted
    have written (d : Dialect) := Fault.ofSupply?_eq_none_iff.mp
      ((Fault.ofSupply?_eq d supply).trans accepted)
    cases supply with
    | error reason => cases accepted
    | ok v => exact ⟨v, rfl, written⟩
  · rintro ⟨v, rfl, written⟩
    rw [← Fault.ofSupply?_eq .mysql]
    exact Fault.ofSupply?_eq_none_iff.mpr (written .mysql)

/-- A requirement is reported exactly if it is not met. -/
theorem fault?_eq_none_iff {r : Requirement} : r.fault? = none ↔ r.Met := by
  cases r with
  | source given => cases given <;> simp [fault?, Met]
  | tableName clause name => cases name <;> simp [fault?, Met]
  | matching kind table on =>
      simp only [fault?, Met, ← Condition.isEmpty_eq_false_iff, ite_eq_left_iff, reduceCtorEq,
        imp_false, not_not]
  | bounds field comparison operand =>
      simp only [fault?, Met, ← given_eq_two_iff, ite_eq_right_iff, reduceCtorEq, imp_false,
        not_and, not_not]
  | literal supply => exact fault?_literal_eq_none_iff
  | onePage limit fetch =>
      simp only [fault?, Met, ite_eq_left_iff, reduceCtorEq, imp_false, not_not]

end Requirement

end SqlSelect
