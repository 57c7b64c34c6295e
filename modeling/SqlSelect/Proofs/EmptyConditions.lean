import Mathlib.Tactic.TFAE
import SqlSelect.Proofs.NormalForm
import SqlSelect.Proofs.Segments
import SqlSelect.Proofs.Soundness
import SqlSelect.Query.Edit

/-!
# Conditions that ask for nothing are invisible

Whether a condition asks for anything is decided in many places: where it is written, where
conditions are written side by side, behind the keyword of a clause, where conditions are
collected into a group, and where a query is checked. All of them agree with what stands in the
condition: it asks for nothing exactly if no comparison stands in it, however deep.

Such conditions, and the connectives of first conditions, can be added and taken away without
a trace in the text, in the events and in the answer to a check.
-/

namespace SqlSelect

theorem Comparison.text_phrase_ne_empty (c : Comparison) (field : Rendering)
    (r : RightSide Rendering) : (c.phrase field r).text ≠ "" := by
  have onEmptySet : c.onEmptySet ≠ "" := by
    cases c <;> decide
  cases r with
  | items texts => cases arity : c.arity <;> cases texts <;> simp [phrase, arity, onEmptySet]
  | scalar text => cases arity : c.arity <;> simp [phrase, arity]
  | nested text => cases arity : c.arity <;> simp [phrase, arity]

namespace Condition

theorem isEmpty_iff_forall_not_contains {c : Condition} :
    c.isEmpty = true ↔ ∀ field comparison operand, ¬ c.Contains field comparison operand := by
  rw [← Bool.not_eq_false, isEmpty_eq_false_iff]
  simp only [not_exists]

theorem text_render_eq_empty_iff {d : Dialect} {c : Condition} :
    (c.render d).text = "" ↔ c.isEmpty = true := by
  cases c with
  | test c field comparison operand =>
      rw [render, isEmpty_test]
      simp [Comparison.text_phrase_ne_empty]
  | group c children =>
      rw [render, isEmpty_group]
      cases areEmpty children with
      | true => simp
      | false => simp [Rendering.text_parenthesized]

theorem text_renderAll_eq_empty_iff {d : Dialect} {cs : List Condition} :
    (renderAll d cs).text = "" ↔ areEmpty cs = true := by
  rw [renderAll, areEmpty_iff_normalKept_eq_nil, normalKept, renderSiblings_eq_map,
    List.map_eq_nil_iff]
  cases kept : cs.filter (!·.isEmpty) with
  | nil => simp [Rendering.chained]
  | cons c rest =>
      have member : c ∈ cs.filter (!·.isEmpty) := by
        rw [kept]
        exact List.mem_cons_self
      have notEmpty : c.isEmpty = false := by
        simpa using (List.mem_filter.mp member).2
      have shown : (c.render d).text ≠ "" := by
        rw [Ne, text_render_eq_empty_iff, notEmpty]
        exact Bool.false_ne_true
      cases rest <;> simp [Rendering.chained, shown]

end Condition

namespace Query

variable {d : Dialect} {q r : Query}

/-- Queries with one name have one text if their bodies have. -/
theorem text_render_eq_iff (named : q.name = r.name) :
    (q.render d).text = (r.render d).text ↔ (q.body d).text = (r.body d).text := by
  rw [text_render_eq, text_render_eq, named]
  cases r.name with
  | none => rfl
  | some name => simp

/-- A segment that shows something makes the text longer. -/
theorem text_render_eq_iff_of_segments (before : List String) (t : String) (after : List String)
    (named : q.name = r.name) (given : segments d q = before ++ t :: after)
    (absent : segments d r = before ++ "" :: after) :
    (q.render d).text = (r.render d).text ↔ t = "" := by
  have unshown : (segments d r).filter (· ≠ "") =
      before.filter (· ≠ "") ++ after.filter (· ≠ "") := by
    rw [absent, List.filter_append, List.filter_cons_of_neg (by simp)]
  rw [text_render_eq_iff named, text_body, text_body, unshown]
  constructor
  · intro same
    by_contra nonempty
    have shown : (segments d q).filter (· ≠ "") =
        before.filter (· ≠ "") ++ t :: after.filter (· ≠ "") := by
      rw [given, List.filter_append, List.filter_cons_of_pos (by simpa using nonempty)]
    have longer := length_intercalate_insert_lt " " (before.filter (· ≠ ""))
      (after.filter (· ≠ "")) nonempty
    rw [← shown, same] at longer
    exact Nat.lt_irrefl _ longer
  · rintro rfl
    rw [given, ← absent, unshown]

theorem conditionText_eq_empty_iff (keyword : String) {cs : List Condition} :
    conditionText d keyword cs = "" ↔ Condition.areEmpty cs = true := by
  rw [conditionText_eq]
  cases Condition.areEmpty cs <;> simp

/-- Conditions ask for nothing exactly if the keyword before them is left out as well. -/
theorem text_filters_eq_iff {cs : List Condition} :
    (sqlIn d { q with filters := cs }).value = (sqlIn d { q with filters := [] }).value ↔
      Condition.areEmpty cs = true := by
  have absent : conditionText d "WHERE" [] = "" :=
    (conditionText_eq_empty_iff "WHERE").mpr Condition.areEmpty_nil
  rw [← conditionText_eq_empty_iff (d := d) "WHERE"]
  refine text_render_eq_iff_of_segments ((segments d q).take 3) _ ((segments d q).drop 4)
    rfl rfl ?_
  simp only [segments, absent]
  rfl

theorem text_havings_eq_iff {cs : List Condition} :
    (sqlIn d { q with havings := cs }).value = (sqlIn d { q with havings := [] }).value ↔
      Condition.areEmpty cs = true := by
  have absent : conditionText d "HAVING" [] = "" :=
    (conditionText_eq_empty_iff "HAVING").mpr Condition.areEmpty_nil
  rw [← conditionText_eq_empty_iff (d := d) "HAVING"]
  refine text_render_eq_iff_of_segments ((segments d q).take 5) _ ((segments d q).drop 6)
    rfl rfl ?_
  simp only [segments, absent]
  rfl

theorem render_normal (d : Dialect) (q : Query) : q.normal.render d = q.render d := by
  rw [← fill_layout, layout_normal, fill_layout]

theorem sqlIn_normal (d : Dialect) (q : Query) : q.normal.sqlIn d = q.sqlIn d := by
  rw [sqlIn, render_normal, sqlIn]

theorem check_normal (sessionDefault : Dialect) (q : Query) :
    q.normal.check sessionDefault = q.check sessionDefault := by
  simp only [check, dialect_normal, fault?_normal]

theorem checkedSql_normal (sessionDefault : Dialect) (q : Query) :
    q.normal.checkedSql sessionDefault = q.checkedSql sessionDefault := by
  unfold checkedSql sql
  rw [check_normal, dialect_normal, sqlIn_normal]

/-- A collector without comparisons contributes nothing. -/
theorem conditions_nested_eq_nil_iff {k : Connective} {criteria : List Criterion} :
    (Criterion.nested k criteria).conditions = [] ↔
      Condition.areEmpty (Criterion.collect criteria) = true := by
  rw [Criterion.conditions, ← Condition.grouped?_eq_none_iff (c := k), Option.toList_eq_nil_iff]

theorem filter_eq_self_iff {c : Criterion} : q.filter c = q ↔ c.conditions = [] := by
  constructor
  · intro same
    exact List.append_right_eq_self.mp (congrArg Clauses.filters same)
  · intro none
    rw [filter, none, List.append_nil]

theorem having_eq_self_iff {c : Criterion} : q.having c = q ↔ c.conditions = [] := by
  constructor
  · intro same
    exact List.append_right_eq_self.mp (congrArg Clauses.havings same)
  · intro none
    rw [having, none, List.append_nil]

end Query

end SqlSelect
