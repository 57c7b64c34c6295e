import SqlSelect.Proofs.NormalForm
import SqlSelect.Proofs.Segments
import SqlSelect.Query.Edit

/-!
# Collected conditions, wherever they go

Criteria give the same conditions when they are collected by themselves, when a query filters its
rows by them and when it filters the groups of its rows by them. The three differ in the keyword
that comes before the conditions, and a query is checked alike whichever of its two clauses has
them.
-/

namespace SqlSelect

namespace Condition

/-- Conditions without comparisons are never at fault. -/
theorem findSome?_fault?_of_areEmpty (d : Dialect) {cs : List Condition}
    (empty : areEmpty cs = true) : cs.findSome? (fault? d) = none := by
  rw [areEmpty_eq_all, List.all_eq_true] at empty
  rw [List.findSome?_eq_none_iff]
  intro c member
  exact fault?_of_isEmpty d (empty c member)

end Condition

namespace Query

theorem applyAll_filters (q : Query) (criteria : List Criterion) :
    q.applyAll (criteria.map .filter) =
      { q with filters := q.filters ++ Criterion.collect criteria } := by
  induction criteria generalizing q with
  | nil => simp
  | cons c criteria ih =>
      rw [List.map_cons, applyAll_cons, ih]
      simp [apply, filter]

theorem applyAll_havings (q : Query) (criteria : List Criterion) :
    q.applyAll (criteria.map .having) =
      { q with havings := q.havings ++ Criterion.collect criteria } := by
  induction criteria generalizing q with
  | nil => simp
  | cons c criteria ih =>
      rw [List.map_cons, applyAll_cons, ih]
      simp [apply, having]

/-- A query of all columns that shows one clause of conditions, and no other clause. -/
theorem text_sqlIn_of_conditions {d : Dialect} {q : Query} {keyword : String}
    {cs : List Condition} (before after : Nat) (unnamed : q.name = none)
    (shown : segments d q =
      "SELECT *" :: List.replicate before "" ++
        conditionText d keyword cs :: List.replicate after "") :
    (q.sqlIn d).value =
      if Condition.areEmpty cs then "SELECT *"
      else "SELECT * " ++ (keyword ++ " ") ++ (Condition.renderAll d cs).text := by
  have blank : "SELECT * " = "SELECT *" ++ " " := by decide +kernel
  rw [value_sqlIn, text_render_eq, unnamed]
  simp only [text_body, shown, conditionText_eq]
  cases Condition.areEmpty cs with
  | true => simp
  | false => simp [blank, String.append_assoc]

theorem text_filters (d : Dialect) (cs : List Condition) :
    (sqlIn d { filters := cs }).value =
      if Condition.areEmpty cs then "SELECT *"
      else "SELECT * WHERE " ++ (Condition.renderAll d cs).text := by
  have opening : "SELECT * WHERE " = "SELECT * " ++ ("WHERE" ++ " ") := by decide +kernel
  have columns : selectText false [] = "SELECT *" := by decide +kernel
  have shown : segments d { filters := cs } =
      "SELECT *" :: List.replicate 2 "" ++
        conditionText d "WHERE" cs :: List.replicate 5 "" := by
    rw [← columns]
    rfl
  rw [text_sqlIn_of_conditions 2 5 rfl shown, opening]

theorem text_havings (d : Dialect) (cs : List Condition) :
    (sqlIn d { havings := cs }).value =
      if Condition.areEmpty cs then "SELECT *"
      else "SELECT * HAVING " ++ (Condition.renderAll d cs).text := by
  have opening : "SELECT * HAVING " = "SELECT * " ++ ("HAVING" ++ " ") := by decide +kernel
  have columns : selectText false [] = "SELECT *" := by decide +kernel
  have shown : segments d { havings := cs } =
      "SELECT *" :: List.replicate 4 "" ++
        conditionText d "HAVING" cs :: List.replicate 3 "" := by
    rw [← columns]
    rfl
  rw [text_sqlIn_of_conditions 4 3 rfl shown, opening]

theorem fault?_havings_eq_filters (d : Dialect) {q : Query}
    (noFilter : Condition.areEmpty q.filters = true)
    (noHaving : Condition.areEmpty q.havings = true) (criteria : List Criterion) :
    (q.applyAll (criteria.map .having)).fault? d =
      (q.applyAll (criteria.map .filter)).fault? d := by
  rw [applyAll_havings, applyAll_filters, fault?_eq, fault?_eq]
  simp only [List.findSome?_append, Condition.findSome?_fault?_of_areEmpty d noFilter,
    Condition.findSome?_fault?_of_areEmpty d noHaving, Option.none_or]

/-- Criteria that filter the rows of a new query are written behind its keyword as they are
written by themselves, and without comparisons there is no keyword; the same holds of criteria that
filter groups of rows. A query without other comparisons in these two clauses has the same fault
or none, whichever of the two the criteria went to. -/
theorem criteria_go_alike (criteria : List Criterion) :
    (∀ d, ((applyAll {} (criteria.map .filter)).sqlIn d).value =
        if Condition.areEmpty (Criterion.collect criteria) then "SELECT *"
        else "SELECT * WHERE " ++ (Condition.renderAll d (Criterion.collect criteria)).text) ∧
    (∀ d, ((applyAll {} (criteria.map .having)).sqlIn d).value =
        if Condition.areEmpty (Criterion.collect criteria) then "SELECT *"
        else "SELECT * HAVING " ++ (Condition.renderAll d (Criterion.collect criteria)).text) ∧
    ∀ q : Query, Condition.areEmpty q.filters = true → Condition.areEmpty q.havings = true →
      ∀ sessionDefault, (q.applyAll (criteria.map .having)).check sessionDefault =
        (q.applyAll (criteria.map .filter)).check sessionDefault := by
  refine ⟨fun d => ?_, fun d => ?_, fun q noFilter noHaving sessionDefault => ?_⟩
  · rw [applyAll_filters]
    exact text_filters d (Criterion.collect criteria)
  · rw [applyAll_havings]
    exact text_havings d (Criterion.collect criteria)
  · have dialect : (q.applyAll (criteria.map .having)).dialect sessionDefault =
        (q.applyAll (criteria.map .filter)).dialect sessionDefault := by
      rw [applyAll_havings, applyAll_filters]
      rfl
    simp only [check, dialect, fault?_havings_eq_filters _ noFilter noHaving]

/-- A group of groups, in which one range has a single bound, behind a condition that was made
elsewhere. -/
def unbounded : List Criterion :=
  [.nested .or [], .given [(Condition.columns (.raw "a") .less "b").withConnective .or],
    .nested .and
      [.test .and (.raw "c") .equal (.value (.int 1)),
        .nested .or [.test .or (.raw "d") .between (.list [.value (.int 2)])]]]

/-- A query over a table, with conditions that ask for nothing. -/
def undemanding : Query where
  source := some { table := .raw "t" }
  filters := [.group .or []]
  havings := [.group .and [.group .and []]]

theorem criteria_go_alike_unbounded :
    ((applyAll {} (unbounded.map .filter)).sqlIn .mysql).value =
        "SELECT * WHERE a < b AND (c = 1 OR (d BETWEEN 2))" ∧
      ((applyAll {} (unbounded.map .having)).sqlIn .mysql).value =
        "SELECT * HAVING a < b AND (c = 1 OR (d BETWEEN 2))" ∧
      (Condition.areEmpty undemanding.filters = true ∧
        Condition.areEmpty undemanding.havings = true) ∧
      ((undemanding.applyAll (unbounded.map .having)).check .mysql).value =
        .error (.boundCount "d" .between 1) := by
  obtain ⟨filtered, grouped, checked⟩ := criteria_go_alike unbounded
  have noFilter : Condition.areEmpty undemanding.filters = true := by decide +kernel
  have noHaving : Condition.areEmpty undemanding.havings = true := by decide +kernel
  refine ⟨?_, ?_, ⟨noFilter, noHaving⟩, ?_⟩
  · rw [filtered .mysql]
    decide +kernel
  · rw [grouped .mysql]
    decide +kernel
  · rw [checked undemanding noFilter noHaving .mysql]
    decide +kernel

end Query

end SqlSelect
