import SqlSelect.Proofs.Acceptance

/-!
# Values that come late or not at all

A value can be given, or it can be supplied when it is asked for. Once it is there, nothing tells
the two apart. A value that is not there when it is asked for, or that has no literal, is
written as a null; with a null in its place from the start the text is the same, and only the
warnings and the complaints about missing literals are gone.

## Implementation notes

The requirements on a revised query are those on the query, revised one by one. So what a check
finds can be compared without looking at the query again.
-/

namespace SqlSelect

namespace Value

/-- The value has no literal in any dialect. -/
def fails : Value → Bool
  | float x => !x.isFinite
  | _ => false

/-- A null in place of a value that is not supplied or has no literal. -/
def orNull : (supply : Except String Value) → Except String Value
  | .error _ => .ok .null
  | .ok v => if v.fails then .ok .null else .ok v

end Value

/-- A value that has been supplied in place of the supply. -/
def Operand.settled : Operand → Operand
  | .deferred (.ok v) => .value v
  | a => a

/-- A null in place of a value that is not supplied or has no literal. -/
def Operand.nulled : Operand → Operand
  | .value v => .value (if v.fails then .null else v)
  | .deferred (.error _) => .value .null
  | .deferred (.ok v) => if v.fails then .value .null else .deferred (.ok v)
  | a => a

namespace Query

/-- The query with all values in place that have been supplied, at every depth. -/
def settled (q : Query) : Query :=
  q.revise { operand := Operand.settled }

/-- The query with a null in place of each value that is not supplied or has no literal, at
every depth. -/
def nulled (q : Query) : Query :=
  q.revise { operand := Operand.nulled }

end Query

theorem Revision.replaces_settled :
    ({ operand := Operand.settled } : Revision).Replaces id where
  value v := by
    simp only [Operand.settled, Operand.form]
    rfl
  deferred supply := by
    cases supply with
    | error reason =>
        simp only [Operand.settled, Operand.form]
        rfl
    | ok v =>
        simp only [Operand.settled, Operand.form]
        rfl

theorem Revision.replaces_nulled :
    ({ operand := Operand.nulled } : Revision).Replaces Value.orNull where
  value v := by
    simp only [Operand.nulled, Operand.form, Value.orNull]
    cases v.fails <;> rfl
  deferred supply := by
    cases supply with
    | error reason => simp only [Operand.nulled, Operand.form, Value.orNull]
    | ok v =>
        simp only [Operand.nulled, Value.orNull]
        cases v.fails <;> simp [Operand.form]

section Revised

variable {ρ : Revision} {f : Except String Value → Except String Value}

theorem Requirement.called_revise (e : Expr) : called (e.revise ρ) = called e := by
  cases e with
  | raw text => rw [Expr.revise]
  | subquery q =>
      rw [Expr.revise]
      rfl

/-- An operand with the form of a value is asked for that value. -/
theorem Operand.requirements_of_form {a : Operand} {supply : Except String Value}
    (form : a.form = .scalar [.slot supply]) :
    a.requirements = [.literal supply] ∧ Requirement.given a = 1 := by
  cases a with
  | value v =>
      rw [Operand.form] at form
      cases form
      exact ⟨by rw [requirements], rfl⟩
  | deferred given =>
      rw [Operand.form] at form
      cases form
      exact ⟨by rw [requirements], rfl⟩
  | raw text | list items | subquery q =>
      rw [Operand.form] at form
      cases form

/-- A revision of values does not change how many there are. -/
theorem Requirement.given_revise (replaces : ρ.Replaces f) (a : Operand) :
    given (a.revise ρ) = given a := by
  cases a with
  | value v =>
      rw [Operand.revise]
      exact (Operand.requirements_of_form (replaces.value v)).2
  | deferred supply =>
      rw [Operand.revise]
      exact (Operand.requirements_of_form (replaces.deferred supply)).2
  | list items => simp [Operand.revise, given]
  | raw text => rw [Operand.revise]
  | subquery q =>
      rw [Operand.revise]
      rfl

namespace Requirement

/-- What becomes of a requirement if the query is revised. -/
def revise (ρ : Revision) (f : Except String Value → Except String Value) :
    Requirement → Requirement
  | source given => source (Query.reviseSource ρ given)
  | tableName clause name => tableName clause name
  | matching kind table on => matching kind (table.revise ρ) (on.revise ρ)
  | bounds field comparison operand => bounds (field.revise ρ) comparison (operand.revise ρ)
  | literal supply => literal (f supply)
  | onePage limit fetch => onePage limit fetch

/-- A revision of values can be noticed in the literals alone. -/
theorem fault?_revise (replaces : ρ.Replaces f) {r : Requirement}
    (other : ∀ supply, r ≠ .literal supply) : (r.revise ρ f).fault? = r.fault? := by
  cases r with
  | literal supply => exact absurd rfl (other supply)
  | source given =>
      rcases given with _ | ⟨table, name⟩ <;> simp [revise, fault?, Query.reviseSource]
  | matching kind table on => simp [revise, fault?, called_revise]
  | bounds field comparison operand =>
      simp only [revise, fault?, called_revise, given_revise replaces]
  | tableName | onePage => rfl

theorem fault?_ne_noLiteral {r : Requirement} (other : ∀ supply, r ≠ .literal supply)
    (error : LiteralError) : r.fault? ≠ some (.noLiteral error) := by
  cases r with
  | literal supply => exact absurd rfl (other supply)
  | source given => cases given <;> simp [fault?]
  | tableName clause name => cases name <;> simp [fault?]
  | matching | bounds | onePage => simp [fault?]

end Requirement

/-- The requirements on a revised query are those on the query, revised one by one. -/
theorem Query.requirements_revise_induction (replaces : ρ.Replaces f) :
    Query.Induction
      (fun e => (e.revise ρ).requirements = e.requirements.map (Requirement.revise ρ f) ∧
        (e.revise ρ).joinRequirements = e.joinRequirements.map (Requirement.revise ρ f))
      (fun a => (a.revise ρ).requirements = a.requirements.map (Requirement.revise ρ f))
      (fun c => (c.revise ρ).requirements = c.requirements.map (Requirement.revise ρ f))
      (fun j => (j.revise ρ).requirements = j.requirements.map (Requirement.revise ρ f))
      (fun q => (q.revise ρ).requirements = q.requirements.map (Requirement.revise ρ f)) where
  raw_expr text := by
    simp [Expr.revise, Expr.requirements, Expr.joinRequirements]
  subquery_expr q ih := by
    simp [Expr.revise, Expr.requirements, Expr.joinRequirements, ih, Requirement.revise]
  value v := by
    rw [Operand.revise, (Operand.requirements_of_form (replaces.value v)).1,
      Operand.requirements]
    rfl
  deferred supply := by
    rw [Operand.revise, (Operand.requirements_of_form (replaces.deferred supply)).1,
      Operand.requirements]
    rfl
  raw_operand text := by
    simp [Operand.revise, Operand.requirements]
  list items ih := by
    rw [Operand.revise, Operand.requirements, Operand.requirements, List.flatMap_map,
      List.map_flatMap]
    exact List.flatMap_congr ih
  subquery_operand q ih := by
    rw [Operand.revise, Operand.requirements, Operand.requirements, ih]
  test c field comparison operand fieldIh operandIh := by
    rw [Condition.revise, Condition.requirements, Condition.requirements, fieldIh.1, operandIh,
      List.map_append]
    split <;> rfl
  group c children ih := by
    rw [Condition.revise, Condition.requirements_group, Condition.requirements_group,
      List.flatMap_map, List.map_flatMap]
    exact List.flatMap_congr ih
  product table ih := by
    rw [Join.revise, Join.requirements, Join.requirements, ih.2]
  matching kind table on tableIh onIh := by
    rw [Join.revise, Join.requirements, Join.requirements, tableIh.2, onIh, List.map_append]
    rfl
  clauses q columns source joins filters havings := by
    have sourceMap : sourceRequirements (reviseSource ρ q.source) =
        (sourceRequirements q.source).map (Requirement.revise ρ f) := by
      cases given : q.source using source_cases with
      | absent => simp [reviseSource, sourceRequirements]
      | raw text name => simp [reviseSource, Expr.revise, sourceRequirements]
      | subquery r name =>
          have inner := source r name given
          simp [reviseSource, Expr.revise, sourceRequirements, inner, Requirement.revise]
    have columnMap := List.flatMap_congr fun e member => (columns e member).1
    have joinMap := List.flatMap_congr joins
    have filterMap := List.flatMap_congr filters
    have havingMap := List.flatMap_congr havings
    simp only [revise_eq, requirements_eq, List.flatMap_map, List.map_append, List.map_cons,
      List.map_flatMap, sourceMap, columnMap, joinMap, filterMap, havingMap]
    rfl

theorem Query.requirements_revise (replaces : ρ.Replaces f) (q : Query) :
    (q.revise ρ).requirements = q.requirements.map (Requirement.revise ρ f) :=
  (requirements_revise_induction replaces).query q

end Revised

namespace Value

/-- With nulls in place of what is missing, every value has a literal. -/
theorem met_orNull (supply : Except String Value) : (Requirement.literal (orNull supply)).Met := by
  rw [← Requirement.fault?_literal_eq_none_iff]
  cases supply with
  | error reason => rfl
  | ok v =>
      cases v with
      | float x =>
          cases finite : x.isFinite with
          | true => simp [orNull, fails, finite, Requirement.fault?]
          | false => simp [orNull, fails, finite, Requirement.fault?]
      | _ => rfl

end Value

namespace Piece

/-- What is missing is written as a null anyway. -/
theorem textIn_slot_orNull (d : Dialect) (supply : Except String Value) :
    (slot (Value.orNull supply)).textIn d = (slot supply).textIn d := by
  cases supply with
  | error reason => rfl
  | ok v =>
      cases v with
      | float x =>
          cases finite : x.isFinite with
          | true => simp [Value.orNull, Value.fails, finite]
          | false =>
              simp [Value.orNull, Value.fails, finite, textIn, Value.suppliedLiteral,
                Value.literal, Literal.null]
      | _ => rfl

end Piece

theorem Layout.textIn_replace {f : Except String Value → Except String Value} {d : Dialect}
    (same : ∀ supply, (Piece.slot (f supply)).textIn d = (Piece.slot supply).textIn d)
    (l : Layout) : (l.replace f).textIn d = l.textIn d := by
  unfold textIn replace
  rw [List.map_map]
  congr 1
  apply List.map_congr_left
  intro p _
  cases p with
  | slot supply => exact same supply
  | keyword text | fragment text => rfl

namespace Query

variable (q : Query)

/-- A value that has been supplied and the same value in its place have the same answers. -/
theorem sameAnswers_settled : q.settled.SameAnswers q := by
  apply sameAnswers_of_layout
  · rw [settled, layout_revise Revision.replaces_settled, Layout.replace_id]
  · rw [settled, revise_eq]
    rfl
  · intro d
    rw [fault?_eq_findSome?, fault?_eq_findSome?, settled,
      requirements_revise Revision.replaces_settled, List.findSome?_map]
    congr 1
    funext r
    by_cases asked : ∃ supply, r = .literal supply
    · obtain ⟨supply, rfl⟩ := asked
      rfl
    · exact Requirement.fault?_revise Revision.replaces_settled (not_exists.mp asked)

theorem layout_nulled : q.nulled.layout = q.layout.replace Value.orNull :=
  layout_revise Revision.replaces_nulled q

theorem text_nulled (d : Dialect) : (q.nulled.sqlIn d).value = (q.sqlIn d).value := by
  rw [value_sqlIn, value_sqlIn, text_render, text_render, layout_nulled]
  exact Layout.textIn_replace (Piece.textIn_slot_orNull d) q.layout

theorem dialect_nulled (sessionDefault : Dialect) :
    q.nulled.dialect sessionDefault = q.dialect sessionDefault := by
  rw [nulled, revise_eq]
  rfl

/-- Nothing needs a warning any more. -/
theorem warnings_nulled (d : Dialect) : (q.nulled.render d).warnings = [] := by
  rw [warnings_render_eq, layout_nulled, List.filterMap_eq_nil_iff]
  intro p member
  obtain ⟨given, _, rfl⟩ := List.mem_map.mp member
  cases given with
  | keyword text | fragment text => rfl
  | slot supply => exact Requirement.ofSupply?_eq_none (Value.met_orNull supply) d

/-- With nulls in place of what is missing, the requirements of literals are met, and the others
are what they were. -/
theorem met_revise_orNull_iff {r : Requirement} :
    (r.revise { operand := Operand.nulled } Value.orNull).Met ↔
      r.Met ∨ ∃ supply, r = .literal supply := by
  by_cases asked : ∃ supply, r = .literal supply
  · obtain ⟨supply, rfl⟩ := asked
    exact iff_of_true (Value.met_orNull supply) (.inr ⟨supply, rfl⟩)
  · have kept := Requirement.fault?_revise Revision.replaces_nulled (not_exists.mp asked)
    rw [or_iff_left asked, ← Requirement.fault?_eq_none_iff, kept,
      Requirement.fault?_eq_none_iff]

theorem fault?_nulled_eq_none_iff {q : Query} {d : Dialect} :
    q.nulled.fault? d = none ↔
      ∀ r ∈ q.requirements, r.Met ∨ ∃ supply, r = .literal supply := by
  rw [fault?_eq_none_iff, nulled, requirements_revise Revision.replaces_nulled,
    List.forall_mem_map]
  exact forall₂_congr fun r _ => met_revise_orNull_iff

theorem fault?_nulled_ne_noLiteral (d : Dialect) (error : LiteralError) :
    q.nulled.fault? d ≠ some (.noLiteral error) := by
  intro found
  obtain ⟨before, revised, after, shape, -, unmet, reported⟩ := fault?_eq_some_iff.mp found
  rw [nulled, requirements_revise Revision.replaces_nulled] at shape
  have member : revised ∈ q.requirements.map
      (Requirement.revise { operand := Operand.nulled } Value.orNull) := by
    rw [shape]
    exact List.mem_append_right _ List.mem_cons_self
  obtain ⟨r, _, rfl⟩ := List.mem_map.mp member
  rw [met_revise_orNull_iff, not_or] at unmet
  have other := not_exists.mp unmet.2
  rw [Requirement.fault?_revise Revision.replaces_nulled other] at reported
  exact Requirement.fault?_ne_noLiteral other error reported

/-- A query answers alike whether a value is given or supplied when it is asked for. With a null in
place of each value that is missing, the text stays as it is and the warnings of these values
are all that goes from the events; a check never complains about a literal, and it accepts
exactly if everything else that is asked for is met. -/
theorem late_values_transparent (q : Query) :
    q.settled.SameAnswers q ∧
    (∀ d, (q.nulled.sqlIn d).value = (q.sqlIn d).value ∧
      (q.nulled.sqlIn d).events = [.rendered d (q.sqlIn d).value] ∧
      (q.sqlIn d).events =
        (q.supplies.filterMap (Warning.ofSupply? d)).map .warned ++ (q.nulled.sqlIn d).events) ∧
    ∀ sessionDefault,
      q.nulled.sql sessionDefault = q.nulled.sqlIn (q.dialect sessionDefault) ∧
      (∀ error, (q.nulled.check sessionDefault).value ≠ .error (.noLiteral error)) ∧
      ((q.nulled.check sessionDefault).value = .ok () ↔
        ∀ r ∈ q.requirements, r.Met ∨ ∃ supply, r = .literal supply) := by
  refine ⟨q.sameAnswers_settled, ?texts, ?answers⟩
  case texts =>
    intro d
    have events : (q.nulled.sqlIn d).events = [.rendered d (q.sqlIn d).value] := by
      rw [← text_nulled, sqlIn, warnings_nulled]
      rfl
    refine ⟨text_nulled q d, events, ?_⟩
    rw [events, ← warnings_render_eq_supplies]
    rfl
  case answers =>
    intro sessionDefault
    refine ⟨by rw [sql, dialect_nulled], ?_, ?_⟩
    · intro error rejected
      exact fault?_nulled_ne_noLiteral q _ error (check_eq_error_iff.mp rejected)
    · exact check_eq_ok_iff.trans fault?_nulled_eq_none_iff

end Query

end SqlSelect
