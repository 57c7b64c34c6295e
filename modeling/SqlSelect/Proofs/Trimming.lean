import SqlSelect.Proofs.Parts

/-!
# Operands that are not written

A null check does not write its operand, and a comparison with an empty set of candidates does
not write its field. Trimming takes both out of a query, at every depth, so that two queries
are the same once trimmed exactly if they differ in such operands alone. A query is written
like the trimmed one, with the same warnings.
-/

namespace SqlSelect

mutual

def Expr.trimmed : Expr → Expr
  | .raw text => .raw text
  | .subquery q => .subquery (Query.trimmed q)

def Operand.trimmed : Operand → Operand
  | .value v => .value v
  | .deferred supply => .deferred supply
  | .raw text => .raw text
  | .list items => .list (items.map Operand.trimmed)
  | .subquery q => .subquery (Query.trimmed q)

/-- The condition without what its comparisons do not write. -/
def Condition.trimmed : Condition → Condition
  | .test c field comparison operand =>
    if (comparison = .isIn ∨ comparison = .isNotIn) ∧ operand.isEmptyList then
      .test c (.raw "") comparison operand
    else if comparison = .isNull ∨ comparison = .isNotNull then
      .test c field.trimmed comparison (.raw "")
    else .test c field.trimmed comparison operand.trimmed
  | .group c children => .group c (children.map Condition.trimmed)

def Join.trimmed : Join → Join
  | .product table => .product table.trimmed
  | .matching kind table on => .matching kind table.trimmed on.trimmed

def Query.trimmedSource : Option (Source Expr) → Option (Source Expr)
  | none => none
  | some ⟨table, name⟩ => some ⟨table.trimmed, name⟩

/-- The query without the operands that are not written, at every depth. -/
def Query.trimmed : Query → Query
  | { columns, distinct, source, joins, filters, groupKeys, havings, orderKeys, limit, fetch,
      name, pinned } =>
    { columns := columns.map Expr.trimmed
      distinct
      source := Query.trimmedSource source
      joins := joins.map Join.trimmed
      filters := filters.map Condition.trimmed
      groupKeys
      havings := havings.map Condition.trimmed
      orderKeys
      limit
      fetch
      name
      pinned }

end

theorem Query.trimmed_eq (q : Query) :
    q.trimmed =
      { q with
        columns := q.columns.map Expr.trimmed
        source := trimmedSource q.source
        joins := q.joins.map Join.trimmed
        filters := q.filters.map Condition.trimmed
        havings := q.havings.map Condition.trimmed } := by
  cases q
  rw [Query.trimmed]

@[simp] theorem Query.name_trimmed (q : Query) : q.trimmed.name = q.name := by
  rw [trimmed_eq]

@[simp] theorem Query.dialect_trimmed (sessionDefault : Dialect) (q : Query) :
    q.trimmed.dialect sessionDefault = q.dialect sessionDefault := by
  rw [trimmed_eq]
  rfl

@[simp] theorem Expr.label_trimmed (e : Expr) : e.trimmed.label = e.label := by
  cases e with
  | raw text => rw [trimmed]
  | subquery q => rw [trimmed]; rfl

@[simp] theorem Operand.count_trimmed (a : Operand) : a.trimmed.count = a.count := by
  cases a with
  | list items =>
      rw [trimmed]
      exact List.length_map _
  | value | deferred | raw => rw [trimmed]
  | subquery q => rw [trimmed]; rfl

namespace Condition

theorem trimmed_group (c : Connective) (children : List Condition) :
    (group c children).trimmed = group c (children.map trimmed) := by
  rw [trimmed]

@[simp] theorem connective_trimmed (c : Condition) : c.trimmed.connective = c.connective := by
  cases c with
  | test c field comparison operand =>
      rw [trimmed]
      split
      · rfl
      · split <;> rfl
  | group c children => rw [trimmed]; rfl

@[simp] theorem isEmpty_trimmed (c : Condition) : c.trimmed.isEmpty = c.isEmpty := by
  induction c using Condition.induction with
  | test c field comparison operand =>
      rw [trimmed, isEmpty_test]
      split
      · exact isEmpty_test ..
      · split <;> exact isEmpty_test ..
  | group c children ih =>
      rw [trimmed_group, isEmpty_group, isEmpty_group, areEmpty_map ih]

theorem siblingLayouts_trimmed {cs : List Condition}
    (same : ∀ c ∈ cs, c.trimmed.layout = c.layout) :
    siblingLayouts (cs.map trimmed) = siblingLayouts cs := by
  rw [siblingLayouts_map isEmpty_trimmed connective_trimmed same (g := id)]
  exact List.map_id _

end Condition

theorem Condition.layout_trimmed_test (c : Connective) {field : Expr} (comparison : Comparison)
    {operand : Operand} (left : field.trimmed.layout = field.layout)
    (right : operand.trimmed.form = operand.form) :
    (test c field comparison operand).trimmed.layout =
      (test c field comparison operand).layout := by
  rw [trimmed]
  split
  · next unwritten =>
      have noCandidates : (comparison.isMembership && operand.form.isEmpty) = true := by
        rwa [Operand.isEmpty_form, Bool.and_eq_true, Comparison.isMembership_iff]
      rw [layout, layout]
      simp only [Comparison.layout, noCandidates, if_true]
  · split
    · next nullCheck =>
        rw [layout, layout, left]
        rcases nullCheck with rfl | rfl <;> rfl
    · rw [layout, layout, left, right]

/-- What is trimmed off is not laid out. -/
theorem Query.layout_trimmed_induction :
    Query.Induction (fun e => e.trimmed.layout = e.layout) (fun a => a.trimmed.form = a.form)
      (fun c => c.trimmed.layout = c.layout) (fun j => j.trimmed.layout = j.layout)
      (fun q => q.trimmed.bodyLayout = q.bodyLayout) where
  raw_expr text := by
    rw [Expr.trimmed]
  subquery_expr q ih := by
    rw [Expr.trimmed, Expr.layout, Expr.layout, name_trimmed, ih]
  value v := by
    rw [Operand.trimmed]
  deferred supply := by
    rw [Operand.trimmed]
  raw_operand text := by
    rw [Operand.trimmed]
  list items ih := by
    rw [Operand.trimmed, Operand.form, Operand.form, List.map_map]
    congr 1
    apply List.map_congr_left
    intro a member
    rw [Function.comp_apply, ih a member]
  subquery_operand q ih := by
    rw [Operand.trimmed, Operand.form, Operand.form, name_trimmed, ih]
  test c field comparison operand fieldIh operandIh :=
    Condition.layout_trimmed_test c comparison fieldIh operandIh
  group c children ih := by
    rw [Condition.trimmed_group, Condition.layout_group, Condition.layout_group,
      Condition.areEmpty_map fun x _ => x.isEmpty_trimmed, Condition.siblingLayouts_trimmed ih]
  product table ih := by
    rw [Join.trimmed, Join.layout, Join.layout, ih]
  matching kind table on tableIh onIh := by
    rw [Join.trimmed, Join.layout, Join.layout, Condition.isEmpty_trimmed, tableIh, onIh]
  clauses q columns source joins filters havings := by
    have columnLayouts : (q.columns.map Expr.trimmed).map Expr.layout =
        q.columns.map Expr.layout := by
      rw [List.map_map]
      exact List.map_congr_left columns
    have joinLayouts : (q.joins.map Join.trimmed).map Join.layout = q.joins.map Join.layout := by
      rw [List.map_map]
      exact List.map_congr_left joins
    have sourceLayouts : sourceLayout (trimmedSource q.source) = sourceLayout q.source := by
      cases given : q.source using source_cases with
      | absent => rw [trimmedSource]
      | raw text name => rw [trimmedSource, Expr.trimmed]
      | subquery r name =>
          rw [trimmedSource, Expr.trimmed, sourceLayout, sourceLayout, name_trimmed,
            source r name given]
    rw [trimmed_eq, bodyLayout_eq, bodyLayout_eq]
    simp only [columnLayouts, joinLayouts, sourceLayouts,
      Condition.siblingLayouts_trimmed filters, Condition.siblingLayouts_trimmed havings]

/-- A query is written like the trimmed one, with the same warnings. -/
theorem Query.render_trimmed (d : Dialect) (q : Query) : q.trimmed.render d = q.render d := by
  have layouts : q.trimmed.layout = q.layout := by
    unfold Query.layout
    rw [name_trimmed, layout_trimmed_induction.query q]
  rw [← fill_layout, layouts, fill_layout]

end SqlSelect
