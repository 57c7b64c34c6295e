import SqlSelect.Proofs.Layout
import SqlSelect.Query.Answer

/-!
# Queries are laid out without a dialect

The layout of a query follows the clauses and looks neither at a dialect in which the query
is to be written nor at the dialects chosen for it and for the queries inside it. Filling the
layout in a dialect is rendering the query in that dialect.
-/

namespace SqlSelect

mutual

/-- The layout of an expression. -/
def Expr.layout : Expr → Layout
  | .raw text => [.fragment text]
  | .subquery q => (Query.bodyLayout q).parenthesized.named q.name

/-- The layout of an operand, in its form. -/
def Operand.form : Operand → RightSide Layout
  | .value v => .scalar [.slot (.ok v)]
  | .deferred supply => .scalar [.slot supply]
  | .raw text => .scalar [.fragment text]
  | .list items => .items (items.map fun a => a.form.layout)
  | .subquery q => .nested ((Query.bodyLayout q).parenthesized.named q.name)

/-- The layout of a condition, without its connective. -/
def Condition.layout : Condition → Layout
  | .test _ field comparison operand => comparison.layout field.layout operand.form
  | .group _ children =>
    if Condition.areEmpty children then []
    else
      (Layout.chained <| (children.filter (!·.isEmpty)).map fun c =>
        (c.connective, c.layout)).parenthesized

/-- The layout of a join; a condition that asks for nothing is left out. -/
def Join.layout : Join → Layout
  | .product table => .keyword JoinKind.cross.sql :: .keyword " " :: table.layout
  | .matching kind table on =>
    .keyword kind.sql :: .keyword " " ::
      if on.isEmpty then table.layout else table.layout ++ .keyword " ON " :: on.layout

/-- The layout of the source of the rows. -/
def Query.sourceLayout : Option (Source Expr) → List Layout
  | none => []
  | some ⟨.raw text, name⟩ => [.keyword "FROM " :: Layout.named name [.fragment text]]
  | some ⟨.subquery q, name⟩ =>
    [.keyword "FROM " :: (Query.bodyLayout q).parenthesized.named (name.or q.name)]

/-- The layout of a query, without its name. -/
def Query.bodyLayout : Query → Layout
  | { columns, distinct, source, joins, filters, groupKeys, havings, orderKeys, limit, fetch,
      .. } =>
    Layout.separated " " <|
      Query.selectLayout distinct (columns.map Expr.layout) ::
      Query.sourceLayout source ++
      joins.map Join.layout ++
      Query.conditionLayout "WHERE"
        ((filters.filter (!·.isEmpty)).map fun c => (c.connective, c.layout)) ++
      Query.listLayout "GROUP BY" (groupKeys.map fun key => [.fragment key]) ++
      Query.conditionLayout "HAVING"
        ((havings.filter (!·.isEmpty)).map fun c => (c.connective, c.layout)) ++
      Query.listLayout "ORDER BY" (orderKeys.map Query.orderKeyLayout) ++
      Query.pageLayout Page.limitClause limit ++
      Query.pageLayout Page.fetchClause fetch

end

/-- The layouts of conditions side by side. Empty ones are left out. -/
def Condition.siblingLayouts (cs : List Condition) : List (Connective × Layout) :=
  (cs.filter (!·.isEmpty)).map fun c => (c.connective, c.layout)

@[simp] theorem Condition.siblingLayouts_nil : siblingLayouts [] = [] := rfl

theorem Condition.siblingLayouts_cons (c : Condition) (cs : List Condition) :
    siblingLayouts (c :: cs) =
      if c.isEmpty then siblingLayouts cs
      else (c.connective, c.layout) :: siblingLayouts cs := by
  cases empty : c.isEmpty <;> simp [siblingLayouts, empty]

theorem Condition.layout_group (c : Connective) (children : List Condition) :
    (group c children).layout =
      if areEmpty children then []
      else (Layout.chained (siblingLayouts children)).parenthesized := by
  rw [layout, siblingLayouts]

theorem Condition.siblingLayouts_eq_nil_iff {cs : List Condition} :
    Condition.siblingLayouts cs = [] ↔ Condition.areEmpty cs = true := by
  rw [siblingLayouts, List.map_eq_nil_iff, List.filter_eq_nil_iff, areEmpty_eq_all,
    List.all_eq_true]
  simp

namespace Condition

variable {f : Condition → Condition} {cs : List Condition}

theorem areEmpty_map (empty : ∀ c ∈ cs, (f c).isEmpty = c.isEmpty) :
    areEmpty (cs.map f) = areEmpty cs := by
  rw [areEmpty_eq_all, areEmpty_eq_all, List.all_map, Bool.eq_iff_iff, List.all_eq_true,
    List.all_eq_true]
  exact forall₂_congr fun c member => by rw [Function.comp_apply, empty c member]

/-- Conditions that are changed one by one have their layouts changed one by one. -/
theorem siblingLayouts_map {g : Layout → Layout} (empty : ∀ c, (f c).isEmpty = c.isEmpty)
    (connective : ∀ c, (f c).connective = c.connective)
    (layout : ∀ c ∈ cs, (f c).layout = g c.layout) :
    siblingLayouts (cs.map f) = (siblingLayouts cs).map fun p => (p.1, g p.2) := by
  have kept : cs.filter ((fun c => !c.isEmpty) ∘ f) = cs.filter (!·.isEmpty) := by
    simp [Function.comp_def, empty]
  rw [siblingLayouts, siblingLayouts, List.filter_map, kept, List.map_map, List.map_map]
  apply List.map_congr_left
  intro c member
  have ofCondition := layout c (List.mem_filter.mp member).1
  simp [connective, ofCondition]

end Condition

/-- The clauses of a query that can appear, in order. -/
theorem Query.bodyLayout_eq (q : Query) :
    q.bodyLayout = Layout.separated " "
      (selectLayout q.distinct (q.columns.map Expr.layout) ::
        sourceLayout q.source ++
        q.joins.map Join.layout ++
        conditionLayout "WHERE" (Condition.siblingLayouts q.filters) ++
        listLayout "GROUP BY" (q.groupKeys.map fun key => [.fragment key]) ++
        conditionLayout "HAVING" (Condition.siblingLayouts q.havings) ++
        listLayout "ORDER BY" (q.orderKeys.map orderKeyLayout) ++
        pageLayout Page.limitClause q.limit ++
        pageLayout Page.fetchClause q.fetch) := by
  cases q
  rw [Query.bodyLayout]
  rfl

/-- The layout of a query by itself: one that has a name stands in parentheses. -/
def Query.layout (q : Query) : Layout :=
  match q.name with
  | none => q.bodyLayout
  | some name => q.bodyLayout.parenthesized.named (some name)

theorem Condition.fill_siblingLayouts (d : Dialect) {cs : List Condition}
    (same : ∀ c ∈ cs, c.layout.fill d = c.render d) :
    (siblingLayouts cs).map (fun p => (p.1, p.2.fill d)) = renderSiblings d cs := by
  rw [siblingLayouts, renderSiblings_eq_map, List.map_map]
  apply List.map_congr_left
  intro c member
  have ofCondition := same c (List.mem_filter.mp member).1
  simp only [Function.comp_apply, ofCondition]

/-- Filling commutes with every way to put a query together. -/
theorem Query.fill_layout_induction (d : Dialect) :
    Query.Induction (fun e => e.layout.fill d = e.render d)
      (fun a => a.form.map (Layout.fill d) = a.rightSide d)
      (fun c => c.layout.fill d = c.render d) (fun j => j.layout.fill d = j.render d)
      (fun q => q.bodyLayout.fill d = q.body d) where
  raw_expr text := by
    simp [Expr.layout, Expr.render]
  subquery_expr q ih := by
    simp [Expr.layout, Expr.render, ih]
  value v := by
    simp [Operand.form, Operand.rightSide]
  deferred supply := by
    simp [Operand.form, Operand.rightSide]
  raw_operand text := by
    simp [Operand.form, Operand.rightSide]
  list items ih := by
    rw [Operand.form, Operand.rightSide, RightSide.map_items, Operand.renderItems_eq_map,
      List.map_map]
    congr 1
    apply List.map_congr_left
    intro a member
    rw [Function.comp_apply, RightSide.fill_layout, ih a member]
  subquery_operand q ih := by
    simp [Operand.form, Operand.rightSide, ih]
  test c field comparison operand fieldIh operandIh := by
    rw [Condition.layout, Comparison.fill_layout, fieldIh, operandIh, Condition.render]
  group c children ih := by
    rw [Condition.layout_group, Condition.render]
    cases Condition.areEmpty children with
    | true => rfl
    | false => simp [Condition.fill_siblingLayouts d ih]
  product table ih := by
    simp [Join.layout, Join.render, ih, Rendering.append_assoc]
  matching kind table on tableIh onIh := by
    rw [Join.layout, Join.render]
    cases on.isEmpty <;> simp [tableIh, onIh, Rendering.append_assoc]
  clauses q columns source joins filters havings := by
    have columnTexts : (q.columns.map Expr.layout).map (Layout.fill d) =
        Expr.renderAll d q.columns := by
      rw [Expr.renderAll_eq_map, List.map_map]
      exact List.map_congr_left columns
    have joinTexts : (q.joins.map Join.layout).map (Layout.fill d) = Join.renderAll d q.joins := by
      rw [Join.renderAll_eq_map, List.map_map]
      exact List.map_congr_left joins
    have sourceText : (sourceLayout q.source).map (Layout.fill d) = fromClause d q.source := by
      cases given : q.source using source_cases with
      | absent => rw [sourceLayout, fromClause, List.map_nil]
      | raw text name => simp [sourceLayout, fromClause]
      | subquery r name => simp [sourceLayout, fromClause, source r name given]
    have groupTexts := fill_listLayout d "GROUP BY" q.groupKeys
      (q.groupKeys.map fun key => [.fragment key]) (by simp)
    have orderTexts := fill_listLayout d "ORDER BY" (q.orderKeys.map orderKey)
      (q.orderKeys.map orderKeyLayout) (by simp [fill_orderKeyLayout])
    rw [bodyLayout_eq, body_eq, Layout.fill_separated]
    simp only [List.map_append, List.map_cons, fill_selectLayout, fill_conditionLayout,
      fill_pageLayout, columnTexts, sourceText, joinTexts, groupTexts, orderTexts,
      Condition.fill_siblingLayouts d filters, Condition.fill_siblingLayouts d havings]

/-- Filling the layout of a query in a dialect is rendering the query in that dialect. -/
theorem Query.fill_layout (d : Dialect) (q : Query) : q.layout.fill d = q.render d := by
  have body := (fill_layout_induction d).query q
  unfold Query.layout Query.render
  cases q.name with
  | none => exact body
  | some name => rw [Layout.fill_named, Layout.fill_parenthesized, body]

namespace Query

/-- No answer tells the queries apart: neither the texts nor the faults nor the events. -/
structure SameAnswers (q r : Query) : Prop where
  sqlIn : ∀ d, q.sqlIn d = r.sqlIn d
  sql : ∀ sessionDefault, q.sql sessionDefault = r.sql sessionDefault
  check : ∀ sessionDefault, q.check sessionDefault = r.check sessionDefault
  checkedSql : ∀ sessionDefault, q.checkedSql sessionDefault = r.checkedSql sessionDefault

/-- What a query answers depends on its layout, its faults and the dialect chosen for it. -/
theorem sameAnswers_of_layout {q r : Query} (layouts : q.layout = r.layout)
    (pinned : q.pinned = r.pinned) (faults : ∀ d, q.fault? d = r.fault? d) :
    q.SameAnswers r := by
  have texts : ∀ d, q.sqlIn d = r.sqlIn d := by
    intro d
    rw [sqlIn, sqlIn, ← fill_layout, ← fill_layout, layouts]
  have dialects : ∀ sessionDefault, q.dialect sessionDefault = r.dialect sessionDefault := by
    intro sessionDefault
    rw [dialect, dialect, pinned]
  have answers : ∀ sessionDefault, q.sql sessionDefault = r.sql sessionDefault := by
    intro sessionDefault
    rw [sql, sql, dialects, texts]
  have checks : ∀ sessionDefault, q.check sessionDefault = r.check sessionDefault := by
    intro sessionDefault
    simp only [check, dialects, faults]
  constructor
  · exact texts
  · exact answers
  · exact checks
  · intro sessionDefault
    simp only [checkedSql, checks, answers]

end Query

end SqlSelect
