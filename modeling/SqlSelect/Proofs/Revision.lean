import SqlSelect.Proofs.QueryLayout

/-!
# Revising the values of a query

A revision replaces values and the dialects that were chosen, at every depth, and leaves the
shape of a query alone. The layout of a revised query is the layout of the query with its
values replaced; the dialects leave no trace in it.

## Implementation notes

A value that is given and a value that is supplied later are different operands, so a
revision is a function on operands, applied to these two forms only.
-/

namespace SqlSelect

/-- What becomes of the values in a query, and of the dialects that were chosen. -/
structure Revision where
  operand : Operand → Operand := id
  pinned : Option Dialect → Option Dialect := id

mutual

def Expr.revise (ρ : Revision) : Expr → Expr
  | .raw text => .raw text
  | .subquery q => .subquery (Query.revise ρ q)

def Operand.revise (ρ : Revision) : Operand → Operand
  | .value v => ρ.operand (.value v)
  | .deferred supply => ρ.operand (.deferred supply)
  | .raw text => .raw text
  | .list items => .list (items.map (Operand.revise ρ))
  | .subquery q => .subquery (Query.revise ρ q)

def Condition.revise (ρ : Revision) : Condition → Condition
  | .test c field comparison operand =>
    .test c (field.revise ρ) comparison (operand.revise ρ)
  | .group c children => .group c (children.map (Condition.revise ρ))

def Join.revise (ρ : Revision) : Join → Join
  | .product table => .product (table.revise ρ)
  | .matching kind table on => .matching kind (table.revise ρ) (on.revise ρ)

def Query.reviseSource (ρ : Revision) : Option (Source Expr) → Option (Source Expr)
  | none => none
  | some ⟨table, name⟩ => some ⟨table.revise ρ, name⟩

/-- The query with its values and chosen dialects replaced at every depth. -/
def Query.revise (ρ : Revision) : Query → Query
  | { columns, distinct, source, joins, filters, groupKeys, havings, orderKeys, limit, fetch,
      name, pinned } =>
    { columns := columns.map (Expr.revise ρ)
      distinct
      source := Query.reviseSource ρ source
      joins := joins.map (Join.revise ρ)
      filters := filters.map (Condition.revise ρ)
      groupKeys
      havings := havings.map (Condition.revise ρ)
      orderKeys
      limit
      fetch
      name
      pinned := ρ.pinned pinned }

end

theorem Query.revise_eq (ρ : Revision) (q : Query) :
    q.revise ρ =
      { q with
        columns := q.columns.map (Expr.revise ρ)
        source := reviseSource ρ q.source
        joins := q.joins.map (Join.revise ρ)
        filters := q.filters.map (Condition.revise ρ)
        havings := q.havings.map (Condition.revise ρ)
        pinned := ρ.pinned q.pinned } := by
  cases q
  rw [Query.revise]

@[simp] theorem Query.name_revise (ρ : Revision) (q : Query) : (q.revise ρ).name = q.name := by
  rw [revise_eq]

@[simp] theorem Condition.connective_revise (ρ : Revision) (c : Condition) :
    (c.revise ρ).connective = c.connective := by
  cases c <;> rw [revise] <;> rfl

/-- A revision neither adds nor removes a comparison. -/
@[simp] theorem Condition.isEmpty_revise (ρ : Revision) (c : Condition) :
    (c.revise ρ).isEmpty = c.isEmpty := by
  induction c using Condition.induction with
  | test c field comparison operand => rw [revise, isEmpty_test, isEmpty_test]
  | group c children ih =>
      rw [revise, isEmpty_group, isEmpty_group, areEmpty_map ih]

namespace Layout

/-- The layout with other values in the same places. -/
def replace (f : Except String Value → Except String Value) (l : Layout) : Layout :=
  l.map fun
    | .slot supply => .slot (f supply)
    | p => p

variable (f : Except String Value → Except String Value)

@[simp] theorem replace_nil : replace f [] = [] := rfl

@[simp] theorem replace_keyword (text : String) (l : Layout) :
    replace f (.keyword text :: l) = .keyword text :: replace f l := rfl

@[simp] theorem replace_fragment (text : String) (l : Layout) :
    replace f (.fragment text :: l) = .fragment text :: replace f l := rfl

@[simp] theorem replace_slot (supply : Except String Value) (l : Layout) :
    replace f (.slot supply :: l) = .slot (f supply) :: replace f l := rfl

@[simp] theorem replace_append (l m : Layout) :
    replace f (l ++ m) = replace f l ++ replace f m :=
  List.map_append

@[simp] theorem replace_separated (separator : String) (ls : List Layout) :
    replace f (separated separator ls) = separated separator (ls.map (replace f)) := by
  induction ls with
  | nil => rfl
  | cons l rest ih =>
      cases rest with
      | nil => rfl
      | cons m rest =>
          simp only [separated, replace_append, replace_keyword, ih, List.map_cons]

@[simp] theorem replace_chained (ls : List (Connective × Layout)) :
    replace f (chained ls) = chained (ls.map fun p => (p.1, replace f p.2)) := by
  induction ls with
  | nil => rfl
  | cons l rest ih =>
      cases rest with
      | nil => rfl
      | cons m rest =>
          simp only [chained, replace_append, replace_keyword, ih, List.map_cons]

@[simp] theorem replace_parenthesized (l : Layout) :
    replace f l.parenthesized = (replace f l).parenthesized := by
  simp [parenthesized]

@[simp] theorem replace_named (name : Option String) (l : Layout) :
    replace f (l.named name) = (replace f l).named name := by
  cases name <;> simp [named]

theorem replace_id (l : Layout) : replace id l = l := by
  induction l with
  | nil => rfl
  | cons p l ih => cases p <;> simp [ih]

end Layout

@[simp] theorem RightSide.isEmpty_map {Text Other : Type} (f : Text → Other)
    (r : RightSide Text) : (r.map f).isEmpty = r.isEmpty := by
  cases r with
  | items texts => cases texts <;> rfl
  | _ => rfl

section Replace

variable (f : Except String Value → Except String Value)

@[simp] theorem RightSide.replace_layout (r : RightSide Layout) :
    r.layout.replace f = (r.map (Layout.replace f)).layout := by
  cases r <;> simp [layout]

@[simp] theorem Comparison.replace_layout (c : Comparison) (field : Layout)
    (r : RightSide Layout) :
    (c.layout field r).replace f = c.layout (field.replace f) (r.map (Layout.replace f)) := by
  have right : (c.operandLayout r).replace f = c.operandLayout (r.map (Layout.replace f)) := by
    cases r with
    | scalar l => simp only [operandLayout, RightSide.map_scalar]; split <;> simp
    | items ls => simp only [operandLayout, RightSide.map_items]; split <;> simp
    | nested l => rfl
  unfold Comparison.layout
  rw [RightSide.isEmpty_map]
  cases c.isMembership && r.isEmpty with
  | true => rfl
  | false => cases c.isNullCheck <;> simp [right]

namespace Query

theorem replace_selectLayout (distinct : Bool) (columns : List Layout) :
    (selectLayout distinct columns).replace f =
      selectLayout distinct (columns.map (Layout.replace f)) := by
  cases columns with
  | nil => rfl
  | cons l ls => simp [selectLayout, columnLayout]

theorem replace_conditionLayout (keyword : String) (conditions : List (Connective × Layout)) :
    (conditionLayout keyword conditions).map (Layout.replace f) =
      conditionLayout keyword (conditions.map fun p => (p.1, p.2.replace f)) := by
  cases conditions with
  | nil => rfl
  | cons c rest => simp [conditionLayout]

theorem replace_listLayout (keyword : String) (ls : List Layout) :
    (listLayout keyword ls).map (Layout.replace f) =
      listLayout keyword (ls.map (Layout.replace f)) := by
  cases ls with
  | nil => rfl
  | cons l ls => simp [listLayout]

theorem replace_pageLayout (clause : Page → String) (p : Page) :
    (pageLayout clause p).map (Layout.replace f) = pageLayout clause p := by
  unfold pageLayout
  split <;> rfl

end Query

end Replace

/-- The revision puts values in the place of values, as the function says. -/
structure Revision.Replaces (ρ : Revision) (f : Except String Value → Except String Value) :
    Prop where
  value : ∀ v, (ρ.operand (.value v)).form = .scalar [.slot (f (.ok v))]
  deferred : ∀ supply, (ρ.operand (.deferred supply)).form = .scalar [.slot (f supply)]

theorem Condition.siblingLayouts_revise {ρ : Revision}
    {f : Except String Value → Except String Value} {cs : List Condition}
    (same : ∀ c ∈ cs, (c.revise ρ).layout = c.layout.replace f) :
    siblingLayouts (cs.map (revise ρ)) =
      (siblingLayouts cs).map fun p => (p.1, p.2.replace f) :=
  siblingLayouts_map (isEmpty_revise ρ) (connective_revise ρ) same

theorem Query.sourceLayout_revise {ρ : Revision}
    {f : Except String Value → Except String Value} {source : Option (Source Expr)}
    (inner : ∀ (r : Query) name, source = some ⟨.subquery r, name⟩ →
      (r.revise ρ).bodyLayout = r.bodyLayout.replace f) :
    sourceLayout (reviseSource ρ source) = (sourceLayout source).map (Layout.replace f) := by
  cases source using source_cases with
  | absent => rw [reviseSource, sourceLayout, List.map_nil]
  | raw text name =>
      rw [reviseSource, Expr.revise, sourceLayout]
      simp
  | subquery r name =>
      rw [reviseSource, Expr.revise, sourceLayout, sourceLayout, name_revise, inner r name rfl]
      simp

/-- A revision of the values of a query shows in its layout as a replacement of the values
there, and a revision of the dialects does not show. -/
theorem Query.layout_revise_induction {ρ : Revision}
    {f : Except String Value → Except String Value} (replaces : ρ.Replaces f) :
    Query.Induction (fun e => (e.revise ρ).layout = e.layout.replace f)
      (fun a => (a.revise ρ).form = a.form.map (Layout.replace f))
      (fun c => (c.revise ρ).layout = c.layout.replace f)
      (fun j => (j.revise ρ).layout = j.layout.replace f)
      (fun q => (q.revise ρ).bodyLayout = q.bodyLayout.replace f) where
  raw_expr text := by
    rw [Expr.revise, Expr.layout]
    rfl
  subquery_expr q ih := by
    rw [Expr.revise, Expr.layout, Expr.layout, name_revise, ih, Layout.replace_named,
      Layout.replace_parenthesized]
  value v := by
    rw [Operand.revise, replaces.value, Operand.form]
    rfl
  deferred supply := by
    rw [Operand.revise, replaces.deferred, Operand.form]
    rfl
  raw_operand text := by
    rw [Operand.revise, Operand.form]
    rfl
  list items ih := by
    rw [Operand.revise, Operand.form, Operand.form, RightSide.map_items, List.map_map, List.map_map]
    congr 1
    apply List.map_congr_left
    intro a member
    simp [ih a member]
  subquery_operand q ih := by
    rw [Operand.revise, Operand.form, Operand.form, name_revise, ih, RightSide.map_nested,
      Layout.replace_named, Layout.replace_parenthesized]
  test c field comparison operand fieldIh operandIh := by
    rw [Condition.revise, Condition.layout, Condition.layout, fieldIh, operandIh,
      Comparison.replace_layout]
  group c children ih := by
    rw [Condition.revise, Condition.layout_group, Condition.layout_group,
      Condition.areEmpty_map fun c _ => c.isEmpty_revise ρ, Condition.siblingLayouts_revise ih]
    cases Condition.areEmpty children with
    | true => rfl
    | false => simp
  product table ih := by
    simp [Join.revise, Join.layout, ih]
  matching kind table on tableIh onIh := by
    rw [Join.revise, Join.layout, Join.layout, Condition.isEmpty_revise]
    cases on.isEmpty <;> simp [tableIh, onIh]
  clauses q columns source joins filters havings := by
    have columnLayouts : (q.columns.map (Expr.revise ρ)).map Expr.layout =
        (q.columns.map Expr.layout).map (Layout.replace f) := by
      rw [List.map_map, List.map_map]
      exact List.map_congr_left columns
    have joinLayouts : (q.joins.map (Join.revise ρ)).map Join.layout =
        (q.joins.map Join.layout).map (Layout.replace f) := by
      rw [List.map_map, List.map_map]
      exact List.map_congr_left joins
    have groupLayouts : (q.groupKeys.map fun key => [Piece.fragment key]).map
        (Layout.replace f) = q.groupKeys.map fun key => [Piece.fragment key] := by
      rw [List.map_map]
      rfl
    have orderLayouts : (q.orderKeys.map orderKeyLayout).map (Layout.replace f) =
        q.orderKeys.map orderKeyLayout := by
      rw [List.map_map]
      rfl
    rw [revise_eq, bodyLayout_eq, bodyLayout_eq, Layout.replace_separated]
    simp only [List.map_append, List.map_cons, replace_selectLayout, replace_conditionLayout,
      replace_listLayout, replace_pageLayout, columnLayouts, sourceLayout_revise source,
      joinLayouts, groupLayouts, orderLayouts, Condition.siblingLayouts_revise filters,
      Condition.siblingLayouts_revise havings]

theorem Query.layout_revise {ρ : Revision} {f : Except String Value → Except String Value}
    (replaces : ρ.Replaces f) (q : Query) : (q.revise ρ).layout = q.layout.replace f := by
  have body := (layout_revise_induction replaces).query q
  unfold Query.layout
  rw [name_revise]
  cases q.name with
  | none => exact body
  | some name => rw [body, Layout.replace_named, Layout.replace_parenthesized]

end SqlSelect
