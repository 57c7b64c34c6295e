import Mathlib.Data.List.Basic
import SqlSelect.Proofs.QueryLayout

/-!
# What a caller puts into a statement

The parts of a query are the pieces of its statement that a caller gave, from left to right:
texts that are written as they stand, and values. They are collected from the query itself;
the layout of the query holds exactly these, in this order, between its keywords.

Two operands are given without being written. A null check does not write its operand, and a
comparison with an empty set of candidates does not write its field.
-/

namespace SqlSelect

namespace Layout

/-- The pieces that are not keywords. -/
def parts (l : Layout) : List Piece := l.filter (!·.isKeyword)

@[simp] theorem parts_nil : parts [] = [] := rfl

@[simp] theorem parts_keyword (text : String) (l : Layout) :
    parts (.keyword text :: l) = parts l := rfl

@[simp] theorem parts_fragment (text : String) (l : Layout) :
    parts (.fragment text :: l) = .fragment text :: parts l := rfl

@[simp] theorem parts_slot (supply : Except String Value) (l : Layout) :
    parts (.slot supply :: l) = .slot supply :: parts l := rfl

@[simp] theorem parts_append (l m : Layout) : parts (l ++ m) = parts l ++ parts m :=
  List.filter_append l m

@[simp] theorem parts_separated (separator : String) (ls : List Layout) :
    parts (separated separator ls) = ls.flatMap parts := by
  induction ls with
  | nil => rfl
  | cons l rest ih =>
      cases rest with
      | nil => simp [separated]
      | cons m rest => simp only [separated, parts_append, parts_keyword, ih, List.flatMap_cons]

@[simp] theorem parts_chained (ls : List (Connective × Layout)) :
    parts (chained ls) = ls.flatMap fun p => parts p.2 := by
  induction ls with
  | nil => rfl
  | cons l rest ih =>
      cases rest with
      | nil => simp [chained]
      | cons m rest => simp only [chained, parts_append, parts_keyword, ih, List.flatMap_cons]

@[simp] theorem parts_parenthesized (l : Layout) : parts l.parenthesized = parts l := by
  simp [parenthesized]

@[simp] theorem parts_named (name : Option String) (l : Layout) :
    parts (l.named name) = parts l ++ name.toList.map .fragment := by
  cases name <;> simp [named]

/-- What is not collected from keywords is collected from the parts alone. -/
theorem filterMap_parts {α : Type} {f : Piece → Option α}
    (skips : ∀ text, f (.keyword text) = none) (l : Layout) :
    l.parts.filterMap f = l.filterMap f := by
  induction l with
  | nil => rfl
  | cons p l ih =>
      cases p with
      | keyword text => rw [parts_keyword, ih, List.filterMap_cons_none (skips text)]
      | fragment text => rw [parts_fragment, List.filterMap_cons, ih, List.filterMap_cons]
      | slot supply => rw [parts_slot, List.filterMap_cons, ih, List.filterMap_cons]

end Layout

/-- A list without items. -/
def Operand.isEmptyList : Operand → Bool
  | .list [] => true
  | _ => false

mutual

/-- What a caller gave for an expression. -/
def Expr.parts : Expr → List Piece
  | .raw text => [.fragment text]
  | .subquery q => Query.bodyParts q ++ q.name.toList.map .fragment

/-- What a caller gave for an operand. -/
def Operand.parts : Operand → List Piece
  | .value v => [.slot (.ok v)]
  | .deferred supply => [.slot supply]
  | .raw text => [.fragment text]
  | .list items => items.flatMap Operand.parts
  | .subquery q => Query.bodyParts q ++ q.name.toList.map .fragment

/-- What a caller gave for a condition, as far as it is written. -/
def Condition.parts : Condition → List Piece
  | .test _ field comparison operand =>
    if (comparison = .isIn ∨ comparison = .isNotIn) ∧ operand.isEmptyList then []
    else if comparison = .isNull ∨ comparison = .isNotNull then field.parts
    else field.parts ++ operand.parts
  | .group _ children => children.flatMap Condition.parts

/-- What a caller gave for a join. -/
def Join.parts : Join → List Piece
  | .product table => table.parts
  | .matching _ table on => table.parts ++ on.parts

/-- What a caller gave for the source. A name given here replaces the name that a query
brings. -/
def Query.sourceParts : Option (Source Expr) → List Piece
  | none => []
  | some ⟨.raw text, name⟩ => .fragment text :: name.toList.map .fragment
  | some ⟨.subquery q, name⟩ => Query.bodyParts q ++ (name.or q.name).toList.map .fragment

/-- What a caller gave for a query, without its name. -/
def Query.bodyParts : Query → List Piece
  | { columns, source, joins, filters, groupKeys, havings, orderKeys, .. } =>
    columns.flatMap Expr.parts ++ Query.sourceParts source ++ joins.flatMap Join.parts ++
      filters.flatMap Condition.parts ++ groupKeys.map .fragment ++
      havings.flatMap Condition.parts ++ orderKeys.map fun key => .fragment key.1

end

theorem Query.bodyParts_eq (q : Query) :
    q.bodyParts = q.columns.flatMap Expr.parts ++ sourceParts q.source ++
      q.joins.flatMap Join.parts ++ q.filters.flatMap Condition.parts ++
      q.groupKeys.map .fragment ++ q.havings.flatMap Condition.parts ++
      q.orderKeys.map fun key => .fragment key.1 := by
  cases q
  rw [Query.bodyParts]

namespace Query

/-- What a caller gave for a query. -/
def parts (q : Query) : List Piece :=
  q.bodyParts ++ q.name.toList.map .fragment

/-- The values that are written, from left to right. -/
def supplies (q : Query) : List (Except String Value) :=
  q.parts.filterMap Piece.supply?

/-- The texts of the caller that are written as they stand, from left to right. -/
def fragments (q : Query) : List String :=
  q.parts.filterMap Piece.fragment?

end Query

theorem Operand.isEmpty_form (a : Operand) : a.form.isEmpty = a.isEmptyList := by
  cases a with
  | list items =>
      rw [Operand.form]
      cases items <;> rfl
  | _ => rw [Operand.form]; rfl

theorem Comparison.parts_layout (c : Comparison) (field : Layout) (r : RightSide Layout) :
    (c.layout field r).parts =
      if (c = .isIn ∨ c = .isNotIn) ∧ r.isEmpty then []
      else if c = .isNull ∨ c = .isNotNull then field.parts
      else field.parts ++ r.layout.parts := by
  have right : (c.operandLayout r).parts = r.layout.parts := by
    cases r with
    | scalar l => simp only [operandLayout, RightSide.layout]; split <;> simp
    | items ls => simp only [operandLayout, RightSide.layout]; split <;> simp
    | nested l => rfl
  simp only [Comparison.layout, Bool.and_eq_true, ← isMembership_iff, ← isNullCheck_iff]
  split
  · rfl
  · split <;> simp [right]

namespace Query

theorem parts_selectLayout (distinct : Bool) (columns : List Layout) :
    (selectLayout distinct columns).parts = columns.flatMap Layout.parts := by
  cases columns with
  | nil => rfl
  | cons l ls => simp [selectLayout, columnLayout]

theorem parts_conditionLayout (keyword : String) (conditions : List (Connective × Layout)) :
    (conditionLayout keyword conditions).flatMap Layout.parts =
      conditions.flatMap fun p => p.2.parts := by
  cases conditions with
  | nil => rfl
  | cons c rest => simp [conditionLayout]

theorem parts_listLayout (keyword : String) (ls : List Layout) :
    (listLayout keyword ls).flatMap Layout.parts = ls.flatMap Layout.parts := by
  cases ls with
  | nil => rfl
  | cons l ls => simp [listLayout]

theorem parts_pageLayout (clause : Page → String) (p : Page) :
    (pageLayout clause p).flatMap Layout.parts = [] := by
  unfold pageLayout
  split <;> rfl

end Query

theorem Condition.parts_of_isEmpty {c : Condition} (same : c.layout.parts = c.parts)
    (empty : c.isEmpty = true) : c.parts = [] := by
  cases c with
  | test => simp at empty
  | group c children =>
      rw [← same, Condition.layout_group, ← Condition.isEmpty_group c, empty]
      rfl

/-- Leaving out empty conditions leaves out no parts. -/
theorem Condition.parts_siblingLayouts {cs : List Condition}
    (same : ∀ c ∈ cs, c.layout.parts = c.parts) :
    ((siblingLayouts cs).flatMap fun p => p.2.parts) = cs.flatMap parts := by
  rw [siblingLayouts]
  induction cs with
  | nil => rfl
  | cons c cs ih =>
      have ofCondition := same c List.mem_cons_self
      have ofRest := ih fun x member => same x (List.mem_cons_of_mem c member)
      cases empty : c.isEmpty with
      | true => simp [empty, ofRest, parts_of_isEmpty ofCondition empty]
      | false => simp [empty, ofRest, ofCondition]

/-- Between the keywords of a layout stands what the caller gave, piece by piece. -/
theorem Query.parts_layout_induction :
    Query.Induction (fun e => e.layout.parts = e.parts)
      (fun a => a.form.layout.parts = a.parts) (fun c => c.layout.parts = c.parts)
      (fun j => j.layout.parts = j.parts) (fun q => q.bodyLayout.parts = q.bodyParts) where
  raw_expr text := by
    rw [Expr.layout, Expr.parts]
    rfl
  subquery_expr q ih := by
    rw [Expr.layout, Expr.parts, Layout.parts_named, Layout.parts_parenthesized, ih]
  value v := by
    rw [Operand.form, Operand.parts]
    rfl
  deferred supply := by
    rw [Operand.form, Operand.parts]
    rfl
  raw_operand text := by
    rw [Operand.form, Operand.parts]
    rfl
  list items ih := by
    rw [Operand.form, Operand.parts, RightSide.layout,
      Layout.parts_parenthesized, Layout.parts_separated, List.flatMap_map]
    exact List.flatMap_congr ih
  subquery_operand q ih := by
    rw [Operand.form, Operand.parts, RightSide.layout, Layout.parts_named,
      Layout.parts_parenthesized, ih]
  test c field comparison operand fieldIh operandIh := by
    rw [Condition.layout, Condition.parts, Comparison.parts_layout, Operand.isEmpty_form,
      fieldIh, operandIh]
  group c children ih := by
    rw [Condition.parts, ← Condition.parts_siblingLayouts ih, Condition.layout_group]
    cases empty : Condition.areEmpty children with
    | true =>
        rw [Condition.siblingLayouts_eq_nil_iff.mpr empty]
        rfl
    | false => simp
  product table ih := by
    simp [Join.layout, Join.parts, ih]
  matching kind table on tableIh onIh := by
    rw [Join.layout, Join.parts]
    cases empty : on.isEmpty with
    | true => simp [tableIh, Condition.parts_of_isEmpty onIh empty]
    | false => simp [tableIh, onIh]
  clauses q columns source joins filters havings := by
    have columnParts : (selectLayout q.distinct (q.columns.map Expr.layout)).parts =
        q.columns.flatMap Expr.parts := by
      rw [parts_selectLayout, List.flatMap_map]
      exact List.flatMap_congr columns
    have sourceParts : (sourceLayout q.source).flatMap Layout.parts = sourceParts q.source := by
      cases given : q.source using source_cases with
      | absent => rw [sourceLayout, Query.sourceParts, List.flatMap_nil]
      | raw text name => simp [sourceLayout, Query.sourceParts]
      | subquery r name => simp [sourceLayout, Query.sourceParts, source r name given]
    have joinParts : (q.joins.map Join.layout).flatMap Layout.parts =
        q.joins.flatMap Join.parts := by
      rw [List.flatMap_map]
      exact List.flatMap_congr joins
    have groupParts : (q.groupKeys.map fun key => [Piece.fragment key]).flatMap Layout.parts =
        q.groupKeys.map .fragment := by
      rw [List.flatMap_map, List.map_eq_flatMap]
      rfl
    have orderParts : (q.orderKeys.map orderKeyLayout).flatMap Layout.parts =
        q.orderKeys.map fun key => .fragment key.1 := by
      rw [List.flatMap_map, List.map_eq_flatMap]
      rfl
    have filterParts := Condition.parts_siblingLayouts filters
    have havingParts := Condition.parts_siblingLayouts havings
    rw [bodyLayout_eq, bodyParts_eq, Layout.parts_separated]
    simp only [List.flatMap_append, List.flatMap_cons, parts_conditionLayout, parts_listLayout,
      parts_pageLayout, columnParts, sourceParts, joinParts, groupParts, filterParts,
      havingParts, orderParts, List.append_nil, List.append_assoc, List.cons_append]

/-- Between the keywords of the layout of a query stands what the caller gave. -/
theorem Query.parts_layout (q : Query) : q.layout.parts = q.parts := by
  have body := parts_layout_induction.query q
  unfold Query.layout Query.parts
  cases q.name with
  | none => simp [body]
  | some name => simp [body]

namespace Query

theorem supplies_layout (q : Query) : q.layout.filterMap Piece.supply? = q.supplies := by
  rw [← Layout.filterMap_parts fun _ => rfl, parts_layout, supplies]

theorem fragments_layout (q : Query) : q.layout.filterMap Piece.fragment? = q.fragments := by
  rw [← Layout.filterMap_parts fun _ => rfl, parts_layout, fragments]

theorem mem_fragments {q : Query} {text : String} (member : .fragment text ∈ q.layout) :
    text ∈ q.fragments := by
  rw [← fragments_layout]
  exact List.mem_filterMap.mpr ⟨_, member, rfl⟩

end Query

end SqlSelect
