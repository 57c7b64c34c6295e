import SqlSelect.Proofs.FirstFault
import SqlSelect.Proofs.QueryLayout

/-!
# The normal form of a query

Conditions without a comparison ask for nothing, and the connective of a first condition
connects it to nothing. The normal form leaves out the former at every depth and sets the
latter to AND. It has the layout of the query and the same first fault, so that neither the
text nor the answer to a check tells the two apart.

## Implementation notes

The condition of a join has no place from which it could be left out. If it asks for nothing,
its normal form is the group without children.
-/

namespace SqlSelect

namespace Condition

/-- The conditions with another connective before the first one. -/
def withLeading (k : Connective) : List Condition → List Condition
  | [] => []
  | c :: cs => c.withConnective k :: cs

@[simp] theorem withLeading_nil (k : Connective) : withLeading k [] = [] := rfl

@[simp] theorem withLeading_cons (k : Connective) (c : Condition) (cs : List Condition) :
    withLeading k (c :: cs) = c.withConnective k :: cs := rfl

@[simp] theorem withConnective_connective (c : Condition) :
    c.withConnective c.connective = c := by
  cases c <;> rfl

theorem withLeading_connective (c : Condition) (cs : List Condition) :
    withLeading c.connective (c :: cs) = c :: cs := by
  rw [withLeading_cons, withConnective_connective]

@[simp] theorem areEmpty_withLeading (k : Connective) (cs : List Condition) :
    areEmpty (withLeading k cs) = areEmpty cs := by
  cases cs <;> simp

@[simp] theorem layout_withConnective (k : Connective) (c : Condition) :
    (c.withConnective k).layout = c.layout := by
  cases c <;> simp only [withConnective, layout]

@[simp] theorem fault?_withConnective (d : Dialect) (k : Connective) (c : Condition) :
    (c.withConnective k).fault? d = c.fault? d := by
  cases c <;> simp only [withConnective, fault?]

theorem findSome?_withLeading {α : Type} {f : Condition → Option α} {k : Connective}
    (same : ∀ c : Condition, f (c.withConnective k) = f c) (cs : List Condition) :
    (withLeading k cs).findSome? f = cs.findSome? f := by
  cases cs with
  | nil => rfl
  | cons c cs => rw [withLeading_cons, List.findSome?_cons, List.findSome?_cons, same]

end Condition

mutual

def Expr.normal : Expr → Expr
  | .raw text => .raw text
  | .subquery q => .subquery (Query.normal q)

def Operand.normal : Operand → Operand
  | .value v => .value v
  | .deferred supply => .deferred supply
  | .raw text => .raw text
  | .list items => .list (items.map Operand.normal)
  | .subquery q => .subquery (Query.normal q)

def Condition.normal : Condition → Condition
  | .test c field comparison operand => .test c field.normal comparison operand.normal
  | .group c children =>
    .group c (Condition.withLeading .and ((children.filter (!·.isEmpty)).map Condition.normal))

def Join.normal : Join → Join
  | .product table => .product table.normal
  | .matching kind table on => .matching kind table.normal (on.normal.withConnective .and)

def Query.normalSource : Option (Source Expr) → Option (Source Expr)
  | none => none
  | some ⟨table, name⟩ => some ⟨table.normal, name⟩

/-- The query without conditions that ask for nothing, and with AND before every first
condition, at every depth. -/
def Query.normal : Query → Query
  | { columns, distinct, source, joins, filters, groupKeys, havings, orderKeys, limit, fetch,
      name, pinned } =>
    { columns := columns.map Expr.normal
      distinct
      source := Query.normalSource source
      joins := joins.map Join.normal
      filters :=
        Condition.withLeading .and ((filters.filter (!·.isEmpty)).map Condition.normal)
      groupKeys
      havings :=
        Condition.withLeading .and ((havings.filter (!·.isEmpty)).map Condition.normal)
      orderKeys
      limit
      fetch
      name
      pinned }

end

/-- The normal forms of those conditions that are not empty. -/
def Condition.normalKept (cs : List Condition) : List Condition :=
  (cs.filter (!·.isEmpty)).map normal

/-- The normal form of conditions side by side. -/
def Condition.normalAll (cs : List Condition) : List Condition :=
  withLeading .and (normalKept cs)

theorem Query.normal_eq (q : Query) :
    q.normal =
      { q with
        columns := q.columns.map Expr.normal
        source := normalSource q.source
        joins := q.joins.map Join.normal
        filters := Condition.normalAll q.filters
        havings := Condition.normalAll q.havings } := by
  cases q
  rw [Query.normal]
  rfl

@[simp] theorem Query.name_normal (q : Query) : q.normal.name = q.name := by
  rw [normal_eq]

@[simp] theorem Query.dialect_normal (sessionDefault : Dialect) (q : Query) :
    q.normal.dialect sessionDefault = q.dialect sessionDefault := by
  rw [normal_eq]
  rfl

namespace Expr

@[simp] theorem label_normal (e : Expr) : e.normal.label = e.label := by
  cases e with
  | raw text => rw [normal]
  | subquery q => rw [normal]; rfl

end Expr

namespace Operand

@[simp] theorem count_normal (a : Operand) : a.normal.count = a.count := by
  cases a with
  | list items =>
      rw [normal]
      exact List.length_map _
  | value | deferred | raw => rw [normal]
  | subquery q => rw [normal]; rfl

end Operand

namespace Condition

theorem normal_test (c : Connective) (field : Expr) (comparison : Comparison)
    (operand : Operand) :
    (test c field comparison operand).normal = test c field.normal comparison operand.normal := by
  rw [normal]

theorem normal_group (c : Connective) (children : List Condition) :
    (group c children).normal = group c (normalAll children) := by
  rw [normal, normalAll, normalKept]

@[simp] theorem connective_normal (c : Condition) : c.normal.connective = c.connective := by
  cases c <;> (rw [normal]; rfl)

/-- A condition has comparisons exactly if its normal form has. -/
@[simp] theorem isEmpty_normal (c : Condition) : c.normal.isEmpty = c.isEmpty := by
  induction c using Condition.induction with
  | test c field comparison operand => rw [normal_test, isEmpty_test, isEmpty_test]
  | group c children ih =>
      rw [normal_group, isEmpty_group, isEmpty_group, normalAll, areEmpty_withLeading,
        normalKept]
      induction children with
      | nil => rfl
      | cons x xs rest =>
          have ofFirst := ih x List.mem_cons_self
          have ofRest := rest fun y member => ih y (List.mem_cons_of_mem x member)
          cases empty : x.isEmpty with
          | true => simp [empty, ofRest]
          | false => simp [empty, ofFirst]

theorem normalKept_cons (c : Condition) (cs : List Condition) :
    normalKept (c :: cs) = if c.isEmpty then normalKept cs else c.normal :: normalKept cs := by
  cases empty : c.isEmpty <;> simp [normalKept, empty]

theorem areEmpty_iff_normalKept_eq_nil {cs : List Condition} :
    areEmpty cs = true ↔ normalKept cs = [] := by
  rw [normalKept, List.map_eq_nil_iff, List.filter_eq_nil_iff, areEmpty_eq_all,
    List.all_eq_true]
  simp

/-- A condition that asks for nothing becomes the group without children, and no other does. -/
theorem normal_eq_group_nil_iff {c : Condition} :
    c.normal = group c.connective [] ↔ c.isEmpty = true := by
  constructor
  · intro same
    rw [← isEmpty_normal, same, isEmpty_group, areEmpty_nil]
  · intro empty
    cases c with
    | test => simp at empty
    | group c children =>
        rw [isEmpty_group, areEmpty_iff_normalKept_eq_nil] at empty
        rw [normal_group, normalAll, empty]
        rfl

end Condition

/-- What stands before a first condition is not written. -/
theorem Layout.chained_cons_congr (c k : Connective) (l : Layout)
    (rest : List (Connective × Layout)) : chained ((c, l) :: rest) = chained ((k, l) :: rest) := by
  cases rest <;> rfl

namespace Condition

/-- Conditions side by side have as many layouts as their normal forms, with the same
connectives from the second one on. -/
theorem siblingLayouts_normalAll {cs : List Condition}
    (same : ∀ c ∈ cs, c.normal.layout = c.layout) :
    (siblingLayouts cs = [] ∧ siblingLayouts (normalAll cs) = []) ∨
      ∃ c l rest, siblingLayouts cs = (c, l) :: rest ∧
        siblingLayouts (normalAll cs) = (.and, l) :: rest := by
  have each : ∀ x ∈ cs.filter (!·.isEmpty),
      x.normal.isEmpty = false ∧ x.normal.layout = x.layout := by
    intro x member
    obtain ⟨inList, kept⟩ := List.mem_filter.mp member
    exact ⟨by simpa using kept, same x inList⟩
  rw [normalAll, normalKept, siblingLayouts]
  cases kept : cs.filter (!·.isEmpty) with
  | nil =>
      refine .inl ⟨rfl, ?_⟩
      rw [List.map_nil, withLeading_nil, siblingLayouts_nil]
  | cons x xs =>
      rw [kept] at each
      obtain ⟨⟨notEmpty, ofFirst⟩, others⟩ := List.forall_mem_cons.mp each
      refine .inr ⟨x.connective, x.layout, xs.map fun y => (y.connective, y.layout), rfl, ?_⟩
      have rest : siblingLayouts (xs.map normal) = xs.map fun y => (y.connective, y.layout) := by
        have all : (xs.map normal).filter (!·.isEmpty) = xs.map normal := by
          rw [List.filter_eq_self]
          simpa using fun y member => (others y member).1
        rw [siblingLayouts, all, List.map_map]
        apply List.map_congr_left
        intro y member
        simp [(others y member).2]
      rw [List.map_cons, withLeading_cons, siblingLayouts_cons, isEmpty_withConnective,
        notEmpty, rest, connective_withConnective, layout_withConnective, ofFirst]
      rfl

theorem chained_siblingLayouts_normalAll {cs : List Condition}
    (same : ∀ c ∈ cs, c.normal.layout = c.layout) :
    Layout.chained (siblingLayouts (normalAll cs)) = Layout.chained (siblingLayouts cs) := by
  rcases siblingLayouts_normalAll same with ⟨none, noneLeft⟩ | ⟨c, l, rest, some, someLeft⟩
  · rw [none, noneLeft]
  · rw [some, someLeft]
    exact Layout.chained_cons_congr .and c l rest

theorem conditionLayout_normalAll (keyword : String) {cs : List Condition}
    (same : ∀ c ∈ cs, c.normal.layout = c.layout) :
    Query.conditionLayout keyword (siblingLayouts (normalAll cs)) =
      Query.conditionLayout keyword (siblingLayouts cs) := by
  have chains := chained_siblingLayouts_normalAll same
  rcases siblingLayouts_normalAll same with ⟨none, noneLeft⟩ | ⟨c, l, rest, some, someLeft⟩
  · rw [none, noneLeft]
  · rw [some, someLeft] at chains ⊢
    unfold Query.conditionLayout
    rw [chains]
    rfl

end Condition

/-- The normal form is laid out like the query. -/
theorem Query.layout_normal_induction :
    Query.Induction (fun e => e.normal.layout = e.layout) (fun a => a.normal.form = a.form)
      (fun c => c.normal.layout = c.layout) (fun j => j.normal.layout = j.layout)
      (fun q => q.normal.bodyLayout = q.bodyLayout) where
  raw_expr text := by
    rw [Expr.normal]
  subquery_expr q ih := by
    rw [Expr.normal, Expr.layout, Expr.layout, name_normal, ih]
  value v := by
    rw [Operand.normal]
  deferred supply := by
    rw [Operand.normal]
  raw_operand text := by
    rw [Operand.normal]
  list items ih := by
    rw [Operand.normal, Operand.form, Operand.form, List.map_map]
    congr 1
    apply List.map_congr_left
    intro a member
    rw [Function.comp_apply, ih a member]
  subquery_operand q ih := by
    rw [Operand.normal, Operand.form, Operand.form, name_normal, ih]
  test c field comparison operand fieldIh operandIh := by
    rw [Condition.normal_test, Condition.layout, Condition.layout, fieldIh, operandIh]
  group c children ih := by
    have empties : Condition.areEmpty (Condition.normalAll children) =
        Condition.areEmpty children := by
      rw [← Condition.isEmpty_group c, ← Condition.normal_group, Condition.isEmpty_normal,
        Condition.isEmpty_group]
    rw [Condition.normal_group, Condition.layout_group, Condition.layout_group, empties,
      Condition.chained_siblingLayouts_normalAll ih]
  product table ih := by
    rw [Join.normal, Join.layout, Join.layout, ih]
  matching kind table on tableIh onIh := by
    rw [Join.normal, Join.layout, Join.layout, tableIh, Condition.layout_withConnective, onIh,
      Condition.isEmpty_withConnective, Condition.isEmpty_normal]
  clauses q columns source joins filters havings := by
    have columnLayouts : (q.columns.map Expr.normal).map Expr.layout =
        q.columns.map Expr.layout := by
      rw [List.map_map]
      exact List.map_congr_left columns
    have joinLayouts : (q.joins.map Join.normal).map Join.layout = q.joins.map Join.layout := by
      rw [List.map_map]
      exact List.map_congr_left joins
    have sourceLayouts : sourceLayout (normalSource q.source) = sourceLayout q.source := by
      cases given : q.source using source_cases with
      | absent => rw [normalSource]
      | raw text name => rw [normalSource, Expr.normal]
      | subquery r name =>
          rw [normalSource, Expr.normal, sourceLayout, sourceLayout, name_normal,
            source r name given]
    rw [normal_eq, bodyLayout_eq, bodyLayout_eq]
    simp only [columnLayouts, joinLayouts, sourceLayouts,
      Condition.conditionLayout_normalAll _ filters,
      Condition.conditionLayout_normalAll _ havings]

theorem Query.layout_normal (q : Query) : q.normal.layout = q.layout := by
  unfold Query.layout
  rw [name_normal, layout_normal_induction.query q]

theorem Condition.renderAll_eq_fill (d : Dialect) (cs : List Condition) :
    renderAll d cs = (Layout.chained (siblingLayouts cs)).fill d := by
  have each := fun c (_ : c ∈ cs) => (Query.fill_layout_induction d).condition c
  rw [Layout.fill_chained, fill_siblingLayouts d each, renderAll]

/-- The normal form of conditions side by side is written like the conditions. -/
theorem Condition.renderAll_normalAll (d : Dialect) (cs : List Condition) :
    renderAll d (normalAll cs) = renderAll d cs := by
  have each := fun c (_ : c ∈ cs) => Query.layout_normal_induction.condition c
  rw [renderAll_eq_fill, renderAll_eq_fill, chained_siblingLayouts_normalAll each]

theorem findSome?_map_of_forall {α β γ : Type} {f : β → Option γ} {g : α → β} {h : α → Option γ}
    {xs : List α} (same : ∀ x ∈ xs, f (g x) = h x) :
    (xs.map g).findSome? f = xs.findSome? h := by
  induction xs with
  | nil => rfl
  | cons x xs ih =>
      obtain ⟨first, others⟩ := List.forall_mem_cons.mp same
      rw [List.map_cons, findSome?_cons_eq_or, findSome?_cons_eq_or, first, ih others]

/-- A condition without comparisons is never at fault. -/
theorem Condition.fault?_of_isEmpty (d : Dialect) {c : Condition} (empty : c.isEmpty = true) :
    c.fault? d = none := by
  rw [(Query.fault?_induction d).condition c, requirements_of_isEmpty empty]
  rfl

theorem Condition.findSome?_fault?_normalAll (d : Dialect) {cs : List Condition}
    (same : ∀ c ∈ cs, c.normal.fault? d = c.fault? d) :
    (normalAll cs).findSome? (fault? d) = cs.findSome? (fault? d) := by
  rw [normalAll, findSome?_withLeading fun c => fault?_withConnective d .and c]
  induction cs with
  | nil => rfl
  | cons c cs ih =>
      have ofFirst := same c List.mem_cons_self
      have ofRest := ih fun x member => same x (List.mem_cons_of_mem c member)
      rw [normalKept_cons, findSome?_cons_eq_or]
      cases empty : c.isEmpty with
      | true => rw [if_pos rfl, ofRest, fault?_of_isEmpty d empty, Option.none_or]
      | false => rw [if_neg Bool.false_ne_true, findSome?_cons_eq_or, ofFirst, ofRest]

/-- The normal form has the same first fault as the query. -/
theorem Query.fault?_normal_induction (d : Dialect) :
    Query.Induction
      (fun e => e.normal.fault? d = e.fault? d ∧ e.normal.joinFault? d = e.joinFault? d)
      (fun a => a.normal.fault? d = a.fault? d) (fun c => c.normal.fault? d = c.fault? d)
      (fun j => j.normal.fault? d = j.fault? d) (fun q => q.normal.fault? d = q.fault? d) where
  raw_expr text := by
    rw [Expr.normal]
    exact ⟨rfl, rfl⟩
  subquery_expr q ih := by
    rw [Expr.normal, Expr.fault?, Expr.fault?, Expr.joinFault?, Expr.joinFault?, name_normal, ih]
    exact ⟨rfl, rfl⟩
  value v := by
    rw [Operand.normal]
  deferred supply := by
    rw [Operand.normal]
  raw_operand text := by
    rw [Operand.normal]
  list items ih := by
    rw [Operand.normal, Operand.fault?, Operand.fault?,
      Operand.firstFault?_eq_findSome?, Operand.firstFault?_eq_findSome?]
    exact findSome?_map_of_forall ih
  subquery_operand q ih := by
    rw [Operand.normal, Operand.fault?, Operand.fault?, ih]
  test c field comparison operand fieldIh operandIh := by
    have bounds : Fault.ofBounds? field.normal comparison operand.normal =
        Fault.ofBounds? field comparison operand := by
      unfold Fault.ofBounds?
      rw [Operand.count_normal, Expr.label_normal]
    rw [Condition.normal_test, Condition.fault?, Condition.fault?, fieldIh.1, operandIh, bounds]
  group c children ih := by
    rw [Condition.normal_group, Condition.fault?, Condition.fault?,
      Condition.firstFault?_eq_findSome?, Condition.firstFault?_eq_findSome?,
      Condition.findSome?_fault?_normalAll d ih]
  product table ih := by
    rw [Join.normal, Join.fault?, Join.fault?, ih.2]
  matching kind table on tableIh onIh := by
    rw [Join.normal, Join.fault?, Join.fault?, tableIh.2, Condition.isEmpty_withConnective,
      Condition.isEmpty_normal, Condition.fault?_withConnective, onIh, Expr.label_normal]
  clauses q columns source joins filters havings := by
    have columnFaults : (q.columns.map Expr.normal).findSome? (Expr.fault? d) =
        q.columns.findSome? (Expr.fault? d) :=
      findSome?_map_of_forall fun e member => (columns e member).1
    have joinFaults : (q.joins.map Join.normal).findSome? (Join.fault? d) =
        q.joins.findSome? (Join.fault? d) :=
      findSome?_map_of_forall joins
    have sourceFaults : sourceFault? d (normalSource q.source) = sourceFault? d q.source := by
      cases given : q.source using source_cases with
      | absent => rw [normalSource]
      | raw text name => rw [normalSource, Expr.normal]
      | subquery r name =>
          rw [normalSource, Expr.normal, sourceFault?, sourceFault?, name_normal,
            source r name given]
    rw [normal_eq, fault?_eq, fault?_eq]
    simp only [columnFaults, joinFaults, sourceFaults,
      Condition.findSome?_fault?_normalAll d filters,
      Condition.findSome?_fault?_normalAll d havings]

theorem Query.fault?_normal (d : Dialect) (q : Query) : q.normal.fault? d = q.fault? d :=
  (fault?_normal_induction d).query q

end SqlSelect
