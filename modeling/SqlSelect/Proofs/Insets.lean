import SqlSelect.Proofs.Enclosure
import SqlSelect.Proofs.Injection

/-!
# Sub-queries and groups stand in parentheses of their own

The insets of a query are the queries inside it and the groups of conditions that are
written. They are collected from the query itself, each before those inside it. The layout of
the query encloses exactly these, in this order, each between two pieces that are parentheses.

A group that asks for nothing is not written and is no inset. Neither is what stands in an
operand or a field that is not written.

## Implementation notes

Parentheses stand around lists as well, and these are no insets. The layouts are therefore
related to the insets by a relation that may pass over a pair, not by a function of the
layout.
-/

namespace SqlSelect

/-- A part of a statement that stands in parentheses of its own. -/
inductive Inset where
  | query (q : Query)
  | group (children : List Condition)

namespace Inset

/-- The layout of an inset, without its parentheses. -/
def layout : Inset → Layout
  | query q => q.bodyLayout
  | group children => Layout.chained (Condition.siblingLayouts children)

/-- The text of an inset, without its parentheses. -/
def text (d : Dialect) : Inset → String
  | query q => (q.body d).text
  | group children => (Condition.renderAll d children).text

theorem toList_text (d : Dialect) (i : Inset) :
    (i.text d).toList = i.layout.flatMap (Piece.chars d) := by
  rw [← Layout.toList_textIn, ← Layout.text_fill]
  have fills := Query.fill_layout_induction d
  cases i with
  | query q => rw [text, layout, fills.query q]
  | group children =>
      rw [text, layout, Condition.renderAll, Layout.fill_chained,
        Condition.fill_siblingLayouts d fun c _ => fills.condition c]

theorem regular_layout (i : Inset) : i.layout.Regular := by
  have regular := Query.regular_layout_induction
  cases i with
  | query q => exact regular.query q
  | group children =>
      apply Layout.Regular.chained
      exact Condition.regular_siblingLayouts fun c _ => regular.condition c

end Inset

mutual

/-- The insets of an expression that are written. -/
def Expr.insets : Expr → List Inset
  | .raw _ => []
  | .subquery q => .query q :: Query.insets q

/-- The insets of an operand. -/
def Operand.insets : Operand → List Inset
  | .value _ => []
  | .deferred _ => []
  | .raw _ => []
  | .list items => items.flatMap Operand.insets
  | .subquery q => .query q :: Query.insets q

/-- The insets of a condition, as far as it is written. -/
def Condition.insets : Condition → List Inset
  | .test _ field comparison operand =>
    if (comparison = .isIn ∨ comparison = .isNotIn) ∧ operand.isEmptyList then []
    else if comparison = .isNull ∨ comparison = .isNotNull then field.insets
    else field.insets ++ operand.insets
  | .group _ children =>
    if Condition.areEmpty children then []
    else .group children :: children.flatMap Condition.insets

/-- The insets of a join. -/
def Join.insets : Join → List Inset
  | .product table => table.insets
  | .matching _ table on => table.insets ++ on.insets

/-- The insets of the source. -/
def Query.sourceInsets : Option (Source Expr) → List Inset
  | none => []
  | some ⟨.raw _, _⟩ => []
  | some ⟨.subquery q, _⟩ => .query q :: Query.insets q

/-- The insets of a query, from left to right. -/
def Query.insets : Query → List Inset
  | { columns, source, joins, filters, havings, .. } =>
    columns.flatMap Expr.insets ++ Query.sourceInsets source ++ joins.flatMap Join.insets ++
      filters.flatMap Condition.insets ++ havings.flatMap Condition.insets

end

theorem Query.insets_eq (q : Query) :
    q.insets = q.columns.flatMap Expr.insets ++ sourceInsets q.source ++
      q.joins.flatMap Join.insets ++ q.filters.flatMap Condition.insets ++
      q.havings.flatMap Condition.insets := by
  cases q
  rw [Query.insets]

theorem Condition.insets_of_isEmpty {c : Condition} (empty : c.isEmpty = true) :
    c.insets = [] := by
  cases c with
  | test => simp at empty
  | group c children =>
      rw [isEmpty_group] at empty
      rw [insets, empty, if_pos rfl]

namespace Layout

/-- The insets stand in the layout in this order of their opening parentheses, each in a
pair of its own. -/
inductive Encloses : Layout → List Inset → Prop
  | nothing (l : Layout) : Encloses l []
  | append {l m : Layout} {is js : List Inset} (left : Encloses l is) (right : Encloses m js) :
      Encloses (l ++ m) (is ++ js)
  | parenthesized {i : Inset} {is : List Inset} (inner : Encloses i.layout is) :
      Encloses i.layout.parenthesized (i :: is)

theorem exists_separated_append (separator : String) (ls ms : List Layout) :
    ∃ gap, separated separator (ls ++ ms) =
      separated separator ls ++ (gap ++ separated separator ms) := by
  induction ls with
  | nil => exact ⟨[], rfl⟩
  | cons l rest ih =>
      cases rest with
      | nil =>
          cases ms with
          | nil => exact ⟨[], (List.append_nil l).symm⟩
          | cons m ms => exact ⟨[.keyword separator], rfl⟩
      | cons k rest =>
          obtain ⟨gap, ofRest⟩ := ih
          refine ⟨gap, ?_⟩
          simp only [List.cons_append, separated, List.append_assoc] at ofRest ⊢
          rw [ofRest]

theorem exists_chained_cons (p : Connective × Layout) (ls : List (Connective × Layout)) :
    ∃ gap, chained (p :: ls) = p.2 ++ (gap ++ chained ls) := by
  cases ls with
  | nil => exact ⟨[], (List.append_nil p.2).symm⟩
  | cons m ls => exact ⟨[.keyword " ", .keyword m.1.sql, .keyword " "], rfl⟩

namespace Encloses

variable {l m : Layout} {is js : List Inset}

theorem cons (p : Piece) (right : l.Encloses is) : Encloses (p :: l) is :=
  (nothing [p]).append right

theorem behind (gap : Layout) (right : l.Encloses is) : Encloses (gap ++ l) is :=
  (nothing gap).append right

/-- What follows can bring no inset. -/
theorem before (left : l.Encloses is) (rest : Layout) : Encloses (l ++ rest) is := by
  have both := left.append (nothing rest)
  rw [List.append_nil] at both
  exact both

theorem named (left : l.Encloses is) (name : Option String) : (l.named name).Encloses is := by
  cases name with
  | none => exact left
  | some name => exact left.before _

/-- A query in parentheses is an inset; its name stands behind them. -/
theorem subquery {q : Query} (inner : q.bodyLayout.Encloses is) (name : Option String) :
    (q.bodyLayout.parenthesized.named name).Encloses (.query q :: is) := by
  have pair : q.bodyLayout.parenthesized.Encloses (.query q :: is) :=
    parenthesized (i := .query q) inner
  exact pair.named name

theorem separated_append {separator : String} {ls ms : List Layout}
    (left : (separated separator ls).Encloses is)
    (right : (separated separator ms).Encloses js) :
    (separated separator (ls ++ ms)).Encloses (is ++ js) := by
  obtain ⟨gap, split⟩ := exists_separated_append separator ls ms
  rw [split]
  exact left.append (right.behind gap)

theorem separated_extend {separator : String} {ls ms : List Layout}
    (left : (separated separator ls).Encloses is) :
    (separated separator (ls ++ ms)).Encloses is := by
  obtain ⟨gap, split⟩ := exists_separated_append separator ls ms
  rw [split]
  exact left.before _

theorem separated_map {α : Type} {f : α → Layout} {insets : α → List Inset} {xs : List α}
    (separator : String) (all : ∀ x ∈ xs, (f x).Encloses (insets x)) :
    (separated separator (xs.map f)).Encloses (xs.flatMap insets) := by
  induction xs with
  | nil => exact nothing []
  | cons x xs ih =>
      obtain ⟨first, others⟩ := List.forall_mem_cons.mp all
      have alone : (separated separator [f x]).Encloses (insets x) := first
      exact alone.separated_append (ih others)

theorem chained_siblings {cs : List Condition}
    (all : ∀ c ∈ cs, c.layout.Encloses c.insets) :
    (chained (Condition.siblingLayouts cs)).Encloses (cs.flatMap Condition.insets) := by
  induction cs with
  | nil =>
      rw [Condition.siblingLayouts_nil]
      exact nothing []
  | cons c cs ih =>
      obtain ⟨first, others⟩ := List.forall_mem_cons.mp all
      have ofRest := ih others
      rw [Condition.siblingLayouts_cons, List.flatMap_cons]
      cases empty : c.isEmpty with
      | true =>
          rw [Condition.insets_of_isEmpty empty]
          exact ofRest
      | false =>
          obtain ⟨gap, split⟩ :=
            exists_chained_cons (c.connective, c.layout) (Condition.siblingLayouts cs)
          rw [if_neg Bool.false_ne_true, split]
          exact first.append (ofRest.behind gap)

end Encloses

end Layout

open Layout (Encloses)

/-- The operand encloses the insets whatever a comparison makes of it. -/
structure RightSide.Encloses (r : RightSide Layout) (is : List Inset) : Prop where
  whole : r.layout.Encloses is
  operand : ∀ c : Comparison, (c.operandLayout r).Encloses is

theorem Comparison.encloses_layout {c : Comparison} {field : Layout} {operand : Operand}
    {is : List Inset} (left : field.Encloses is)
    (right : operand.form.Encloses operand.insets) :
    (c.layout field operand.form).Encloses
      (if (c = .isIn ∨ c = .isNotIn) ∧ operand.isEmptyList then []
        else if c = .isNull ∨ c = .isNotNull then is else is ++ operand.insets) := by
  simp only [Comparison.layout, Operand.isEmpty_form, Bool.and_eq_true, ← isMembership_iff,
    ← isNullCheck_iff]
  split
  · exact .nothing _
  split
  · exact left.before _
  · apply left.append
    exact (((right.operand c).cons _).cons _).cons _

namespace Query

theorem encloses_conditionLayout (keyword : String) {cs : List Condition}
    (all : ∀ c ∈ cs, c.layout.Encloses c.insets) :
    (Layout.separated " " (conditionLayout keyword (Condition.siblingLayouts cs))).Encloses
      (cs.flatMap Condition.insets) := by
  have chain := Encloses.chained_siblings all
  unfold conditionLayout
  cases given : Condition.siblingLayouts cs with
  | nil =>
      rw [given] at chain
      exact chain
  | cons first rest =>
      rw [given] at chain
      exact (chain.cons _).cons _

theorem encloses_selectLayout (distinct : Bool) {columns : List Expr}
    (all : ∀ e ∈ columns, e.layout.Encloses e.insets) :
    (Layout.separated " " [selectLayout distinct (columns.map Expr.layout)]).Encloses
      (columns.flatMap Expr.insets) := by
  have list := Encloses.separated_map ", " all
  rw [Layout.separated, selectLayout]
  apply Encloses.cons
  cases columns with
  | nil => exact .nothing _
  | cons e es => exact list

theorem encloses_sourceLayout {source : Option (Source Expr)}
    (inner : ∀ (r : Query) name, source = some ⟨.subquery r, name⟩ →
      r.bodyLayout.Encloses r.insets) :
    (Layout.separated " " (sourceLayout source)).Encloses (sourceInsets source) := by
  cases source using source_cases with
  | absent =>
      rw [sourceInsets]
      exact .nothing _
  | raw text name =>
      rw [sourceInsets]
      exact .nothing _
  | subquery r name =>
      rw [sourceInsets, sourceLayout]
      exact ((inner r name rfl).subquery _).cons _

/-- Every way to put a query together encloses the insets that it brings. -/
theorem encloses_induction :
    Query.Induction (fun e => e.layout.Encloses e.insets)
      (fun a => a.form.Encloses a.insets) (fun c => c.layout.Encloses c.insets)
      (fun j => j.layout.Encloses j.insets) (fun q => q.bodyLayout.Encloses q.insets) where
  raw_expr text := by
    rw [Expr.insets]
    exact .nothing _
  subquery_expr q ih := by
    rw [Expr.layout, Expr.insets]
    exact ih.subquery q.name
  value v := by
    rw [Operand.insets]
    exact ⟨.nothing _, fun _ => .nothing _⟩
  deferred supply := by
    rw [Operand.insets]
    exact ⟨.nothing _, fun _ => .nothing _⟩
  raw_operand text := by
    rw [Operand.insets]
    exact ⟨.nothing _, fun _ => .nothing _⟩
  list items ih := by
    have items (separator : String) :=
      Encloses.separated_map separator fun a member => (ih a member).whole
    rw [Operand.form, Operand.insets]
    have whole := ((items ", ").before [.keyword ")"]).cons (.keyword "(")
    constructor
    · exact whole
    · intro c
      rw [Comparison.operandLayout]
      split
      · exact items " AND "
      · exact whole
  subquery_operand q ih := by
    have inset := ih.subquery q.name
    rw [Operand.form, Operand.insets]
    exact ⟨inset, fun _ => inset⟩
  test c field comparison operand fieldIh operandIh := by
    rw [Condition.layout, Condition.insets]
    exact Comparison.encloses_layout fieldIh operandIh
  group c children ih := by
    rw [Condition.layout_group, Condition.insets]
    split
    · exact .nothing _
    · have inner : (Inset.group children).layout.Encloses _ := Encloses.chained_siblings ih
      exact inner.parenthesized
  product table ih := by
    rw [Join.layout, Join.insets]
    exact (ih.cons _).cons _
  matching kind table on tableIh onIh := by
    rw [Join.layout, Join.insets]
    apply Encloses.cons
    apply Encloses.cons
    split
    · next empty =>
        rw [Condition.insets_of_isEmpty empty, List.append_nil]
        exact tableIh
    · exact tableIh.append (onIh.cons _)
  clauses q columns source joins filters havings := by
    have columnInsets := encloses_selectLayout q.distinct columns
    have sourceInsets := encloses_sourceLayout source
    have joinInsets := Encloses.separated_map " " joins
    have filterInsets := encloses_conditionLayout "WHERE" filters
    have havingInsets := encloses_conditionLayout "HAVING" havings
    rw [bodyLayout_eq, insets_eq]
    -- Behind the last condition come an ordering and pages, which bring no inset.
    apply Encloses.separated_extend
    apply Encloses.separated_extend
    apply Encloses.separated_extend
    apply Encloses.separated_append _ havingInsets
    apply Encloses.separated_extend
    apply Encloses.separated_append _ filterInsets
    apply Encloses.separated_append _ joinInsets
    exact Encloses.separated_append columnInsets sourceInsets

theorem encloses_layout (q : Query) : q.layout.Encloses q.insets := by
  have body := encloses_induction.query q
  unfold Query.layout
  cases q.name with
  | none => exact body
  | some name =>
      have whole : q.bodyLayout.parenthesized.Encloses q.insets :=
        (body.before [.keyword ")"]).cons (.keyword "(")
      exact whole.named (some name)

end Query

open Enclosure (Surround)

/-- What a layout encloses stands in pairs of its parentheses. -/
theorem Layout.Encloses.exists_surround {l : Layout} {is : List Inset} (encloses : l.Encloses is) :
    ∃ es, Surround (.keyword "(") (.keyword ")") l (is.map Inset.layout) es := by
  induction encloses with
  | nothing l => exact ⟨[], Surround.nil l⟩
  | append left right leftIh rightIh =>
      obtain ⟨es, first⟩ := leftIh
      obtain ⟨fs, second⟩ := rightIh
      rw [List.map_append]
      exact ⟨_, first.append second⟩
  | parenthesized inner ih =>
      obtain ⟨es, inside⟩ := ih
      exact ⟨_, inside.enclose⟩

end SqlSelect
