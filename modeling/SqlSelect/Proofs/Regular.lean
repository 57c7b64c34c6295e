import SqlSelect.Proofs.PlainText
import SqlSelect.Proofs.QueryLayout

/-!
# Regular layouts

Between any two values of a statement, and between a value and any text of the caller, the
library writes a keyword of its own, which is not empty and does not contain a quote. So
nothing that follows a literal can be mistaken for a part of it. Parentheses are written in
pairs and in no other keyword.

A layout built in this way is regular. What holds of all regular layouts is proved by one
case for each way to build them, and holds of every query.
-/

namespace SqlSelect

/-- A text that separates what stands to its left from what stands to its right. -/
structure IsSeparator (text : String) : Prop where
  nonempty : text.toList ≠ []
  quoteFree : '\'' ∉ text.toList
  noOpening : '(' ∉ text.toList
  noClosing : ')' ∉ text.toList

instance (text : String) : Decidable (IsSeparator text) :=
  decidable_of_iff
    (text.toList ≠ [] ∧ '\'' ∉ text.toList ∧ '(' ∉ text.toList ∧ ')' ∉ text.toList)
    ⟨fun ⟨nonempty, quoteFree, noOpening, noClosing⟩ =>
      ⟨nonempty, quoteFree, noOpening, noClosing⟩,
    fun h => ⟨h.nonempty, h.quoteFree, h.noOpening, h.noClosing⟩⟩

namespace Layout

/-- A layout in which keywords separate all other pieces and parentheses come in pairs. -/
inductive Regular : Layout → Prop
  | nil : Regular []
  | fragment (text : String) : Regular [.fragment text]
  | slot (supply : Except String Value) : Regular [.slot supply]
  | keyword {l m : Layout} {text : String} (left : Regular l) (separator : IsSeparator text)
      (right : Regular m) : Regular (l ++ .keyword text :: m)
  | parenthesized {l : Layout} (inner : Regular l) : Regular l.parenthesized

namespace Regular

/-- A keyword can stand in front. -/
theorem cons {l : Layout} {text : String} (separator : IsSeparator text) (right : Regular l) :
    Regular (.keyword text :: l) :=
  keyword nil separator right

theorem separated {text : String} {ls : List Layout} (separator : IsSeparator text)
    (all : ∀ l ∈ ls, Regular l) : Regular (Layout.separated text ls) := by
  induction ls with
  | nil => exact nil
  | cons l rest ih =>
      obtain ⟨first, others⟩ := List.forall_mem_cons.mp all
      cases rest with
      | nil => exact first
      | cons m rest => exact keyword first separator (ih others)

theorem chained {ls : List (Connective × Layout)} (all : ∀ p ∈ ls, Regular p.2) :
    Regular (Layout.chained ls) := by
  induction ls with
  | nil => exact nil
  | cons l rest ih =>
      obtain ⟨first, others⟩ := List.forall_mem_cons.mp all
      cases rest with
      | nil => exact first
      | cons m rest =>
          have connective : IsSeparator m.1.sql := by
            cases m.1 <;> decide
          exact keyword first (by decide) (cons connective (cons (by decide) (ih others)))

theorem named {l : Layout} (name : Option String) (inner : Regular l) :
    Regular (l.named name) := by
  cases name with
  | none => exact inner
  | some name => exact keyword inner (by decide) (fragment name)

/-- Induction over a regular layout in which only some fragments are allowed. -/
@[elab_as_elim]
theorem induction_of_fragments {P : Layout → Prop} {allowed : String → Prop} {l : Layout}
    (regular : l.Regular) (all : ∀ text, .fragment text ∈ l → allowed text) (nil : P [])
    (fragment : ∀ text, allowed text → P [.fragment text])
    (slot : ∀ supply, P [.slot supply])
    (keyword : ∀ l m text, P l → IsSeparator text → P m → P (l ++ .keyword text :: m))
    (parenthesized : ∀ l, P l → P l.parenthesized) : P l := by
  induction regular with
  | nil => exact nil
  | fragment text => exact fragment text (all text List.mem_cons_self)
  | slot supply => exact slot supply
  | keyword left separator right leftIh rightIh =>
      have ofLeft := leftIh fun text member => all text (List.mem_append_left _ member)
      have ofRight := rightIh fun text member =>
        all text (List.mem_append_right _ (List.mem_cons_of_mem _ member))
      exact keyword _ _ _ ofLeft separator ofRight
  | parenthesized inner ih =>
      apply parenthesized
      exact ih fun text member =>
        all text (List.mem_cons_of_mem _ (List.mem_append_left _ member))

end Regular

end Layout

open Layout (Regular)

namespace RightSide

/-- All layouts of an operand are regular. -/
def Regular : RightSide Layout → Prop
  | scalar l => l.Regular
  | items ls => ∀ l ∈ ls, l.Regular
  | nested l => l.Regular

theorem Regular.layout {r : RightSide Layout} (regular : r.Regular) : r.layout.Regular := by
  cases r with
  | scalar l => exact regular
  | items ls => exact (Layout.Regular.separated (by decide) regular).parenthesized
  | nested l => exact regular

end RightSide

namespace Comparison

theorem isSeparator_sql (c : Comparison) : IsSeparator c.sql := by
  cases c <;> decide

theorem regular_layout {c : Comparison} {field : Layout} {r : RightSide Layout}
    (left : field.Regular) (right : r.Regular) : (c.layout field r).Regular := by
  have emptySet : IsSeparator c.onEmptySet := by
    cases c <;> decide
  have operand : (c.operandLayout r).Regular := by
    cases r with
    | scalar l =>
        simp only [operandLayout]
        split
        · exact Regular.parenthesized right
        · exact right
    | items ls =>
        simp only [operandLayout]
        split
        · exact Regular.separated (by decide) right
        · exact RightSide.Regular.layout right
    | nested l => exact right
  unfold Comparison.layout
  split
  · exact Regular.cons emptySet Regular.nil
  · refine Regular.keyword left (by decide) (Regular.cons c.isSeparator_sql ?_)
    split
    · exact Regular.nil
    · exact Regular.cons (by decide) operand

end Comparison

namespace Query

theorem regular_selectLayout {distinct : Bool} {columns : List Layout}
    (all : ∀ l ∈ columns, l.Regular) : (selectLayout distinct columns).Regular := by
  have list : (columnLayout columns).Regular := by
    cases columns with
    | nil => exact Regular.cons (by decide) Regular.nil
    | cons l ls => exact Regular.separated (by decide) all
  cases distinct with
  | true => exact Regular.cons (by decide) list
  | false => exact Regular.cons (by decide) list

theorem regular_conditionLayout {keyword : String} {conditions : List (Connective × Layout)}
    (separator : IsSeparator keyword) (all : ∀ p ∈ conditions, p.2.Regular) :
    ∀ l ∈ conditionLayout keyword conditions, l.Regular := by
  unfold conditionLayout
  split
  · intro l member
    cases member
  · rintro l (_ | ⟨_, ⟨⟩⟩)
    exact Regular.cons separator (Regular.cons (by decide) (Regular.chained all))

theorem regular_listLayout {keyword : String} {ls : List Layout}
    (separator : IsSeparator keyword) (all : ∀ l ∈ ls, l.Regular) :
    ∀ l ∈ listLayout keyword ls, l.Regular := by
  unfold listLayout
  split
  · intro l member
    cases member
  · rintro l (_ | ⟨_, ⟨⟩⟩)
    exact Regular.cons separator (Regular.cons (by decide) (Regular.separated (by decide) all))

theorem regular_orderKeyLayout (key : String × Direction) : (orderKeyLayout key).Regular := by
  have direction : IsSeparator key.2.sql := by
    cases key.2 <;> decide
  exact Regular.keyword (Regular.fragment key.1) (by decide)
    (Regular.cons direction Regular.nil)

theorem regular_pageLayout {clause : Page → String} {p : Page}
    (separator : IsSeparator (clause p)) : ∀ l ∈ pageLayout clause p, l.Regular := by
  unfold pageLayout
  split
  · rintro l (_ | ⟨_, ⟨⟩⟩)
    exact Regular.cons separator Regular.nil
  · intro l member
    cases member

end Query

theorem isSeparator_of_plainText {text : String} (nonempty : text.toList ≠ [])
    (plain : PlainText text.toList) : IsSeparator text where
  nonempty := nonempty
  quoteFree := plain.not_mem (by decide)
  noOpening := plain.not_mem (by decide)
  noClosing := plain.not_mem (by decide)

namespace Page

theorem plainText_repr (n : Nat) : PlainText n.repr.toList := by
  rw [Nat.toList_repr]
  exact plainText_digits n

theorem isSeparator_limitClause (p : Page) : IsSeparator p.limitClause := by
  have limit : PlainText "LIMIT ".toList := by decide
  have offset : PlainText " OFFSET ".toList := by decide
  apply isSeparator_of_plainText
  · simp [limitClause]
  · simp only [limitClause, String.toList_append, PlainText.append_iff]
    exact ⟨⟨⟨limit, plainText_repr _⟩, offset⟩, plainText_repr _⟩

theorem isSeparator_fetchClause (p : Page) : IsSeparator p.fetchClause := by
  have offset : PlainText "OFFSET ".toList := by decide
  have rows : PlainText " ROWS FETCH NEXT ".toList := by decide
  have only : PlainText " ROWS ONLY".toList := by decide
  apply isSeparator_of_plainText
  · simp [fetchClause]
  · simp only [fetchClause, String.toList_append, PlainText.append_iff]
    exact ⟨⟨⟨⟨offset, plainText_repr _⟩, rows⟩, plainText_repr _⟩, only⟩

end Page

theorem Condition.regular_siblingLayouts {cs : List Condition}
    (all : ∀ c ∈ cs, c.layout.Regular) : ∀ p ∈ siblingLayouts cs, p.2.Regular := by
  rw [siblingLayouts]
  intro p member
  obtain ⟨c, kept, rfl⟩ := List.mem_map.mp member
  exact all c (List.mem_filter.mp kept).1

theorem Query.regular_sourceLayout {source : Option (Source Expr)}
    (inner : ∀ (r : Query) name, source = some ⟨.subquery r, name⟩ → r.bodyLayout.Regular) :
    ∀ l ∈ sourceLayout source, l.Regular := by
  cases source using source_cases with
  | absent =>
      rw [sourceLayout]
      intro l member
      cases member
  | raw text name =>
      rw [sourceLayout]
      rintro l (_ | ⟨_, ⟨⟩⟩)
      exact Regular.cons (by decide) (Regular.named name (Regular.fragment text))
  | subquery r name =>
      rw [sourceLayout]
      rintro l (_ | ⟨_, ⟨⟩⟩)
      exact Regular.cons (by decide) (Regular.named _ (Regular.parenthesized (inner r name rfl)))

/-- Every way to put a query together gives a regular layout. -/
theorem Query.regular_layout_induction :
    Query.Induction (fun e => e.layout.Regular) (fun a => a.form.Regular)
      (fun c => c.layout.Regular) (fun j => j.layout.Regular)
      (fun q => q.bodyLayout.Regular) where
  raw_expr text := by
    rw [Expr.layout]
    exact Regular.fragment text
  subquery_expr q ih := by
    rw [Expr.layout]
    exact Regular.named q.name (Regular.parenthesized ih)
  value v := by
    rw [Operand.form]
    exact Regular.slot (.ok v)
  deferred supply := by
    rw [Operand.form]
    exact Regular.slot supply
  raw_operand text := by
    rw [Operand.form]
    exact Regular.fragment text
  list items ih := by
    rw [Operand.form]
    intro l member
    obtain ⟨a, inItems, rfl⟩ := List.mem_map.mp member
    exact (ih a inItems).layout
  subquery_operand q ih := by
    rw [Operand.form]
    exact Regular.named q.name (Regular.parenthesized ih)
  test c field comparison operand fieldIh operandIh := by
    rw [Condition.layout]
    exact Comparison.regular_layout fieldIh operandIh
  group c children ih := by
    rw [Condition.layout_group]
    split
    · exact Regular.nil
    · exact Regular.parenthesized (Regular.chained (Condition.regular_siblingLayouts ih))
  product table ih := by
    rw [Join.layout]
    exact Regular.cons (by decide) (Regular.cons (by decide) ih)
  matching kind table on tableIh onIh := by
    have joinKind : IsSeparator kind.sql := by
      cases kind <;> decide
    rw [Join.layout]
    refine Regular.cons joinKind (Regular.cons (by decide) ?_)
    split
    · exact tableIh
    · exact Regular.keyword tableIh (by decide) onIh
  clauses q columns source joins filters havings := by
    have columnLayouts : ∀ l ∈ q.columns.map Expr.layout, l.Regular :=
      List.forall_mem_map.mpr columns
    have joinLayouts : ∀ l ∈ q.joins.map Join.layout, l.Regular :=
      List.forall_mem_map.mpr joins
    have groupLayouts : ∀ l ∈ q.groupKeys.map fun key => [Piece.fragment key], Regular l :=
      List.forall_mem_map.mpr fun key _ => Regular.fragment key
    have orderLayouts : ∀ l ∈ q.orderKeys.map orderKeyLayout, l.Regular :=
      List.forall_mem_map.mpr fun key _ => regular_orderKeyLayout key
    rw [bodyLayout_eq]
    apply Regular.separated (by decide)
    simp only [List.forall_mem_append, List.forall_mem_cons, and_assoc]
    exact ⟨regular_selectLayout columnLayouts, regular_sourceLayout source, joinLayouts,
      regular_conditionLayout (by decide) (Condition.regular_siblingLayouts filters),
      regular_listLayout (by decide) groupLayouts,
      regular_conditionLayout (by decide) (Condition.regular_siblingLayouts havings),
      regular_listLayout (by decide) orderLayouts,
      regular_pageLayout q.limit.isSeparator_limitClause,
      regular_pageLayout q.fetch.isSeparator_fetchClause⟩

theorem Query.regular_layout (q : Query) : q.layout.Regular := by
  have body := regular_layout_induction.query q
  unfold Query.layout
  cases q.name with
  | none => exact body
  | some name => exact Regular.named (some name) (Regular.parenthesized body)

end SqlSelect
