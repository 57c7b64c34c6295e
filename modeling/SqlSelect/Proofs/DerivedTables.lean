import SqlSelect.Proofs.Contexts
import SqlSelect.Proofs.QueryLayout

/-!
# The name of a derived table

A query that is used as a source can bring its name along, or the name can be given where it is
used, and then it replaces any name that the query brings. Only the name in effect matters: the
ways to give it cannot be told apart, neither in the outer query nor in any query around that. A
source that is chosen later leaves nothing of an earlier one.

## Implementation notes

Queries are compared by what a query around them looks at: name, layout and faults. That the
comparison goes through every context is proved by one lemma for each way to stand inside
something larger.
-/

namespace SqlSelect

/-- A query around them does not tell the queries apart, and neither does a session. -/
structure Query.Equivalent (q r : Query) : Prop where
  name : q.name = r.name
  pinned : q.pinned = r.pinned
  layout : q.bodyLayout = r.bodyLayout
  fault : ∀ d, q.fault? d = r.fault? d

/-- A comparison does not tell the operands apart. -/
structure Operand.Equivalent (a b : Operand) : Prop where
  count : a.count = b.count
  form : a.form = b.form
  fault : ∀ d, a.fault? d = b.fault? d

/-- Neither a group, a join nor a query tells the conditions apart. -/
structure Condition.Equivalent (x y : Condition) : Prop where
  empty : x.isEmpty = y.isEmpty
  connective : x.connective = y.connective
  layout : x.layout = y.layout
  fault : ∀ d, x.fault? d = y.fault? d

/-- A query does not tell the joins apart. -/
structure Join.Equivalent (i j : Join) : Prop where
  layout : i.layout = j.layout
  fault : ∀ d, i.fault? d = j.fault? d

section Subquery

variable {q r : Query}

theorem Expr.layout_subquery_congr (same : q.Equivalent r) :
    (Expr.subquery q).layout = (Expr.subquery r).layout := by
  rw [Expr.layout, Expr.layout, same.layout, same.name]

theorem Expr.fault?_subquery_congr (same : q.Equivalent r) (d : Dialect) :
    (Expr.subquery q).fault? d = (Expr.subquery r).fault? d := by
  rw [Expr.fault?, Expr.fault?, same.fault]

theorem Expr.joinFault?_subquery_congr (same : q.Equivalent r) (d : Dialect) :
    (Expr.subquery q).joinFault? d = (Expr.subquery r).joinFault? d := by
  rw [Expr.joinFault?, Expr.joinFault?, same.fault, same.name]

end Subquery

namespace Operand.Equivalent

variable {a b : Operand} {q r : Query}

theorem subquery (same : q.Equivalent r) : (Operand.subquery q).Equivalent (.subquery r) where
  count := rfl
  form := by rw [Operand.form, Operand.form, same.layout, same.name]
  fault d := by rw [fault?, fault?, same.fault]

theorem item (before after : List Operand) (same : a.Equivalent b) :
    (Operand.list (before ++ a :: after)).Equivalent (.list (before ++ b :: after)) where
  count := by simp [Operand.count]
  form := by simp only [Operand.form, List.map_append, List.map_cons, same.form]
  fault d := by
    simp only [fault?, firstFault?_eq_findSome?, List.findSome?_append, findSome?_cons_eq_or,
      same.fault]

end Operand.Equivalent

namespace Condition

variable {x y : Condition} {a b : Operand} {q r : Query}

theorem siblingLayouts_exchange (before after : List Condition) (same : x.Equivalent y) :
    siblingLayouts (before ++ x :: after) = siblingLayouts (before ++ y :: after) := by
  rw [siblingLayouts, siblingLayouts]
  cases kept : y.isEmpty <;> simp [same.empty, kept, same.connective, same.layout]

theorem findSome?_fault?_exchange (before after : List Condition) (same : x.Equivalent y)
    (d : Dialect) :
    (before ++ x :: after).findSome? (fault? d) = (before ++ y :: after).findSome? (fault? d) := by
  simp only [List.findSome?_append, findSome?_cons_eq_or, same.fault]

namespace Equivalent

theorem field (c : Connective) (comparison : Comparison) (operand : Operand)
    (same : q.Equivalent r) :
    (test c (.subquery q) comparison operand).Equivalent
      (test c (.subquery r) comparison operand) where
  empty := by simp
  connective := rfl
  layout := by rw [Condition.layout, Condition.layout, Expr.layout_subquery_congr same]
  fault d := by
    rw [fault?, fault?, Expr.fault?_subquery_congr same]
    rfl

theorem operand (c : Connective) (field : Expr) (comparison : Comparison)
    (same : a.Equivalent b) :
    (test c field comparison a).Equivalent (test c field comparison b) where
  empty := by simp
  connective := rfl
  layout := by rw [Condition.layout, Condition.layout, same.form]
  fault d := by
    rw [fault?, fault?, Fault.ofBounds?, Fault.ofBounds?, same.count, same.fault]

theorem group (c : Connective) (before after : List Condition) (same : x.Equivalent y) :
    (Condition.group c (before ++ x :: after)).Equivalent
      (.group c (before ++ y :: after)) where
  empty := by
    rw [isEmpty_group, isEmpty_group]
    exact areEmpty_exchange before after same.empty
  connective := rfl
  layout := by
    rw [layout_group, layout_group, areEmpty_exchange before after same.empty,
      siblingLayouts_exchange before after same]
  fault d := by
    rw [fault?, fault?, firstFault?_eq_findSome?, firstFault?_eq_findSome?]
    exact findSome?_fault?_exchange before after same d

end Equivalent

end Condition

namespace Join.Equivalent

variable {x y : Condition} {q r : Query}

theorem product (same : q.Equivalent r) :
    (Join.product (.subquery q)).Equivalent (.product (.subquery r)) where
  layout := by rw [Join.layout, Join.layout, Expr.layout_subquery_congr same]
  fault d := by rw [fault?, fault?, Expr.joinFault?_subquery_congr same]

theorem table (kind : JoinKind) (on : Condition) (same : q.Equivalent r) :
    (Join.matching kind (.subquery q) on).Equivalent (.matching kind (.subquery r) on) where
  layout := by rw [Join.layout, Join.layout, Expr.layout_subquery_congr same]
  fault d := by
    rw [fault?, fault?, Expr.joinFault?_subquery_congr same]
    rfl

theorem on (kind : JoinKind) (table : Expr) (same : x.Equivalent y) :
    (Join.matching kind table x).Equivalent (.matching kind table y) where
  layout := by rw [Join.layout, Join.layout, same.empty, same.layout]
  fault d := by rw [fault?, fault?, same.empty, same.fault]

end Join.Equivalent

namespace Query.Equivalent

variable {q r s t : Query} {x y : Condition} {i j : Join}

theorem column (outer : Query) (before after : List Expr) (same : q.Equivalent r) :
    Query.Equivalent { outer with columns := before ++ .subquery q :: after }
      { outer with columns := before ++ .subquery r :: after } where
  name := rfl
  pinned := rfl
  layout := by
    simp only [bodyLayout_eq, List.map_append, List.map_cons, Expr.layout_subquery_congr same]
  fault d := by
    simp only [fault?_eq, List.findSome?_append, findSome?_cons_eq_or,
      Expr.fault?_subquery_congr same]

/-- Of the names that a source has, only the one in effect can be seen. -/
theorem source (outer : Query) {given other : Option String}
    (layout : q.bodyLayout = r.bodyLayout) (fault : ∀ d, q.fault? d = r.fault? d)
    (named : given.or q.name = other.or r.name) :
    Query.Equivalent { outer with source := some ⟨.subquery q, given⟩ }
      { outer with source := some ⟨.subquery r, other⟩ } where
  name := rfl
  pinned := rfl
  layout := by
    rw [bodyLayout_eq, bodyLayout_eq]
    simp only [sourceLayout, layout, named]
  fault d := by
    rw [fault?_eq, fault?_eq]
    simp only [sourceFault?, fault, named]

theorem join (outer : Query) (before after : List Join) (same : i.Equivalent j) :
    Query.Equivalent { outer with joins := before ++ i :: after }
      { outer with joins := before ++ j :: after } where
  name := rfl
  pinned := rfl
  layout := by simp only [bodyLayout_eq, List.map_append, List.map_cons, same.layout]
  fault d := by
    simp only [fault?_eq, List.findSome?_append, findSome?_cons_eq_or, same.fault]

theorem filter (outer : Query) (before after : List Condition) (same : x.Equivalent y) :
    Query.Equivalent { outer with filters := before ++ x :: after }
      { outer with filters := before ++ y :: after } where
  name := rfl
  pinned := rfl
  layout := by
    simp only [bodyLayout_eq, Condition.siblingLayouts_exchange before after same]
  fault d := by
    simp only [fault?_eq, Condition.findSome?_fault?_exchange before after same]

theorem having (outer : Query) (before after : List Condition) (same : x.Equivalent y) :
    Query.Equivalent { outer with havings := before ++ x :: after }
      { outer with havings := before ++ y :: after } where
  name := rfl
  pinned := rfl
  layout := by
    simp only [bodyLayout_eq, Condition.siblingLayouts_exchange before after same]
  fault d := by
    simp only [fault?_eq, Condition.findSome?_fault?_exchange before after same]

end Query.Equivalent

section Exchange

variable {q r : Query}

mutual

/-- An expression with a query in its open place is a query around it. -/
theorem Expr.Context.equivalent {p : Place} (same : q.Equivalent r) :
    ∀ {K : Expr → Expr}, Expr.Context p K →
      ∃ s t : Query, s.Equivalent t ∧ K (.subquery q) = .subquery s ∧
        K (.subquery r) = .subquery t
  | _, .here => ⟨q, r, same, rfl, rfl⟩
  | _, .subquery inner => ⟨_, _, inner.equivalent same, rfl, rfl⟩

theorem Operand.Context.equivalent {p : Place} (same : q.Equivalent r) :
    ∀ {K : Expr → Operand}, Operand.Context p K →
      (K (.subquery q)).Equivalent (K (.subquery r))
  | _, .item before after => .item before after (.subquery same)
  | _, .list before after inner => .item before after (inner.equivalent same)
  | _, .subquery inner => .subquery (inner.equivalent same)

theorem Condition.Context.equivalent {p : Place} (same : q.Equivalent r) :
    ∀ {K : Expr → Condition}, Condition.Context p K →
      (K (.subquery q)).Equivalent (K (.subquery r))
  | _, .field c comparison operand inner => by
      obtain ⟨s, t, around, ofFirst, ofSecond⟩ := inner.equivalent same
      simp only [ofFirst, ofSecond]
      exact .field c comparison operand around
  | _, .operand c field comparison => .operand c field comparison (.subquery same)
  | _, .inOperand c field comparison inner =>
      .operand c field comparison (inner.equivalent same)
  | _, .group c before after inner => .group c before after (inner.equivalent same)

theorem Join.Context.equivalent {p : Place} (same : q.Equivalent r) :
    ∀ {K : Expr → Join}, Join.Context p K → (K (.subquery q)).Equivalent (K (.subquery r))
  | _, .product inner => by
      obtain ⟨s, t, around, ofFirst, ofSecond⟩ := inner.equivalent same
      simp only [ofFirst, ofSecond]
      exact .product around
  | _, .table kind on inner => by
      obtain ⟨s, t, around, ofFirst, ofSecond⟩ := inner.equivalent same
      simp only [ofFirst, ofSecond]
      exact .table kind on around
  | _, .on kind table inner => .on kind table (inner.equivalent same)

/-- In any place, at any depth, one of the queries can be exchanged for the other. -/
theorem Query.Context.equivalent {p : Place} (same : q.Equivalent r) :
    ∀ {K : Expr → Query}, Query.Context p K →
      (K (.subquery q)).Equivalent (K (.subquery r))
  | _, .column outer before after inner => by
      obtain ⟨s, t, around, ofFirst, ofSecond⟩ := inner.equivalent same
      simp only [ofFirst, ofSecond]
      exact .column outer before after around
  | _, .source outer inner => by
      obtain ⟨s, t, around, ofFirst, ofSecond⟩ := inner.equivalent same
      simp only [ofFirst, ofSecond]
      exact .source outer around.layout around.fault (congrArg none.or around.name)
  | _, .namedSource outer name => .source outer same.layout same.fault rfl
  | _, .inNamedSource outer name inner => by
      have around := inner.equivalent same
      exact .source outer around.layout around.fault rfl
  | _, .join outer before after inner =>
      .join outer before after (inner.equivalent same)
  | _, .filter outer before after inner =>
      .filter outer before after (inner.equivalent same)
  | _, .having outer before after inner =>
      .having outer before after (inner.equivalent same)

end

end Exchange

namespace Query

theorem Equivalent.sameAnswers {q r : Query} (same : q.Equivalent r) : q.SameAnswers r := by
  have layouts : q.layout = r.layout := by
    rw [Query.layout, Query.layout, same.name, same.layout]
  exact sameAnswers_of_layout layouts same.pinned same.fault

section Names

variable (q s : Query)

theorem bodyLayout_apply_name (name : String) :
    (s.apply (.name name)).bodyLayout = s.bodyLayout := by
  rw [bodyLayout_eq, bodyLayout_eq]
  rfl

theorem fault?_apply_name (name : String) (d : Dialect) :
    (s.apply (.name name)).fault? d = s.fault? d := by
  rw [fault?_eq, fault?_eq]
  rfl

/-- A name that the query of a source brings is as good as one that is given there. -/
theorem takeFrom_brought_name (a : String) :
    (q.takeFrom (.subquery (s.apply (.name a))) none).Equivalent
      (q.takeFrom (.subquery s) (some a)) :=
  .source q (bodyLayout_apply_name s a) (fault?_apply_name s a) rfl

/-- A name that is given replaces the one that the query of a source brings. -/
theorem takeFrom_replaced_name (a b : String) :
    (q.takeFrom (.subquery (s.apply (.name b))) (some a)).Equivalent
      (q.takeFrom (.subquery s) (some a)) :=
  .source q (bodyLayout_apply_name s b) (fault?_apply_name s b) rfl

end Names

/-- An edit keeps whatever source there is, or replaces it. -/
theorem apply_with_source (q : Query) (source : Option (Source Expr)) (e : Edit) :
    apply { q with source } e = q.apply e ∨
      apply { q with source } e = { q.apply e with source } := by
  cases e with
  | takeFrom table name => exact .inl rfl
  | _ => exact .inr rfl

/-- Once a source has been chosen, no earlier one matters. -/
theorem applyAll_with_source (q : Query) (source : Option (Source Expr)) (between after : List Edit)
    (table : Expr) (name : Option String) :
    applyAll { q with source } (between ++ .takeFrom table name :: after) =
      q.applyAll (between ++ .takeFrom table name :: after) := by
  induction between generalizing q with
  | nil => rfl
  | cons e between ih =>
      rw [List.cons_append, applyAll_cons, applyAll_cons]
      obtain replaced | kept := apply_with_source q source e
      · rw [replaced]
      · rw [kept]
        exact ih (q.apply e)

/-- The three ways to name a query as a source agree in every answer, also inside other queries at
any depth, and the query is written in its parentheses behind the name in effect. A source
that is chosen later leaves nothing of an earlier one. -/
theorem derived_table_names_agree (q s : Query) (a b : String) :
    let brought := q.takeFrom (.subquery (s.apply (.name a))) none
    let given := q.takeFrom (.subquery s) (some a)
    let replaced := q.takeFrom (.subquery (s.apply (.name b))) (some a)
    (brought.SameAnswers given ∧ replaced.SameAnswers given) ∧
    (∀ (p : Place) (K : Expr → Query), Query.Context p K →
      (K (.subquery brought)).SameAnswers (K (.subquery given)) ∧
        (K (.subquery replaced)).SameAnswers (K (.subquery given))) ∧
    (∀ d, segments d given =
      (segments d q).set 1 ("FROM (" ++ (s.body d).text ++ ") AS " ++ a)) ∧
    ∀ (before between after : List Edit) (table later : Expr) (name laterName : Option String),
      q.applyAll (before ++ .takeFrom table name :: between ++
          .takeFrom later laterName :: after) =
        q.applyAll (before ++ between ++ .takeFrom later laterName :: after) := by
  intro brought given replaced
  have first : brought.Equivalent given := takeFrom_brought_name q s a
  have second : replaced.Equivalent given := takeFrom_replaced_name q s a b
  refine ⟨⟨first.sameAnswers, second.sameAnswers⟩, ?nested, ?written, ?later⟩
  case nested =>
    intro p K context
    exact ⟨(context.equivalent first).sameAnswers, (context.equivalent second).sameAnswers⟩
  case written =>
    intro d
    simp only [closing_name_eq, String.append_assoc]
    simp only [given, segments, takeFrom, sourceText, Rendering.nameText, Option.some_or,
      List.set, String.append_assoc]
  case later =>
    intro before between after table later name laterName
    have overwritten := applyAll_with_source (q.applyAll before) (some { table, name }) between
      after later laterName
    simpa [apply, takeFrom] using overwritten

/-- A place for candidates in a group of the condition of a join. -/
def joinedPlace (e : Expr) : Query where
  source := some { table := .raw "t" }
  joins := [.matching .left (.raw "u") (.group .and [.test .and (.raw "a") .isIn e.operand])]

/-- It brings a name of its own. -/
def namedTable : Query where
  source := some { table := .raw "v" }
  filters := [.test .and (.raw "c") .equal (.value (.bool true))]
  name := some "w"

/-- Two levels around the source, the name that is in effect is written in the same place. -/
theorem derived_table_names_agree_joined :
    let text := "SELECT * FROM t LEFT JOIN u ON (a IN " ++
      "(SELECT b FROM (SELECT * FROM v WHERE c = 1) AS x))"
    let outer : Query := { columns := [.raw "b"] }
    let brought := outer.takeFrom (.subquery (namedTable.apply (.name "x"))) none
    let replaced := outer.takeFrom (.subquery (namedTable.apply (.name "y"))) (some "x")
    Query.Context (.operand .isIn) joinedPlace ∧
      ((joinedPlace (.subquery brought)).sqlIn .oracle).value = text ∧
      ((joinedPlace (.subquery replaced)).sqlIn .oracle).value = text := by
  intro text outer brought replaced
  have context : Query.Context (.operand .isIn) joinedPlace :=
    .join { source := some { table := .raw "t" } } [] [] <|
      .on .left (.raw "u") <| .group .and [] [] (.operand .and (.raw "a") .isIn)
  obtain ⟨-, nested, -, -⟩ := derived_table_names_agree outer namedTable "x" "y"
  obtain ⟨ofBrought, ofReplaced⟩ := nested _ _ context
  have written : ((joinedPlace (.subquery (outer.takeFrom (.subquery namedTable) (some "x")))).sqlIn
      .oracle).value = text := by
    decide +kernel
  refine ⟨context, ?_, ?_⟩
  · rw [ofBrought.sqlIn]
    exact written
  · rw [ofReplaced.sqlIn]
    exact written

end Query

end SqlSelect
