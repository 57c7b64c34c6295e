import Mathlib.Logic.Relation
import SqlSelect.Proofs.FirstFault
import SqlSelect.Query.Answer

/-!
# What an accepted query looks like

A query is accepted if it is sound and if the queries that it checks are, and those that they
check, at any depth. What it means to be sound is said of one query at a time, by what stands
in its clauses, without any order. The order in which requirements are listed only decides
which fault is reported.

## Implementation notes

Comparisons are found in groups of groups, and operands in lists of lists, so both have a
relation for what stands in them at any depth. A condition of a join that asks for nothing
contains no comparison, and needs no exception.
-/

namespace SqlSelect

/-- An operand is the other one, or stands in it, however deep in lists. -/
inductive Operand.Contains : Operand → Operand → Prop
  | itself (a : Operand) : Contains a a
  | list {items : List Operand} {a b : Operand} (member : a ∈ items)
      (inItem : Contains a b) : Contains (.list items) b

def Join.table : Join → Expr
  | .product table => table
  | .matching _ table _ => table

namespace Query

/-- A condition stands in one of the clauses of the query. -/
inductive HasCondition (q : Query) (c : Condition) : Prop
  | filter (member : c ∈ q.filters)
  | having (member : c ∈ q.havings)
  | join {kind : JoinKind} {table : Expr} (member : .matching kind table c ∈ q.joins)

/-- A comparison stands in one of the clauses of the query. -/
def Compares (q : Query) (field : Expr) (comparison : Comparison) (operand : Operand) : Prop :=
  ∃ c, q.HasCondition c ∧ c.Contains field comparison operand

/-- The query has another one in a place that is checked. -/
inductive Checks (q : Query) : Query → Prop
  | column {r : Query} (place : .subquery r ∈ q.columns) : Checks q r
  | source {r : Query} {name : Option String} (place : q.source = some ⟨.subquery r, name⟩) :
      Checks q r
  | join {r : Query} {j : Join} (member : j ∈ q.joins) (place : j.table = .subquery r) :
      Checks q r
  | field {r : Query} {comparison : Comparison} {operand : Operand}
      (place : q.Compares (.subquery r) comparison operand) : Checks q r
  | operand {r : Query} {field : Expr} {comparison : Comparison} {operand : Operand}
      (compared : q.Compares field comparison operand)
      (written : ¬ (comparison = .isNull ∨ comparison = .isNotNull))
      (place : operand.Contains (.subquery r)) : Checks q r

/-- The clauses of a query are as they have to be, whatever the queries in them are. -/
structure Sound (q : Query) : Prop where
  source : q.source ≠ none
  /-- A query that rows are taken from has a name, of its own or given with it. -/
  sourceName : ∀ r name, q.source = some ⟨.subquery r, name⟩ → name ≠ none ∨ r.name ≠ none
  joinName : ∀ j ∈ q.joins, ∀ r, j.table = .subquery r → r.name ≠ none
  /-- There is a comparison in the condition of a join, unless every row matches. -/
  joinCondition : ∀ kind table on, .matching kind table on ∈ q.joins → kind ≠ .cross →
    ∃ field comparison operand, on.Contains field comparison operand
  bounds : ∀ field comparison operand, q.Compares field comparison operand →
    comparison = .between ∨ comparison = .notBetween → ∃ low high, operand = .list [low, high]
  /-- A null check has no operand, so what is given for one does not matter. -/
  value : ∀ field comparison operand, q.Compares field comparison operand →
    ¬ (comparison = .isNull ∨ comparison = .isNotNull) →
      ∀ v, operand.Contains (.value v) → v.HasLiteral
  deferred : ∀ field comparison operand, q.Compares field comparison operand →
    ¬ (comparison = .isNull ∨ comparison = .isNotNull) →
      ∀ supply, operand.Contains (.deferred supply) → ∃ v, supply = .ok v ∧ v.HasLiteral
  onePage : q.limit.count = 0 ∨ q.fetch.count = 0

end Query

/-- What is asked of an operand is asked wherever it stands. -/
theorem Operand.Contains.requirements_subset {a b : Operand} (contained : a.Contains b) :
    b.requirements ⊆ a.requirements := by
  induction contained with
  | itself => exact List.Subset.refl _
  | list member inItem ih =>
      rw [Operand.requirements]
      exact List.Subset.trans ih fun r asked => List.mem_flatMap.mpr ⟨_, member, asked⟩

theorem Condition.Contains.requirements_subset {c : Condition} {field : Expr}
    {comparison : Comparison} {operand : Operand}
    (contained : c.Contains field comparison operand) :
    (Condition.test .and field comparison operand).requirements ⊆ c.requirements := by
  induction contained with
  | test => rw [Condition.requirements, Condition.requirements]; exact List.Subset.refl _
  | group c member inChild ih =>
      rw [Condition.requirements_group]
      exact List.Subset.trans ih fun r asked => List.mem_flatMap.mpr ⟨_, member, asked⟩

/-- What is asked of an operand is asked of something in it that is not a list. -/
theorem Operand.exists_contains {a : Operand} {r : Requirement} (asked : r ∈ a.requirements) :
    (∃ v, a.Contains (.value v) ∧ r = .literal (.ok v)) ∨
      (∃ supply, a.Contains (.deferred supply) ∧ r = .literal supply) ∨
      ∃ q, a.Contains (.subquery q) ∧ r ∈ Query.requirements q := by
  induction a using Operand.induction with
  | value v =>
      rw [Operand.requirements] at asked
      exact .inl ⟨v, .itself _, List.mem_singleton.mp asked⟩
  | deferred supply =>
      rw [Operand.requirements] at asked
      exact .inr (.inl ⟨supply, .itself _, List.mem_singleton.mp asked⟩)
  | raw text =>
      rw [Operand.requirements] at asked
      cases asked
  | list items ih =>
      rw [Operand.requirements] at asked
      obtain ⟨a, member, inItem⟩ := List.mem_flatMap.mp asked
      rcases ih a member inItem with
        ⟨v, contained, rfl⟩ | ⟨supply, contained, rfl⟩ | ⟨q, contained, inner⟩
      · exact .inl ⟨v, .list member contained, rfl⟩
      · exact .inr (.inl ⟨supply, .list member contained, rfl⟩)
      · exact .inr (.inr ⟨q, .list member contained, inner⟩)
  | subquery q =>
      rw [Operand.requirements] at asked
      exact .inr (.inr ⟨q, .itself _, asked⟩)

/-- What is asked of a condition is asked of a comparison in it. -/
theorem Condition.exists_contains {c : Condition} {r : Requirement}
    (asked : r ∈ c.requirements) :
    ∃ field comparison operand, c.Contains field comparison operand ∧
      r ∈ (Condition.test .and field comparison operand).requirements := by
  induction c using Condition.induction with
  | test c field comparison operand =>
      refine ⟨field, comparison, operand, .test .., ?_⟩
      exact mem_requirements_test.mpr (mem_requirements_test.mp asked)
  | group c children ih =>
      rw [Condition.requirements_group] at asked
      obtain ⟨x, member, inChild⟩ := List.mem_flatMap.mp asked
      obtain ⟨field, comparison, operand, contained, ofTest⟩ := ih x member inChild
      exact ⟨field, comparison, operand, .group c member contained, ofTest⟩

theorem Join.mem_requirements {j : Join} {r : Requirement} :
    r ∈ j.requirements ↔
      r ∈ j.table.joinRequirements ∨ ∃ kind table on, j = .matching kind table on ∧
        (r = .matching kind table on ∨ r ∈ on.requirements) := by
  cases j with
  | product table => simp [requirements, Join.table]
  | matching kind table on => simp [requirements, Join.table]

namespace Query

variable {q r : Query}

/-- What is asked of a comparison in a query is asked of the query. -/
theorem Compares.requirements_subset {field : Expr} {comparison : Comparison}
    {operand : Operand} (compared : q.Compares field comparison operand) :
    (Condition.test .and field comparison operand).requirements ⊆ q.requirements := by
  obtain ⟨c, place, contained⟩ := compared
  intro p asked
  have ofCondition := contained.requirements_subset asked
  cases place with
  | filter member => exact mem_requirements.mpr (.filter member ofCondition)
  | having member => exact mem_requirements.mpr (.having member ofCondition)
  | join member =>
      apply mem_requirements.mpr (.join member _)
      exact Join.mem_requirements.mpr (.inr ⟨_, _, _, rfl, .inr ofCondition⟩)

/-- What is asked of the operand of a comparison, unless it is a null check. -/
theorem Compares.mem_requirements_of_contains {field : Expr} {comparison : Comparison}
    {operand a : Operand} (compared : q.Compares field comparison operand)
    (written : ¬ (comparison = .isNull ∨ comparison = .isNotNull))
    (contained : operand.Contains a) {p : Requirement} (asked : p ∈ a.requirements) :
    p ∈ q.requirements := by
  apply compared.requirements_subset
  have ofOperand := contained.requirements_subset asked
  exact Condition.mem_requirements_test.mpr (.inr ⟨written, .inr ofOperand⟩)

/-- What is asked of a query that is checked is asked of the query that checks it. -/
theorem Checks.requirements_subset (checks : q.Checks r) : r.requirements ⊆ q.requirements := by
  intro p asked
  cases checks with
  | column place =>
      apply mem_requirements.mpr (.column place _)
      exact Expr.mem_requirements.mpr ⟨r, rfl, asked⟩
  | source place =>
      apply mem_requirements.mpr (.sourceTable _)
      exact mem_sourceRequirements.mpr ⟨r, _, place, .inr asked⟩
  | join member place =>
      apply mem_requirements.mpr (.join member _)
      apply Join.mem_requirements.mpr (.inl _)
      exact Expr.mem_joinRequirements.mpr ⟨r, place, .inr asked⟩
  | field compared =>
      apply compared.requirements_subset
      apply Condition.mem_requirements_test.mpr (.inl _)
      exact Expr.mem_requirements.mpr ⟨r, rfl, asked⟩
  | operand compared written contained =>
      apply compared.mem_requirements_of_contains written contained
      rw [Operand.requirements]
      exact asked

/-- A query whose requirements are met is sound. -/
theorem Sound.of_met (met : ∀ p ∈ q.requirements, p.Met) : q.Sound where
  source := met (.source q.source) (mem_requirements.mpr (.source rfl))
  sourceName r name place := by
    have named : name.or r.name ≠ none := by
      apply met (.tableName .source (name.or r.name))
      apply mem_requirements.mpr (.sourceTable _)
      exact mem_sourceRequirements.mpr ⟨r, name, place, .inl rfl⟩
    exact not_and_or.mp (mt Option.or_eq_none_iff.mpr named)
  joinName j member r place := by
    apply met (.tableName .join r.name)
    apply mem_requirements.mpr (.join member _)
    apply Join.mem_requirements.mpr (.inl _)
    exact Expr.mem_joinRequirements.mpr ⟨r, place, .inl rfl⟩
  joinCondition kind table on member notCross := by
    have matched : (Requirement.matching kind table on).Met := by
      apply met
      apply mem_requirements.mpr (.join member _)
      exact Join.mem_requirements.mpr (.inr ⟨kind, table, on, rfl, .inl rfl⟩)
    exact matched.resolve_left notCross
  bounds field comparison operand compared range := by
    have written : ¬ (comparison = .isNull ∨ comparison = .isNotNull) := by
      rcases range with rfl | rfl <;> decide
    have bounded : (Requirement.bounds field comparison operand).Met := by
      apply met
      apply compared.requirements_subset
      exact Condition.mem_requirements_test.mpr (.inr ⟨written, .inl rfl⟩)
    exact bounded range
  value field comparison operand compared written v contained := by
    have literal : (Requirement.literal (.ok v)).Met := by
      apply met
      apply compared.mem_requirements_of_contains written contained
      rw [Operand.requirements]
      exact List.mem_singleton_self _
    obtain ⟨w, same, hasLiteral⟩ := literal
    cases same
    exact hasLiteral
  deferred field comparison operand compared written supply contained := by
    apply met (.literal supply)
    apply compared.mem_requirements_of_contains written contained
    rw [Operand.requirements]
    exact List.mem_singleton_self _
  onePage := met (.onePage q.limit q.fetch) (mem_requirements.mpr (.page rfl))

namespace Sound

variable (sound : q.Sound) (inner : ∀ r, q.Checks r → ∀ p ∈ r.requirements, p.Met)

include sound inner

theorem met_of_compares {field : Expr} {comparison : Comparison} {operand : Operand}
    (compared : q.Compares field comparison operand) {p : Requirement}
    (asked : p ∈ (Condition.test .and field comparison operand).requirements) : p.Met := by
  rcases Condition.mem_requirements_test.mp asked with ofField | ⟨written, rfl | ofOperand⟩
  · obtain ⟨r, rfl, ofQuery⟩ := Expr.mem_requirements.mp ofField
    exact inner r (.field compared) p ofQuery
  · exact sound.bounds field comparison operand compared
  · rcases Operand.exists_contains ofOperand with
      ⟨v, contained, rfl⟩ | ⟨supply, contained, rfl⟩ | ⟨r, contained, ofQuery⟩
    · exact ⟨v, rfl, sound.value _ _ _ compared written v contained⟩
    · exact sound.deferred _ _ _ compared written supply contained
    · exact inner r (.operand compared written contained) p ofQuery

theorem met_of_condition {c : Condition} (place : q.HasCondition c) {p : Requirement}
    (asked : p ∈ c.requirements) : p.Met := by
  obtain ⟨field, comparison, operand, contained, ofTest⟩ := Condition.exists_contains asked
  exact met_of_compares sound inner ⟨c, place, contained⟩ ofTest

theorem met_of_source {p : Requirement} (asked : p ∈ sourceRequirements q.source) : p.Met := by
  obtain ⟨r, name, place, rfl | ofQuery⟩ := mem_sourceRequirements.mp asked
  · have named := sound.sourceName r name place
    exact mt Option.or_eq_none_iff.mp (not_and_or.mpr named)
  · exact inner r (.source place) p ofQuery

theorem met_of_join {j : Join} (member : j ∈ q.joins) {p : Requirement}
    (asked : p ∈ j.requirements) : p.Met := by
  rcases Join.mem_requirements.mp asked with ofTable | ⟨kind, table, on, rfl, rfl | ofCondition⟩
  · obtain ⟨r, place, rfl | ofQuery⟩ := Expr.mem_joinRequirements.mp ofTable
    · exact sound.joinName j member r place
    · exact inner r (.join member place) p ofQuery
  · by_cases cross : kind = .cross
    · exact .inl cross
    · exact .inr (sound.joinCondition kind table on member cross)
  · exact met_of_condition sound inner (.join member) ofCondition

/-- All requirements on a sound query are met if they are on the queries that it checks. -/
theorem met {p : Requirement} (asked : p ∈ q.requirements) : p.Met := by
  cases mem_requirements.mp asked with
  | column member ofColumn =>
      obtain ⟨r, rfl, ofQuery⟩ := Expr.mem_requirements.mp ofColumn
      exact inner r (.column member) p ofQuery
  | source same =>
      rw [same]
      exact sound.source
  | sourceTable ofSource => exact met_of_source sound inner ofSource
  | join member ofJoin => exact met_of_join sound inner member ofJoin
  | filter member ofFilter => exact met_of_condition sound inner (.filter member) ofFilter
  | having member ofHaving => exact met_of_condition sound inner (.having member) ofHaving
  | page same =>
      rw [same]
      exact sound.onePage

end Sound

/-- Every query that stands in a comparison has the property. -/
def InComparisons (P : Query → Prop) (c : Condition) : Prop :=
  ∀ field comparison operand, c.Contains field comparison operand →
    (∀ r, field = .subquery r → P r) ∧ ∀ r, operand.Contains (.subquery r) → P r

/-- A query is larger than those that it checks, so that they can be taken as known. -/
@[elab_as_elim]
theorem checks_induction {P : Query → Prop} (step : ∀ q, (∀ r, q.Checks r → P r) → P q)
    (q : Query) : P q := by
  have steps : Query.Induction (fun e => ∀ r, e = .subquery r → P r)
      (fun a => ∀ r, a.Contains (.subquery r) → P r) (InComparisons P)
      (fun j => (∀ r, j.table = .subquery r → P r) ∧
        ∀ kind table on, j = .matching kind table on → InComparisons P on) P :=
    { raw_expr := fun text r same => nomatch same
      subquery_expr := by
        rintro q ih r ⟨⟩
        exact ih
      value := fun v r contained => nomatch contained
      deferred := fun supply r contained => nomatch contained
      raw_operand := fun text r contained => nomatch contained
      list := by
        intro items ih r contained
        cases contained with
        | list member inItem => exact ih _ member r inItem
      subquery_operand := by
        rintro q ih r ⟨⟩
        exact ih
      test := by
        rintro c field comparison operand fieldIh operandIh _ _ _ ⟨⟩
        exact ⟨fieldIh, operandIh⟩
      group := by
        intro c children ih field comparison operand contained
        cases contained with
        | group _ member inChild => exact ih _ member field comparison operand inChild
      product := by
        intro table ih
        exact ⟨ih, fun kind table on same => nomatch same⟩
      matching := by
        intro kind table on tableIh onIh
        refine ⟨tableIh, ?_⟩
        rintro _ _ _ ⟨⟩
        exact onIh
      clauses := by
        intro q columns source joins filters havings
        have compared : ∀ field comparison operand, q.Compares field comparison operand →
            (∀ r, field = .subquery r → P r) ∧ ∀ r, operand.Contains (.subquery r) → P r := by
          rintro field comparison operand ⟨c, place, contained⟩
          cases place with
          | filter member => exact filters c member field comparison operand contained
          | having member => exact havings c member field comparison operand contained
          | join member => exact (joins _ member).2 _ _ c rfl field comparison operand contained
        apply step
        intro r checks
        cases checks with
        | column place => exact columns _ place r rfl
        | source place => exact source r _ place
        | join member place => exact (joins _ member).1 r place
        | field place => exact (compared _ _ _ place).1 r rfl
        | operand place _ contained => exact (compared _ _ _ place).2 r contained }
  exact steps.query q

/-- The requirements of a query are met exactly if all queries in it that are checked are
sound, the query itself included. -/
theorem met_iff_sound :
    (∀ p ∈ q.requirements, p.Met) ↔ ∀ r, Relation.ReflTransGen Checks q r → r.Sound := by
  constructor
  · intro met r path
    have inner : r.requirements ⊆ q.requirements := by
      induction path with
      | refl => exact List.Subset.refl _
      | tail _ checks ih => exact List.Subset.trans checks.requirements_subset ih
    exact Sound.of_met fun p asked => met p (inner asked)
  · induction q using checks_induction with
    | step q ih =>
        intro sound p asked
        apply (sound q .refl).met _ asked
        intro r checks
        apply ih r checks
        intro s path
        exact sound s (.head checks path)

/-- A query is accepted exactly if it and all queries that are checked in it are sound. If it
is not, its fault is that of the first requirement that is not met. -/
theorem check_exact (sessionDefault : Dialect) (q : Query) :
    ((q.check sessionDefault).value = .ok () ↔
      ∀ r, Relation.ReflTransGen Checks q r → r.Sound) ∧
    ∀ fault, (q.check sessionDefault).value = .error fault ↔
      ∃ before r after, q.requirements = before ++ r :: after ∧ (∀ p ∈ before, p.Met) ∧
        ¬ r.Met ∧ r.fault? = some fault := by
  constructor
  · rw [check_eq_ok_iff, fault?_eq_none_iff, met_iff_sound]
  · intro fault
    rw [check_eq_error_iff, fault?_eq_some_iff]

/-- A range in a column, in a query with two pages. -/
def rangeUnderPages (bounds : List Operand) : Query where
  columns := [.subquery
    { source := some { table := .raw "u" }
      filters := [.test .and (.raw "a") .between (.list bounds)] }]
  source := some { table := .raw "t" }
  limit := ⟨10, 0⟩
  fetch := ⟨5, 0⟩

/-- The number of bounds comes first, although it is asked for one level further down. With two
bounds only the pages are left. -/
theorem check_exact_rangeUnderPages :
    ((rangeUnderPages [.raw "1"]).check .mysql).value = .error (.boundCount "a" .between 1) ∧
      (∃ before r after, (rangeUnderPages [.raw "1"]).requirements = before ++ r :: after ∧
        (∀ p ∈ before, p.Met) ∧ ¬ r.Met ∧ r.fault? = some (.boundCount "a" .between 1)) ∧
      ((rangeUnderPages [.raw "1", .raw "2"]).check .mysql).value =
        .error (.twoPages ⟨10, 0⟩ ⟨5, 0⟩) ∧
      ∃ before r after, (rangeUnderPages [.raw "1", .raw "2"]).requirements =
          before ++ r :: after ∧
        (∀ p ∈ before, p.Met) ∧ ¬ r.Met ∧ r.fault? = some (.twoPages ⟨10, 0⟩ ⟨5, 0⟩) := by
  have inner : ((rangeUnderPages [.raw "1"]).check .mysql).value =
      .error (.boundCount "a" .between 1) := by
    decide +kernel
  have outer : ((rangeUnderPages [.raw "1", .raw "2"]).check .mysql).value =
      .error (.twoPages ⟨10, 0⟩ ⟨5, 0⟩) := by
    decide +kernel
  obtain ⟨-, first⟩ := check_exact .mysql (rangeUnderPages [.raw "1"])
  obtain ⟨-, second⟩ := check_exact .mysql (rangeUnderPages [.raw "1", .raw "2"])
  exact ⟨inner, (first _).mp inner, outer, (second _).mp outer⟩

end Query

end SqlSelect
