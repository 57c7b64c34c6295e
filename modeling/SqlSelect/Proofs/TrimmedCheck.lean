import SqlSelect.Proofs.NormalForm
import SqlSelect.Proofs.Trimming
import SqlSelect.Query.Answer

/-!
# A check looks into what is not written

The operand of a null check is neither written nor checked. The field of a comparison with an
empty set of candidates is not written, but the query in it is checked. Two queries that differ
in such operands alone have the same text in every dialect; a check answers alike for both if
the queries in their unwritten fields are accepted, and rejects a query if one of them is not.

## Implementation notes

That a search finds the same first fault without certain inner queries, provided that they are
accepted, is a relation with a lemma for each way to search. One induction over it gives both
what happens if those queries are accepted and what happens if one of them is not.
-/

namespace SqlSelect

/-- The query that the expression is, if it is one. -/
def Expr.queries : Expr → List Query
  | .raw _ => []
  | .subquery q => [q]

mutual

/-- The queries that an expression passes over when it is written. -/
def Expr.passed : Expr → List Query
  | .raw _ => []
  | .subquery q => Query.passed q

def Operand.passed : Operand → List Query
  | .value _ => []
  | .deferred _ => []
  | .raw _ => []
  | .list items => items.flatMap Operand.passed
  | .subquery q => Query.passed q

/-- The queries in the fields that a condition does not write. -/
def Condition.passed : Condition → List Query
  | .test _ field comparison operand =>
    if (comparison = .isIn ∨ comparison = .isNotIn) ∧ operand.isEmptyList then field.queries
    else if comparison = .isNull ∨ comparison = .isNotNull then field.passed
    else field.passed ++ operand.passed
  | .group _ children => children.flatMap Condition.passed

def Join.passed : Join → List Query
  | .product table => table.passed
  | .matching _ table on => table.passed ++ on.passed

def Query.passedSource : Option (Source Expr) → List Query
  | none => []
  | some ⟨table, _⟩ => table.passed

/-- The queries in the fields that a query does not write, at every depth. -/
def Query.passed : Query → List Query
  | { columns, source, joins, filters, havings, .. } =>
    columns.flatMap Expr.passed ++ Query.passedSource source ++ joins.flatMap Join.passed ++
      filters.flatMap Condition.passed ++ havings.flatMap Condition.passed

end

theorem Query.passed_eq (q : Query) :
    q.passed = q.columns.flatMap Expr.passed ++ passedSource q.source ++
      q.joins.flatMap Join.passed ++ q.filters.flatMap Condition.passed ++
      q.havings.flatMap Condition.passed := by
  cases q
  rw [Query.passed]

/-- The first fault of a whole is that of the part which is written, provided that the queries
passed over are without fault; and a whole without fault leaves none anywhere. -/
structure Fault.PassesOver (d : Dialect) (passed : List Query) (whole written : Option Fault) :
    Prop where
  of_passed : (∀ q ∈ passed, Query.fault? d q = none) → whole = written
  of_none : whole = none → written = none ∧ ∀ q ∈ passed, Query.fault? d q = none

namespace Fault.PassesOver

variable {d : Dialect} {passed others : List Query} {whole written first second : Option Fault}

theorem nothing (d : Dialect) (fault : Option Fault) : PassesOver d [] fault fault where
  of_passed _ := rfl
  of_none h := ⟨h, by simp⟩

/-- Behind a fault that is found first, nothing else matters. -/
theorem found (d : Dialect) (passed : List Query) (fault : Fault) :
    PassesOver d passed (some fault) (some fault) where
  of_passed _ := rfl
  of_none h := nomatch h

theorem of_accepted (accepted : ∀ q ∈ passed, Query.fault? d q = none) (fault : Option Fault) :
    PassesOver d passed fault fault where
  of_passed _ := rfl
  of_none h := ⟨h, accepted⟩

theorem queries (d : Dialect) (e : Expr) : PassesOver d e.queries (e.fault? d) none where
  of_passed accepted := by
    cases e with
    | raw text => rw [Expr.fault?]
    | subquery q =>
        rw [Expr.fault?]
        exact accepted q List.mem_cons_self
  of_none h := by
    refine ⟨rfl, fun q member => ?_⟩
    cases e with
    | raw text => cases member
    | subquery r =>
        rw [List.mem_singleton.mp member]
        rwa [Expr.fault?] at h

/-- Two searches one after the other. -/
theorem or (before : PassesOver d passed whole written)
    (behind : PassesOver d others first second) :
    PassesOver d (passed ++ others) (whole.or first) (written.or second) where
  of_passed accepted := by
    obtain ⟨ofPassed, ofOthers⟩ := List.forall_mem_append.mp accepted
    rw [before.of_passed ofPassed, behind.of_passed ofOthers]
  of_none h := by
    obtain ⟨noneBefore, noneBehind⟩ := Option.or_eq_none_iff.mp h
    obtain ⟨writtenBefore, ofPassed⟩ := before.of_none noneBefore
    obtain ⟨writtenBehind, ofOthers⟩ := behind.of_none noneBehind
    exact ⟨by rw [writtenBefore, writtenBehind, Option.or_none],
      List.forall_mem_append.mpr ⟨ofPassed, ofOthers⟩⟩

/-- A search through a list. -/
theorem findSome? {α β : Type} {f : α → Option Fault} {g : β → Option Fault} {trim : α → β}
    {queries : α → List Query} {xs : List α}
    (each : ∀ x ∈ xs, PassesOver d (queries x) (f x) (g (trim x))) :
    PassesOver d (xs.flatMap queries) (xs.findSome? f) ((xs.map trim).findSome? g) := by
  induction xs with
  | nil => exact nothing d none
  | cons x xs ih =>
      obtain ⟨first, others⟩ := List.forall_mem_cons.mp each
      rw [List.flatMap_cons, List.map_cons, findSome?_cons_eq_or, findSome?_cons_eq_or]
      exact first.or (ih others)

end Fault.PassesOver

/-- Behind the field of a comparison with an empty set of candidates nothing is at fault. -/
theorem Fault.test_none_of_noCandidates (d : Dialect) (field : Expr) {comparison : Comparison}
    {operand : Operand} (membership : comparison = .isIn ∨ comparison = .isNotIn)
    (empty : operand.isEmptyList = true) :
    (if comparison.isNullCheck then none
      else (Fault.ofBounds? field comparison operand).or (operand.fault? d)) = none := by
  have noItems : operand.fault? d = none := by
    unfold Operand.isEmptyList at empty
    split at empty
    · rw [Operand.fault?, Operand.firstFault?]
    · cases empty
  rw [noItems]
  rcases membership with rfl | rfl <;> rfl

/-- A comparison passes over the query in a field that is not written. -/
theorem Condition.passesOver_test {d : Dialect} (c : Connective) {field : Expr}
    (comparison : Comparison) {operand : Operand}
    (left : Fault.PassesOver d field.passed (field.fault? d) (field.trimmed.fault? d))
    (right : Fault.PassesOver d operand.passed (operand.fault? d) (operand.trimmed.fault? d)) :
    Fault.PassesOver d (test c field comparison operand).passed
      ((test c field comparison operand).fault? d)
      ((test c field comparison operand).trimmed.fault? d) := by
  rw [passed, trimmed, fault?]
  split
  · next unwritten =>
      obtain ⟨membership, empty⟩ := unwritten
      have operandFault := Fault.test_none_of_noCandidates d field membership empty
      have rawFault := Fault.test_none_of_noCandidates d (.raw "") membership empty
      rw [fault?, operandFault, rawFault, Expr.fault?, Option.or_none]
      exact .queries d field
  split
  · next nullCheck =>
      rw [fault?, if_pos (Comparison.isNullCheck_iff.mpr nullCheck),
        if_pos (Comparison.isNullCheck_iff.mpr nullCheck), Option.or_none, Option.or_none]
      exact left
  · next operands =>
      have range := Fault.PassesOver.nothing d (Fault.ofBounds? field comparison operand)
      have bounds : Fault.ofBounds? field.trimmed comparison operand.trimmed =
          Fault.ofBounds? field comparison operand := by
        unfold Fault.ofBounds?
        rw [Operand.count_trimmed, Expr.label_trimmed]
      rw [fault?, if_neg (mt Comparison.isNullCheck_iff.mp operands),
        if_neg (mt Comparison.isNullCheck_iff.mp operands), bounds]
      exact left.or (range.or right)

theorem Query.passesOver_source {d : Dialect} {source : Option (Source Expr)}
    (inner : ∀ (r : Query) name, source = some ⟨.subquery r, name⟩ →
      Fault.PassesOver d r.passed (r.fault? d) (r.trimmed.fault? d)) :
    Fault.PassesOver d (passedSource source) (sourceFault? d source)
      (sourceFault? d (trimmedSource source)) := by
  cases source using source_cases with
  | absent =>
      rw [trimmedSource, passedSource]
      exact .nothing d _
  | raw text name =>
      rw [trimmedSource, passedSource, Expr.trimmed, Expr.passed]
      exact .nothing d _
  | subquery r name =>
      rw [trimmedSource, passedSource, Expr.trimmed, Expr.passed, sourceFault?, sourceFault?,
        name_trimmed]
      split
      · exact .found d _ _
      · exact inner r name rfl

/-- A query has the first fault of the trimmed one, but for what is passed over. -/
theorem Query.passesOver_induction (d : Dialect) :
    Query.Induction
      (fun e => Fault.PassesOver d e.passed (e.fault? d) (e.trimmed.fault? d) ∧
        Fault.PassesOver d e.passed (e.joinFault? d) (e.trimmed.joinFault? d))
      (fun a => Fault.PassesOver d a.passed (a.fault? d) (a.trimmed.fault? d))
      (fun c => Fault.PassesOver d c.passed (c.fault? d) (c.trimmed.fault? d))
      (fun j => Fault.PassesOver d j.passed (j.fault? d) (j.trimmed.fault? d))
      (fun q => Fault.PassesOver d q.passed (q.fault? d) (q.trimmed.fault? d)) where
  raw_expr text := by
    rw [Expr.trimmed, Expr.passed]
    exact ⟨.nothing d _, .nothing d _⟩
  subquery_expr q ih := by
    rw [Expr.trimmed, Expr.passed, Expr.fault?, Expr.fault?, Expr.joinFault?, Expr.joinFault?,
      name_trimmed]
    refine ⟨ih, ?_⟩
    split
    · exact .found d _ _
    · exact ih
  value v := by
    rw [Operand.trimmed, Operand.passed]
    exact .nothing d _
  deferred supply := by
    rw [Operand.trimmed, Operand.passed]
    exact .nothing d _
  raw_operand text := by
    rw [Operand.trimmed, Operand.passed]
    exact .nothing d _
  list items ih := by
    rw [Operand.trimmed, Operand.passed, Operand.fault?, Operand.fault?,
      Operand.firstFault?_eq_findSome?, Operand.firstFault?_eq_findSome?]
    exact .findSome? ih
  subquery_operand q ih := by
    rw [Operand.trimmed, Operand.passed, Operand.fault?, Operand.fault?]
    exact ih
  test c field comparison operand fieldIh operandIh :=
    Condition.passesOver_test c comparison fieldIh.1 operandIh
  group c children ih := by
    rw [Condition.trimmed_group, Condition.passed, Condition.fault?, Condition.fault?,
      Condition.firstFault?_eq_findSome?, Condition.firstFault?_eq_findSome?]
    exact .findSome? ih
  product table ih := by
    rw [Join.trimmed, Join.passed, Join.fault?, Join.fault?]
    exact ih.2
  matching kind table on tableIh onIh := by
    rw [Join.trimmed, Join.passed, Join.fault?, Join.fault?, Condition.isEmpty_trimmed,
      Expr.label_trimmed]
    refine tableIh.2.or ?_
    cases empty : on.isEmpty with
    | true =>
        -- Without comparisons there is nothing in the condition that could be passed over.
        have accepted := (onIh.of_none (Condition.fault?_of_isEmpty d empty)).2
        simpa using Fault.PassesOver.of_accepted accepted _
    | false => simpa using onIh
  clauses q columns source joins filters havings := by
    have pages := Fault.PassesOver.nothing d (Fault.ofPages? q.limit q.fetch)
    have all := (Fault.PassesOver.findSome? fun e member => (columns e member).1).or <|
      (passesOver_source source).or <| (Fault.PassesOver.findSome? joins).or <|
        (Fault.PassesOver.findSome? filters).or <|
          (Fault.PassesOver.findSome? havings).or pages
    rw [trimmed_eq, fault?_eq, fault?_eq, passed_eq]
    simpa only [List.append_assoc, List.append_nil] using all

namespace Query

/-- Whether a query is at fault does not depend on the dialect. -/
theorem fault?_eq_fault? (d e : Dialect) (q : Query) : q.fault? d = q.fault? e := by
  rw [fault?_eq_findSome?, fault?_eq_findSome?]

theorem check_eq_ok_iff_fault? (d sessionDefault : Dialect) (q : Query) :
    (q.check sessionDefault).value = .ok () ↔ q.fault? d = none := by
  rw [check_eq_ok_iff, fault?_eq_fault? (q.dialect sessionDefault) d]

/-- A query is accepted if the trimmed one is and if the queries that it passes over are. -/
theorem check_eq_ok_iff_trimmed (sessionDefault : Dialect) (q : Query) :
    (q.check sessionDefault).value = .ok () ↔
      (q.trimmed.check sessionDefault).value = .ok () ∧
        ∀ s ∈ q.passed, (s.check sessionDefault).value = .ok () := by
  have passesOver := (passesOver_induction .mysql).query q
  simp only [check_eq_ok_iff_fault? .mysql]
  constructor
  · exact passesOver.of_none
  · rintro ⟨trimmed, accepted⟩
    rw [passesOver.of_passed accepted, trimmed]

/-- A query is checked like the trimmed one if the queries that it passes over are accepted. -/
theorem check_trimmed {sessionDefault : Dialect} {q : Query}
    (accepted : ∀ s ∈ q.passed, (s.check sessionDefault).value = .ok ()) :
    q.trimmed.check sessionDefault = q.check sessionDefault := by
  have faults := ((passesOver_induction (q.dialect sessionDefault)).query q).of_passed
    fun s member => (check_eq_ok_iff_fault? _ sessionDefault s).mp (accepted s member)
  simp only [check, dialect_trimmed, faults]

theorem sqlIn_of_trimmed_eq {q r : Query} (same : q.trimmed = r.trimmed) (d : Dialect) :
    q.sqlIn d = r.sqlIn d := by
  unfold sqlIn
  rw [← render_trimmed d q, same, render_trimmed]

/-- Queries that differ in operands that are not written have the same text in every dialect,
with the same events. They are checked alike if the queries in their unwritten fields are
accepted. A query is rejected if one of these queries is not, whatever is written of it. -/
theorem check_of_trimmed_eq {q r : Query} (same : q.trimmed = r.trimmed) :
    (∀ d, q.sqlIn d = r.sqlIn d) ∧
    (∀ sessionDefault,
      (∀ s ∈ q.passed ++ r.passed, (s.check sessionDefault).value = .ok ()) →
        q.check sessionDefault = r.check sessionDefault) ∧
    ∀ sessionDefault, (q.check sessionDefault).value = .ok () ↔
      (r.trimmed.check sessionDefault).value = .ok () ∧
        ∀ s ∈ q.passed, (s.check sessionDefault).value = .ok () := by
  refine ⟨sqlIn_of_trimmed_eq same, fun sessionDefault accepted => ?_, fun sessionDefault => ?_⟩
  · obtain ⟨ofFirst, ofSecond⟩ := List.forall_mem_append.mp accepted
    rw [← check_trimmed ofFirst, same, check_trimmed ofSecond]
  · rw [check_eq_ok_iff_trimmed, same]

/-- A comparison with an empty set of candidates, and a null check. -/
def unwrittenPair (field : Expr) (operand : Operand) : Query where
  source := some { table := .raw "t" }
  filters := [.test .and field .isIn (.list []), .test .or (.raw "a") .isNull operand]

theorem trimmed_unwrittenPair (field : Expr) (operand : Operand) :
    (unwrittenPair field operand).trimmed = unwrittenPair (.raw "") (.raw "") := by
  simp [unwrittenPair, trimmed_eq, trimmedSource, Expr.trimmed, Condition.trimmed,
    Operand.isEmptyList]

theorem passed_unwrittenPair (field : Expr) (operand : Operand) :
    (unwrittenPair field operand).passed = field.queries := by
  simp [unwrittenPair, passed_eq, passedSource, Expr.passed, Condition.passed,
    Operand.isEmptyList]

/-- In a field that is not written stands a query without fault, and the operand of a null check
is a value that cannot be supplied. -/
def harmlessPair : Query :=
  unwrittenPair (.subquery { source := some { table := .raw "u" } }) (.deferred (.error "gone"))

theorem check_of_trimmed_eq_harmlessPair :
    harmlessPair.trimmed = (unwrittenPair (.raw "b") (.raw "")).trimmed ∧
      (harmlessPair.sqlIn .mysql).value = "SELECT * FROM t WHERE 0 = 1 OR a IS NULL" ∧
      (harmlessPair.check .mysql).value = .ok () := by
  have same : harmlessPair.trimmed = (unwrittenPair (.raw "b") (.raw "")).trimmed := by
    rw [harmlessPair, trimmed_unwrittenPair, trimmed_unwrittenPair]
  have accepted : ∀ s ∈ harmlessPair.passed ++ (unwrittenPair (.raw "b") (.raw "")).passed,
      (s.check .mysql).value = .ok () := by
    intro s member
    rw [harmlessPair, passed_unwrittenPair, passed_unwrittenPair] at member
    rw [List.mem_singleton.mp member]
    rfl
  obtain ⟨texts, checks, _⟩ := check_of_trimmed_eq same
  refine ⟨same, ?_, ?_⟩
  · rw [texts .mysql]
    decide +kernel
  · rw [checks .mysql accepted]
    rfl

/-- A comparison with an empty set of candidates alone. -/
def amongNone (field : Expr) : Query where
  source := some { table := .raw "t" }
  filters := [.test .and field .isIn (.list [])]

theorem trimmed_amongNone (field : Expr) :
    (amongNone field).trimmed = amongNone (.raw "") := by
  simp [amongNone, trimmed_eq, trimmedSource, Expr.trimmed, Condition.trimmed,
    Operand.isEmptyList]

/-- What stands in a field that is not written can get a query rejected: the text is the same
with a text in its place, and then the query is accepted. -/
theorem check_reads_unwritten_field :
    (amongNone (.subquery { columns := [.raw "a"] })).trimmed = (amongNone (.raw "a")).trimmed ∧
      (∀ d, (amongNone (.subquery { columns := [.raw "a"] })).sqlIn d =
        (amongNone (.raw "a")).sqlIn d) ∧
      ((amongNone (.subquery { columns := [.raw "a"] })).sqlIn .mysql).value =
        "SELECT * FROM t WHERE 0 = 1" ∧
      ((amongNone (.subquery { columns := [.raw "a"] })).check .mysql).value =
        .error .noSource ∧
      ((amongNone (.raw "a")).check .mysql).value = .ok () := by
  have same : (amongNone (.subquery { columns := [.raw "a"] })).trimmed =
      (amongNone (.raw "a")).trimmed := by
    rw [trimmed_amongNone, trimmed_amongNone]
  exact ⟨same, sqlIn_of_trimmed_eq same, by decide +kernel, rfl, rfl⟩

end Query

end SqlSelect
