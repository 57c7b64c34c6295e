import SqlSelect.Proofs.FirstFault
import SqlSelect.Query.Answer

/-!
# Rejection outlasts appending

Most edits append to a clause and leave alone what is there already, so whatever is asked of a
query is still asked after them, together with what is asked of the parts that they append. The
first fault may be another one then, but there is still one. Only the source and the pages of a
query can be replaced, and only their faults can go away.

## Implementation notes

What is asked of a query is split into what the lists of its clauses ask for and what its source
and its pages ask for. The first part grows with every edit. The second one depends on three
fields alone, so it is enough to know that an edit keeps these.
-/

namespace SqlSelect

namespace Edit

/-- The edit neither replaces the source of a query nor one of its pages. -/
def appends : Edit → Bool
  | select _ | distinct | join _ | filter _ | groupBy _ | having _ | orderBy .. | name _ | pin _ =>
    true
  | takeFrom .. | limit _ | dropLimit | fetch _ | dropFetch => false

/-- What is asked of the columns, the join or the conditions that the edit appends. -/
def requirements : Edit → List Requirement
  | select columns => columns.flatMap Expr.requirements
  | join j => j.requirements
  | filter c | having c => c.conditions.flatMap Condition.requirements
  | _ => []

/-- Every part that the edit appends is acceptable by itself. -/
def Passes (e : Edit) : Prop :=
  ∀ r ∈ e.requirements, r.Met

end Edit

namespace Query

variable {q : Query} {e : Edit} {es : List Edit} {r : Requirement}

/-- What is asked of the clauses that edits append to. -/
def listed (q : Query) : List Requirement :=
  q.columns.flatMap Expr.requirements ++ q.joins.flatMap Join.requirements ++
    q.filters.flatMap Condition.requirements ++ q.havings.flatMap Condition.requirements

/-- What is asked of the source and the pages. -/
def replaceable (q : Query) : List Requirement :=
  .source q.source :: sourceRequirements q.source ++ [.onePage q.limit q.fetch]

theorem mem_requirements_iff_listed_or_replaceable :
    r ∈ q.requirements ↔ r ∈ q.listed ∨ r ∈ q.replaceable := by
  simp only [requirements_eq, listed, replaceable, List.mem_append, List.mem_cons]
  tauto

/-- An edit adds what is asked of the parts that it appends, and takes nothing away. -/
theorem mem_listed_apply : r ∈ (q.apply e).listed ↔ r ∈ q.listed ∨ r ∈ e.requirements := by
  cases e with
  | select columns =>
      simp only [apply, select, listed, Edit.requirements, List.flatMap_append, List.mem_append]
      tauto
  | join j =>
      simp only [apply, join, listed, Edit.requirements, List.flatMap_append,
        List.flatMap_singleton, List.mem_append]
      tauto
  | filter c =>
      simp only [apply, filter, listed, Edit.requirements, List.flatMap_append, List.mem_append]
      tauto
  | having c =>
      simp only [apply, having, listed, Edit.requirements, List.flatMap_append, List.mem_append]
      tauto
  | _ => exact (or_iff_left List.not_mem_nil).symm

theorem mem_listed_applyAll :
    r ∈ (q.applyAll es).listed ↔ r ∈ q.listed ∨ r ∈ es.flatMap Edit.requirements := by
  induction es generalizing q with
  | nil => simp
  | cons e es ih =>
      rw [applyAll_cons, ih, mem_listed_apply, List.flatMap_cons, List.mem_append, or_assoc]

/-- Only another source takes the place of a source. -/
theorem source_applyAll (kept : ∀ table name, .takeFrom table name ∉ es) :
    (q.applyAll es).source = q.source := by
  induction es generalizing q with
  | nil => rfl
  | cons e es ih =>
      have others : ∀ table name, Edit.takeFrom table name ∉ es := fun table name member =>
        kept table name (List.mem_cons_of_mem e member)
      have first : (q.apply e).source = q.source := by
        cases e with
        | takeFrom table name => exact absurd List.mem_cons_self (kept table name)
        | _ => rfl
      rw [applyAll_cons, ih others, first]

/-- Edits that append keep the pages. -/
theorem pages_applyAll (appending : ∀ e ∈ es, e.appends = true) :
    (q.applyAll es).limit = q.limit ∧ (q.applyAll es).fetch = q.fetch := by
  induction es generalizing q with
  | nil => exact ⟨rfl, rfl⟩
  | cons e es ih =>
      obtain ⟨first, others⟩ := List.forall_mem_cons.mp appending
      have step : (q.apply e).limit = q.limit ∧ (q.apply e).fetch = q.fetch := by
        cases e with
        | limit | dropLimit | fetch | dropFetch => cases first
        | _ => exact ⟨rfl, rfl⟩
      rw [applyAll_cons, (ih others).1, (ih others).2]
      exact step

theorem not_takeFrom_mem (appending : ∀ e ∈ es, e.appends = true) (table : Expr)
    (name : Option String) : .takeFrom table name ∉ es := fun member =>
  Bool.false_ne_true (appending _ member)

section Check

theorem check_eq_ok_iff_met {d : Dialect} :
    (q.check d).value = .ok () ↔ (∀ r ∈ q.listed, r.Met) ∧ ∀ r ∈ q.replaceable, r.Met := by
  rw [check_eq_ok_iff, fault?_eq_none_iff]
  simp only [mem_requirements_iff_listed_or_replaceable, or_imp, forall_and]

theorem exists_fault_iff {d : Dialect} :
    (∃ fault, (q.check d).value = .error fault) ↔ (q.check d).value ≠ .ok () := by
  cases (q.check d).value <;> simp

/-- With its source and its pages as they were, a query is accepted after edits exactly if it was
accepted before them and every appended part is acceptable. -/
theorem check_applyAll_eq_ok_iff (before after : Dialect)
    (source : (q.applyAll es).source = q.source) (limit : (q.applyAll es).limit = q.limit)
    (fetch : (q.applyAll es).fetch = q.fetch) :
    ((q.applyAll es).check after).value = .ok () ↔
      (q.check before).value = .ok () ∧ ∀ e ∈ es, e.Passes := by
  have kept : (q.applyAll es).replaceable = q.replaceable := by
    rw [replaceable, source, limit, fetch, replaceable]
  have appended : (∀ r ∈ (q.applyAll es).listed, r.Met) ↔
      (∀ r ∈ q.listed, r.Met) ∧ ∀ e ∈ es, e.Passes := by
    simp only [mem_listed_applyAll, or_imp, forall_and, List.forall_mem_flatMap]
    exact Iff.rfl
  rw [check_eq_ok_iff_met, check_eq_ok_iff_met, kept, appended, and_right_comm]

/-- A join that does not say which rows match. -/
def unmatched : Query where
  source := some { table := .raw "t" }
  joins := [.matching .left (.raw "u") (.group .and [])]

/-- The column comes before the join in the text, and takes its rows from nowhere. -/
def furtherFaults : List Edit :=
  [.filter (.test .and (.raw "a") .equal (.value (.int 1))), .select [.subquery {}], .name "x",
    .pin .oracle]

def furtherParts : List Edit :=
  [.join (.matching .left (.raw "u") (.columns (.raw "t.a") .equal "u.a")), .orderBy "a" .ascending,
    .having (.nested .or [.test .and (.raw "b") .between (.list [.raw "1", .raw "2"])])]

def aSource : List Edit :=
  [.takeFrom (.raw "t") none]

end Check

end Query

end SqlSelect
