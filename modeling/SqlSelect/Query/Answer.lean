import SqlSelect.Event
import SqlSelect.Query.Edit
import SqlSelect.Query.Rendering

/-! # What a query answers

A query answers with its text or with what is wrong with it. The text is written in the
dialect of the query, for the queries inside it as well, and is given even for a query
that is at fault. -/

namespace SqlSelect.Query

/-- The text of a query in a given dialect. -/
def sqlIn (d : Dialect) (q : Query) : Traced String :=
  let r := q.render d
  { value := r.text, events := r.warnings.map .warned ++ [.rendered d r.text] }

/-- The text of a query in its own dialect. -/
def sql (sessionDefault : Dialect) (q : Query) : Traced String :=
  q.sqlIn (q.dialect sessionDefault)

/-- Whether a query is acceptable, or its first fault. -/
def check (sessionDefault : Dialect) (q : Query) : Traced (Except Fault Unit) :=
  let d := q.dialect sessionDefault
  match q.fault? d with
  | none => { value := .ok () }
  | some fault => { value := .error fault, events := [.rejected fault d] }

/-- The text of an acceptable query, or the first fault of any other. -/
def checkedSql (sessionDefault : Dialect) (q : Query) : Traced (Except Fault String) :=
  match q.check sessionDefault with
  | { value := .error fault, events } => { value := .error fault, events }
  | { value := .ok (), events } =>
    let answer := q.sql sessionDefault
    { value := .ok answer.value, events := events ++ answer.events }

theorem check_of_fault? {sessionDefault : Dialect} {q : Query} {fault : Fault}
    (h : q.fault? (q.dialect sessionDefault) = some fault) :
    q.check sessionDefault =
      { value := .error fault, events := [.rejected fault (q.dialect sessionDefault)] } := by
  simp only [check, h]

theorem check_of_no_fault {sessionDefault : Dialect} {q : Query}
    (h : q.fault? (q.dialect sessionDefault) = none) :
    q.check sessionDefault = { value := .ok () } := by
  simp only [check, h]

theorem check_eq_ok_iff {sessionDefault : Dialect} {q : Query} :
    (q.check sessionDefault).value = .ok () ↔
      q.fault? (q.dialect sessionDefault) = none := by
  cases h : q.fault? (q.dialect sessionDefault) with
  | none => simp [check_of_no_fault h]
  | some fault => simp [check_of_fault? h]

theorem check_eq_error_iff {sessionDefault : Dialect} {q : Query} {fault : Fault} :
    (q.check sessionDefault).value = .error fault ↔
      q.fault? (q.dialect sessionDefault) = some fault := by
  cases h : q.fault? (q.dialect sessionDefault) with
  | none => simp [check_of_no_fault h]
  | some first => simp [check_of_fault? h]

@[simp] theorem value_sqlIn (d : Dialect) (q : Query) :
    (q.sqlIn d).value = (q.render d).text := rfl

end SqlSelect.Query
