import SqlSelect.Query.Answer

/-! # Sessions

A session keeps queries under names and a default dialect for those that have none of
their own. A scope changes the default for a while: when it is left, in whatever way, the
default is what it was when the scope was entered.

## Implementation notes

The default is stored as a number. A scope holds a lock while it is open, so that no other one
is open at the same time. A scope that is aborted leaves the lock poisoned; since the default
has been put back by then, the next scope takes the lock nevertheless. Sessions are sequential:
that a step of another thread could come in between is left out, and so is the wait for the
lock. -/

namespace SqlSelect

/-- The lock that an open scope holds. -/
inductive Lock where
  | clean
  /-- A scope was aborted while it held the lock. -/
  | poisoned
  deriving DecidableEq, Repr

/-- Takes the lock. A poisoned one is reported as an error, and comes with the report. -/
def Lock.take : Lock → Except Lock Lock
  | clean => .ok clean
  | poisoned => .error poisoned

/-- Named queries and the default dialect. Every name that was never used stands for the
query without clauses. -/
structure Session where
  /-- The number of the default dialect. -/
  stored : UInt8 := Dialect.mysql.code
  lock : Lock := .clean
  query : String → Query := fun _ => {}

/-- One change of a session. -/
inductive Step where
  | edit (name : String) (e : Edit)
  /-- Stores a copy under another name. -/
  | copy (name target : String)
  /-- Stores the query that counts the rows under another name. -/
  | count (name target : String)
  | setDefault (d : Dialect)

namespace Session

def default (s : Session) : Dialect :=
  .ofCode s.stored

/-- Replaces the default, and hands back the one before. -/
def setDefault (s : Session) (d : Dialect) : Dialect × Session :=
  (s.default, { s with stored := d.code })

@[simp] theorem default_setDefault (s : Session) (d : Dialect) :
    (s.setDefault d).2.default = d :=
  d.ofCode_code

/-- The dialect of the query under a name. -/
def dialect (s : Session) (name : String) : Dialect :=
  (s.query name).dialect s.default

/-- Stores a query under a name. -/
def store (s : Session) (name : String) (q : Query) : Session :=
  { s with query := fun n => if n = name then q else s.query n }

@[simp] theorem query_store_self (s : Session) (name : String) (q : Query) :
    (s.store name q).query name = q := by
  simp [store]

@[simp] theorem query_store_of_ne {s : Session} {name other : String} {q : Query}
    (h : other ≠ name) : (s.store name q).query other = s.query other := by
  simp [store, h]

/-- The session after a step, behind what the step hands back. -/
def perform (s : Session) : Step → Reply × Session
  | .edit name e =>
    let (reply, q) := (s.query name).answering s.default e
    (reply, s.store name q)
  | .copy name target => (.nothing, s.store target (s.query name))
  | .count name target => (.nothing, s.store target (s.query name).counting)
  | .setDefault d =>
    let (before, s) := s.setDefault d
    (.dialect before, s)

/-- The session after a step. -/
def after (s : Session) (x : Step) : Session :=
  (s.perform x).2

theorem after_edit (s : Session) (name : String) (e : Edit) :
    s.after (.edit name e) = s.store name ((s.query name).apply e) := by
  rw [← Query.snd_answering s.default]
  rfl

end Session

/-- How a scope is left. -/
inductive Exit where
  | finished
  /-- In the middle, because a step went wrong. -/
  | aborted
  deriving DecidableEq, Repr

/-- What a scope remembers of the session outside, and the lock that it holds. -/
structure Scope where
  previous : Dialect
  lock : Lock
  deriving DecidableEq, Repr

namespace Session

/-- Enters a scope with a default of its own. -/
def enter (s : Session) (d : Dialect) : Scope × Session :=
  let lock := match s.lock.take with
    | .ok lock => lock
    | .error lock => lock
  let (previous, s) := s.setDefault d
  ({ previous, lock }, s)

/-- Leaves a scope. Its steps stay done, but the default is put back, and then the lock. -/
def leave (s : Session) (scope : Scope) (exit : Exit) : Session :=
  let (_, s) := s.setDefault scope.previous
  match exit with
  | .finished => { s with lock := scope.lock }
  | .aborted => { s with lock := .poisoned }

@[simp] theorem query_leave (s : Session) (scope : Scope) (exit : Exit) :
    (s.leave scope exit).query = s.query := by
  cases exit <;> rfl

@[simp] theorem default_leave (s : Session) (scope : Scope) (exit : Exit) :
    (s.leave scope exit).default = scope.previous := by
  cases exit <;> exact default_setDefault s scope.previous

end Session

end SqlSelect
