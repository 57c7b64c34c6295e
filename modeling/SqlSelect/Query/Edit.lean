import SqlSelect.Query.Criterion

/-! # Edits

A query grows by edits. Most of them append to a clause; the source, the pages, the name
and the dialect are replaced instead. An edit touches one clause only. Edits that remove a
page or choose a dialect hand back what was there before. -/

namespace SqlSelect

/-- One change of a query. -/
inductive Edit where
  | select (columns : List Expr)
  | distinct
  /-- Takes the rows from a table, with no name or the given one. -/
  | takeFrom (table : Expr) (name : Option String)
  | join (j : Join)
  | filter (c : Criterion)
  | groupBy (keys : List String)
  | having (c : Criterion)
  | orderBy (key : String) (direction : Direction)
  | limit (p : Page)
  | dropLimit
  | fetch (p : Page)
  | dropFetch
  | name (name : String)
  | pin (d : Dialect)

namespace Edit

/-! ### Edits in common forms -/

def filterAnd (field : Expr) (comparison : Comparison) (operand : Operand) : Edit :=
  filter (.andTest field comparison operand)

def filterOr (field : Expr) (comparison : Comparison) (operand : Operand) : Edit :=
  filter (.orTest field comparison operand)

def filterAndGroup (criteria : List Criterion) : Edit :=
  filter (.andGroup criteria)

def filterOrGroup (criteria : List Criterion) : Edit :=
  filter (.orGroup criteria)

/-- Filters with conditions that were made elsewhere, each with its own connective. -/
def filterGiven (conditions : List Condition) : Edit :=
  filter (.given conditions)

def havingAnd (field : Expr) (comparison : Comparison) (operand : Operand) : Edit :=
  having (.andTest field comparison operand)

def havingOr (field : Expr) (comparison : Comparison) (operand : Operand) : Edit :=
  having (.orTest field comparison operand)

def havingAndGroup (criteria : List Criterion) : Edit :=
  having (.andGroup criteria)

def havingGiven (conditions : List Condition) : Edit :=
  having (.given conditions)

/-- Joins a table, of which the rows are matched by a condition. -/
def joinOn (kind : JoinKind) (table : Expr) (on : Condition) : Edit :=
  join (.matching kind table on)

def innerJoin (table : Expr) (on : Condition) : Edit :=
  joinOn .inner table on

def leftJoin (table : Expr) (on : Condition) : Edit :=
  joinOn .left table on

def rightJoin (table : Expr) (on : Condition) : Edit :=
  joinOn .right table on

def fullJoin (table : Expr) (on : Condition) : Edit :=
  joinOn .full table on

/-- Joins a table without a condition. -/
def crossJoin (table : Expr) : Edit :=
  join (.product table)

def orderAscending (key : String) : Edit :=
  orderBy key .ascending

def orderDescending (key : String) : Edit :=
  orderBy key .descending

def limitTo (count offset : UInt64) : Edit :=
  limit { count, offset }

/-- Here the offset comes first, as it does in the text. -/
def fetchFrom (offset count : UInt64) : Edit :=
  fetch { count, offset }

end Edit

/-- What an edit hands back of the query before. -/
inductive Reply where
  | nothing
  | dialect (replaced : Dialect)
  | page (removed : Page)
  deriving DecidableEq, Repr

namespace Query

def select (q : Query) (columns : List Expr) : Query :=
  { q with columns := q.columns ++ columns }

def takeFrom (q : Query) (table : Expr) (name : Option String) : Query :=
  { q with source := some { table, name } }

def join (q : Query) (j : Join) : Query :=
  { q with joins := q.joins ++ [j] }

def filter (q : Query) (c : Criterion) : Query :=
  { q with filters := q.filters ++ c.conditions }

def having (q : Query) (c : Criterion) : Query :=
  { q with havings := q.havings ++ c.conditions }

def groupBy (q : Query) (keys : List String) : Query :=
  { q with groupKeys := q.groupKeys ++ keys }

def orderBy (q : Query) (key : String) (direction : Direction) : Query :=
  { q with orderKeys := q.orderKeys ++ [(key, direction)] }

/-- Chooses the dialect of a query for good. -/
def pin (q : Query) (d : Dialect) : Query :=
  { q with pinned := some d }

@[simp] theorem dialect_pin (sessionDefault d : Dialect) (q : Query) :
    (q.pin d).dialect sessionDefault = d := rfl

/-- The query after an edit. -/
def apply (q : Query) : Edit → Query
  | .select columns => q.select columns
  | .distinct => { q with distinct := true }
  | .takeFrom table name => q.takeFrom table name
  | .join j => q.join j
  | .filter c => q.filter c
  | .groupBy keys => q.groupBy keys
  | .having c => q.having c
  | .orderBy key direction => q.orderBy key direction
  | .limit p => { q with limit := p }
  | .dropLimit => { q with limit := {} }
  | .fetch p => { q with fetch := p }
  | .dropFetch => { q with fetch := {} }
  | .name name => { q with name := some name }
  | .pin d => q.pin d

/-- The query after an edit, behind what the edit hands back. -/
def answering (sessionDefault : Dialect) (q : Query) : Edit → Reply × Query
  | .dropLimit => (.page q.limit, { q with limit := {} })
  | .dropFetch => (.page q.fetch, { q with fetch := {} })
  | .pin d => (.dialect (q.dialect sessionDefault), q.pin d)
  | e => (.nothing, q.apply e)

@[simp] theorem snd_answering (sessionDefault : Dialect) (q : Query) (e : Edit) :
    (q.answering sessionDefault e).2 = q.apply e := by
  cases e <;> rfl

/-- The query after edits, one after the other. -/
def applyAll (q : Query) (edits : List Edit) : Query :=
  edits.foldl apply q

@[simp] theorem applyAll_nil (q : Query) : q.applyAll [] = q := rfl

@[simp] theorem applyAll_cons (q : Query) (e : Edit) (edits : List Edit) :
    q.applyAll (e :: edits) = (q.apply e).applyAll edits := rfl

@[simp] theorem applyAll_append (q : Query) (es fs : List Edit) :
    q.applyAll (es ++ fs) = (q.applyAll es).applyAll fs :=
  List.foldl_append

/-- The query that counts the rows of another one. Order and pages of that query would
not change the count, so they are left out. -/
def counting (q : Query) : Query :=
  { columns := [.raw "COUNT(*)"]
    source := some
      { table := .subquery
          { q with orderKeys := [], limit := {}, fetch := {}, name := some "count_sub" } }
    pinned := q.pinned }

@[simp] theorem dialect_counting (sessionDefault : Dialect) (q : Query) :
    q.counting.dialect sessionDefault = q.dialect sessionDefault := rfl

end Query

end SqlSelect
