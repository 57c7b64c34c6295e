import SqlSelect.Dialect
import SqlSelect.Keyword
import SqlSelect.Page
import SqlSelect.Value

/-! # Queries

A query is a SELECT statement as data: the contents of its clauses, in the order in which
they were given. Wherever an expression or an operand can stand, another query can stand
as well, so queries, expressions, operands, conditions and joins are defined together.

## Implementation notes

The clauses of a query are a structure over the types of their parts. The parts are one
inductive family that uses the structure at itself, and a query is the structure at that
family. Functions on the family recurse on the parts, with a companion for each list. -/

namespace SqlSelect

/-- What the rows of a query are taken from. -/
structure Source (Expr : Type) where
  table : Expr
  name : Option String := none

/-- The contents of the clauses of a query, over the types of their parts. -/
structure Clauses (Expr Join Condition : Type) where
  /-- The columns to show; none means all. -/
  columns : List Expr := []
  /-- Equal rows are shown once. -/
  distinct : Bool := false
  source : Option (Source Expr) := none
  joins : List Join := []
  /-- What a row has to satisfy. -/
  filters : List Condition := []
  groupKeys : List String := []
  /-- What a group of rows has to satisfy. -/
  havings : List Condition := []
  orderKeys : List (String × Direction) := []
  limit : Page := {}
  fetch : Page := {}
  /-- The name under which another query can use this one. -/
  name : Option String := none
  /-- The dialect chosen for this query, over that of the session. -/
  pinned : Option Dialect := none

mutual

/-- A column, a table or the left side of a condition. -/
inductive Expr where
  /-- A text that is written as it stands. -/
  | raw (text : String)
  | subquery (query : Clauses Expr Join Condition)

/-- The right side of a condition. -/
inductive Operand where
  | value (v : Value)
  /-- A value that is asked for when it is needed, or the reason why there is none. -/
  | deferred (supply : Except String Value)
  /-- A text that is written as it stands. -/
  | raw (text : String)
  | list (items : List Operand)
  | subquery (query : Clauses Expr Join Condition)

/-- A comparison or a group of conditions, with its connection to the condition before
it. -/
inductive Condition where
  | test (connective : Connective) (field : Expr) (comparison : Comparison)
      (operand : Operand)
  | group (connective : Connective) (children : List Condition)

/-- A further table, and how its rows are matched. -/
inductive Join where
  /-- Every row is combined with every row. -/
  | product (table : Expr)
  | matching (kind : JoinKind) (table : Expr) (on : Condition)

end

/-- A SELECT statement. -/
abbrev Query := Clauses Expr Join Condition

instance : Inhabited Query := ⟨{}⟩

namespace Expr

/-- How an expression is called in messages. -/
def label : Expr → String
  | raw text => text
  | subquery _ => "(subquery)"

def isSubquery : Expr → Bool
  | raw _ => false
  | subquery _ => true

end Expr

namespace Operand

/-- How many values an operand counts for; only a list counts for more or fewer than
one. -/
def count : Operand → Nat
  | list items => items.length
  | _ => 1

end Operand

namespace Query

/-- The dialect of a query in a session with the given default. -/
def dialect (sessionDefault : Dialect) (q : Query) : Dialect :=
  q.pinned.getD sessionDefault

end Query

end SqlSelect
