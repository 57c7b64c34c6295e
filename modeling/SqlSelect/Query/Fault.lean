import SqlSelect.Literal.Basic
import SqlSelect.Query.Condition

/-! # Faults

A query can be rendered whatever it contains; a fault is a reason why its text would not
be accepted. Faults are looked for clause by clause in the order of the text, inner
queries where they stand, and the first one found is reported.

## Implementation notes

The operand of a null check is not written and not looked at. The field of a comparison
with an empty set of candidates is not written either, but it is looked at. -/

namespace SqlSelect

/-- The clauses in which a query needs a name. -/
inductive TableClause where
  | source
  | join
  deriving DecidableEq, Repr

def TableClause.sql : TableClause → String
  | source => "FROM"
  | join => "JOIN"

/-- Why a query is not acceptable. -/
inductive Fault where
  /-- The rows come from nowhere. -/
  | noSource
  /-- A page is chosen in two ways at once. -/
  | twoPages (limit fetch : Page)
  /-- A query is used as a table and has no name. -/
  | unnamedTable (clause : TableClause)
  /-- A table is joined without saying which rows match. -/
  | unmatchedJoin (kind : JoinKind) (table : String)
  /-- The bounds of a range are not two. -/
  | boundCount (field : String) (comparison : Comparison) (count : Nat)
  /-- A value has no literal. -/
  | noLiteral (error : LiteralError)
  deriving DecidableEq, Repr

namespace Fault

/-- The wording of the fault. -/
def message : Fault → String
  | noSource => "query has no FROM table"
  | twoPages limit fetch =>
    "both LIMIT " ++ limit.description ++ " and FETCH " ++ fetch.description ++ " are set"
  | unnamedTable clause => "derived table in " ++ clause.sql ++ " has no alias"
  | unmatchedJoin kind table => kind.sql ++ " " ++ table ++ " has no ON condition"
  | boundCount field comparison count =>
    "`" ++ field ++ " " ++ comparison.sql ++ "` expects exactly two values, got " ++ count.repr
  | noLiteral error => error.message

/-- A supplied value has a literal. -/
def ofSupply? (d : Dialect) (supply : Except String Value) : Option Fault :=
  match Value.suppliedLiteral d supply with
  | .ok _ => none
  | .error error => some (.noLiteral error)

/-- A range has two bounds. -/
def ofBounds? (field : Expr) (comparison : Comparison) (operand : Operand) : Option Fault :=
  if comparison.isRange && operand.count != 2 then
    some (.boundCount field.label comparison operand.count)
  else
    none

/-- At most one page is chosen. -/
def ofPages? (limit fetch : Page) : Option Fault :=
  if limit.isSet && fetch.isSet then some (.twoPages limit fetch) else none

end Fault

mutual

/-- The first fault in an expression. -/
def Expr.fault? (d : Dialect) : Expr → Option Fault
  | .raw _ => none
  | .subquery q => Query.fault? d q

/-- The first fault in an operand. -/
def Operand.fault? (d : Dialect) : Operand → Option Fault
  | .value v => Fault.ofSupply? d (.ok v)
  | .deferred supply => Fault.ofSupply? d supply
  | .raw _ => none
  | .list items => Operand.firstFault? d items
  | .subquery q => Query.fault? d q

/-- The first fault in a condition. -/
def Condition.fault? (d : Dialect) : Condition → Option Fault
  | .test _ field comparison operand =>
    (field.fault? d).or <|
      if comparison.isNullCheck then none
      else (Fault.ofBounds? field comparison operand).or (operand.fault? d)
  | .group _ children => Condition.firstFault? d children

/-- The first fault in a table that a query is to be joined with. -/
def Expr.joinFault? (d : Dialect) : Expr → Option Fault
  | .raw _ => none
  | .subquery q => if q.name.isNone then some (.unnamedTable .join) else Query.fault? d q

/-- The first fault in a join. -/
def Join.fault? (d : Dialect) : Join → Option Fault
  | .product table => table.joinFault? d
  | .matching kind table on =>
    (table.joinFault? d).or <|
      if !on.isEmpty then on.fault? d
      else if kind = .cross then none
      else some (.unmatchedJoin kind table.label)

/-- The first fault in the source of a query. -/
def Query.sourceFault? (d : Dialect) : Option (Source Expr) → Option Fault
  | none => some .noSource
  | some ⟨.raw _, _⟩ => none
  | some ⟨.subquery q, name⟩ =>
    if (name.or q.name).isNone then some (.unnamedTable .source) else Query.fault? d q

/-- The first fault in a query. -/
def Query.fault? (d : Dialect) : Query → Option Fault
  | { columns, source, joins, filters, havings, limit, fetch, .. } =>
    (Expr.firstFault? d columns).or <|
      (Query.sourceFault? d source).or <|
        (Join.firstFault? d joins).or <|
          (Condition.firstFault? d filters).or <|
            (Condition.firstFault? d havings).or <|
              Fault.ofPages? limit fetch

/-- The first fault in any of the expressions. -/
def Expr.firstFault? (d : Dialect) : List Expr → Option Fault
  | [] => none
  | e :: es => (e.fault? d).or (Expr.firstFault? d es)

/-- The first fault in any of the operands. -/
def Operand.firstFault? (d : Dialect) : List Operand → Option Fault
  | [] => none
  | a :: as => (a.fault? d).or (Operand.firstFault? d as)

/-- The first fault in any of the conditions. -/
def Condition.firstFault? (d : Dialect) : List Condition → Option Fault
  | [] => none
  | c :: cs => (c.fault? d).or (Condition.firstFault? d cs)

/-- The first fault in any of the joins. -/
def Join.firstFault? (d : Dialect) : List Join → Option Fault
  | [] => none
  | j :: js => (j.fault? d).or (Join.firstFault? d js)

end

theorem findSome?_cons_eq_or {α β : Type} (f : α → Option β) (x : α) (xs : List α) :
    (x :: xs).findSome? f = (f x).or (xs.findSome? f) := by
  rw [List.findSome?_cons]
  cases f x <;> rfl

theorem Expr.firstFault?_eq_findSome? (d : Dialect) (es : List Expr) :
    Expr.firstFault? d es = es.findSome? (Expr.fault? d) := by
  induction es with
  | nil => rw [Expr.firstFault?, List.findSome?_nil]
  | cons e es ih => rw [Expr.firstFault?, ih, findSome?_cons_eq_or]

theorem Operand.firstFault?_eq_findSome? (d : Dialect) (as : List Operand) :
    Operand.firstFault? d as = as.findSome? (Operand.fault? d) := by
  induction as with
  | nil => rw [Operand.firstFault?, List.findSome?_nil]
  | cons a as ih => rw [Operand.firstFault?, ih, findSome?_cons_eq_or]

theorem Condition.firstFault?_eq_findSome? (d : Dialect) (cs : List Condition) :
    Condition.firstFault? d cs = cs.findSome? (Condition.fault? d) := by
  induction cs with
  | nil => rw [Condition.firstFault?, List.findSome?_nil]
  | cons c cs ih => rw [Condition.firstFault?, ih, findSome?_cons_eq_or]

theorem Join.firstFault?_eq_findSome? (d : Dialect) (js : List Join) :
    Join.firstFault? d js = js.findSome? (Join.fault? d) := by
  induction js with
  | nil => rw [Join.firstFault?, List.findSome?_nil]
  | cons j js ih => rw [Join.firstFault?, ih, findSome?_cons_eq_or]

/-- The clauses of a query that can be at fault, in order. -/
theorem Query.fault?_eq (d : Dialect) (q : Query) :
    q.fault? d = ((q.columns.findSome? (Expr.fault? d)).or <|
      (sourceFault? d q.source).or <|
        (q.joins.findSome? (Join.fault? d)).or <|
          (q.filters.findSome? (Condition.fault? d)).or <|
            (q.havings.findSome? (Condition.fault? d)).or <|
              Fault.ofPages? q.limit q.fetch) := by
  cases q
  rw [Query.fault?]
  simp only [Expr.firstFault?_eq_findSome?, Join.firstFault?_eq_findSome?,
    Condition.firstFault?_eq_findSome?]

end SqlSelect
