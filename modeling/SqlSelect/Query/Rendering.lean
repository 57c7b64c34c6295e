import SqlSelect.Query.Condition
import SqlSelect.Rendering

/-! # The text of a query

The clauses of a query appear in the order of the standard, separated by single blanks,
and an empty clause does not appear. A query inside another one stands in parentheses,
followed by its name; its literals are those of the dialect of the outermost query.

## Implementation notes

What a comparison makes of its operand depends on the form of the operand. The recursion
therefore renders an operand into a `RightSide`, which keeps that form, and the
comparison decides afterwards. -/

namespace SqlSelect

/-- A written operand, with as much of its form as a comparison looks at. -/
inductive RightSide (Text : Type) where
  | scalar (text : Text)
  | items (texts : List Text)
  | nested (text : Text)

namespace RightSide

/-- The operand by itself: a list stands in parentheses. -/
def whole : RightSide Rendering → Rendering
  | scalar text => text
  | items texts => (Rendering.separated ", " texts).parenthesized
  | nested text => text

end RightSide

namespace Comparison

/-- What stands for a comparison with an empty set of candidates: nothing is among them,
and everything is not. -/
def onEmptySet : Comparison → String
  | isIn => "0 = 1"
  | _ => "0 = 0"

/-- The text of a comparison of a field with an operand. -/
def phrase (c : Comparison) (field : Rendering) : RightSide Rendering → Rendering
  | .items texts =>
    match c.arity, texts with
    | .many, [] => c.onEmptySet
    | .none, _ => field ++ " " ++ c.sql
    | .two, texts => field ++ " " ++ c.sql ++ " " ++ Rendering.separated " AND " texts
    | _, texts => field ++ " " ++ c.sql ++ " " ++ (RightSide.items texts).whole
  | .nested text =>
    match c.arity with
    | .none => field ++ " " ++ c.sql
    | _ => field ++ " " ++ c.sql ++ " " ++ text
  | .scalar text =>
    match c.arity with
    | .none => field ++ " " ++ c.sql
    | .many => field ++ " " ++ c.sql ++ " " ++ text.parenthesized
    | _ => field ++ " " ++ c.sql ++ " " ++ text

end Comparison

namespace Query

/-- The columns to show, or the star for all of them. -/
def columnList : List Rendering → Rendering
  | [] => "*"
  | columns => Rendering.separated ", " columns

def selectClause (distinct : Bool) (columns : List Rendering) : Rendering :=
  (if distinct then "SELECT DISTINCT " else "SELECT ") ++ columnList columns

/-- A clause of conditions behind its keyword, unless there is none to write. -/
def conditionClause (keyword : String) (conditions : List (Connective × Rendering)) :
    List Rendering :=
  if conditions.isEmpty then [] else [keyword ++ " " ++ Rendering.chained conditions]

/-- A clause of texts behind its keyword, unless there is none to write. -/
def listClause (keyword : String) (texts : List String) : List Rendering :=
  if texts.isEmpty then []
  else [keyword ++ " " ++ Rendering.separated ", " (texts.map fun text => { text })]

/-- One key of an ordering. -/
def orderKey (key : String × Direction) : String :=
  key.1 ++ " " ++ key.2.sql

/-- A clause for the page, unless it has no rows. -/
def pageClause (clause : Page → String) (p : Page) : List Rendering :=
  if p.isSet then [clause p] else []

end Query

mutual

/-- The text of an expression. -/
def Expr.render (d : Dialect) : Expr → Rendering
  | .raw text => text
  | .subquery q => (Query.body d q).parenthesized.named q.name

/-- The text of an operand, in its form. -/
def Operand.rightSide (d : Dialect) : Operand → RightSide Rendering
  | .value v => .scalar (.ofSupply d (.ok v))
  | .deferred supply => .scalar (.ofSupply d supply)
  | .raw text => .scalar text
  | .list items => .items (Operand.renderItems d items)
  | .subquery q => .nested ((Query.body d q).parenthesized.named q.name)

/-- The text of a condition, without its connective. -/
def Condition.render (d : Dialect) : Condition → Rendering
  | .test _ field comparison operand =>
    comparison.phrase (field.render d) (operand.rightSide d)
  | .group _ children =>
    if Condition.areEmpty children then ∅
    else (Rendering.chained (Condition.renderSiblings d children)).parenthesized

/-- The text of a join; a condition that asks for nothing is left out. -/
def Join.render (d : Dialect) : Join → Rendering
  | .product table => JoinKind.cross.sql ++ " " ++ table.render d
  | .matching kind table on =>
    if on.isEmpty then kind.sql ++ " " ++ table.render d
    else kind.sql ++ " " ++ table.render d ++ " ON " ++ on.render d

/-- The source of the rows. A name given here replaces the name that a query brings. -/
def Query.fromClause (d : Dialect) : Option (Source Expr) → List Rendering
  | none => []
  | some ⟨.raw text, name⟩ => ["FROM " ++ Rendering.named name text]
  | some ⟨.subquery q, name⟩ =>
    ["FROM " ++ (Query.body d q).parenthesized.named (name.or q.name)]

/-- The text of a query, without its name. -/
def Query.body (d : Dialect) : Query → Rendering
  | { columns, distinct, source, joins, filters, groupKeys, havings, orderKeys, limit, fetch,
      .. } =>
    Rendering.separated " " <|
      Query.selectClause distinct (Expr.renderAll d columns) ::
      Query.fromClause d source ++
      Join.renderAll d joins ++
      Query.conditionClause "WHERE" (Condition.renderSiblings d filters) ++
      Query.listClause "GROUP BY" groupKeys ++
      Query.conditionClause "HAVING" (Condition.renderSiblings d havings) ++
      Query.listClause "ORDER BY" (orderKeys.map Query.orderKey) ++
      Query.pageClause Page.limitClause limit ++
      Query.pageClause Page.fetchClause fetch

/-- The texts of expressions. -/
def Expr.renderAll (d : Dialect) : List Expr → List Rendering
  | [] => []
  | e :: es => e.render d :: Expr.renderAll d es

/-- The texts of the items of a list. -/
def Operand.renderItems (d : Dialect) : List Operand → List Rendering
  | [] => []
  | a :: as => (a.rightSide d).whole :: Operand.renderItems d as

/-- The texts of conditions side by side. Empty ones are left out. -/
def Condition.renderSiblings (d : Dialect) : List Condition → List (Connective × Rendering)
  | [] => []
  | c :: cs =>
    if c.isEmpty then Condition.renderSiblings d cs
    else (c.connective, c.render d) :: Condition.renderSiblings d cs

/-- The texts of joins. -/
def Join.renderAll (d : Dialect) : List Join → List Rendering
  | [] => []
  | j :: js => j.render d :: Join.renderAll d js

end

theorem Expr.renderAll_eq_map (d : Dialect) (es : List Expr) :
    Expr.renderAll d es = es.map (Expr.render d) := by
  induction es with
  | nil => rw [Expr.renderAll, List.map_nil]
  | cons e es ih => rw [Expr.renderAll, ih, List.map_cons]

theorem Operand.renderItems_eq_map (d : Dialect) (as : List Operand) :
    Operand.renderItems d as = as.map fun a => (a.rightSide d).whole := by
  induction as with
  | nil => rw [Operand.renderItems, List.map_nil]
  | cons a as ih => rw [Operand.renderItems, ih, List.map_cons]

/-- The conditions that are not empty, in order. -/
theorem Condition.renderSiblings_eq_map (d : Dialect) (cs : List Condition) :
    Condition.renderSiblings d cs =
      (cs.filter (!·.isEmpty)).map fun c => (c.connective, c.render d) := by
  induction cs with
  | nil => rw [Condition.renderSiblings, List.filter_nil, List.map_nil]
  | cons c cs ih =>
      rw [Condition.renderSiblings, ih]
      cases empty : c.isEmpty <;> simp [empty]

theorem Join.renderAll_eq_map (d : Dialect) (js : List Join) :
    Join.renderAll d js = js.map (Join.render d) := by
  induction js with
  | nil => rw [Join.renderAll, List.map_nil]
  | cons j js ih => rw [Join.renderAll, ih, List.map_cons]

/-- The clauses of a query that can appear, in order. -/
theorem Query.body_eq (d : Dialect) (q : Query) :
    q.body d = .separated " "
      (selectClause q.distinct (Expr.renderAll d q.columns) ::
        fromClause d q.source ++
        Join.renderAll d q.joins ++
        conditionClause "WHERE" (Condition.renderSiblings d q.filters) ++
        listClause "GROUP BY" q.groupKeys ++
        conditionClause "HAVING" (Condition.renderSiblings d q.havings) ++
        listClause "ORDER BY" (q.orderKeys.map orderKey) ++
        pageClause Page.limitClause q.limit ++
        pageClause Page.fetchClause q.fetch) := by
  cases q
  rw [Query.body]

/-- The text of an operand by itself. -/
def Operand.render (d : Dialect) (a : Operand) : Rendering :=
  (a.rightSide d).whole

/-- The text of a list of conditions side by side. -/
def Condition.renderAll (d : Dialect) (cs : List Condition) : Rendering :=
  .chained (renderSiblings d cs)

/-- The text of a query by itself: one that has a name stands in parentheses. -/
def Query.render (d : Dialect) (q : Query) : Rendering :=
  match q.name with
  | none => q.body d
  | some name => (q.body d).parenthesized.named (some name)

end SqlSelect
