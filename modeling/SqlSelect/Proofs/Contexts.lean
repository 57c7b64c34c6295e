import SqlSelect.Proofs.Layout
import SqlSelect.Proofs.Segments

/-!
# A query inside another one is written by itself

A context is a query with one place left open, at any depth. An expression in that place adds
its text to the text of the query, and how the rest is written depends on nothing else of it.
An inner query can therefore be written out: the text that it has in its place can stand
there instead, as a text of the caller.

## Implementation notes

A context is a function from the expression in the open place. That a function is one is a
relation, with a constructor for each place and each way to stand inside something larger.
Three kinds of place are told apart, since a source that is given a name and a comparison
with a set of candidates write a query in their own way.
-/

namespace SqlSelect

/-- A kind of place in which a query can stand inside another one. -/
inductive Place where
  /-- A column, a source or a joined table under its own name, a field or an item of a list. -/
  | plain
  /-- A source that is given a name. -/
  | namedSource
  /-- The operand of a comparison, by itself. -/
  | operand (comparison : Comparison)

/-- The expression as an operand. -/
def Expr.operand : Expr → Operand
  | .raw text => .raw text
  | .subquery q => .subquery q

mutual

/-- The function is an expression with an open place. -/
inductive Expr.Context : Place → (Expr → Expr) → Prop
  | here : Expr.Context .plain fun e => e
  | subquery {p : Place} {K : Expr → Query} (inner : Query.Context p K) :
      Expr.Context p fun e => .subquery (K e)

/-- The function is an operand with an open place inside it. -/
inductive Operand.Context : Place → (Expr → Operand) → Prop
  | item (before after : List Operand) :
      Operand.Context .plain fun e => .list (before ++ e.operand :: after)
  | list {p : Place} {K : Expr → Operand} (before after : List Operand)
      (inner : Operand.Context p K) :
      Operand.Context p fun e => .list (before ++ K e :: after)
  | subquery {p : Place} {K : Expr → Query} (inner : Query.Context p K) :
      Operand.Context p fun e => .subquery (K e)

/-- The function is a condition with an open place. -/
inductive Condition.Context : Place → (Expr → Condition) → Prop
  | field {p : Place} {K : Expr → Expr} (c : Connective) (comparison : Comparison)
      (operand : Operand) (inner : Expr.Context p K) :
      Condition.Context p fun e => .test c (K e) comparison operand
  | operand (c : Connective) (field : Expr) (comparison : Comparison) :
      Condition.Context (.operand comparison) fun e => .test c field comparison e.operand
  | inOperand {p : Place} {K : Expr → Operand} (c : Connective) (field : Expr)
      (comparison : Comparison) (inner : Operand.Context p K) :
      Condition.Context p fun e => .test c field comparison (K e)
  | group {p : Place} {K : Expr → Condition} (c : Connective) (before after : List Condition)
      (inner : Condition.Context p K) :
      Condition.Context p fun e => .group c (before ++ K e :: after)

/-- The function is a join with an open place. -/
inductive Join.Context : Place → (Expr → Join) → Prop
  | product {p : Place} {K : Expr → Expr} (inner : Expr.Context p K) :
      Join.Context p fun e => .product (K e)
  | table {p : Place} {K : Expr → Expr} (kind : JoinKind) (on : Condition)
      (inner : Expr.Context p K) :
      Join.Context p fun e => .matching kind (K e) on
  | on {p : Place} {K : Expr → Condition} (kind : JoinKind) (table : Expr)
      (inner : Condition.Context p K) :
      Join.Context p fun e => .matching kind table (K e)

/-- The function is a query with an open place. -/
inductive Query.Context : Place → (Expr → Query) → Prop
  | column {p : Place} {K : Expr → Expr} (q : Query) (before after : List Expr)
      (inner : Expr.Context p K) :
      Query.Context p fun e => { q with columns := before ++ K e :: after }
  | source {p : Place} {K : Expr → Expr} (q : Query) (inner : Expr.Context p K) :
      Query.Context p fun e => { q with source := some { table := K e } }
  | namedSource (q : Query) (name : String) :
      Query.Context .namedSource fun e => { q with source := some { table := e, name } }
  | inNamedSource {p : Place} {K : Expr → Query} (q : Query) (name : String)
      (inner : Query.Context p K) :
      Query.Context p fun e => { q with source := some { table := .subquery (K e), name } }
  | join {p : Place} {K : Expr → Join} (q : Query) (before after : List Join)
      (inner : Join.Context p K) :
      Query.Context p fun e => { q with joins := before ++ K e :: after }
  | filter {p : Place} {K : Expr → Condition} (q : Query) (before after : List Condition)
      (inner : Condition.Context p K) :
      Query.Context p fun e => { q with filters := before ++ K e :: after }
  | having {p : Place} {K : Expr → Condition} (q : Query) (before after : List Condition)
      (inner : Condition.Context p K) :
      Query.Context p fun e => { q with havings := before ++ K e :: after }

end

namespace Rendering

/-- Texts one behind the other, each but the first behind its connective. -/
def chainText : List (Connective × String) → String
  | [] => ""
  | (_, t) :: rest => t ++ String.join (rest.map fun p => " " ++ p.1.sql ++ " " ++ p.2)

theorem text_chained (rs : List (Connective × Rendering)) :
    (chained rs).text = chainText (rs.map fun p => (p.1, p.2.text)) := by
  induction rs with
  | nil => rfl
  | cons r rest ih =>
      cases rest with
      | nil => simp [chained, chainText]
      | cons s rest =>
          rw [chained, text_append, text_append, ih]
          simp [chainText, String.append_assoc]

end Rendering

theorem RightSide.text_whole {r s : RightSide Rendering}
    (same : r.map Rendering.text = s.map Rendering.text) : r.whole.text = s.whole.text := by
  cases r <;> cases s <;>
    simp_all [whole, Rendering.text_parenthesized, Rendering.text_separated]

/-- The text of a comparison depends on the texts of its sides alone. -/
theorem Comparison.text_phrase_congr (c : Comparison) {field other : Rendering}
    {r s : RightSide Rendering} (fields : field.text = other.text)
    (operands : r.map Rendering.text = s.map Rendering.text) :
    (c.phrase field r).text = (c.phrase other s).text := by
  have whole := RightSide.text_whole operands
  cases r with
  | scalar text =>
      cases s with
      | scalar => cases arity : c.arity <;>
          simp_all [phrase, RightSide.whole, Rendering.text_parenthesized]
      | items | nested => simp at operands
  | nested text =>
      cases s with
      | nested => cases arity : c.arity <;> simp_all [phrase, RightSide.whole]
      | scalar | items => simp at operands
  | items texts =>
      cases s with
      | items others =>
          have bounds := congrArg (" AND ".intercalate) (RightSide.items.inj operands)
          rw [← Rendering.text_separated, ← Rendering.text_separated] at bounds
          have empty : texts = [] ↔ others = [] := by
            rw [← List.map_eq_nil_iff (f := Rendering.text), RightSide.items.inj operands,
              List.map_eq_nil_iff]
          cases texts <;> cases others <;> simp at empty <;>
            cases arity : c.arity <;> simp_all [phrase]
      | scalar | nested => simp at operands

namespace Condition

theorem text_renderAll (d : Dialect) (cs : List Condition) :
    (renderAll d cs).text =
      Rendering.chainText ((cs.filter (!·.isEmpty)).map fun c =>
        (c.connective, (c.render d).text)) := by
  rw [renderAll, Rendering.text_chained, renderSiblings_eq_map, List.map_map]
  rfl

/-- One of several conditions can be exchanged for another one that is written like it. -/
theorem text_renderAll_exchange {d : Dialect} {x y : Condition} (before after : List Condition)
    (empty : x.isEmpty = y.isEmpty) (connective : x.connective = y.connective)
    (text : (x.render d).text = (y.render d).text) :
    (renderAll d (before ++ x :: after)).text = (renderAll d (before ++ y :: after)).text := by
  rw [text_renderAll, text_renderAll]
  cases kept : y.isEmpty <;> simp [empty, kept, connective, text]

theorem areEmpty_exchange {x y : Condition} (before after : List Condition)
    (empty : x.isEmpty = y.isEmpty) :
    areEmpty (before ++ x :: after) = areEmpty (before ++ y :: after) := by
  rw [areEmpty_append, areEmpty_append, areEmpty_cons, areEmpty_cons, empty]

end Condition

namespace Query

/-- A clause of conditions depends on the texts of its conditions alone. -/
theorem conditionText_exchange {d : Dialect} {x y : Condition} (keyword : String)
    (before after : List Condition) (empty : x.isEmpty = y.isEmpty)
    (connective : x.connective = y.connective) (text : (x.render d).text = (y.render d).text) :
    conditionText d keyword (before ++ x :: after) =
      conditionText d keyword (before ++ y :: after) := by
  rw [conditionText_eq, conditionText_eq, Condition.areEmpty_exchange before after empty,
    Condition.text_renderAll_exchange before after empty connective text]

/-- The text of a query without its name depends on its segments alone. -/
theorem text_body_congr {d : Dialect} {q r : Query} (same : segments d q = segments d r) :
    (q.body d).text = (r.body d).text := by
  rw [text_body, text_body, same]

end Query

/-- In a place of the kind, two expressions are written with one text. -/
def Place.SameText (d : Dialect) (e f : Expr) : Place → Prop
  | .plain => (e.render d).text = (f.render d).text
  | .namedSource => ∀ name : String,
      Query.sourceText d (some ⟨e, name⟩) = Query.sourceText d (some ⟨f, name⟩)
  | .operand comparison => ∀ field : Rendering,
      (comparison.phrase field (e.operand.rightSide d)).text =
        (comparison.phrase field (f.operand.rightSide d)).text

theorem Expr.text_whole_operand (d : Dialect) (e : Expr) :
    (e.operand.rightSide d).whole.text = (e.render d).text := by
  cases e <;> simp [operand, Operand.rightSide, render, RightSide.whole]

theorem Query.sourceText_unnamed (d : Dialect) (e : Expr) :
    sourceText d (some { table := e }) = "FROM " ++ (e.render d).text := by
  cases e with
  | raw text => simp [sourceText, Expr.render, Rendering.nameText]
  | subquery q =>
      simp only [sourceText, Expr.render, Rendering.text_named, Rendering.text_parenthesized,
        Option.none_or, opening_source_eq, String.append_assoc]

section Exchange

variable {d : Dialect} {e f : Expr}

mutual

/-- What is written of a context depends on the text in its open place alone. -/
theorem Expr.Context.text_congr {p : Place} (same : p.SameText d e f) :
    ∀ {K : Expr → Expr}, Expr.Context p K → ((K e).render d).text = ((K f).render d).text
  | _, .here => same
  | _, .subquery inner => by
      obtain ⟨name, body⟩ := inner.text_congr same
      simp only [Expr.render, Rendering.text_named, Rendering.text_parenthesized, name, body]

theorem Operand.Context.text_congr {p : Place} (same : p.SameText d e f) :
    ∀ {K : Expr → Operand}, Operand.Context p K →
      ((K e).rightSide d).map Rendering.text = ((K f).rightSide d).map Rendering.text
  | _, .item before after => by
      have item : (e.render d).text = (f.render d).text := same
      simp [Operand.rightSide, Operand.renderItems_eq_map, Expr.text_whole_operand, item]
  | _, .list before after inner => by
      have item := RightSide.text_whole (inner.text_congr same)
      simp [Operand.rightSide, Operand.renderItems_eq_map, item]
  | _, .subquery inner => by
      obtain ⟨name, body⟩ := inner.text_congr same
      simp only [Operand.rightSide, RightSide.map_nested, Rendering.text_named,
        Rendering.text_parenthesized, name, body]

theorem Condition.Context.text_congr {p : Place} (same : p.SameText d e f) :
    ∀ {K : Expr → Condition}, Condition.Context p K →
      (K e).isEmpty = (K f).isEmpty ∧ (K e).connective = (K f).connective ∧
        ((K e).render d).text = ((K f).render d).text
  | _, .field c comparison operand inner => by
      refine ⟨by simp, rfl, ?_⟩
      rw [Condition.render, Condition.render]
      exact comparison.text_phrase_congr (inner.text_congr same) rfl
  | _, .operand c field comparison => by
      refine ⟨by simp, rfl, ?_⟩
      rw [Condition.render, Condition.render]
      exact same (field.render d)
  | _, .inOperand c field comparison inner => by
      refine ⟨by simp, rfl, ?_⟩
      rw [Condition.render, Condition.render]
      exact comparison.text_phrase_congr rfl (inner.text_congr same)
  | _, .group c before after inner => by
      obtain ⟨empty, connective, text⟩ := inner.text_congr same
      have empties := Condition.areEmpty_exchange before after empty
      have texts := Condition.text_renderAll_exchange before after empty connective text
      refine ⟨by simpa using empties, rfl, ?_⟩
      rw [Condition.render, Condition.render, empties]
      split
      · rfl
      · rw [Rendering.text_parenthesized, Rendering.text_parenthesized]
        congr 2

theorem Join.Context.text_congr {p : Place} (same : p.SameText d e f) :
    ∀ {K : Expr → Join}, Join.Context p K →
      ((K e).render d).text = ((K f).render d).text
  | _, .product inner => by
      simp [Join.render, inner.text_congr same]
  | _, .table kind on inner => by
      rw [Join.render, Join.render]
      split <;> simp [inner.text_congr same]
  | _, .on kind table inner => by
      obtain ⟨empty, _, text⟩ := inner.text_congr same
      rw [Join.render, Join.render, empty]
      split <;> simp [text]

theorem Query.Context.text_congr {p : Place} (same : p.SameText d e f) :
    ∀ {K : Expr → Query}, Query.Context p K →
      (K e).name = (K f).name ∧ ((K e).body d).text = ((K f).body d).text
  | _, .column q before after inner => by
      have column := inner.text_congr same
      refine ⟨rfl, Query.text_body_congr ?_⟩
      simp only [Query.segments, List.map_append, List.map_cons, Query.exprText_eq, column]
  | _, .source q inner => by
      have source := inner.text_congr same
      refine ⟨rfl, Query.text_body_congr ?_⟩
      simp only [Query.segments, Query.sourceText_unnamed, source]
  | _, .namedSource q name => by
      have source := same name
      refine ⟨rfl, Query.text_body_congr ?_⟩
      simp only [Query.segments, source]
  | _, .inNamedSource q name inner => by
      obtain ⟨_, body⟩ := inner.text_congr same
      refine ⟨rfl, Query.text_body_congr ?_⟩
      simp only [Query.segments, Query.sourceText, body, Option.some_or]
  | _, .join q before after inner => by
      have join := inner.text_congr same
      refine ⟨rfl, Query.text_body_congr ?_⟩
      simp only [Query.segments, List.map_append, List.map_cons, Query.joinText_eq, join]
  | _, .filter q before after inner => by
      obtain ⟨empty, connective, text⟩ := inner.text_congr same
      refine ⟨rfl, Query.text_body_congr ?_⟩
      simp only [Query.segments,
        Query.conditionText_exchange _ before after empty connective text]
  | _, .having q before after inner => by
      obtain ⟨empty, connective, text⟩ := inner.text_congr same
      refine ⟨rfl, Query.text_body_congr ?_⟩
      simp only [Query.segments,
        Query.conditionText_exchange _ before after empty connective text]

end

end Exchange

namespace Query

/-- The text of a query among others: it stands in parentheses, with its name behind them. -/
def embeddedText (d : Dialect) (q : Query) : String :=
  match q.name with
  | none => "(" ++ (q.body d).text ++ ")"
  | some name => "(" ++ (q.body d).text ++ ") AS " ++ name

theorem text_render_subquery (d : Dialect) (q : Query) :
    ((Expr.subquery q).render d).text = q.embeddedText d := by
  rw [Expr.render, Rendering.text_named, Rendering.text_parenthesized]
  unfold embeddedText
  cases q.name with
  | none => exact String.append_empty
  | some name => simp only [Rendering.nameText, closing_name_eq, String.append_assoc]

end Query

/-- The text that can stand for a query in a place of the kind. The candidates of a comparison
get their parentheses from the comparison, and there is no place there for a name. -/
def Place.writtenOut? (d : Dialect) (q : Query) : Place → Option String
  | .plain => some (q.embeddedText d)
  | .namedSource => some ("(" ++ (q.body d).text ++ ")")
  | .operand comparison =>
    if comparison.isMembership then
      if q.name.isNone then some (q.body d).text else none
    else
      some (q.embeddedText d)

/-- Written out, a query has the text that it had as a query. -/
theorem Place.sameText_writtenOut {d : Dialect} {q : Query} {text : String} {p : Place}
    (out : p.writtenOut? d q = some text) : p.SameText d (.raw text) (.subquery q) := by
  cases p with
  | plain =>
      cases out
      exact (Query.text_render_subquery d q).symm
  | namedSource =>
      cases out
      intro name
      simp only [Query.sourceText, Option.some_or, Query.opening_source_eq, String.append_assoc]
  | operand comparison =>
      intro field
      have ofArity : comparison.isMembership = (comparison.arity == .many) := rfl
      simp only [writtenOut?] at out
      split at out
      · next membership =>
          split at out
          · next unnamed =>
              cases out
              have many : comparison.arity = .many := beq_iff_eq.mp membership
              have name : q.name = none := Option.isNone_iff_eq_none.mp unnamed
              simp [Expr.operand, Operand.rightSide, Comparison.phrase, many, name,
                Rendering.named, Rendering.text_parenthesized]
          · cases out
      · next other =>
          cases out
          have written := Query.text_render_subquery d q
          rw [Expr.render] at written
          simp only [Expr.operand, Operand.rightSide, Comparison.phrase]
          cases arity : comparison.arity <;> simp_all

namespace Query

/-- Wherever a query stands in another one, at any depth, the text of the outer query does not
change if the inner one is written out in the place where it stands. -/
theorem text_writtenOut {d : Dialect} {p : Place} {K : Expr → Query} {q : Query} {text : String}
    (context : Query.Context p K) (out : p.writtenOut? d q = some text) :
    ((K (.raw text)).sqlIn d).value = ((K (.subquery q)).sqlIn d).value := by
  obtain ⟨name, body⟩ := context.text_congr (Place.sameText_writtenOut out)
  rw [value_sqlIn, value_sqlIn, text_render_eq, text_render_eq, name, body]

/-- A place for the candidates of a comparison, in a group of the conditions of a query that has
one name inside another query and a different one outside. -/
def candidatesPlace (e : Expr) : Query where
  source := some
    { table := .subquery
        { source := some { table := .raw "t" }
          filters := [.group .or [.test .and (.raw "a") .isIn e.operand]]
          name := some "u" }
      name := some "v" }

/-- Its truth value is a keyword in some dialects and a number in others. -/
def candidatesQuery : Query where
  columns := [.raw "b"]
  source := some { table := .raw "w" }
  filters := [.test .and (.raw "c") .equal (.value (.bool true))]
  pinned := some .mysql

theorem text_writtenOut_candidates :
    Query.Context (.operand .isIn) candidatesPlace ∧
      (Place.operand .isIn).writtenOut? .oracle candidatesQuery =
        some "SELECT b FROM w WHERE c = 1" ∧
      ((candidatesPlace (.subquery candidatesQuery)).sqlIn .oracle).value =
        "SELECT * FROM (SELECT * FROM t WHERE (a IN (SELECT b FROM w WHERE c = 1))) AS v" := by
  have context : Query.Context (.operand .isIn) candidatesPlace :=
    .inNamedSource {} "v" <|
      .filter { source := some { table := .raw "t" }, name := some "u" } [] [] <|
        .group .or [] [] (.operand .and (.raw "a") .isIn)
  have out : (Place.operand .isIn).writtenOut? .oracle candidatesQuery =
      some "SELECT b FROM w WHERE c = 1" := by decide +kernel
  refine ⟨context, out, ?_⟩
  rw [← text_writtenOut context out]
  decide +kernel

end Query

end SqlSelect
