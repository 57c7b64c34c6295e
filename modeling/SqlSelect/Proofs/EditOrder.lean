import Mathlib.Data.List.Induction
import SqlSelect.Proofs.Segments
import SqlSelect.Query.Edit

/-!
# The order of edits

Edits of different clauses can be made in any order. What they make of the query without
clauses can be said for each clause by itself, by what the edits of that clause give: a clause
that is a list has all of it, in order, and any other clause has the last of it.

## Implementation notes

What an edit gives for a clause is a list for every clause, so that one lemma is enough to
leave out the edits of the others. Edits that remove a page give the page of no rows.
-/

namespace SqlSelect

/-- A part of a query that edits change by itself. -/
inductive Clause where
  | columns
  | distinct
  | source
  | joins
  | filters
  | groupKeys
  | havings
  | orderKeys
  | limit
  | fetch
  | name
  | dialect
  deriving DecidableEq, Repr

namespace Edit

/-- The clause that the edit is about. -/
def clause : Edit → Clause
  | select _ => .columns
  | distinct => .distinct
  | takeFrom .. => .source
  | join _ => .joins
  | filter _ => .filters
  | groupBy _ => .groupKeys
  | having _ => .havings
  | orderBy .. => .orderKeys
  | limit _ | dropLimit => .limit
  | fetch _ | dropFetch => .fetch
  | name _ => .name
  | pin _ => .dialect

/-- What the edit gives for the columns. The functions behind this one say the same for the
other clauses. -/
def columns : Edit → List Expr
  | select columns => columns
  | _ => []

def flags : Edit → List Bool
  | distinct => [true]
  | _ => []

def sources : Edit → List (Source Expr)
  | takeFrom table given => [{ table, name := given }]
  | _ => []

def joins : Edit → List Join
  | join j => [j]
  | _ => []

def filters : Edit → List Condition
  | filter c => c.conditions
  | _ => []

def groupKeys : Edit → List String
  | groupBy keys => keys
  | _ => []

def havings : Edit → List Condition
  | having c => c.conditions
  | _ => []

def orderKeys : Edit → List (String × Direction)
  | orderBy key direction => [(key, direction)]
  | _ => []

def limits : Edit → List Page
  | limit p => [p]
  | dropLimit => [{}]
  | _ => []

def fetches : Edit → List Page
  | fetch p => [p]
  | dropFetch => [{}]
  | _ => []

def names : Edit → List String
  | name given => [given]
  | _ => []

def dialects : Edit → List Dialect
  | pin d => [d]
  | _ => []

section Clauses

variable {α : Type} {k : Clause} {f : Edit → List α}

/-- What is given for a clause is given by the edits of that clause. -/
theorem flatMap_filter (only : ∀ e, e.clause ≠ k → f e = []) (es : List Edit) :
    (es.filter (·.clause == k)).flatMap f = es.flatMap f := by
  induction es with
  | nil => rfl
  | cons e es ih =>
      by_cases own : e.clause = k
      · rw [List.filter_cons_of_pos (by simpa using own), List.flatMap_cons, ih,
          List.flatMap_cons]
      · rw [List.filter_cons_of_neg (by simpa using own), ih, List.flatMap_cons, only e own,
          List.nil_append]

theorem flatMap_congr {es fs : List Edit} (only : ∀ e, e.clause ≠ k → f e = [])
    (same : es.filter (·.clause == k) = fs.filter (·.clause == k)) :
    es.flatMap f = fs.flatMap f := by
  rw [← flatMap_filter only es, same, flatMap_filter only fs]

end Clauses

end Edit

namespace Query

/-- The query that edits give, clause by clause. -/
def ofEdits (es : List Edit) : Query where
  columns := es.flatMap Edit.columns
  distinct := (es.flatMap Edit.flags).getLast?.getD false
  source := (es.flatMap Edit.sources).getLast?
  joins := es.flatMap Edit.joins
  filters := es.flatMap Edit.filters
  groupKeys := es.flatMap Edit.groupKeys
  havings := es.flatMap Edit.havings
  orderKeys := es.flatMap Edit.orderKeys
  limit := (es.flatMap Edit.limits).getLast?.getD {}
  fetch := (es.flatMap Edit.fetches).getLast?.getD {}
  name := (es.flatMap Edit.names).getLast?
  pinned := (es.flatMap Edit.dialects).getLast?

/-- A further edit adds to its clause, or replaces it, and leaves the others alone. -/
theorem ofEdits_append (es : List Edit) (e : Edit) :
    ofEdits (es ++ [e]) = (ofEdits es).apply e := by
  cases e <;>
    simp [ofEdits, apply, select, takeFrom, join, filter, having, groupBy, orderBy, pin,
      Edit.columns, Edit.flags, Edit.sources, Edit.joins, Edit.filters, Edit.groupKeys,
      Edit.havings, Edit.orderKeys, Edit.limits, Edit.fetches, Edit.names, Edit.dialects]

/-- Edits one after the other give what they give clause by clause. -/
theorem applyAll_eq_ofEdits (es : List Edit) : applyAll {} es = ofEdits es := by
  induction es using List.reverseRecOn with
  | nil => rfl
  | append_singleton es e ih =>
      rw [applyAll_append, ih, ofEdits_append, applyAll_cons, applyAll_nil]

/-- What edits give depends on the order of the edits of one clause only. -/
theorem ofEdits_congr {es fs : List Edit}
    (same : ∀ k, es.filter (·.clause == k) = fs.filter (·.clause == k)) :
    ofEdits es = ofEdits fs := by
  have given {α : Type} (f : Edit → List α) (k : Clause)
      (only : ∀ e, e.clause ≠ k → f e = []) : es.flatMap f = fs.flatMap f :=
    Edit.flatMap_congr only (same k)
  unfold ofEdits
  rw [given Edit.columns .columns, given Edit.flags .distinct, given Edit.sources .source,
    given Edit.joins .joins, given Edit.filters .filters, given Edit.groupKeys .groupKeys,
    given Edit.havings .havings, given Edit.orderKeys .orderKeys, given Edit.limits .limit,
    given Edit.fetches .fetch, given Edit.names .name, given Edit.dialects .dialect]
  all_goals
    intro e other
    cases e <;> first | rfl | exact absurd rfl other

/-- Queries that grow by the same edits of each clause, however these are mixed, have the same
text in every dialect and are checked alike. The text without a name is the row of the
segments that the edits give, and it stands in parentheses behind the last name. -/
theorem clausewise_edits_agree {es fs : List Edit}
    (same : ∀ k, es.filter (·.clause == k) = fs.filter (·.clause == k)) :
    (∀ d, (applyAll {} es).sqlIn d = (applyAll {} fs).sqlIn d) ∧
    (∀ sessionDefault, (applyAll {} es).sql sessionDefault = (applyAll {} fs).sql sessionDefault ∧
      (applyAll {} es).check sessionDefault = (applyAll {} fs).check sessionDefault ∧
      (applyAll {} es).checkedSql sessionDefault =
        (applyAll {} fs).checkedSql sessionDefault) ∧
    ∀ d, ((applyAll {} es).body d).text =
        " ".intercalate ((segments d (ofEdits es)).filter (· ≠ "")) ∧
      ((applyAll {} es).sqlIn d).value =
        match (ofEdits es).name with
        | none => ((applyAll {} es).body d).text
        | some name => "(" ++ ((applyAll {} es).body d).text ++ ") AS " ++ name := by
  have one : applyAll {} es = applyAll {} fs := by
    rw [applyAll_eq_ofEdits, ofEdits_congr same, applyAll_eq_ofEdits]
  refine ⟨fun d => by rw [one], fun sessionDefault => ?_, fun d => ⟨?_, ?_⟩⟩
  · rw [one]
    exact ⟨rfl, rfl, rfl⟩
  · rw [applyAll_eq_ofEdits, text_body]
  · rw [value_sqlIn, applyAll_eq_ofEdits]
    exact text_render_eq d (ofEdits es)

/-- A window of rows of a table. -/
def window : Query :=
  applyAll {} [.takeFrom (.raw "t") none, .fetchFrom 4 2]

/-- A group of two comparisons behind OR. -/
def missing : Edit :=
  .filterOrGroup [.andTest (.raw "d") .isNull (.raw ""), .orTest (.raw "e") .isNull (.raw "")]

/-- Edits of all clauses, clause by clause. -/
def sorted : List Edit :=
  [.select [.raw "a"], .select [.raw "b"], .distinct, .takeFrom (.raw "s") none,
    .takeFrom (.subquery window) (some "u"),
    .leftJoin (.raw "v") (.columns (.raw "u.i") .equal "v.i"), .crossJoin (.raw "w"),
    .filterAnd (.raw "c") .equal (.value (.int 1)), .filterAndGroup [], missing,
    .filterGiven [.columns (.raw "f") .less "g"], .groupBy ["a"], .groupBy ["b", "c"],
    .havingAnd (.raw "n") .greater (.value (.int 2)), .orderAscending "a", .orderDescending "b",
    .limitTo 5 0, .limitTo 7 3, .fetchFrom 0 9, .dropFetch, .name "x", .pin .sqlite]

/-- The same edits in another order. -/
def mixed : List Edit :=
  [.pin .sqlite, .orderAscending "a", .limitTo 5 0, .takeFrom (.raw "s") none, .fetchFrom 0 9,
    .groupBy ["a"], .filterAnd (.raw "c") .equal (.value (.int 1)), .dropFetch,
    .leftJoin (.raw "v") (.columns (.raw "u.i") .equal "v.i"), .select [.raw "a"],
    .filterAndGroup [], missing, .orderDescending "b", .name "x", .limitTo 7 3,
    .takeFrom (.subquery window) (some "u"), .havingAnd (.raw "n") .greater (.value (.int 2)),
    .filterGiven [.columns (.raw "f") .less "g"], .distinct, .groupBy ["b", "c"],
    .crossJoin (.raw "w"), .select [.raw "b"]]

theorem clausewise_edits_agree_mixed :
    (∀ k, mixed.filter (·.clause == k) = sorted.filter (·.clause == k)) ∧
      ((applyAll {} mixed).sqlIn .oracle).value =
        "(SELECT DISTINCT a, b FROM (SELECT * FROM t OFFSET 4 ROWS FETCH NEXT 2 ROWS ONLY) AS u " ++
          "LEFT JOIN v ON u.i = v.i CROSS JOIN w WHERE c = 1 OR (d IS NULL OR e IS NULL) " ++
          "AND f < g GROUP BY a, b, c HAVING n > 2 ORDER BY a ASC, b DESC " ++
          "LIMIT 7 OFFSET 3) AS x" ∧
      ((applyAll {} mixed).check .mysql).value = .ok () := by
  have same : ∀ k, mixed.filter (·.clause == k) = sorted.filter (·.clause == k) := by
    intro k
    cases k <;> rfl
  obtain ⟨_, answers, rows⟩ := clausewise_edits_agree same
  obtain ⟨row, text⟩ := rows .oracle
  obtain ⟨_, checks, _⟩ := answers .mysql
  refine ⟨same, ?_, ?_⟩
  · rw [text, row]
    decide +kernel
  · rw [checks]
    rfl

end Query

end SqlSelect
