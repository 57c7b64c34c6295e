import SqlSelect.Proofs.EditOrder
import SqlSelect.Proofs.FirstFault

/-!
# Counting the rows of a query

The query that counts the rows of another one takes them from that query under a name. Its text
has every clause of the other one that decides which rows there are, and its queries as they
stand; the order and the pages of the other query itself are left out, and so is its name. A
fault of the one is a fault of the other, apart from two pages at once.
-/

namespace SqlSelect

namespace Query

/-- What the clauses show that decide which rows there are, in the order of the text. -/
def rowSegments (d : Dialect) (q : Query) : List String :=
  [selectText q.distinct (q.columns.map (exprText d)),
    sourceText d q.source,
    " ".intercalate (q.joins.map (joinText d)),
    conditionText d "WHERE" q.filters,
    listText "GROUP BY" q.groupKeys,
    conditionText d "HAVING" q.havings]

/-- What the clauses show that order the rows and choose a window of them. -/
def windowSegments (q : Query) : List String :=
  [listText "ORDER BY" (q.orderKeys.map orderText),
    limitText q.limit,
    fetchText q.fetch]

theorem segments_eq_append (d : Dialect) (q : Query) :
    segments d q = rowSegments d q ++ windowSegments q := rfl

/-- The text of the clauses that decide which rows there are. -/
def rowText (d : Dialect) (q : Query) : String :=
  " ".intercalate ((rowSegments d q).filter (· ≠ ""))

/-- The query that rows are counted of. -/
def counted (q : Query) : Query :=
  { q with orderKeys := [], limit := {}, fetch := {}, name := some "count_sub" }

theorem text_body_counted (d : Dialect) (q : Query) : (q.counted.body d).text = rowText d q := by
  have rows : rowSegments d q.counted = rowSegments d q := rfl
  have window : windowSegments q.counted = ["", "", ""] := rfl
  rw [text_body, segments_eq_append, rows, window, List.filter_append, rowText]
  exact congrArg _ (List.append_nil _)

theorem text_render_counting (d : Dialect) (q : Query) :
    (q.counting.render d).text = "SELECT COUNT(*) FROM (" ++ rowText d q ++ ") AS count_sub" := by
  have source : sourceText d q.counting.source =
      "FROM (" ++ rowText d q ++ ") AS count_sub" := by
    have closing : ") AS count_sub" = ")" ++ " AS count_sub" := by decide +kernel
    rw [← text_body_counted, closing, ← String.append_assoc]
    rfl
  have shown : segments d q.counting =
      ["SELECT COUNT(*)", sourceText d q.counting.source, "", "", "", "", "", "", ""] := by
    have columns : selectText false ["COUNT(*)"] = "SELECT COUNT(*)" := by decide +kernel
    rw [← columns]
    rfl
  have opening : "SELECT COUNT(*) FROM (" = "SELECT COUNT(*) " ++ "FROM (" := by decide +kernel
  have body : (q.counting.body d).text =
      "SELECT COUNT(*) " ++ ("FROM (" ++ rowText d q ++ ") AS count_sub") := by
    rw [text_body, shown, source]
    simp [String.intercalate_cons_cons]
  have unnamed : q.counting.name = none := rfl
  rw [text_render_eq, unnamed]
  simp only [body, opening, String.append_assoc]

/-- What an edit does to the order, the pages or the name of a query does not matter for the
number of its rows. -/
theorem counting_apply (q : Query) {e : Edit}
    (view : e.clause ∈ [Clause.orderKeys, .limit, .fetch, .name]) :
    (q.apply e).counting = q.counting := by
  cases e with
  | orderBy | limit | dropLimit | fetch | dropFetch | name => rfl
  | select | distinct | takeFrom | join | filter | groupBy | having | pin =>
      simp [Edit.clause] at view

theorem counting_applyAll (q : Query) {es : List Edit}
    (view : ∀ e ∈ es, e.clause ∈ [Clause.orderKeys, .limit, .fetch, .name]) :
    (q.applyAll es).counting = q.counting := by
  induction es generalizing q with
  | nil => rfl
  | cons e es ih =>
      obtain ⟨first, others⟩ := List.forall_mem_cons.mp view
      rw [applyAll_cons, ih (q.apply e) others, counting_apply q first]

theorem fault?_counting (d : Dialect) (q : Query) :
    q.counting.fault? d = (q.applyAll [.dropLimit, .dropFetch]).fault? d := by
  have inner : q.counted.fault? d = (q.applyAll [.dropLimit, .dropFetch]).fault? d := by
    rw [fault?_eq, fault?_eq]
    rfl
  have source : sourceFault? d q.counting.source = q.counted.fault? d := by
    rw [counting, sourceFault?]
    rfl
  rw [fault?_eq, source, inner]
  simp [counting, Expr.fault?, Fault.ofPages?, Page.isSet]

/-- The query that counts the rows of another one has the text of that query in parentheses,
without its name, its order and its pages, and with everything else. It is the same query
whatever edits of these clauses come before. It has no name of its own, it is written in the
dialect of the other query, and it is accepted or rejected like that query without pages. -/
theorem counting_keeps_rows (q : Query) :
    (∀ d, (q.body d).text =
        " ".intercalate ((rowSegments d q ++ windowSegments q).filter (· ≠ "")) ∧
      (q.counting.sqlIn d).value =
        "SELECT COUNT(*) FROM (" ++ " ".intercalate ((rowSegments d q).filter (· ≠ "")) ++
          ") AS count_sub") ∧
    (∀ es : List Edit, (∀ e ∈ es, e.clause ∈ [Clause.orderKeys, .limit, .fetch, .name]) →
      (q.applyAll es).counting = q.counting) ∧
    q.counting.name = none ∧
    ∀ sessionDefault, q.counting.dialect sessionDefault = q.dialect sessionDefault ∧
      q.counting.check sessionDefault =
        (q.applyAll [.dropLimit, .dropFetch]).check sessionDefault := by
  refine ⟨fun d => ⟨?_, ?_⟩, fun es view => counting_applyAll q view, rfl,
    fun sessionDefault => ⟨dialect_counting sessionDefault q, ?_⟩⟩
  · rw [text_body, segments_eq_append]
  · rw [value_sqlIn, text_render_counting, rowText]
  · have dialect : (q.applyAll [.dropLimit, .dropFetch]).dialect sessionDefault =
        q.dialect sessionDefault := rfl
    simp only [check, fault?_counting, dialect, dialect_counting]

/-- The three largest rows of a table. -/
def largest : Query where
  source := some { table := .raw "t" }
  orderKeys := [("b", .descending)]
  limit := ⟨3, 0⟩

/-- A window of these rows that is chosen twice. -/
def paged : Query where
  columns := [.raw "a"]
  source := some { table := .subquery largest, name := some "s" }
  orderKeys := [("a", .ascending)]
  limit := ⟨10, 0⟩
  fetch := ⟨5, 0⟩
  name := some "x"
  pinned := some .oracle

def otherView : List Edit :=
  [.orderBy "c" .ascending, .dropFetch, .limit ⟨7, 7⟩, .name "y"]

/-- The order and the pages of the source are kept, those of the query itself are not, and it does
no harm that there were two of them. -/
theorem counting_keeps_rows_paged :
    (∀ e ∈ otherView, e.clause ∈ [Clause.orderKeys, .limit, .fetch, .name]) ∧
      ((paged.applyAll otherView).counting.sqlIn .mysql).value =
        "SELECT COUNT(*) FROM (SELECT a FROM (SELECT * FROM t ORDER BY b DESC LIMIT 3 OFFSET 0) " ++
          "AS s) AS count_sub" ∧
      (paged.check .mysql).value = .error (.twoPages ⟨10, 0⟩ ⟨5, 0⟩) ∧
      (paged.counting.check .mysql).value = .ok () := by
  have view : ∀ e ∈ otherView, e.clause ∈ [Clause.orderKeys, .limit, .fetch, .name] := by decide
  obtain ⟨texts, views, -, answers⟩ := counting_keeps_rows paged
  obtain ⟨-, counted⟩ := texts .mysql
  obtain ⟨-, checks⟩ := answers .mysql
  refine ⟨view, ?_, by decide +kernel, ?_⟩
  · rw [views otherView view, counted]
    decide +kernel
  · rw [checks]
    decide +kernel

end Query

end SqlSelect
