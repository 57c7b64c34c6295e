import SqlSelect.Proofs.Induction
import SqlSelect.Query.Answer

/-!
# The segments of a text

The text of a query is a row of nine segments, one for each clause that can appear, with a
blank between any two. A clause that has nothing to show has the empty text as its segment,
and the row passes over it. What a segment shows of each of its items is said here in words of
its own, and the clauses of a rendering are shown to be these segments.

## Implementation notes

Each join is written behind a blank of its own, so the joins of a query are a row by
themselves. A row of rows is one row if no text in it is empty.
-/

namespace SqlSelect

namespace Rendering

/-- A name behind a text, if there is one. -/
def nameText : Option String → String
  | none => ""
  | some name => " AS " ++ name

theorem text_separated (separator : String) (rs : List Rendering) :
    (separated separator rs).text = separator.intercalate (rs.map Rendering.text) := by
  induction rs with
  | nil => simp [separated]
  | cons r rest ih =>
      cases rest with
      | nil => simp [separated]
      | cons s rest => simp [separated, ih]

theorem text_parenthesized (r : Rendering) : r.parenthesized.text = "(" ++ r.text ++ ")" := by
  simp [parenthesized]

theorem text_named (name : Option String) (r : Rendering) :
    (r.named name).text = r.text ++ nameText name := by
  cases name <;> simp [named, nameText, String.append_assoc]

end Rendering

section Rows

variable (separator : String)

theorem intercalate_eq_empty_iff {texts : List String} (nonempty : ∀ t ∈ texts, t ≠ "") :
    separator.intercalate texts = "" ↔ texts = [] := by
  cases texts with
  | nil => simp
  | cons t rest =>
      have first := nonempty t List.mem_cons_self
      cases rest <;> simp [first]

/-- A row of rows is one row. Rows without texts are passed over. -/
theorem intercalate_flatten {rows : List (List String)}
    (nonempty : ∀ row ∈ rows, ∀ t ∈ row, t ≠ "") :
    separator.intercalate rows.flatten =
      separator.intercalate ((rows.map separator.intercalate).filter (· ≠ "")) := by
  induction rows with
  | nil => rfl
  | cons row rows ih =>
      obtain ⟨ofRow, ofRows⟩ := List.forall_mem_cons.mp nonempty
      have rest := ih ofRows
      by_cases absent : row = []
      · simpa [absent] using rest
      · have shown : separator.intercalate row ≠ "" :=
          mt (intercalate_eq_empty_iff separator ofRow).mp absent
        rw [List.flatten_cons, List.map_cons, List.filter_cons_of_pos (by simpa using shown)]
        have left : rows.flatten = [] ↔
            (rows.map separator.intercalate).filter (· ≠ "") = [] := by
          rw [← intercalate_eq_empty_iff separator, rest,
            intercalate_eq_empty_iff]
          · intro t member
            simpa using (List.mem_filter.mp member).2
          · intro t member
            obtain ⟨other, inRows, inOther⟩ := List.mem_flatten.mp member
            exact ofRows other inRows t inOther
        by_cases last : rows.flatten = []
        · rw [left.mp last, last, List.append_nil, String.intercalate_singleton]
        · rw [String.intercalate_append_of_ne_nil absent last,
            String.intercalate_cons_of_ne_nil (mt left.mpr last), rest]

/-- A further text that is not empty makes a row longer. -/
theorem length_intercalate_insert_lt (before after : List String) {t : String}
    (nonempty : t ≠ "") :
    (separator.intercalate (before ++ after)).length <
      (separator.intercalate (before ++ t :: after)).length := by
  have positive : 0 < t.length := by
    rw [Nat.pos_iff_ne_zero]
    exact mt String.length_eq_zero_iff.mp nonempty
  induction before with
  | nil =>
      rw [List.nil_append, List.nil_append]
      cases after with
      | nil => simpa using positive
      | cons u after =>
          simp only [String.intercalate_cons_cons, String.length_append]
          omega
  | cons u before ih =>
      rw [List.cons_append, List.cons_append,
        String.intercalate_cons_of_ne_nil (l := before ++ t :: after) (by simp)]
      by_cases last : before ++ after = []
      · rw [last]
        simp only [String.intercalate_singleton, String.length_append]
        rw [last] at ih
        omega
      · rw [String.intercalate_cons_of_ne_nil last]
        simp only [String.length_append]
        omega

end Rows

namespace Query

/-- A column or a table among others: a query stands in parentheses, with its name behind them. -/
def exprText (d : Dialect) : Expr → String
  | .raw text => text
  | .subquery q => "(" ++ (Query.body d q).text ++ ")" ++ Rendering.nameText q.name

def kindText : JoinKind → String
  | .inner => "INNER JOIN "
  | .left => "LEFT JOIN "
  | .right => "RIGHT JOIN "
  | .full => "FULL JOIN "
  | .cross => "CROSS JOIN "

/-- A joined table, with its condition unless that asks for nothing. -/
def joinText (d : Dialect) : Join → String
  | .product table => "CROSS JOIN " ++ exprText d table
  | .matching kind table on =>
    kindText kind ++ exprText d table ++
      if on.isEmpty then "" else " ON " ++ (on.render d).text

def connectiveText : Connective → String
  | .and => " AND "
  | .or => " OR "

/-- One key of an ordering, with its direction. -/
def orderText : String × Direction → String
  | (key, .ascending) => key ++ " ASC"
  | (key, .descending) => key ++ " DESC"

/-- The columns of a query, or the star for all of them. -/
def selectText (distinct : Bool) (columns : List String) : String :=
  (if distinct then "SELECT DISTINCT " else "SELECT ") ++
    if columns.isEmpty then "*" else ", ".intercalate columns

/-- The source of the rows. A name given here replaces the name that a query brings. -/
def sourceText (d : Dialect) : Option (Source Expr) → String
  | none => ""
  | some ⟨.raw text, name⟩ => "FROM " ++ text ++ Rendering.nameText name
  | some ⟨.subquery q, name⟩ =>
    "FROM (" ++ (Query.body d q).text ++ ")" ++ Rendering.nameText (name.or q.name)

/-- The conditions that ask for something, each but the first behind its connective. -/
def conditionText (d : Dialect) (keyword : String) (cs : List Condition) : String :=
  match cs.filter (!·.isEmpty) with
  | [] => ""
  | first :: others =>
    keyword ++ " " ++ (first.render d).text ++
      String.join (others.map fun c => connectiveText c.connective ++ (c.render d).text)

def listText (keyword : String) (items : List String) : String :=
  if items.isEmpty then "" else keyword ++ " " ++ ", ".intercalate items

/-- A window with a limit. One of no rows is not shown. -/
def limitText (p : Page) : String :=
  if p.count = 0 then ""
  else "LIMIT " ++ p.count.toNat.repr ++ " OFFSET " ++ p.offset.toNat.repr

def fetchText (p : Page) : String :=
  if p.count = 0 then ""
  else
    "OFFSET " ++ p.offset.toNat.repr ++ " ROWS FETCH NEXT " ++ p.count.toNat.repr ++ " ROWS ONLY"

/-- What the clauses of a query show, in the order of the text. -/
def segments (d : Dialect) (q : Query) : List String :=
  [selectText q.distinct (q.columns.map (exprText d)),
    sourceText d q.source,
    " ".intercalate (q.joins.map (joinText d)),
    conditionText d "WHERE" q.filters,
    listText "GROUP BY" q.groupKeys,
    conditionText d "HAVING" q.havings,
    listText "ORDER BY" (q.orderKeys.map orderText),
    limitText q.limit,
    fetchText q.fetch]

/-- A keyword and the parenthesis beside it. -/
theorem opening_source_eq : "FROM (" = "FROM " ++ "(" := by
  decide +kernel

theorem closing_name_eq : ") AS " = ")" ++ " AS " := by
  decide +kernel

theorem exprText_eq (d : Dialect) (e : Expr) : exprText d e = (e.render d).text := by
  cases e with
  | raw text => rfl
  | subquery q =>
      rw [exprText, Expr.render, Rendering.text_named, Rendering.text_parenthesized]

theorem joinText_eq (d : Dialect) (j : Join) : joinText d j = (j.render d).text := by
  cases j with
  | product table =>
      have kind : "CROSS JOIN " = JoinKind.cross.sql ++ " " := by decide +kernel
      rw [joinText, exprText_eq, kind, Join.render]
      rfl
  | matching kind table on =>
      have spelled : kindText kind = kind.sql ++ " " := by
        cases kind <;> decide +kernel
      rw [joinText, exprText_eq, spelled, Join.render]
      cases on.isEmpty <;> simp [String.append_assoc]

theorem connectiveText_eq (k : Connective) : connectiveText k = " " ++ k.sql ++ " " := by
  cases k <;> decide +kernel

theorem orderText_eq : orderText = orderKey := by
  have ascending : " ASC" = " " ++ Direction.ascending.sql := by decide +kernel
  have descending : " DESC" = " " ++ Direction.descending.sql := by decide +kernel
  funext ⟨key, direction⟩
  cases direction with
  | ascending => rw [orderText, orderKey, ascending, ← String.append_assoc]
  | descending => rw [orderText, orderKey, descending, ← String.append_assoc]

theorem text_selectClause (distinct : Bool) (columns : List Rendering) :
    (selectClause distinct columns).text =
      selectText distinct (columns.map Rendering.text) := by
  have list : (columnList columns).text =
      if (columns.map Rendering.text).isEmpty then "*"
      else ", ".intercalate (columns.map Rendering.text) := by
    cases columns with
    | nil => rfl
    | cons r rs => exact Rendering.text_separated ", " (r :: rs)
  cases distinct <;> simp only [selectClause, selectText, Rendering.text_append, list]

theorem text_fromClause (d : Dialect) (source : Option (Source Expr)) :
    " ".intercalate ((fromClause d source).map Rendering.text) = sourceText d source := by
  cases source using source_cases with
  | absent => simp [fromClause, sourceText]
  | raw text name =>
      simp [fromClause, sourceText, Rendering.text_named, String.append_assoc]
  | subquery r name =>
      simp only [fromClause, sourceText, Rendering.text_append, Rendering.text_named,
        Rendering.text_parenthesized, List.map_cons, List.map_nil, String.intercalate_singleton,
        opening_source_eq, String.append_assoc]

theorem text_chained (c : Connective) (r : Rendering) (rs : List (Connective × Rendering)) :
    (Rendering.chained ((c, r) :: rs)).text =
      r.text ++ String.join (rs.map fun x => connectiveText x.1 ++ x.2.text) := by
  induction rs generalizing c r with
  | nil => simp [Rendering.chained, String.join]
  | cons x rs ih =>
      obtain ⟨k, s⟩ := x
      simp only [Rendering.chained, Rendering.text_append, ih, List.map_cons, connectiveText_eq,
        String.join_cons, String.append_assoc]

theorem conditionText_eq (d : Dialect) (keyword : String) (cs : List Condition) :
    conditionText d keyword cs =
      if Condition.areEmpty cs then ""
      else keyword ++ " " ++ (Condition.renderAll d cs).text := by
  have none : Condition.areEmpty cs = (cs.filter (!·.isEmpty)).isEmpty := by
    rw [Condition.areEmpty_eq_all, Bool.eq_iff_iff]
    simp
  unfold conditionText
  rw [none, Condition.renderAll, Condition.renderSiblings_eq_map]
  cases cs.filter (!·.isEmpty) with
  | nil => rfl
  | cons first others =>
      rw [List.map_cons, text_chained, List.map_map, ← String.append_assoc]
      rfl

theorem text_conditionClause (d : Dialect) (keyword : String) (cs : List Condition) :
    " ".intercalate ((conditionClause keyword (Condition.renderSiblings d cs)).map
      Rendering.text) = conditionText d keyword cs := by
  have none : (Condition.renderSiblings d cs).isEmpty = Condition.areEmpty cs := by
    rw [Condition.renderSiblings_eq_map, Condition.areEmpty_eq_all, Bool.eq_iff_iff]
    simp
  rw [conditionText_eq, conditionClause, none]
  cases Condition.areEmpty cs with
  | true => rfl
  | false => simp [Condition.renderAll]

theorem text_listClause (keyword : String) (items : List String) :
    " ".intercalate ((listClause keyword items).map Rendering.text) = listText keyword items := by
  cases items with
  | nil => rfl
  | cons item items =>
      simp [listClause, listText, Rendering.text_separated, Function.comp_def]

theorem text_pageClause (clause : Page → String) (p : Page) :
    " ".intercalate ((pageClause clause p).map Rendering.text) =
      if p.count = 0 then "" else clause p := by
  unfold pageClause
  by_cases unset : p.count = 0
  · rw [if_pos unset, Page.isSet_eq_false_iff.mpr unset]
    rfl
  · rw [if_neg unset, Page.isSet_iff.mpr unset]
    exact String.intercalate_singleton

theorem text_limitClause (p : Page) :
    " ".intercalate ((pageClause Page.limitClause p).map Rendering.text) = limitText p := by
  rw [text_pageClause, Page.limitClause, limitText]

theorem text_fetchClause (p : Page) :
    " ".intercalate ((pageClause Page.fetchClause p).map Rendering.text) = fetchText p := by
  rw [text_pageClause, Page.fetchClause, fetchText]

/-- The clauses that can appear, each with the texts that it is written as. -/
def clauseTexts (d : Dialect) (q : Query) : List (List Rendering) :=
  [[selectClause q.distinct (Expr.renderAll d q.columns)],
    fromClause d q.source,
    Join.renderAll d q.joins,
    conditionClause "WHERE" (Condition.renderSiblings d q.filters),
    listClause "GROUP BY" q.groupKeys,
    conditionClause "HAVING" (Condition.renderSiblings d q.havings),
    listClause "ORDER BY" (q.orderKeys.map orderKey),
    pageClause Page.limitClause q.limit,
    pageClause Page.fetchClause q.fetch]

theorem body_eq_clauseTexts (d : Dialect) (q : Query) :
    q.body d = .separated " " (clauseTexts d q).flatten := by
  rw [body_eq]
  simp [clauseTexts]

theorem segments_eq_clauseTexts (d : Dialect) (q : Query) :
    segments d q =
      (clauseTexts d q).map fun texts => " ".intercalate (texts.map Rendering.text) := by
  have columns : exprText d = fun e => (e.render d).text := funext (exprText_eq d)
  have joins : joinText d = fun j => (j.render d).text := funext (joinText_eq d)
  simp only [segments, clauseTexts, List.map_cons, List.map_nil, text_fromClause,
    text_conditionClause, text_listClause, text_limitClause, text_fetchClause,
    String.intercalate_singleton, text_selectClause, Expr.renderAll_eq_map,
    Join.renderAll_eq_map, List.map_map, columns, joins, orderText_eq]
  rfl

theorem forall_clauseTexts_ne_empty (d : Dialect) (q : Query) :
    ∀ texts ∈ clauseTexts d q, ∀ r ∈ texts, r.text ≠ "" := by
  have joins : ∀ r ∈ Join.renderAll d q.joins, r.text ≠ "" := by
    intro r member
    rw [Join.renderAll_eq_map] at member
    obtain ⟨j, _, rfl⟩ := List.mem_map.mp member
    have kinds (kind : JoinKind) : kind.sql ≠ "" := by
      cases kind <;> decide
    cases j with
    | product table => simp [Join.render, kinds]
    | matching kind table on =>
        rw [Join.render]
        split <;> simp [kinds]
  have source : ∀ r ∈ fromClause d q.source, r.text ≠ "" := by
    cases q.source using source_cases with
    | absent => simp [fromClause]
    | raw text name => simp [fromClause]
    | subquery s name => simp [fromClause]
  have conditions (keyword : String) (cs : List (Connective × Rendering)) :
      ∀ r ∈ conditionClause keyword cs, r.text ≠ "" := by
    unfold conditionClause
    split <;> simp
  have lists (keyword : String) (items : List String) :
      ∀ r ∈ listClause keyword items, r.text ≠ "" := by
    unfold listClause
    split <;> simp
  have pages (clause : Page → String) (shown : ∀ p, clause p ≠ "") (p : Page) :
      ∀ r ∈ pageClause clause p, r.text ≠ "" := by
    unfold pageClause
    split <;> simp [shown]
  simp only [clauseTexts, List.forall_mem_cons]
  refine ⟨⟨?_, nofun⟩, source, joins, conditions _ _, lists _ _, conditions _ _, lists _ _,
    pages _ ?_ _, pages _ ?_ _, nofun⟩
  · unfold selectClause
    split <;> simp
  · intro p
    simp [Page.limitClause]
  · intro p
    simp [Page.fetchClause]

/-- The text of a query is the row of its segments, with a blank between any two that show
something. -/
theorem text_body (d : Dialect) (q : Query) :
    (q.body d).text = " ".intercalate ((segments d q).filter (· ≠ "")) := by
  have nonempty : ∀ row ∈ (clauseTexts d q).map (List.map Rendering.text), ∀ t ∈ row, t ≠ "" := by
    intro row member t inRow
    obtain ⟨texts, inClauses, rfl⟩ := List.mem_map.mp member
    obtain ⟨r, inTexts, rfl⟩ := List.mem_map.mp inRow
    exact forall_clauseTexts_ne_empty d q texts inClauses r inTexts
  calc (q.body d).text
      = " ".intercalate ((clauseTexts d q).map (List.map Rendering.text)).flatten := by
        rw [body_eq_clauseTexts, Rendering.text_separated, List.map_flatten]
    _ = " ".intercalate ((segments d q).filter (· ≠ "")) := by
        rw [intercalate_flatten " " nonempty, List.map_map, segments_eq_clauseTexts]
        rfl

/-- The text of a query that has a name is that of its body in parentheses, and the name. -/
theorem text_render_eq (d : Dialect) (q : Query) :
    (q.render d).text =
      match q.name with
      | none => (q.body d).text
      | some name => "(" ++ (q.body d).text ++ ") AS " ++ name := by
  unfold render
  cases q.name with
  | none => rfl
  | some name =>
      simp only [Rendering.text_named, Rendering.text_parenthesized, Rendering.nameText,
        closing_name_eq, String.append_assoc]

end Query

end SqlSelect
