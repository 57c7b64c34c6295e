import SqlSelect.Proofs.DialectIndependence
import SqlSelect.Query.Answer

/-!
# The events of a text

A text comes with one warning for each null in it that stands for a missing literal, in the
order of these nulls, and with one event that has the text itself. Values that are given
without being written give no warning, and the queries inside a query give no event of their
own.

## Implementation notes

Warnings are read off the layout, which has a place for each value that is written. Whether
there is a literal for a value is said anew here, without writing one.
-/

namespace SqlSelect

/-- The warning that a value needs, or the reason why there is none: a double that is not
finite has no literal. -/
def Warning.ofSupply? (d : Dialect) : (supply : Except String Value) → Option Warning
  | .error reason => some ⟨.notSupplied reason, d⟩
  | .ok (.float x) => if x.isFinite then none else some ⟨.nonFinite x, d⟩
  | .ok _ => none

namespace Warning

variable (d : Dialect) (supply : Except String Value)

/-- A value is warned of exactly if it has no literal. -/
theorem ofSupply?_eq :
    ofSupply? d supply =
      match Value.suppliedLiteral d supply with
      | .ok _ => none
      | .error error => some ⟨error, d⟩ := by
  cases supply with
  | error reason => rfl
  | ok v =>
      cases v with
      | float x =>
          simp only [ofSupply?, Value.suppliedLiteral, Value.literal]
          cases x.isFinite <;> rfl
      | _ => rfl

theorem warnings_ofSupply :
    (Rendering.ofSupply d supply).warnings = (ofSupply? d supply).toList := by
  rw [ofSupply?_eq, Rendering.ofSupply]
  cases Value.suppliedLiteral d supply <;> rfl

end Warning

namespace Piece

/-- The warning that comes with a piece in a dialect. -/
def warning? (d : Dialect) (p : Piece) : Option Warning :=
  p.supply?.bind (Warning.ofSupply? d)

theorem warnings_render (d : Dialect) (p : Piece) :
    (p.render d).warnings = (p.warning? d).toList := by
  cases p with
  | keyword text => rfl
  | fragment text => rfl
  | slot supply => exact Warning.warnings_ofSupply d supply

/-- A piece is warned of exactly if it is a value that has no literal, and such a value is
written as a null. -/
theorem warning?_eq_some_iff {d : Dialect} {p : Piece} {w : Warning} :
    p.warning? d = some w ↔
      ∃ supply error, p = .slot supply ∧ Value.suppliedLiteral d supply = .error error ∧
        w = ⟨error, d⟩ ∧ p.textIn d = "NULL" := by
  cases p with
  | keyword text => simp [warning?, supply?]
  | fragment text => simp [warning?, supply?]
  | slot supply =>
      rw [warning?, supply?, Option.bind_some, Warning.ofSupply?_eq]
      cases written : Value.suppliedLiteral d supply with
      | ok literal => simp [written]
      | error error => simp [written, textIn, eq_comm]

end Piece

/-- The warnings that come with a layout, from left to right. -/
theorem Layout.warnings_fill (d : Dialect) (l : Layout) :
    (l.fill d).warnings = l.filterMap (Piece.warning? d) := by
  induction l with
  | nil => rfl
  | cons p l ih =>
      rw [fill_cons, Rendering.warnings_append, Piece.warnings_render, ih, List.filterMap_cons]
      cases p.warning? d <;> rfl

namespace Event

/-- What a caller sees of an event. -/
structure Entry where
  level : String
  message : String
  details : List (String × String)
  deriving DecidableEq, Repr

def entry (e : Event) : Entry :=
  { level := e.level, message := e.message, details := e.details }

/-- What a caller sees of a value that is written as a null. The dialect is shown if there is
a value, but it has no literal. -/
def nullEntry? (d : Dialect) : (supply : Except String Value) → Option Entry
  | .error reason => some
      { level := "WARN"
        message := "sql valuer failed, rendering NULL"
        details := [("error", "sql valuer error: " ++ reason)] }
  | .ok (.float x) =>
    if x.isFinite then none
    else some
      { level := "WARN"
        message := "literal cannot be formatted, rendering NULL"
        details :=
          [("error", "non-finite float " ++ x.nonFiniteName ++ " has no sql literal"),
            ("flavor", d.name)] }
  | .ok _ => none

theorem map_entry_ofSupply? (d : Dialect) (supply : Except String Value) :
    (Warning.ofSupply? d supply).map (fun w => (warned w).entry) = nullEntry? d supply := by
  cases supply with
  | error reason => rfl
  | ok v =>
      cases v with
      | float x =>
          simp only [Warning.ofSupply?, nullEntry?]
          cases x.isFinite <;> rfl
      | _ => rfl

end Event

namespace Query

theorem warnings_render_eq (d : Dialect) (q : Query) :
    (q.render d).warnings = q.layout.filterMap (Piece.warning? d) := by
  rw [← fill_layout, Layout.warnings_fill]

theorem warnings_render_eq_supplies (d : Dialect) (q : Query) :
    (q.render d).warnings = q.supplies.filterMap (Warning.ofSupply? d) := by
  rw [warnings_render_eq, ← supplies_layout, List.filterMap_filterMap]
  rfl

/-- The events of a text are the warnings for the values that are written as nulls, from left
to right and each in the dialect of the text, and then the text itself. This is so in every
dialect, and in that of the query if no other is asked for. -/
theorem events_exact (q : Query) :
    (∃ pieces : List Piece, pieces.filterMap Piece.supply? = q.supplies ∧ ∀ d,
      (q.sqlIn d).value = Layout.textIn d pieces ∧
      (q.sqlIn d).events =
        (pieces.filterMap (Piece.warning? d)).map .warned ++ [.rendered d (q.sqlIn d).value] ∧
      ∀ p ∈ pieces, ∀ w, p.warning? d = some w ↔
        ∃ supply error, p = .slot supply ∧ Value.suppliedLiteral d supply = .error error ∧
          w = ⟨error, d⟩ ∧ p.textIn d = "NULL") ∧
    (∀ sessionDefault, (q.sql sessionDefault).events =
      (q.supplies.filterMap (Warning.ofSupply? (q.dialect sessionDefault))).map .warned ++
        [.rendered (q.dialect sessionDefault) (q.sql sessionDefault).value]) ∧
    ∀ d, (q.sqlIn d).events.map Event.entry =
      q.supplies.filterMap (Event.nullEntry? d) ++
        [{ level := "TRACE"
           message := "select rendered"
           details := [("flavor", d.name), ("sql", (q.sqlIn d).value)] }] := by
  have ofSupplies (d : Dialect) : (q.sqlIn d).events =
      (q.supplies.filterMap (Warning.ofSupply? d)).map .warned ++
        [.rendered d (q.sqlIn d).value] := by
    rw [← warnings_render_eq_supplies]
    rfl
  refine ⟨⟨q.layout, supplies_layout q, fun d => ⟨?_, ?_, ?_⟩⟩, ?_, ?_⟩
  · rw [value_sqlIn, text_render]
  · rw [← warnings_render_eq]
    rfl
  · exact fun p _ w => Piece.warning?_eq_some_iff
  · exact fun sessionDefault => ofSupplies (q.dialect sessionDefault)
  · intro d
    have entries : (q.supplies.filterMap (Warning.ofSupply? d)).map
        (fun w => (Event.warned w).entry) = q.supplies.filterMap (Event.nullEntry? d) := by
      rw [List.map_filterMap]
      exact List.filterMap_congr fun supply _ => Event.map_entry_ofSupply? d supply
    rw [ofSupplies, List.map_append, List.map_map]
    exact congrArg (· ++ _) entries

/-- Neither the operand of a null check nor what is compared with an empty set gives a
warning. -/
example : (Query.sqlIn .oracle
      { source := some { table := .raw "t" }
        filters :=
          [.test .and (.raw "a") .isNull (.deferred (.error "x")),
            .test .and
              (.subquery { filters := [.test .and (.raw "b") .equal (.deferred (.error "y"))] })
              .isIn (.list []),
            .test .and (.raw "c") .equal (.deferred (.error "z"))] }).events =
    [.warned ⟨.notSupplied "z", .oracle⟩,
      .rendered .oracle "SELECT * FROM t WHERE a IS NULL AND 0 = 1 AND c = NULL"] := by
  decide +kernel

end Query

end SqlSelect
