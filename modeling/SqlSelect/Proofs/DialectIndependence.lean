import SqlSelect.Proofs.Parts
import SqlSelect.Proofs.Revision

/-!
# A dialect decides the literals and nothing else

All texts of a query come from one row of pieces. What differs between two dialects is the
literal in each place of a value, and the places are those of the values that are written.
The dialects chosen for the query and for the queries inside it do not matter, except that
the outermost one is the dialect of the text if no other is asked for.
-/

namespace SqlSelect

namespace Piece

/-- The text of a piece in a dialect. A value without a literal is written as a null. -/
def textIn (d : Dialect) : Piece → String
  | keyword text => text
  | fragment text => text
  | slot supply =>
    match Value.suppliedLiteral d supply with
    | .ok literal => literal
    | .error _ => "NULL"

theorem text_render (d : Dialect) (p : Piece) : (p.render d).text = p.textIn d := by
  cases p with
  | keyword text => rfl
  | fragment text => rfl
  | slot supply =>
      rw [render_slot, textIn, Rendering.ofSupply]
      cases Value.suppliedLiteral d supply <;> rfl

end Piece

namespace Layout

/-- The texts of the pieces in a dialect, one after the other. -/
def textIn (d : Dialect) (l : Layout) : String :=
  String.join (l.map (Piece.textIn d))

theorem text_fill (d : Dialect) (l : Layout) : (l.fill d).text = l.textIn d := by
  induction l with
  | nil => rfl
  | cons p l ih =>
      rw [fill_cons, Rendering.text_append, Piece.text_render, ih, textIn, textIn,
        List.map_cons, String.join_cons]

end Layout

namespace Query

/-- The query without the dialects that were chosen for it and for the queries inside it. -/
def unpinned (q : Query) : Query :=
  q.revise { pinned := fun _ => none }

theorem text_render (d : Dialect) (q : Query) : (q.render d).text = q.layout.textIn d := by
  rw [← fill_layout, Layout.text_fill]

/-- The chosen dialects leave no trace in the layout. -/
theorem layout_unpinned (q : Query) : q.unpinned.layout = q.layout := by
  have replaces : ({ pinned := fun _ => none } : Revision).Replaces id :=
    { value := fun v => by simp [Operand.form]
      deferred := fun supply => by simp [Operand.form] }
  rw [unpinned, layout_revise replaces, Layout.replace_id]

/-- One row of pieces gives the text of a query in every dialect, whatever dialects are
chosen for it and for the queries inside it and whatever the session prefers. Its values are
those that the query writes, each once and in order. -/
theorem exists_pieces (q : Query) :
    ∃ pieces : List Piece, ∀ r : Query, r.unpinned = q.unpinned →
      (∀ d, (r.sqlIn d).value = Layout.textIn d pieces) ∧
      (∀ sessionDefault, (r.sql sessionDefault).value =
        Layout.textIn (r.dialect sessionDefault) pieces) ∧
      pieces.filterMap Piece.supply? = r.supplies := by
  refine ⟨q.layout, fun r same => ?_⟩
  have layouts : r.layout = q.layout := by
    rw [← layout_unpinned r, same, layout_unpinned q]
  have texts (d : Dialect) : (r.sqlIn d).value = Layout.textIn d q.layout := by
    rw [value_sqlIn, text_render, layouts]
  refine ⟨texts, fun sessionDefault => texts (r.dialect sessionDefault), ?_⟩
  rw [← layouts, supplies_layout]

/-- A query inside another one, each with a dialect of its own or none. A value of the inner one
is missing. -/
def pinnedPair (outer inner : Option Dialect) : Query where
  source := some { table := .raw "t" }
  filters := [.test .and (.raw "a") .equal <| .subquery
    { columns := [.raw "b"]
      source := some { table := .raw "u" }
      filters :=
        [.test .and (.raw "c") .equal (.value (.bool true)),
          .test .or (.raw "d") .equal (.deferred (.error "missing"))]
      pinned := inner }]
  pinned := outer

theorem exists_pieces_pinnedPair :
    (pinnedPair (some .mysql) (some .oracle)).unpinned = (pinnedPair none none).unpinned ∧
      ∃ pieces : List Piece,
        Layout.textIn .sqlite pieces =
          "SELECT * FROM t WHERE a = (SELECT b FROM u WHERE c = TRUE OR d = NULL)" ∧
        Layout.textIn .oracle pieces =
          "SELECT * FROM t WHERE a = (SELECT b FROM u WHERE c = 1 OR d = NULL)" ∧
        pieces.filterMap Piece.supply? = [.ok (.bool true), .error "missing"] := by
  have same : (pinnedPair (some .mysql) (some .oracle)).unpinned =
      (pinnedPair none none).unpinned := by
    simp [pinnedPair, unpinned, revise_eq, reviseSource, Expr.revise, Condition.revise,
      Operand.revise]
  obtain ⟨pieces, ofQuery⟩ := exists_pieces (pinnedPair none none)
  obtain ⟨texts, _, supplies⟩ := ofQuery (pinnedPair (some .mysql) (some .oracle)) same
  refine ⟨same, pieces, ?_, ?_, ?_⟩
  · exact (texts .sqlite).symm.trans (by decide +kernel)
  · exact (texts .oracle).symm.trans (by decide +kernel)
  · exact supplies.trans (by decide +kernel)

end Query

end SqlSelect
