import SqlSelect.Proofs.DialectIndependence
import SqlSelect.Proofs.LiteralScan
import SqlSelect.Proofs.Regular

/-!
# Texts stay in their literals

Two queries that differ in the contents of text values only are alike to whoever looks past
string literals. A scanner of the dialect leaves the statements of both outside a literal,
and the statements are the same once the contents of their literals are blanked: no text,
whatever it contains, is read as anything but the contents of its literal.

The fragments that a caller gives as they stand must not contain a quote. Nothing is asked
of the values.

## Implementation notes

The scanner is followed along the way in which the layout is put together. A literal may
leave it behind a closing quote that a further quote would undo, and a separator, which is
not empty, comes before any such quote.
-/

namespace SqlSelect

open Scan (outside)

namespace Piece

/-- The characters of a piece in a dialect. -/
def chars (d : Dialect) (p : Piece) : List Char :=
  (p.textIn d).toList

/-- What a scanner leaves of a piece by itself. -/
def blanked (d : Dialect) (p : Piece) : List Char :=
  outside.blanked d (p.chars d)

/-- The place of a value is filled with a literal, if need be with that of a null. -/
theorem exists_literal_of_slot (d : Dialect) (supply : Except String Value) :
    ∃ v text, Value.literal d v = .ok text ∧ (slot supply).chars d = text.toList := by
  unfold chars textIn
  cases supply with
  | error reason => exact ⟨.null, Literal.null, rfl, rfl⟩
  | ok v =>
      simp only [Value.suppliedLiteral]
      cases written : v.literal d with
      | ok text => exact ⟨v, text, written, rfl⟩
      | error e => exact ⟨.null, Literal.null, rfl, rfl⟩

theorem isOutside_after_slot (d : Dialect) (supply : Except String Value) :
    (outside.after d ((slot supply).chars d)).isOutside = true := by
  obtain ⟨v, text, written, filled⟩ := exists_literal_of_slot d supply
  rw [filled]
  exact Scan.isOutside_after_of_literal d written

end Piece

namespace Layout

theorem toList_textIn (d : Dialect) (l : Layout) :
    (l.textIn d).toList = l.flatMap (Piece.chars d) := by
  induction l with
  | nil => rfl
  | cons p l ih =>
      rw [textIn, List.map_cons, String.join_cons, String.toList_append, List.flatMap_cons, ← ih]
      rfl

/-- A scanner reads the layout to an end outside, and leaves of it what it leaves of each
piece. -/
def ScansByPiece (d : Dialect) (l : Layout) : Prop :=
  (outside.after d (l.flatMap (Piece.chars d))).isOutside = true ∧
    outside.blanked d (l.flatMap (Piece.chars d)) = l.flatMap (Piece.blanked d)

namespace ScansByPiece

variable {d : Dialect} {l m : Layout} {text : String}

theorem nil : ScansByPiece d [] :=
  ⟨rfl, rfl⟩

theorem singleton {p : Piece} (closed : (outside.after d (p.chars d)).isOutside = true) :
    ScansByPiece d [p] := by
  unfold ScansByPiece
  rw [List.flatMap_singleton, List.flatMap_singleton]
  exact ⟨closed, rfl⟩

/-- Behind a separator the scanner reads as if it began there. -/
theorem keyword (left : l.ScansByPiece d) (nonempty : text.toList ≠ [])
    (quoteFree : '\'' ∉ text.toList) (right : m.ScansByPiece d) :
    ScansByPiece d (l ++ .keyword text :: m) := by
  obtain ⟨leftCloses, leftBlanked⟩ := left
  obtain ⟨rightCloses, rightBlanked⟩ := right
  obtain ⟨restarts, shown⟩ := Scan.after_separator (d := d) leftCloses nonempty quoteFree
  have keywordBlanked : (Piece.keyword text).blanked d = text.toList :=
    Scan.blanked_of_quoteFree quoteFree
  have chars : (l ++ .keyword text :: m).flatMap (Piece.chars d) =
      l.flatMap (Piece.chars d) ++ text.toList ++ m.flatMap (Piece.chars d) := by
    rw [List.flatMap_append, List.flatMap_cons, List.append_assoc]
    rfl
  constructor
  · rw [chars, Scan.after_append, Scan.after_append, restarts]
    exact rightCloses
  · calc outside.blanked d ((l ++ .keyword text :: m).flatMap (Piece.chars d))
        = l.flatMap (Piece.blanked d) ++ text.toList ++ m.flatMap (Piece.blanked d) := by
          rw [chars, Scan.blanked_append, Scan.blanked_append, Scan.after_append, leftBlanked,
            shown, restarts, rightBlanked]
      _ = (l ++ .keyword text :: m).flatMap (Piece.blanked d) := by
          rw [List.flatMap_append, List.flatMap_cons, keywordBlanked, List.append_assoc]

end ScansByPiece

/-- A regular layout is read piece by piece, since what could undo the end of a literal stands
behind a separator. -/
theorem Regular.scansByPiece (d : Dialect) {l : Layout} (regular : l.Regular)
    (quoteFree : ∀ text, .fragment text ∈ l → '\'' ∉ text.toList) : l.ScansByPiece d := by
  refine regular.induction_of_fragments quoteFree ?nil ?fragment ?slot ?keyword ?parenthesized
  case nil => exact ScansByPiece.nil
  case fragment =>
    intro text quoteFree
    apply ScansByPiece.singleton
    exact Scan.isOutside_after_of_quoteFree rfl quoteFree
  case slot =>
    intro supply
    exact ScansByPiece.singleton (Piece.isOutside_after_slot d supply)
  case keyword =>
    intro l m text left separator right
    exact left.keyword separator.nonempty separator.quoteFree right
  case parenthesized =>
    intro l inner
    have closed : ScansByPiece d (l ++ [.keyword ")"]) :=
      inner.keyword (by decide) (by decide) ScansByPiece.nil
    exact ScansByPiece.nil.keyword (by decide) (by decide) closed

end Layout

/-- The value without its contents, if it is a text. -/
def Value.emptied : Value → Value
  | .text _ => .text ""
  | v => v

/-- The operand without the contents of its text value. -/
def Operand.emptied : Operand → Operand
  | .value v => .value v.emptied
  | .deferred supply => .deferred (supply.map Value.emptied)
  | a => a

/-- What is left of a text value is what is left of the empty text. -/
theorem Piece.blanked_slot_emptied (d : Dialect) (supply : Except String Value) :
    (slot (supply.map Value.emptied)).blanked d = (slot supply).blanked d := by
  cases supply with
  | error reason => rfl
  | ok v =>
      cases v with
      | text s =>
          have literal (s : String) : (slot (.ok (.text s))).blanked d =
              outside.blanked d (Literal.quoted d s.toList) := by
            simp [blanked, chars, textIn, Value.suppliedLiteral, Value.literal]
          calc (slot (.ok (.text ""))).blanked d
              = Literal.marker d ++ ['\'', '\''] := by
                rw [literal, Scan.blanked_quoted]
            _ = (slot (.ok (.text s))).blanked d := by
                rw [literal, Scan.blanked_quoted]
      | _ => rfl

namespace Layout

theorem flatMap_blanked_replace (d : Dialect) (l : Layout) :
    (l.replace (Except.map Value.emptied)).flatMap (Piece.blanked d) =
      l.flatMap (Piece.blanked d) := by
  induction l with
  | nil => rfl
  | cons p l ih =>
      cases p with
      | keyword text => rw [replace_keyword, List.flatMap_cons, List.flatMap_cons, ih]
      | fragment text => rw [replace_fragment, List.flatMap_cons, List.flatMap_cons, ih]
      | slot supply =>
          rw [replace_slot, List.flatMap_cons, List.flatMap_cons, ih, Piece.blanked_slot_emptied]

theorem filterMap_fragment?_replace (f : Except String Value → Except String Value)
    (l : Layout) : (l.replace f).filterMap Piece.fragment? = l.filterMap Piece.fragment? := by
  induction l with
  | nil => rfl
  | cons p l ih =>
      cases p with
      | keyword text => exact ih
      | fragment text => exact congrArg (List.cons text) ih
      | slot supply => exact ih

end Layout

namespace Query

/-- The query without the contents of its text values, at every depth. -/
def emptied (q : Query) : Query :=
  q.revise { operand := Operand.emptied }

/-- The queries differ in the contents of text values only. -/
def Alike (q r : Query) : Prop :=
  q.emptied = r.emptied

theorem layout_emptied (q : Query) :
    q.emptied.layout = q.layout.replace (Except.map Value.emptied) := by
  have replaces : ({ operand := Operand.emptied } : Revision).Replaces
      (Except.map Value.emptied) :=
    { value := fun v => by
        simp only [Operand.emptied, Operand.form]
        rfl
      deferred := fun supply => by
        simp only [Operand.emptied, Operand.form] }
  exact layout_revise replaces q

theorem Alike.fragments {q r : Query} (alike : q.Alike r) : q.fragments = r.fragments := by
  have emptied (q : Query) : q.emptied.fragments = q.fragments := by
    rw [← fragments_layout, layout_emptied, Layout.filterMap_fragment?_replace, fragments_layout]
  rw [← emptied q, alike, emptied r]

theorem Alike.blanked {q r : Query} (alike : q.Alike r) (d : Dialect) :
    q.layout.flatMap (Piece.blanked d) = r.layout.flatMap (Piece.blanked d) := by
  have emptied (q : Query) :
      q.emptied.layout.flatMap (Piece.blanked d) = q.layout.flatMap (Piece.blanked d) := by
    rw [layout_emptied, Layout.flatMap_blanked_replace]
  rw [← emptied q, alike, emptied r]

/-- A scanner reads the statement of a query piece by piece. -/
theorem scansByPiece_layout (d : Dialect) {q : Query}
    (quoteFree : ∀ text ∈ q.fragments, '\'' ∉ text.toList) : q.layout.ScansByPiece d := by
  apply (regular_layout q).scansByPiece d
  intro text member
  exact quoteFree text (mem_fragments member)

/-- Queries that differ in the contents of text values only have statements that differ in
the contents of string literals only, and no literal is left open. -/
theorem texts_confined (d : Dialect) {q r : Query} (alike : q.Alike r)
    (quoteFree : ∀ text ∈ q.fragments, '\'' ∉ text.toList) :
    (outside.after d (q.sqlIn d).value.toList).isOutside = true ∧
      (outside.after d (r.sqlIn d).value.toList).isOutside = true ∧
      outside.blanked d (q.sqlIn d).value.toList =
        outside.blanked d (r.sqlIn d).value.toList := by
  have chars (q : Query) : (q.sqlIn d).value.toList = q.layout.flatMap (Piece.chars d) := by
    rw [value_sqlIn, text_render, Layout.toList_textIn]
  obtain ⟨closed, shown⟩ := scansByPiece_layout d quoteFree
  rw [alike.fragments] at quoteFree
  obtain ⟨otherClosed, otherShown⟩ := scansByPiece_layout d quoteFree
  rw [chars, chars]
  refine ⟨closed, otherClosed, ?_⟩
  rw [shown, otherShown]
  exact alike.blanked d

/-- A search for a name, given as it is and supplied later as an item of a list. -/
def search (name : String) : Query where
  source := some { table := .raw "t" }
  filters := [.test .and (.raw "a") .equal <| .subquery
    { columns := [.raw "b"]
      source := some { table := .raw "u" }
      filters := [.test .and (.raw "c") .equal (.value (.text name)),
        .test .or (.raw "d") .isIn (.list [.deferred (.ok (.text name)), .value (.int 1)])] }]

theorem texts_confined_search :
    (search "x").Alike (search "\\' OR ''='") ∧
      (∀ text ∈ (search "x").fragments, '\'' ∉ text.toList) ∧
      outside.blanked .mysql ((search "\\' OR ''='").sqlIn .mysql).value.toList =
        "SELECT * FROM t WHERE a = (SELECT b FROM u WHERE c = '' OR d IN ('', 1))".toList := by
  have alike : (search "x").Alike (search "\\' OR ''='") := by
    simp [search, Alike, emptied, revise_eq, reviseSource, Expr.revise, Condition.revise,
      Operand.revise, Operand.emptied, Value.emptied, Except.map]
  have quoteFree : ∀ text ∈ (search "x").fragments, '\'' ∉ text.toList := by
    decide +kernel
  obtain ⟨_, _, same⟩ := texts_confined .mysql alike quoteFree
  refine ⟨alike, quoteFree, same.symm.trans ?_⟩
  decide +kernel

end Query

end SqlSelect
