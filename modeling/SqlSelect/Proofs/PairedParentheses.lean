import SqlSelect.Proofs.Insets
import SqlSelect.Proofs.Parentheses

/-!
# Parentheses come in pairs

The parentheses of a statement balance, and every query inside it and every group that is
written has a pair of its own around it. Both parentheses of the pair are read as such, not
as a part of a literal, and match each other, since what is between them balances.

The fragments that a caller gives as they stand must not contain a quote and must balance by
themselves. Nothing is asked of the values.

## Implementation notes

The pairs are found in the layout, where a parenthesis is a piece by itself. A scanner that
reads a regular layout stands outside between any two pieces.
-/

namespace SqlSelect

open Enclosure (Surround)
open Scan (outside)

/-- Both parentheses of the enclosure are read outside of literals, and they match each
other: what is between them balances. -/
structure Enclosure.Matches (d : Dialect) (e : Enclosure Char) : Prop where
  opens : (outside.after d e.before).isOutside = true
  closes : (outside.after d (e.before ++ '(' :: e.inner)).isOutside = true
  inner : Balanced (outside.blanked d e.inner)

namespace Layout

/-- A scanner stands outside between any two pieces of the layout. -/
def OutsideBetween (d : Dialect) (l : Layout) : Prop :=
  ∀ p, p <+: l → (outside.after d (p.flatMap (Piece.chars d))).isOutside = true

namespace OutsideBetween

variable {d : Dialect} {l m : Layout} {text : String}

theorem nil : OutsideBetween d [] := by
  intro p part
  obtain rfl := List.prefix_nil.mp part
  rfl

theorem singleton {x : Piece} (closed : (outside.after d (x.chars d)).isOutside = true) :
    OutsideBetween d [x] := by
  intro p part
  obtain rfl | ⟨q, rfl, behind⟩ := List.prefix_cons_iff.mp part
  · rfl
  · obtain rfl := List.prefix_nil.mp behind
    rw [List.flatMap_singleton]
    exact closed

/-- Behind a separator the scanner reads as if it began there. -/
theorem keyword (left : l.OutsideBetween d) (nonempty : text.toList ≠ [])
    (quoteFree : '\'' ∉ text.toList) (right : m.OutsideBetween d) :
    OutsideBetween d (l ++ .keyword text :: m) := by
  have leftCloses := left l List.prefix_rfl
  have restarts := (Scan.after_separator (d := d) leftCloses nonempty quoteFree).1
  intro p part
  obtain inLeft | ⟨q, behind, rfl⟩ := prefix_append_cases part
  · exact left p inLeft
  obtain rfl | ⟨r, rfl, inRight⟩ := List.prefix_cons_iff.mp behind
  · rw [List.append_nil]
    exact leftCloses
  · have chars : (Piece.keyword text).chars d = text.toList := rfl
    rw [List.flatMap_append, List.flatMap_cons, chars, Scan.after_append, Scan.after_append,
      restarts]
    exact right r inRight

end OutsideBetween

theorem Regular.outsideBetween (d : Dialect) {l : Layout} (regular : l.Regular)
    (quoteFree : ∀ text, .fragment text ∈ l → '\'' ∉ text.toList) : l.OutsideBetween d := by
  refine regular.induction_of_fragments quoteFree ?nil ?fragment ?slot ?keyword ?parenthesized
  case nil => exact OutsideBetween.nil
  case fragment =>
    intro text quoteFree
    apply OutsideBetween.singleton
    exact Scan.isOutside_after_of_quoteFree rfl quoteFree
  case slot =>
    intro supply
    exact OutsideBetween.singleton (Piece.isOutside_after_slot d supply)
  case keyword =>
    intro l m text left separator right
    exact left.keyword separator.nonempty separator.quoteFree right
  case parenthesized =>
    intro l inner
    have closed : OutsideBetween d (l ++ [.keyword ")"]) :=
      inner.keyword (by decide) (by decide) OutsideBetween.nil
    exact OutsideBetween.nil.keyword (by decide) (by decide) closed

end Layout

namespace Query

variable {q : Query}

/-- A pair around a regular part of the layout is a pair of the statement. -/
theorem matches_flatMap (d : Dialect) {e : Enclosure Piece}
    (contained : ∀ text ∈ q.fragments, IsSelfContained text)
    (row : e.row (.keyword "(") (.keyword ")") = q.layout) (regular : Layout.Regular e.inner) :
    (e.flatMap (Piece.chars d)).Matches d := by
  have between : q.layout.OutsideBetween d :=
    (regular_layout q).outsideBetween d fun text member =>
      (contained text (mem_fragments member)).quoteFree
  have innerFragments : ∀ text, .fragment text ∈ e.inner → IsSelfContained text := by
    intro text member
    apply contained
    apply mem_fragments
    rw [← row]
    exact e.prefix_inner.subset (List.mem_append_right _ (List.mem_cons_of_mem _ member))
  constructor
  · apply between
    rw [← row]
    exact e.prefix_before
  · have part : e.before ++ .keyword "(" :: e.inner <+: q.layout := by
      rw [← row]
      exact e.prefix_inner
    have closes := between _ part
    rw [List.flatMap_append, List.flatMap_cons, Piece.chars_opening] at closes
    exact closes
  · have scans := regular.scansByPiece d fun text member =>
      (innerFragments text member).quoteFree
    have shown : outside.blanked d (e.inner.flatMap (Piece.chars d)) =
        e.inner.flatMap (Piece.blanked d) := scans.2
    change Balanced (outside.blanked d (e.inner.flatMap (Piece.chars d)))
    rw [shown]
    exact regular.balanced d innerFragments

/-- Outside of its literals the parentheses of a statement balance, whatever its values are,
and every query inside it and every group that is written stands in a pair of its own. -/
theorem parentheses_balance (d : Dialect)
    (contained : ∀ text ∈ q.fragments, IsSelfContained text) :
    Balanced (outside.blanked d (q.sqlIn d).value.toList) ∧
      ∃ es, Surround '(' ')' (q.sqlIn d).value.toList
          (q.insets.map fun i => (i.text d).toList) es ∧
        ∀ e ∈ es, e.Matches d := by
  have chars : (q.sqlIn d).value.toList = q.layout.flatMap (Piece.chars d) := by
    rw [value_sqlIn, text_render, Layout.toList_textIn]
  have scans := scansByPiece_layout d fun text member => (contained text member).quoteFree
  constructor
  · rw [chars, scans.2]
    exact (regular_layout q).balanced d fun text member =>
      contained text (mem_fragments member)
  · obtain ⟨es, pairs⟩ := (encloses_layout q).exists_surround
    have texts : (q.insets.map Inset.layout).map (List.flatMap (Piece.chars d)) =
        q.insets.map fun i => (i.text d).toList := by
      rw [List.map_map]
      apply List.map_congr_left
      intro i _
      exact (i.toList_text d).symm
    have surround := pairs.flatMap (Piece.chars_opening d) (Piece.chars_closing d)
    rw [texts, ← chars] at surround
    refine ⟨_, surround, ?_⟩
    intro e member
    obtain ⟨e, inEs, rfl⟩ := List.mem_map.mp member
    apply matches_flatMap d contained (pairs.rows e inEs)
    have isInset : e.inner ∈ q.insets.map Inset.layout := by
      rw [← pairs.inners]
      exact List.mem_map_of_mem inEs
    obtain ⟨i, _, same⟩ := List.mem_map.mp isInset
    rw [← same]
    exact i.regular_layout

/-- A query with values in which quotes and parentheses do not come in pairs. -/
def withUnpairedValues : Query where
  columns := [.raw "COUNT(*)"]
  source := some { table := .raw "t" }
  filters := [.test .and (.raw "a") .equal (.value (.text "')(")),
    .group .or [.test .and (.raw "b") .isIn <| .subquery
      { columns := [.raw "c"]
        source := some { table := .raw "u" }
        filters := [.test .and (.raw "d") .equal (.value (.bytes [0]))] }]]

theorem parentheses_balance_withUnpairedValues :
    (∀ text ∈ withUnpairedValues.fragments, IsSelfContained text) ∧
      Balanced (outside.blanked .oracle
        (withUnpairedValues.sqlIn .oracle).value.toList) ∧
      ∃ es, Surround '(' ')'
          ("SELECT COUNT(*) FROM t WHERE a = ''')(' OR " ++
            "(b IN (SELECT c FROM u WHERE d = hextoraw('00')))").toList
          ["b IN (SELECT c FROM u WHERE d = hextoraw('00'))".toList,
            "SELECT c FROM u WHERE d = hextoraw('00')".toList] es ∧
        ∀ e ∈ es, e.Matches .oracle := by
  have contained : ∀ text ∈ withUnpairedValues.fragments, IsSelfContained text := by
    decide +kernel
  have text : (withUnpairedValues.sqlIn .oracle).value.toList =
      ("SELECT COUNT(*) FROM t WHERE a = ''')(' OR " ++
        "(b IN (SELECT c FROM u WHERE d = hextoraw('00')))").toList := by
    decide +kernel
  have insets : (withUnpairedValues.insets.map fun i => (i.text .oracle).toList) =
      ["b IN (SELECT c FROM u WHERE d = hextoraw('00'))".toList,
        "SELECT c FROM u WHERE d = hextoraw('00')".toList] := by
    decide +kernel
  obtain ⟨balanced, es, surround, pairs⟩ := parentheses_balance .oracle contained
  rw [text, insets] at surround
  exact ⟨contained, balanced, es, surround, pairs⟩

end Query

end SqlSelect
