import Mathlib.Data.List.Infix
import SqlSelect.Proofs.Injection

/-!
# Balanced parentheses

The parentheses of a text are balanced if no prefix closes more of them than it opens and the
whole text closes all that it opens. What is balanced can be put side by side and into
parentheses, and in a regular layout the library does nothing else.

Parentheses in a string literal do not count, so that a literal is balanced whatever it
contains. Outside of the strings a literal has parentheses only where a dialect wraps a
function around it.
-/

namespace SqlSelect

open Scan (outside)

/-- Every closing parenthesis of the text has an opening one before it, and every opening one
is closed. -/
structure Balanced (text : List Char) : Prop where
  closed_le : ∀ p, p <+: text → p.count ')' ≤ p.count '('
  total : text.count '(' = text.count ')'

instance (text : List Char) : Decidable (Balanced text) :=
  decidable_of_iff
    ((∀ p ∈ text.inits, p.count ')' ≤ p.count '(') ∧ text.count '(' = text.count ')')
    ⟨fun ⟨closed_le, total⟩ =>
      ⟨fun p part => closed_le p ((List.mem_inits p text).mpr part), total⟩,
    fun h => ⟨fun p member => h.closed_le p ((List.mem_inits p text).mp member), h.total⟩⟩

/-- A prefix of two texts in a row ends in the first one or reaches into the second one. -/
theorem prefix_append_cases {α : Type} {p l m : List α} (part : p <+: l ++ m) :
    p <+: l ∨ ∃ q, q <+: m ∧ p = l ++ q := by
  obtain shorter | ⟨q, rfl⟩ := List.prefix_or_prefix_of_prefix part (List.prefix_append l m)
  · exact .inl shorter
  · exact .inr ⟨q, (List.prefix_append_right_inj l).mp part, rfl⟩

namespace Balanced

variable {text t u : List Char}

theorem of_noParentheses (noOpening : '(' ∉ text) (noClosing : ')' ∉ text) :
    Balanced text where
  closed_le p part := by
    rw [List.count_eq_zero_of_not_mem fun member => noClosing (part.subset member)]
    exact Nat.zero_le _
  total := by
    rw [List.count_eq_zero_of_not_mem noOpening, List.count_eq_zero_of_not_mem noClosing]

theorem nil : Balanced [] :=
  of_noParentheses List.not_mem_nil List.not_mem_nil

theorem of_plainText (plain : PlainText text) : Balanced text :=
  of_noParentheses (plain.not_mem (by decide)) (plain.not_mem (by decide))

/-- Behind a balanced text the count begins anew. -/
theorem append (left : Balanced t) (right : Balanced u) : Balanced (t ++ u) where
  closed_le p part := by
    obtain first | ⟨q, second, rfl⟩ := prefix_append_cases part
    · exact left.closed_le p first
    · have ofSecond := right.closed_le q second
      rw [List.count_append, List.count_append, left.total]
      exact Nat.add_le_add_left ofSecond _
  total := by
    rw [List.count_append, List.count_append, left.total, right.total]

theorem parenthesized (inner : Balanced t) : Balanced ('(' :: (t ++ [')'])) where
  closed_le p part := by
    obtain rfl | ⟨q, rfl, behind⟩ := List.prefix_cons_iff.mp part
    · exact Nat.le_refl 0
    have opened : ('(' :: q).count '(' = q.count '(' + 1 := List.count_cons_self
    have closed : ('(' :: q).count ')' = q.count ')' := List.count_cons_of_ne (by decide)
    rw [opened, closed]
    obtain contents | ⟨r, last, rfl⟩ := prefix_append_cases behind
    · exact Nat.le_succ_of_le (inner.closed_le q contents)
    · have atMostOne : r.count ')' ≤ 1 := last.count_le ')'
      rw [List.count_append, List.count_append, inner.total]
      omega
  total := by
    have ofInner := inner.total
    simp [ofInner]

end Balanced

open Scan (blanked_of_quoteFree blanked_wrapped blanked_quoted)

namespace Literal

variable (d : Dialect)

theorem balanced_of_plainText {text : List Char} (plain : PlainText text) :
    Balanced (outside.blanked d text) := by
  rw [blanked_of_quoteFree (plain.not_mem (by decide))]
  exact Balanced.of_plainText plain

theorem balanced_quoted (s : List Char) : Balanced (outside.blanked d (quoted d s)) := by
  rw [blanked_quoted]
  cases d <;> decide

theorem balanced_binary (data : List UInt8) :
    Balanced (outside.blanked d (binary d data)) := by
  have digits := plainText_hex data
  cases d with
  | sqlserver =>
      apply balanced_of_plainText
      simp only [binary, PlainText.append_iff]
      exact ⟨⟨by decide, digits⟩, by decide⟩
  | mysql | postgresql | sqlite | oracle =>
      rw [binary, blanked_wrapped _ (by decide) digits]
      decide

theorem balanced_ofDate (day : Calendar.Date) :
    Balanced (outside.blanked d (ofDate d day)) := by
  have digits := plainText_date day
  cases d <;>
    rw [ofDate, blanked_wrapped _ (by decide) digits] <;>
    decide

theorem balanced_ofTimestamp (t : Calendar.Timestamp) :
    Balanced (outside.blanked d (ofTimestamp d t)) := by
  have digits := plainText_timestamp d t
  -- The pattern of Oracle is blanked as well, and the conversion around it stays.
  cases d <;>
    rw [ofTimestamp, blanked_wrapped _ (by decide) digits] <;>
    decide +kernel

end Literal

/-- Outside of its strings every literal is balanced. -/
theorem Value.balanced_literal {d : Dialect} {v : Value} {text : String}
    (written : v.literal d = .ok text) : Balanced (outside.blanked d text.toList) := by
  obtain plain | ⟨s, spelled⟩ | ⟨data, spelled⟩ | ⟨day, spelled⟩ | ⟨t, spelled⟩ :=
    literal_cases written
  · exact Literal.balanced_of_plainText d plain
  · rw [spelled]
    exact Literal.balanced_quoted d s
  · rw [spelled]
    exact Literal.balanced_binary d data
  · rw [spelled]
    exact Literal.balanced_ofDate d day
  · rw [spelled]
    exact Literal.balanced_ofTimestamp d t

namespace Piece

theorem chars_opening (d : Dialect) : (keyword "(").chars d = ['('] := by
  change "(".toList = ['(']
  rfl

theorem chars_closing (d : Dialect) : (keyword ")").chars d = [')'] := by
  change ")".toList = [')']
  rfl

theorem balanced_slot (d : Dialect) (supply : Except String Value) :
    Balanced ((slot supply).blanked d) := by
  obtain ⟨v, text, written, filled⟩ := exists_literal_of_slot d supply
  rw [blanked, filled]
  exact Value.balanced_literal written

end Piece

/-- A text that opens no literal and closes the parentheses that it opens. -/
structure IsSelfContained (text : String) : Prop where
  quoteFree : '\'' ∉ text.toList
  balanced : Balanced text.toList

instance (text : String) : Decidable (IsSelfContained text) :=
  decidable_of_iff ('\'' ∉ text.toList ∧ Balanced text.toList)
    ⟨fun ⟨quoteFree, balanced⟩ => ⟨quoteFree, balanced⟩, fun h => ⟨h.quoteFree, h.balanced⟩⟩

theorem IsSeparator.isSelfContained {text : String} (separator : IsSeparator text) :
    IsSelfContained text where
  quoteFree := separator.quoteFree
  balanced := Balanced.of_noParentheses separator.noOpening separator.noClosing

theorem IsSelfContained.balanced_blanked {text : String} (contained : IsSelfContained text)
    (d : Dialect) : Balanced (outside.blanked d text.toList) := by
  rw [blanked_of_quoteFree contained.quoteFree]
  exact contained.balanced

/-- What a regular layout shows outside of its literals is balanced if the fragments are. -/
theorem Layout.Regular.balanced (d : Dialect) {l : Layout} (regular : l.Regular)
    (contained : ∀ text, .fragment text ∈ l → IsSelfContained text) :
    Balanced (l.flatMap (Piece.blanked d)) := by
  refine regular.induction_of_fragments contained ?nil ?fragment ?slot ?keyword ?parenthesized
  case nil => exact Balanced.nil
  case fragment =>
    intro text contained
    rw [List.flatMap_singleton]
    exact contained.balanced_blanked d
  case slot =>
    intro supply
    rw [List.flatMap_singleton]
    exact Piece.balanced_slot d supply
  case keyword =>
    intro l m text left separator right
    rw [List.flatMap_append, List.flatMap_cons]
    apply Balanced.append left
    apply Balanced.append _ right
    exact separator.isSelfContained.balanced_blanked d
  case parenthesized =>
    intro l inner
    have opening : (Piece.keyword "(").blanked d = ['('] := by
      rw [Piece.blanked, Piece.chars_opening]
      rfl
    have closing : (Piece.keyword ")").blanked d = [')'] := by
      rw [Piece.blanked, Piece.chars_closing]
      rfl
    rw [Layout.parenthesized, List.flatMap_cons, List.flatMap_append,
      List.flatMap_singleton, opening, closing]
    exact inner.parenthesized

end SqlSelect
