import SqlSelect.Proofs.PlainText
import SqlSelect.Proofs.Scanner

/-!
# A scanner reads every literal to its end

Whatever value it denotes, a literal leaves the scanner outside. The contents of a text value
keep it inside until the closing quote, so that once blanked they leave nothing behind.
-/

namespace SqlSelect

open Literal

/-- A character stands for itself unless it means something to the scanner, or it is spelled
with two characters: behind a backslash, where that is known, or as two quotes. -/
theorem Literal.escaped_cases (d : Dialect) (c : Char) :
    (escaped d c = [c] ∧ c ≠ '\'' ∧ (c = '\\' → d.escapesWithBackslash = false)) ∨
      (d.escapesWithBackslash = true ∧ ∃ x, escaped d c = ['\\', x]) ∨
        escaped d c = ['\'', '\''] := by
  unfold escaped
  split
  · next escapes =>
      unfold backslashed
      split
      case h_10 notQuote _ notBackslash =>
        exact .inl ⟨rfl, notQuote, fun same => absurd same notBackslash⟩
      all_goals exact .inr (.inl ⟨escapes, _, rfl⟩)
  · next standard =>
      unfold doubled
      split
      · exact .inr (.inr rfl)
      · next notQuote => exact .inl ⟨rfl, notQuote, fun _ => Bool.eq_false_iff.mpr standard⟩

namespace Scan

variable (d : Dialect)

theorem step_inside {c : Char} (notQuote : c ≠ '\'')
    (notEscape : c = '\\' → d.escapesWithBackslash = false) : inside.step d c = inside := by
  simp only [step]
  rw [if_neg notQuote, if_neg]
  rintro ⟨backslash, escapes⟩
  rw [notEscape backslash] at escapes
  cases escapes

/-- An escaped character takes the scanner neither out of the literal nor half way into an
escape sequence. -/
theorem after_escaped (c : Char) : inside.after d (Literal.escaped d c) = inside := by
  obtain ⟨spelled, notQuote, notEscape⟩ | ⟨escapes, x, spelled⟩ | spelled := escaped_cases d c
  · rw [spelled]
    exact step_inside d notQuote notEscape
  · rw [spelled]
    simp [step, escapes]
  · rw [spelled]
    rfl

theorem blanked_escaped (c : Char) : inside.blanked d (Literal.escaped d c) = [] := by
  obtain ⟨spelled, _, _⟩ | ⟨escapes, x, spelled⟩ | spelled := escaped_cases d c
  · rw [spelled]
    rfl
  · rw [spelled]
    simp [step, shown, escapes]
  · rw [spelled]
    rfl

theorem after_contents (s : List Char) : inside.after d (contents d s) = inside := by
  induction s with
  | nil => rfl
  | cons c s ih => rw [contents_cons, after_append, after_escaped, ih]

theorem blanked_contents (s : List Char) : inside.blanked d (contents d s) = [] := by
  induction s with
  | nil => rfl
  | cons c s ih =>
      rw [contents_cons, blanked_append, blanked_escaped, after_escaped, ih, List.nil_append]

theorem after_plainText {text : List Char} (plain : PlainText text) :
    inside.after d text = inside := by
  induction text with
  | nil => rfl
  | cons c cs ih =>
      obtain ⟨first, rest⟩ := PlainText.cons_iff.mp plain
      have notQuote : c ≠ '\'' := by
        rintro rfl
        cases first
      have notBackslash : c ≠ '\\' := by
        rintro rfl
        cases first
      rw [after_cons, step_inside d notQuote fun same => absurd same notBackslash, ih rest]

theorem blanked_plainText {text : List Char} (plain : PlainText text) :
    inside.blanked d text = [] := by
  induction text with
  | nil => rfl
  | cons c cs ih =>
      obtain ⟨first, rest⟩ := PlainText.cons_iff.mp plain
      have stays : inside.step d c = inside :=
        after_plainText d (PlainText.cons_iff.mpr ⟨first, PlainText.nil⟩)
      rw [blanked_cons, stays, ih rest]
      rfl

/-- Of plain text that is wrapped into quotes the wrapper is left. -/
theorem blanked_wrapped {opening contents closing : List Char}
    (opens : outside.after d opening = inside) (plain : PlainText contents) :
    outside.blanked d (opening ++ contents ++ closing) =
      outside.blanked d opening ++ inside.blanked d closing := by
  rw [blanked_append, blanked_append, after_append, opens, blanked_plainText d plain,
    after_plainText d plain, List.append_nil]

/-- What is left of the literal of a text is its marker and two quotes. -/
theorem blanked_quoted (s : List Char) :
    outside.blanked d (Literal.quoted d s) = marker d ++ ['\'', '\''] := by
  have markerFree : '\'' ∉ marker d := by
    cases d <;> decide
  rw [Literal.quoted, blanked_append, blanked_append, blanked_of_quoteFree markerFree,
    after_append, after_of_quoteFree markerFree]
  change marker d ++ (['\'', '\''] ++ inside.blanked d (contents d s)) ++
    (inside.after d (contents d s)).blanked d ['\''] = _
  rw [blanked_contents, after_contents, List.append_nil]
  exact List.append_nil _

theorem isOutside_after_plainText {text : List Char} (plain : PlainText text) :
    (outside.after d text).isOutside = true :=
  isOutside_after_of_quoteFree rfl (plain.not_mem (by decide))

theorem isOutside_after_quoted (s : List Char) :
    (outside.after d (Literal.quoted d s)).isOutside = true := by
  have opens : outside.after d (marker d ++ ['\'']) = inside := by
    cases d <;> decide
  have closes : (inside.after d ['\'']).isOutside = true := rfl
  have shape : Literal.quoted d s = marker d ++ ['\''] ++ contents d s ++ ['\''] := by
    simp [Literal.quoted]
  rw [shape]
  exact isOutside_after_wrapped opens (after_contents d s) closes

theorem isOutside_after_binary (data : List UInt8) :
    (outside.after d (binary d data)).isOutside = true := by
  have stays := after_plainText d (plainText_hex data)
  cases d with
  | sqlserver =>
      have digits : PlainText ("0x".toList ++ hex data ++ []) := by
        rw [List.append_nil, PlainText.append_iff]
        exact ⟨by decide, plainText_hex data⟩
      exact isOutside_after_plainText _ digits
  | mysql | postgresql | sqlite | oracle =>
      exact isOutside_after_wrapped (by decide) stays (by decide)

theorem isOutside_after_date (day : Calendar.Date) :
    (outside.after d (ofDate d day)).isOutside = true := by
  have stays := after_plainText d (plainText_date day)
  cases d <;> exact isOutside_after_wrapped (by decide) stays (by decide)

theorem isOutside_after_timestamp (t : Calendar.Timestamp) :
    (outside.after d (ofTimestamp d t)).isOutside = true := by
  have stays := after_plainText d (plainText_timestamp d t)
  -- The pattern behind the digits of Oracle is a second literal, which its closing ends.
  cases d <;> exact isOutside_after_wrapped (by decide) stays (by decide +kernel)

/-- Every literal leaves the scanner outside. -/
theorem isOutside_after_of_literal {v : Value} {text : String}
    (written : v.literal d = .ok text) : (outside.after d text.toList).isOutside = true := by
  obtain plain | ⟨s, spelled⟩ | ⟨data, spelled⟩ | ⟨day, spelled⟩ | ⟨t, spelled⟩ :=
    Value.literal_cases written
  · exact isOutside_after_plainText d plain
  · rw [spelled]
    exact isOutside_after_quoted d s
  · rw [spelled]
    exact isOutside_after_binary d data
  · rw [spelled]
    exact isOutside_after_date d day
  · rw [spelled]
    exact isOutside_after_timestamp d t

end Scan

end SqlSelect
