import SqlSelect.Literal.Basic

/-!
# Plain text

Numbers, dates and times are written with letters, digits and a few signs. None of these has
a meaning for a scanner: there is no quote, no backslash and no parenthesis among them. All
literals are plain text but those of texts, bytes, dates and timestamps.
-/

namespace SqlSelect

open Calendar Number

/-- The characters of numbers, dates and times. -/
def isPlain (c : Char) : Bool :=
  c.isAlphanum || ['-', '+', '.', ':', ' '].contains c

/-- A text in which only plain characters occur. -/
def PlainText (text : List Char) : Prop :=
  ∀ c ∈ text, isPlain c = true

instance (text : List Char) : Decidable (PlainText text) :=
  List.decidableBAll (isPlain · = true) text

namespace PlainText

@[simp] theorem nil : PlainText [] := by
  simp [PlainText]

@[simp] theorem cons_iff {c : Char} {text : List Char} :
    PlainText (c :: text) ↔ isPlain c = true ∧ PlainText text := by
  simp [PlainText]

@[simp] theorem append_iff {t u : List Char} :
    PlainText (t ++ u) ↔ PlainText t ∧ PlainText u := by
  simp [PlainText, or_imp, forall_and]

theorem not_mem {text : List Char} {c : Char} (plain : PlainText text)
    (other : isPlain c = false) : c ∉ text := by
  intro member
  rw [plain c member] at other
  cases other

end PlainText

theorem isPlain_of_isDigit {c : Char} (digit : c.isDigit = true) : isPlain c = true := by
  simp [isPlain, Char.isAlphanum, digit]

theorem plainText_digits (n : Nat) : PlainText (digits n) := by
  intro c member
  exact isPlain_of_isDigit (Nat.isDigit_of_mem_toDigits (by decide) (by decide) member)

theorem plainText_signedDigits (i : Int) : PlainText (signedDigits i) := by
  unfold signedDigits
  split
  · exact PlainText.cons_iff.mpr ⟨by decide, plainText_digits _⟩
  · exact plainText_digits _

theorem plainText_fixedDigits (width n : Nat) : PlainText (fixedDigits width n) :=
  fun _ member => isPlain_of_isDigit (isDigit_of_mem_fixedDigits member)

theorem plainText_positional (x : Binary64) : PlainText x.positional := by
  have magnitude (y : Decimal) : PlainText y.positional := by
    unfold Decimal.positional
    split
    · exact plainText_digits _
    · rw [PlainText.append_iff, PlainText.cons_iff]
      exact ⟨plainText_digits _, by decide, plainText_fixedDigits _ _⟩
  unfold Binary64.positional
  split
  · exact PlainText.cons_iff.mpr ⟨by decide, magnitude _⟩
  · exact magnitude _

/-- What holds of the sixteen digits holds of all digits of a byte string. -/
theorem Literal.forall_mem_hex {P : Char → Prop} (digit : ∀ n < 16, P (hexDigit n))
    (data : List UInt8) : ∀ c ∈ hex data, P c := by
  intro c member
  obtain ⟨byte, _, inPair⟩ := List.mem_flatMap.mp member
  have bound := byte.toNat_lt
  simp only [hexPair, List.mem_cons, List.not_mem_nil, or_false] at inPair
  obtain rfl | rfl := inPair
  · exact digit _ (by omega)
  · exact digit _ (by omega)

theorem plainText_hex (data : List UInt8) : PlainText (Literal.hex data) := by
  have digit : ∀ n < 16, isPlain (Literal.hexDigit n) = true := by decide
  exact Literal.forall_mem_hex digit data

theorem plainText_date (day : Date) : PlainText day.iso := by
  unfold Date.iso
  split <;> simp [plainText_fixedDigits] <;> decide

theorem plainText_time (places : Nat) (t : TimeOfDay) : PlainText (t.iso places) := by
  unfold TimeOfDay.iso
  simp [plainText_fixedDigits]
  decide

theorem plainText_offset (t : Timestamp) : PlainText t.isoOffset := by
  unfold Timestamp.isoOffset
  split <;> simp [plainText_fixedDigits] <;> decide

theorem plainText_timestamp (d : Dialect) (t : Timestamp) :
    PlainText (Literal.timestampText d t) := by
  have localText (places : Nat) (u : Timestamp) : PlainText (u.iso places) := by
    unfold Timestamp.iso
    rw [PlainText.append_iff, PlainText.cons_iff]
    exact ⟨plainText_date _, by decide, plainText_time _ _⟩
  cases d with
  | mysql | sqlite | oracle => exact localText _ _
  | postgresql | sqlserver =>
      rw [Literal.timestampText, PlainText.append_iff, PlainText.cons_iff]
      exact ⟨localText _ _, by decide, plainText_offset t⟩

/-- A literal that is not plain text is that of a text, of bytes, of a date or of a
timestamp. -/
theorem Value.literal_cases {d : Dialect} {v : Value} {text : String}
    (written : v.literal d = .ok text) :
    PlainText text.toList ∨
      (∃ s, text.toList = Literal.quoted d s) ∨
      (∃ data, text.toList = Literal.binary d data) ∨
      (∃ day, text.toList = Literal.ofDate d day) ∨
      ∃ t, text.toList = Literal.ofTimestamp d t := by
  cases v with
  | null =>
      cases written
      exact .inl (by decide)
  | bool b =>
      cases written
      left
      cases d <;> cases b <;> decide
  | int n =>
      cases written
      left
      rw [String.toList_ofList]
      exact plainText_signedDigits _
  | uint n =>
      cases written
      left
      rw [String.toList_ofList]
      exact plainText_digits _
  | float x =>
      simp only [Value.literal] at written
      split at written
      · cases written
        left
        rw [String.toList_ofList]
        exact plainText_positional x
      · cases written
  | text s =>
      cases written
      exact .inr (.inl ⟨_, String.toList_ofList⟩)
  | bytes data =>
      cases written
      exact .inr (.inr (.inl ⟨data, String.toList_ofList⟩))
  | date day =>
      cases written
      exact .inr (.inr (.inr (.inl ⟨day, String.toList_ofList⟩)))
  | timestamp t =>
      cases written
      exact .inr (.inr (.inr (.inr ⟨t, String.toList_ofList⟩)))

end SqlSelect
