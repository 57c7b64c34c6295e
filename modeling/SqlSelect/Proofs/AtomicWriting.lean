import SqlSelect.Proofs.LiteralReader

/-!
# Writing a literal is all or nothing

A literal is written piece by piece, and what has been written before a failure stays. Still a
literal is written as a whole or not at all, and in the same way behind every text: the pieces
put together are the literal, and each step that can fail comes before the first piece. The only
values that have no literal are the doubles that are not finite, in every dialect.

## Implementation notes

What a sequence of steps writes is what they write one after the other, so a proof has the shape
of the steps.
-/

namespace SqlSelect

open Number

namespace Literal

namespace Output

variable {ε : Type} {steps : Output ε Unit} {next : Unit → Output ε Unit} {text further : List Char}

/-- Whatever stands there, the steps succeed and put exactly this text behind it. -/
def Appends (steps : Output ε Unit) (text : List Char) : Prop :=
  ∀ before, steps.behind before = (.ok (), before ++ String.ofList text)

/-- Whatever stands there, the steps fail for this reason and leave it as it is. -/
def Refuses (steps : Output ε Unit) (e : ε) : Prop :=
  ∀ before, steps.behind before = (.error e, before)

theorem appends_nothing : Appends (pure () : Output ε Unit) [] := by
  intro before
  rw [String.ofList_nil, String.append_empty]
  rfl

theorem appends_push (text : String) : Appends (push text : Output ε Unit) text.toList := by
  intro before
  rw [String.ofList_toList]
  rfl

theorem appends_push_ofList (text : List Char) :
    Appends (push (String.ofList text) : Output ε Unit) text := by
  intro before
  rfl

theorem appends_pushChar (c : Char) : Appends (pushChar c : Output ε Unit) [c] := by
  intro before
  have single : before ++ String.ofList [c] = before.push c := by
    rw [String.push_eq_append]
    rfl
  rw [single]
  rfl

theorem Appends.bind (first : Appends steps text) (second : ∀ u, Appends (next u) further) :
    Appends (steps >>= next) (text ++ further) := by
  intro before
  have sequence : (steps >>= next).behind before =
      match steps.behind before with
      | (.ok u, after) => (next u).behind after
      | (.error e, after) => (.error e, after) := by
    simp only [behind, ExceptT.run_bind, StateT.run_bind]
    cases steps.run.run before with
    | mk outcome after => cases outcome <;> rfl
  rw [sequence, first before]
  change (next ()).behind _ = _
  rw [second, String.ofList_append, String.append_assoc]

theorem appends_forM {α : Type} {step : α → Output ε Unit} {spell : α → List Char}
    (each : ∀ x, Appends (step x) (spell x)) (xs : List α) :
    Appends (xs.forM step) (xs.flatMap spell) := by
  induction xs with
  | nil => exact appends_nothing
  | cons x xs ih => exact (each x).bind fun _ => ih

end Output

open Output

variable {ε : Type} (d : Dialect)

theorem appends_doubled (c : Char) :
    Appends (do if c = '\'' then pushChar '\''
                pushChar c : Output ε Unit) (doubled c) := by
  by_cases quote : c = '\''
  · subst quote
    rw [if_pos rfl]
    exact (appends_pushChar '\'').bind fun _ => appends_pushChar '\''
  · have itself : doubled c = [c] := by
      unfold doubled
      split
      · contradiction
      · rfl
    rw [if_neg quote, itself]
    exact appends_pushChar c

theorem appends_writeQuoted (s : List Char) :
    Appends (writeQuoted d s : Output ε Unit) (quoted d s) := by
  have shape : quoted d s = marker d ++ (['\''] ++ (contents d s ++ ['\''])) := by
    simp [quoted]
  rw [shape, writeQuoted]
  refine (appends_push_ofList _).bind fun _ => (appends_pushChar '\'').bind fun _ => ?_
  cases mode : d.escapesWithBackslash with
  | true =>
      rw [contents_of_escapes mode]
      exact (appends_forM (fun c => appends_push_ofList (backslashed c)) s).bind
        fun _ => appends_pushChar '\''
  | false =>
      rw [contents_of_standard mode]
      exact (appends_forM appends_doubled s).bind fun _ => appends_pushChar '\''

theorem appends_writeBinary (data : List UInt8) :
    Appends (writeBinary d data : Output ε Unit) (binary d data) := by
  have pair (byte : UInt8) : Appends (do pushChar (hexDigit (byte.toNat / 16))
                                         pushChar (hexDigit (byte.toNat % 16)) : Output ε Unit)
      (hexPair byte) :=
    (appends_pushChar _).bind fun _ => appends_pushChar _
  rw [binary, List.append_assoc, writeBinary]
  exact (appends_push _).bind fun _ => (appends_forM pair data).bind fun _ => appends_push _

theorem appends_writeDate (day : Calendar.Date) :
    Appends (writeDate d (.ok day.iso) : Output ε Unit) (ofDate d day) := by
  have digits : Appends (do pushChar '\''
                            push (String.ofList day.iso)
                            pushChar '\'' : Output ε Unit) (['\''] ++ (day.iso ++ ['\''])) :=
    (appends_pushChar '\'').bind fun _ =>
      (appends_push_ofList day.iso).bind fun _ => appends_pushChar '\''
  have written : writeDate d (.ok day.iso) = (do
      if d = .oracle then push "DATE "
      pushChar '\''
      push (String.ofList day.iso)
      pushChar '\'' : Output ε Unit) := rfl
  rw [written, ofDate]
  by_cases oracle : d = .oracle
  · rw [if_pos oracle, if_pos oracle]
    exact (appends_push "DATE ").bind fun _ => digits
  · rw [if_neg oracle, if_neg oracle, List.append_assoc]
    exact digits

theorem appends_writeTimestamp (t : Calendar.Timestamp) :
    Appends (writeTimestamp d (.ok (timestampText d t)) : Output ε Unit) (ofTimestamp d t) := by
  have written : writeTimestamp d (.ok (timestampText d t)) = (do
      push (timestampWrapper d).1
      push (String.ofList (timestampText d t))
      push (timestampWrapper d).2 : Output ε Unit) := rfl
  rw [written, ofTimestamp, List.append_assoc]
  exact (appends_push _).bind fun _ => (appends_push_ofList _).bind fun _ => appends_push _

theorem refuses_writeDate (e : ε) : Refuses (writeDate d (.error e)) e := fun _ => rfl

theorem refuses_writeTimestamp (e : ε) : Refuses (writeTimestamp d (.error e)) e := fun _ => rfl

end Literal

theorem digits_ne_nil (n : Nat) : digits n ≠ [] :=
  Nat.toDigits_ne_nil

theorem signedDigits_ne_nil (i : Int) : signedDigits i ≠ [] := by
  unfold signedDigits
  split
  · exact List.cons_ne_nil _ _
  · exact digits_ne_nil _

theorem positional_ne_nil (x : Binary64) : x.positional ≠ [] := by
  have magnitude (y : Decimal) : y.positional ≠ [] := by
    unfold Decimal.positional
    split
    · exact digits_ne_nil _
    · exact List.append_ne_nil_of_left_ne_nil (digits_ne_nil _) _
  unfold Binary64.positional
  split
  · exact List.cons_ne_nil _ _
  · exact magnitude _

namespace Value

open Literal Output

variable {d : Dialect} {v : Value}

theorem literal_eq_error_iff {e : LiteralError} :
    v.literal d = .error e ↔ ∃ x, v = .float x ∧ x.isFinite = false ∧ e = .nonFinite x := by
  cases v with
  | float x =>
      simp only [literal]
      split
      · next finite => simp [finite]
      · next notFinite =>
          constructor
          · intro refused
            cases refused
            exact ⟨x, rfl, Bool.eq_false_iff.mpr notFinite, rfl⟩
          · rintro ⟨_, ⟨⟩, _, rfl⟩
            rfl
  | null | bool b | int n | uint n | text s | bytes data | date day | timestamp t =>
      simp [literal]

/-- No literal is empty. -/
theorem literal_ne_empty {text : String} (written : v.literal d = .ok text) : text ≠ "" := by
  have nonempty {chars : List Char} (some : chars ≠ []) : String.ofList chars ≠ "" := by
    rwa [Ne, String.ofList_eq_empty_iff]
  have wrapped {opening inner closing : List Char} (opens : opening ≠ []) :
      String.ofList (opening ++ inner ++ closing) ≠ "" :=
    nonempty (List.append_ne_nil_of_left_ne_nil (List.append_ne_nil_of_left_ne_nil opens _) _)
  cases v with
  | null =>
      cases written
      decide
  | bool b =>
      cases written
      cases d <;> cases b <;> decide
  | int n =>
      cases written
      exact nonempty (signedDigits_ne_nil _)
  | uint n =>
      cases written
      exact nonempty (digits_ne_nil _)
  | float x =>
      simp only [literal] at written
      split at written
      · cases written
        exact nonempty (positional_ne_nil x)
      · cases written
  | text s =>
      cases written
      exact nonempty (by simp [quoted])
  | bytes data =>
      cases written
      cases d <;> exact wrapped (by decide)
  | date day =>
      cases written
      exact nonempty (by simp [ofDate])
  | timestamp t =>
      cases written
      cases d <;> exact wrapped (by decide)

/-- A literal is what its steps write. -/
theorem appends_write {text : String} (written : v.literal d = .ok text) :
    Appends (v.write d) text.toList := by
  cases v with
  | float x =>
      simp only [literal] at written
      split at written
      · next finite =>
          cases written
          rw [write, if_neg (by simp [finite])]
          exact appends_push _
      · cases written
  | null | bool b | int n | uint n =>
      cases written
      exact appends_push _
  | text s =>
      cases written
      rw [String.toList_ofList]
      exact appends_writeQuoted d s.toList
  | bytes data =>
      cases written
      rw [String.toList_ofList]
      exact appends_writeBinary d data
  | date day =>
      cases written
      rw [String.toList_ofList]
      exact appends_writeDate d day
  | timestamp t =>
      cases written
      rw [String.toList_ofList]
      exact appends_writeTimestamp d t

theorem refuses_write {e : LiteralError} (refused : v.literal d = .error e) :
    Refuses (v.write d) e := by
  obtain ⟨x, rfl, notFinite, rfl⟩ := literal_eq_error_iff.mp refused
  intro before
  rw [write, if_pos notFinite]
  rfl

/-- Behind every text a literal is written as a whole, and it is not empty, or it is not written
at all and the text stays as it is. Which of the two, and the reason, do not depend on the text;
in every dialect exactly the doubles that are not finite have no literal. Nothing would be left
behind either if there were no digits for a date or for a timestamp. -/
theorem written_whole_or_not_at_all (d : Dialect) (v : Value) :
    ((∃ text : String, text ≠ "" ∧ v.literal d = .ok text ∧
        ∀ before, v.appendLiteral d before = (.ok (), before ++ text)) ∨
      ∃ e, v.literal d = .error e ∧ ∀ before, v.appendLiteral d before = (.error e, before)) ∧
    (∀ e, v.literal d = .error e ↔ ∃ x, v = .float x ∧ x.isFinite = false ∧ e = .nonFinite x) ∧
    ∀ (e : LiteralError) (before : String),
      (writeDate d (.error e)).behind before = (.error e, before) ∧
        (writeTimestamp d (.error e)).behind before = (.error e, before) := by
  refine ⟨?wholeOrNot, fun e => literal_eq_error_iff,
    fun e before => ⟨refuses_writeDate d e before, refuses_writeTimestamp d e before⟩⟩
  case wholeOrNot =>
    cases written : v.literal d with
    | ok text =>
        have whole : ∀ before, v.appendLiteral d before = (.ok (), before ++ text) := by
          intro before
          rw [appendLiteral, appends_write written before, String.ofList_toList]
        exact .inl ⟨text, literal_ne_empty written, rfl, whole⟩
    | error e => exact .inr ⟨e, rfl, refuses_write written⟩

end Value

end SqlSelect
