import SqlSelect.Proofs.LiteralReader

/-!
# Unicode strings of SQL Server

A Unicode string stands between `N'` and a quote. Inside it two quotes stand for one, and a
backslash in front of a line break continues the string on the next line: the backslash and the
line break are both dropped. Any other backslash is a character like all others.

The literal of a text is a Unicode string, and it stands for the text without its line
continuations. A backslash that the text has in front of a line break is written as it is, so it
is dropped with the line break, and the text is received as it is only if it has none.

## Implementation notes

Whether a backslash is dropped shows in up to two characters behind it. None of them is a quote, so
the contents of a literal continue a line exactly where the text does.
-/

namespace SqlSelect

namespace Literal

/-- What continues a string on the next line: a backslash and a line break, which is a line feed
or a carriage return and a line feed. -/
def lineContinuations : List (List Char) :=
  [['\\', '\n'], ['\\', '\r', '\n']]

/-- What the contents of a Unicode string stand for. -/
def joined? : List Char → Option (List Char)
  | [] => some []
  | '\\' :: '\n' :: rest => joined? rest
  | '\\' :: '\r' :: '\n' :: rest => joined? rest
  | '\'' :: '\'' :: rest => (joined? rest).map ('\'' :: ·)
  | '\'' :: _ => none
  | c :: rest => (joined? rest).map (c :: ·)

/-- What a Unicode string stands for by the rules of SQL Server. -/
def unicodeString? : List Char → Option (List Char)
  | 'N' :: text =>
    match Scan.outside.split .sqlserver text with
    | some (inner, []) => joined? inner
    | _ => none
  | _ => none

example : unicodeString? "N'C:\\temp\\\r\n\\''s'".toList = some "C:\\temp\\'s".toList := by
  decide +kernel

/-- A text with its line continuations dropped. -/
def joined : List Char → List Char
  | [] => []
  | '\\' :: '\n' :: rest => joined rest
  | '\\' :: '\r' :: '\n' :: rest => joined rest
  | c :: rest => c :: joined rest

/-- A line continuation stands at the front of a text. -/
def Continues (text : List Char) : Prop :=
  ∃ w ∈ lineContinuations, w <+: text

theorem mem_lineContinuations {w : List Char} :
    w ∈ lineContinuations ↔ w = ['\\', '\n'] ∨ w = ['\\', '\r', '\n'] := by
  simp [lineContinuations]

theorem continues_cons_iff {c : Char} {text : List Char} :
    Continues (c :: text) ↔
      c = '\\' ∧ ∃ rest, text = '\n' :: rest ∨ text = '\r' :: '\n' :: rest := by
  constructor
  · rintro ⟨w, member, rest, spelled⟩
    obtain rfl | rfl := mem_lineContinuations.mp member
    · cases spelled
      exact ⟨rfl, rest, .inl rfl⟩
    · cases spelled
      exact ⟨rfl, rest, .inr rfl⟩
  · rintro ⟨rfl, rest, rfl | rfl⟩
    · exact ⟨['\\', '\n'], by decide, rest, rfl⟩
    · exact ⟨['\\', '\r', '\n'], by decide, rest, rfl⟩

section Dropping

variable {w rest : List Char} {c : Char}

theorem joined_dropped (member : w ∈ lineContinuations) (rest : List Char) :
    joined (w ++ rest) = joined rest := by
  obtain rfl | rfl := mem_lineContinuations.mp member <;> rfl

theorem joined_kept (ends : ¬Continues (c :: rest)) : joined (c :: rest) = c :: joined rest := by
  rw [continues_cons_iff] at ends
  rw [joined]
  · rintro further rfl rfl
    exact ends ⟨rfl, further, .inl rfl⟩
  · rintro further rfl rfl
    exact ends ⟨rfl, further, .inr rfl⟩

theorem joined?_dropped (member : w ∈ lineContinuations) (rest : List Char) :
    joined? (w ++ rest) = joined? rest := by
  obtain rfl | rfl := mem_lineContinuations.mp member <;> rfl

theorem joined?_kept (notQuote : c ≠ '\'') (ends : ¬Continues (c :: rest)) :
    joined? (c :: rest) = (joined? rest).map (c :: ·) := by
  rw [continues_cons_iff] at ends
  rw [joined?]
  · rintro further rfl rfl
    exact ends ⟨rfl, further, .inl rfl⟩
  · rintro further rfl rfl
    exact ends ⟨rfl, further, .inr rfl⟩
  · rintro further rfl
    exact absurd rfl notQuote
  · rintro rfl
    exact absurd rfl notQuote

/-- Induction over a text that passes over a line continuation as a whole. -/
theorem joined_induction {motive : List Char → Prop} (nil : motive [])
    (dropped : ∀ w ∈ lineContinuations, ∀ rest, motive rest → motive (w ++ rest))
    (kept : ∀ c rest, ¬Continues (c :: rest) → motive rest → motive (c :: rest))
    (s : List Char) : motive s := by
  fun_induction joined s with
  | case1 => exact nil
  | case2 rest ih => exact dropped ['\\', '\n'] (by decide) rest ih
  | case3 rest ih => exact dropped ['\\', '\r', '\n'] (by decide) rest ih
  | case4 c rest noFeed noReturn ih =>
      apply kept c rest _ ih
      rw [continues_cons_iff]
      rintro ⟨backslash, further, feed | both⟩
      · exact noFeed further backslash feed
      · exact noReturn further backslash both

/-- A line continuation at the front of a text does not reach into the next one. -/
theorem continues_of_append (member : w ∈ lineContinuations) (back : List Char)
    (continued : Continues (c :: (rest ++ (w ++ back)))) : Continues (c :: rest) := by
  obtain ⟨broken, rfl⟩ : ∃ broken, w = '\\' :: broken := by
    obtain rfl | rfl := mem_lineContinuations.mp member <;> exact ⟨_, rfl⟩
  obtain ⟨backslash, further, spelled⟩ := continues_cons_iff.mp continued
  apply continues_cons_iff.mpr
  match rest, spelled with
  | [], .inl same => cases same
  | [], .inr same => cases same
  | [x], .inl same =>
      cases same
      exact ⟨backslash, [], .inl rfl⟩
  | [x], .inr same => cases same
  | x :: y :: more, .inl same =>
      cases same
      exact ⟨backslash, y :: more, .inl rfl⟩
  | x :: y :: more, .inr same =>
      cases same
      exact ⟨backslash, more, .inr rfl⟩

/-- A line continuation is dropped wherever it stands. -/
theorem joined_append_dropped (front : List Char) (member : w ∈ lineContinuations)
    (back : List Char) :
    joined (front ++ (w ++ back)) = joined front ++ joined back := by
  induction front using joined_induction with
  | nil => exact joined_dropped member back
  | dropped v inFront rest ih =>
      rw [List.append_assoc, joined_dropped inFront, joined_dropped inFront, ih]
  | kept c rest ends ih =>
      have endsBoth : ¬Continues (c :: (rest ++ (w ++ back))) := fun continued =>
        ends (continues_of_append member back continued)
      rw [List.cons_append, joined_kept endsBoth, joined_kept ends, ih, List.cons_append]

theorem joined_sublist (s : List Char) : (joined s).Sublist s := by
  induction s using joined_induction with
  | nil => exact List.Sublist.refl []
  | dropped w member rest ih =>
      rw [joined_dropped member]
      exact ih.trans (List.sublist_append_right w rest)
  | kept c rest ends ih =>
      rw [joined_kept ends]
      exact ih.cons_cons c

/-- A text is left as it is exactly if no line continuation is in it. -/
theorem joined_eq_self_iff {s : List Char} :
    joined s = s ↔ ∀ w ∈ lineContinuations, ¬w <:+: s := by
  induction s using joined_induction with
  | nil => exact iff_of_true rfl (by decide)
  | dropped w member rest ih =>
      refine iff_of_false ?shorter ?present
      case shorter =>
        intro same
        have bound := (joined_sublist rest).length_le
        rw [joined_dropped member] at same
        rw [same, List.length_append] at bound
        have long : 2 ≤ w.length := by
          obtain rfl | rfl := mem_lineContinuations.mp member <;> decide
        omega
      case present =>
        intro free
        exact free w member (List.prefix_append w rest).isInfix
  | kept c rest ends ih =>
      have further : (∀ w ∈ lineContinuations, ¬w <:+: c :: rest) ↔
          ∀ w ∈ lineContinuations, ¬w <:+: rest := by
        refine forall₂_congr fun w member => not_congr ?_
        rw [List.infix_cons_iff]
        exact or_iff_right fun front => ends ⟨w, member, front⟩
      rw [joined_kept ends, further, ← ih]
      exact List.cons_inj_right c

end Dropping

theorem contents_quote (s : List Char) :
    contents .sqlserver ('\'' :: s) = '\'' :: '\'' :: contents .sqlserver s := rfl

theorem contents_plain {c : Char} (notQuote : c ≠ '\'') (s : List Char) :
    contents .sqlserver (c :: s) = c :: contents .sqlserver s := by
  rw [contents_of_standard rfl, contents_of_standard rfl, List.flatMap_cons]
  simp [doubled]

/-- A word without quotes stands at the front of the contents of a literal exactly if it stands at
the front of the text. -/
theorem prefix_contents_iff {word s : List Char} (quoteFree : '\'' ∉ word) :
    word <+: contents .sqlserver s ↔ word <+: s := by
  induction word generalizing s with
  | nil => exact iff_of_true List.nil_prefix List.nil_prefix
  | cons x word ih =>
      obtain ⟨other, rest⟩ := List.ne_and_not_mem_of_not_mem_cons quoteFree
      cases s with
      | nil => rfl
      | cons c s =>
          by_cases quote : c = '\''
          · subst quote
            rw [contents_quote, List.cons_prefix_cons, List.cons_prefix_cons]
            exact iff_of_false (fun both => other both.1.symm) (fun both => other both.1.symm)
          · rw [contents_plain quote, List.cons_prefix_cons, List.cons_prefix_cons, ih rest]

theorem continues_contents_iff {s : List Char} :
    Continues (contents .sqlserver s) ↔ Continues s := by
  have quoteFree : ∀ w ∈ lineContinuations, '\'' ∉ w := by decide
  exact exists_congr fun w => and_congr_right fun member =>
    prefix_contents_iff (quoteFree w member)

/-- The contents of a literal stand for the text without its line continuations. -/
theorem joined?_contents (s : List Char) : joined? (contents .sqlserver s) = some (joined s) := by
  induction s using joined_induction with
  | nil => rfl
  | dropped w member rest ih =>
      have spelled : contents .sqlserver (w ++ rest) = w ++ contents .sqlserver rest := by
        obtain rfl | rfl := mem_lineContinuations.mp member <;> rfl
      rw [spelled, joined?_dropped member, joined_dropped member, ih]
  | kept c rest ends ih =>
      rw [joined_kept ends]
      by_cases quote : c = '\''
      · subst quote
        rw [contents_quote, joined?, ih, Option.map_some]
      · rw [← continues_contents_iff, contents_plain quote] at ends
        rw [contents_plain quote, joined?_kept quote ends, ih, Option.map_some]

theorem unicodeString?_quoted (s : List Char) :
    unicodeString? (quoted .sqlserver s) = some (joined s) := by
  have shape : quoted .sqlserver s = 'N' :: ('\'' :: contents .sqlserver s ++ ['\'']) := rfl
  rw [shape, unicodeString?, Scan.split_whole]
  exact joined?_contents s

end Literal

namespace Value

/-- By the rules of SQL Server the literal of a text stands for the text without its line
continuations. Each of them is lost with nothing of what stands in front of it and behind it, and
the text itself is received exactly if it has none. -/
theorem unicodeString_of_text (s : String) :
    ∃ literal : String, (Value.text s).literal .sqlserver = .ok literal ∧
      Literal.unicodeString? literal.toList = some (Literal.joined s.toList) ∧
      (∀ front back, ∀ w ∈ Literal.lineContinuations, s.toList = front ++ (w ++ back) →
        Literal.unicodeString? literal.toList =
          some (Literal.joined front ++ Literal.joined back)) ∧
      (Literal.unicodeString? literal.toList = some s.toList ↔
        ∀ w ∈ Literal.lineContinuations, ¬w <:+: s.toList) := by
  have read := Literal.unicodeString?_quoted s.toList
  rw [← String.toList_ofList (l := Literal.quoted .sqlserver s.toList)] at read
  refine ⟨_, literal_text .sqlserver s, read, ?lost, ?whole⟩
  case lost =>
    intro front back w member spelled
    rw [read, spelled, Literal.joined_append_dropped front member back]
  case whole =>
    rw [read, Option.some.injEq, Literal.joined_eq_self_iff]

/-- A path that ends a line loses its last backslash and the line break. -/
theorem unicodeString_of_text_path :
    ∃ literal : String, (Value.text "C:\\tmp\\\r\nit's").literal .sqlserver = .ok literal ∧
      Literal.unicodeString? literal.toList = some "C:\\tmpit's".toList := by
  obtain ⟨literal, written, -, lost, -⟩ := unicodeString_of_text "C:\\tmp\\\r\nit's"
  refine ⟨literal, written, ?_⟩
  have split := lost "C:\\tmp".toList "it's".toList ['\\', '\r', '\n'] (by decide) (by decide)
  rw [split]
  decide

/-- Of a backslash in front of a line feed nothing is received. A Unicode string that stands for
both has the backslash and the line feed twice. -/
theorem unicodeString_of_lineContinuation :
    (Value.text "\\\n").literal .sqlserver = .ok "N'\\\n'" ∧
      Literal.unicodeString? "N'\\\n'".toList = some [] ∧
      Literal.unicodeString? "N'\\\n'".toList ≠ some "\\\n".toList ∧
      Literal.unicodeString? "N'\\\\\n\n'".toList = some "\\\n".toList := by
  refine ⟨rfl, ?_, ?_, ?_⟩ <;> decide +kernel

end Value

end SqlSelect
