import SqlSelect.Literal.Basic

/-!
# Scanning for string literals

A scanner reads a statement character by character and knows at each point whether it stands
in a string literal. A quote opens a literal. Inside, two quotes stand for one, and where
backslash escapes are known a backslash takes the next character with it; any other quote
closes the literal.

## Implementation notes

A quote inside a literal may be the first of two, so the scanner has a state of its own for
the place behind it. At the end of a text that place counts as outside.
-/

namespace SqlSelect

/-- Where a scanner stands. -/
inductive Scan where
  | outside
  | inside
  /-- Behind a backslash in a literal. -/
  | escaped
  /-- Behind a quote in a literal, which closes it unless another quote follows. -/
  | quoted
  deriving DecidableEq, Repr

namespace Scan

/-- The place behind a further character. -/
def step (d : Dialect) : Scan → Char → Scan
  | outside, c => if c = '\'' then inside else outside
  | inside, c =>
    if c = '\'' then quoted
    else if c = '\\' ∧ d.escapesWithBackslash = true then escaped else inside
  | escaped, _ => inside
  | quoted, c => if c = '\'' then inside else outside

/-- What is shown of a character once the contents of literals are blanked. Both quotes of a
literal are shown where it opens. -/
def shown : Scan → Char → List Char
  | outside, c => if c = '\'' then ['\'', '\''] else [c]
  | quoted, c => if c = '\'' then [] else [c]
  | inside, _ | escaped, _ => []

/-- The place behind a text. -/
def after (d : Dialect) (s : Scan) (text : List Char) : Scan :=
  text.foldl (step d) s

/-- The text with the contents of its literals blanked. -/
def blanked (d : Dialect) : Scan → List Char → List Char
  | _, [] => []
  | s, c :: cs => s.shown c ++ blanked d (s.step d c) cs

/-- The scanner does not stand in a literal. -/
def isOutside : Scan → Bool
  | outside | quoted => true
  | inside | escaped => false

@[simp] theorem after_nil (d : Dialect) (s : Scan) : s.after d [] = s := rfl

@[simp] theorem after_cons (d : Dialect) (s : Scan) (c : Char) (cs : List Char) :
    s.after d (c :: cs) = (s.step d c).after d cs := rfl

@[simp] theorem after_append (d : Dialect) (s : Scan) (t u : List Char) :
    s.after d (t ++ u) = (s.after d t).after d u :=
  List.foldl_append

@[simp] theorem blanked_nil (d : Dialect) (s : Scan) : s.blanked d [] = [] := rfl

@[simp] theorem blanked_cons (d : Dialect) (s : Scan) (c : Char) (cs : List Char) :
    s.blanked d (c :: cs) = s.shown c ++ (s.step d c).blanked d cs := rfl

@[simp] theorem blanked_append (d : Dialect) (s : Scan) (t u : List Char) :
    s.blanked d (t ++ u) = s.blanked d t ++ (s.after d t).blanked d u := by
  induction t generalizing s with
  | nil => rfl
  | cons c cs ih => simp [ih]

variable {d : Dialect} {text : List Char}

/-- A text without quotes is no part of a literal that was not open before. -/
theorem after_of_quoteFree (quoteFree : '\'' ∉ text) : outside.after d text = outside := by
  induction text with
  | nil => rfl
  | cons c cs ih =>
      obtain ⟨other, rest⟩ := List.ne_and_not_mem_of_not_mem_cons quoteFree
      have stays : outside.step d c = outside := if_neg other.symm
      rw [after_cons, stays, ih rest]

theorem blanked_of_quoteFree (quoteFree : '\'' ∉ text) : outside.blanked d text = text := by
  induction text with
  | nil => rfl
  | cons c cs ih =>
      obtain ⟨other, rest⟩ := List.ne_and_not_mem_of_not_mem_cons quoteFree
      have stays : outside.step d c = outside := if_neg other.symm
      have seen : outside.shown c = [c] := if_neg other.symm
      rw [blanked_cons, stays, seen, ih rest]
      rfl

/-- Behind a literal a character other than a quote is read as if no literal came before. -/
theorem step_of_isOutside {s : Scan} {c : Char} (closed : s.isOutside = true)
    (other : c ≠ '\'') : s.step d c = outside ∧ s.shown c = [c] := by
  cases s with
  | outside | quoted => exact ⟨if_neg other, if_neg other⟩
  | inside | escaped => cases closed

/-- A text without quotes that is not empty separates a literal from whatever follows. -/
theorem after_separator {s : Scan} (closed : s.isOutside = true) (nonempty : text ≠ [])
    (quoteFree : '\'' ∉ text) :
    s.after d text = outside ∧ s.blanked d text = text := by
  cases text with
  | nil => exact absurd rfl nonempty
  | cons c cs =>
      obtain ⟨other, rest⟩ := List.ne_and_not_mem_of_not_mem_cons quoteFree
      obtain ⟨stays, seen⟩ := step_of_isOutside (d := d) closed other.symm
      constructor
      · rw [after_cons, stays, after_of_quoteFree rest]
      · rw [blanked_cons, stays, seen, blanked_of_quoteFree rest]
        rfl

theorem isOutside_after_of_quoteFree {s : Scan} (closed : s.isOutside = true)
    (quoteFree : '\'' ∉ text) : (s.after d text).isOutside = true := by
  by_cases nonempty : text = []
  · rw [nonempty]
    exact closed
  · rw [(after_separator closed nonempty quoteFree).1]
    rfl

/-- Contents that leave the scanner inside a literal do not matter between an opening and a
closing that fit together. -/
theorem isOutside_after_wrapped {opening contents closing : List Char}
    (opens : outside.after d opening = inside) (stays : inside.after d contents = inside)
    (closes : (inside.after d closing).isOutside = true) :
    (outside.after d (opening ++ contents ++ closing)).isOutside = true := by
  rw [after_append, after_append, opens, stays]
  exact closes

end Scan

end SqlSelect
