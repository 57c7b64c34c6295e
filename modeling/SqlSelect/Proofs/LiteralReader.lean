import SqlSelect.Proofs.LiteralScan

/-!
# Reading a string literal back

A scanner in front of a string literal finds its contents and what follows its closing quote.
What the contents stand for is a matter of the dialect: where backslash escapes are known a
backslash and the character behind it stand for one character, and everywhere two quotes stand
for one. The literal of a text is found whole, whatever follows, and reads as that text.

## Implementation notes

Whether a quote closes a literal shows in the character behind it, so the scanner takes no
quote into the contents before it has seen the second one.

The two readings of contents fail on a quote that stands alone, which no literal contains.
-/

namespace SqlSelect

namespace Scan

/-- What a character adds to the contents of a literal. -/
def kept : Scan → Char → List Char
  | outside, _ => []
  | inside, c => if c = '\'' then [] else [c]
  | escaped, c => [c]
  | quoted, c => if c = '\'' then ['\'', '\''] else []

/-- The end of a literal, if it has been closed, and what follows it. -/
def ended? : Scan → List Char → Option (List Char × List Char)
  | quoted, rest => some ([], rest)
  | _, _ => none

/-- Puts more in front of the contents of a literal. -/
def prepend (front : List Char) (read : Option (List Char × List Char)) :
    Option (List Char × List Char) :=
  read.map fun found => (front ++ found.1, found.2)

/-- The contents of the literal that a text starts with, and the text behind its closing
quote. -/
def split (d : Dialect) : Scan → List Char → Option (List Char × List Char)
  | s, [] => s.ended? []
  | s, c :: cs =>
    if s.step d c = outside then s.ended? (c :: cs)
    else prepend (s.kept c) (split d (s.step d c) cs)

@[simp] theorem prepend_nil (read : Option (List Char × List Char)) : prepend [] read = read := by
  cases read <;> rfl

@[simp] theorem prepend_prepend (front back : List Char)
    (read : Option (List Char × List Char)) :
    prepend front (prepend back read) = prepend (front ++ back) read := by
  cases read <;> simp [prepend]

variable (d : Dialect)

/-- An escaped character is taken into the contents as it stands. -/
theorem split_escaped (c : Char) (text : List Char) :
    inside.split d (Literal.escaped d c ++ text) =
      prepend (Literal.escaped d c) (inside.split d text) := by
  obtain ⟨spelled, notQuote, notEscape⟩ | ⟨escapes, x, spelled⟩ | spelled :=
    Literal.escaped_cases d c
  · rw [spelled]
    have stays := step_inside d notQuote notEscape
    have adds : inside.kept c = [c] := if_neg notQuote
    rw [List.singleton_append, split, stays, adds, if_neg (by decide)]
  · rw [spelled]
    simp [split, step, kept, escapes]
  · rw [spelled]
    simp [split, step, kept]

theorem split_contents (s text : List Char) :
    inside.split d (Literal.contents d s ++ text) =
      prepend (Literal.contents d s) (inside.split d text) := by
  induction s with
  | nil => exact (prepend_nil _).symm
  | cons c s ih =>
      rw [Literal.contents_cons, List.append_assoc, split_escaped, ih, prepend_prepend]

/-- A quote closes the literal unless another one follows. -/
theorem split_closing {rest : List Char} (apart : rest.head? ≠ some '\'') :
    inside.split d ('\'' :: rest) = some ([], rest) := by
  have closing : quoted.split d rest = some ([], rest) := by
    cases rest with
    | nil => rfl
    | cons c cs =>
        have other : c ≠ '\'' := fun same => apart (congrArg some same)
        have leaves : quoted.step d c = outside := if_neg other
        rw [split, if_pos leaves, ended?]
  have closes : inside.step d '\'' = quoted := rfl
  rw [split, closes, closing, if_neg (by decide)]
  rfl

/-- Text in quotes ends at its closing quote, whatever follows. -/
theorem split_quotes (s : List Char) {rest : List Char} (apart : rest.head? ≠ some '\'') :
    outside.split d ('\'' :: Literal.contents d s ++ '\'' :: rest) =
      some (Literal.contents d s, rest) := by
  have opens : outside.step d '\'' = inside := rfl
  have nothing : outside.kept '\'' = [] := rfl
  rw [List.cons_append, split, opens, nothing, if_neg (by decide), prepend_nil, split_contents,
    split_closing d apart, prepend, Option.map_some, List.append_nil]

theorem split_whole (s : List Char) :
    outside.split d ('\'' :: Literal.contents d s ++ ['\'']) = some (Literal.contents d s, []) :=
  split_quotes d s (by decide)

example : outside.split .mysql "'it\\'s\\\\\\'' OR name = 'x'".toList =
    some ("it\\'s\\\\\\'".toList, " OR name = 'x'".toList) := by
  decide +kernel

end Scan

namespace Literal

/-- The character that a character behind a backslash stands for in MySQL. -/
def behindBackslash : Char → Char
  | '0' => '\x00'
  | 'b' => '\x08'
  | 'n' => '\n'
  | 'r' => '\r'
  | 't' => '\t'
  | 'Z' => '\x1a'
  | c => c

/-- What the contents of a literal stand for by the rules of MySQL. -/
def unescaped? : List Char → Option (List Char)
  | [] => some []
  | '\\' :: c :: rest => (unescaped? rest).map (behindBackslash c :: ·)
  | '\'' :: '\'' :: rest => (unescaped? rest).map ('\'' :: ·)
  | ['\\'] | '\'' :: _ => none
  | c :: rest => (unescaped? rest).map (c :: ·)

/-- What the contents of a literal stand for by the rules of SQLite and Oracle, where a quote that
is written twice is the only special sequence. -/
def undoubled? : List Char → Option (List Char)
  | [] => some []
  | '\'' :: '\'' :: rest => (undoubled? rest).map ('\'' :: ·)
  | '\'' :: _ => none
  | c :: rest => (undoubled? rest).map (c :: ·)

section Reading

variable {α β : Type} {spell : α → List Char}

/-- A reading that makes one thing of the spelling of each makes a list of that of a list. -/
theorem read_flatMap_map {read : List Char → Option (List β)} (image : α → β) {s : List α}
    (unit : ∀ c ∈ s, ∀ text, read (spell c ++ text) = (read text).map (image c :: ·))
    (empty : read [] = some []) :
    read (s.flatMap spell) = some (s.map image) := by
  induction s with
  | nil => exact empty
  | cons c s ih =>
      obtain ⟨first, others⟩ := List.forall_mem_cons.mp unit
      rw [List.flatMap_cons, first, ih others, Option.map_some, List.map_cons]

/-- A reading that takes back the spelling of one thing takes back that of a list. -/
theorem read_flatMap {read : List Char → Option (List α)}
    (unit : ∀ c text, read (spell c ++ text) = (read text).map (c :: ·))
    (empty : read [] = some []) (s : List α) :
    read (s.flatMap spell) = some s := by
  have same := read_flatMap_map id (s := s) (fun c _ => unit c) empty
  rwa [List.map_id] at same

end Reading

theorem unescaped?_plain {c : Char} (notQuote : c ≠ '\'') (notBackslash : c ≠ '\\')
    (text : List Char) : unescaped? (c :: text) = (unescaped? text).map (c :: ·) := by
  simp [unescaped?, notQuote, notBackslash]

theorem unescaped?_backslashed (c : Char) (text : List Char) :
    unescaped? (backslashed c ++ text) = (unescaped? text).map (c :: ·) := by
  unfold backslashed
  split
  case h_10 notQuote _ notBackslash =>
    exact unescaped?_plain notQuote notBackslash text
  all_goals rfl

theorem undoubled?_plain {c : Char} (notQuote : c ≠ '\'') (text : List Char) :
    undoubled? (c :: text) = (undoubled? text).map (c :: ·) := by
  simp [undoubled?, notQuote]

theorem undoubled?_doubled (c : Char) (text : List Char) :
    undoubled? (doubled c ++ text) = (undoubled? text).map (c :: ·) := by
  unfold doubled
  split
  · rfl
  · next notQuote => exact undoubled?_plain notQuote text

section Modes

variable {d : Dialect}

theorem contents_of_escapes (escapes : d.escapesWithBackslash = true) (s : List Char) :
    contents d s = s.flatMap backslashed := by
  have each : escaped d = backslashed := by
    funext c
    exact if_pos escapes
  rw [contents, each]

theorem contents_of_standard (standard : d.escapesWithBackslash = false) (s : List Char) :
    contents d s = s.flatMap doubled := by
  have each : escaped d = doubled := by
    funext c
    exact if_neg (Bool.eq_false_iff.mp standard)
  rw [contents, each]

theorem unescaped?_contents (escapes : d.escapesWithBackslash = true) (s : List Char) :
    unescaped? (contents d s) = some s := by
  rw [contents_of_escapes escapes, read_flatMap unescaped?_backslashed rfl]

theorem undoubled?_contents (standard : d.escapesWithBackslash = false) (s : List Char) :
    undoubled? (contents d s) = some s := by
  rw [contents_of_standard standard, read_flatMap undoubled?_doubled rfl]

end Modes

theorem contents_injective (d : Dialect) : Function.Injective (contents d) := by
  intro s t same
  apply Option.some.inj
  cases mode : d.escapesWithBackslash with
  | true => rw [← unescaped?_contents mode s, same, unescaped?_contents mode t]
  | false => rw [← undoubled?_contents mode s, same, undoubled?_contents mode t]

/-- Different texts have different literals. -/
theorem quoted_injective (d : Dialect) : Function.Injective (quoted d) := by
  intro s t same
  unfold quoted at same
  have opened := List.append_cancel_left (List.append_cancel_right same)
  exact contents_injective d (List.cons.inj opened).2

end Literal

namespace Value

theorem literal_text (d : Dialect) (s : String) :
    (Value.text s).literal d = .ok (String.ofList (Literal.quoted d s.toList)) := rfl

/-- The literal of a text, behind its marker, is a literal that ends at its closing quote,
whatever follows, unless that is a further quote. By the rules of MySQL, SQLite and Oracle its
contents read as the text, and in no dialect do two texts have one literal. -/
theorem text_reads_back (d : Dialect) (s : String) (rest : List Char)
    (apart : rest.head? ≠ some '\'') :
    ∃ inner : List Char,
      (Value.text s).literal d =
        .ok (String.ofList (Literal.marker d ++ '\'' :: inner ++ ['\''])) ∧
      Scan.outside.split d ('\'' :: inner ++ '\'' :: rest) = some (inner, rest) ∧
      (d = .mysql → Literal.unescaped? inner = some s.toList) ∧
      (d = .sqlite ∨ d = .oracle → Literal.undoubled? inner = some s.toList) ∧
      ∀ t, (Value.text t).literal d = (Value.text s).literal d → t = s := by
  refine ⟨Literal.contents d s.toList, literal_text d s, Scan.split_quotes d s.toList apart,
    ?mysql, ?standard, ?distinct⟩
  case mysql =>
    rintro rfl
    exact Literal.unescaped?_contents rfl s.toList
  case standard =>
    rintro (rfl | rfl) <;> exact Literal.undoubled?_contents rfl s.toList
  case distinct =>
    intro t same
    rw [literal_text, literal_text] at same
    have chars := String.ofList_injective (Except.ok.inj same)
    exact String.toList_injective (Literal.quoted_injective d chars)

/-- A text that ends with a backslash and a quote neither ends early nor reads on into the
statement. -/
theorem text_reads_back_hostile :
    " OR name = 'x'".toList.head? ≠ some '\'' ∧
      ∃ inner : List Char,
        (Value.text "it's\\'").literal .mysql =
          .ok (String.ofList (Literal.marker .mysql ++ '\'' :: inner ++ ['\''])) ∧
        Scan.outside.split .mysql ('\'' :: inner ++ '\'' :: " OR name = 'x'".toList) =
          some (inner, " OR name = 'x'".toList) ∧
        Literal.unescaped? inner = some "it's\\'".toList := by
  have apart : " OR name = 'x'".toList.head? ≠ some '\'' := by decide
  obtain ⟨inner, written, found, reads, -, -⟩ :=
    text_reads_back .mysql "it's\\'" " OR name = 'x'".toList apart
  exact ⟨apart, inner, written, found, reads rfl⟩

end Value

end SqlSelect
