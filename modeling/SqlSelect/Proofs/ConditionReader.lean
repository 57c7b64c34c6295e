import SqlSelect.Proofs.NormalForm
import SqlSelect.Proofs.Segments

/-!
# Reading conditions back from their text

The text of conditions side by side shows how they are nested and connected. A reader that cuts
it into words and parentheses, and keeps the open groups on a stack, finds every comparison
where it was, and every group and connective. What it cannot find is what asks for nothing, and
what connects a first condition to nothing: it finds the normal form.

## Implementation notes

The comparisons are those of two words. No word contains a blank or a parenthesis, and the word
behind the field tells whether the operator goes on, so a reader always knows what comes next.
-/

namespace SqlSelect

/-- The character stands between words. -/
def isBreak (c : Char) : Bool :=
  c == ' ' || c == '(' || c == ')'

/-- A text that is read as one word. -/
def IsWord (text : String) : Prop :=
  text ≠ "" ∧ ∀ c ∈ text.toList, isBreak c = false

/-- Letters, digits, underscores and dots make words. -/
theorem isWord_of_alphanum {text : String} (nonempty : text ≠ "")
    (each : text.toList.all (fun c => c.isAlphanum || c == '_' || c == '.') = true) :
    IsWord text := by
  have unbroken (c : Char) (inWord : (c.isAlphanum || c == '_' || c == '.') = true) :
      isBreak c = false := by
    rw [isBreak, Bool.or_eq_false_iff, Bool.or_eq_false_iff]
    simp only [beq_eq_false_iff_ne]
    refine ⟨⟨?_, ?_⟩, ?_⟩ <;> rintro rfl <;> revert inWord <;> decide
  exact ⟨nonempty, fun c member => unbroken c (List.all_eq_true.mp each c member)⟩

/-- A unit of the text of conditions. -/
inductive Token where
  | word (text : String)
  | opening
  | closing
  deriving DecidableEq, Repr

namespace Token

/-- The word that was read, unless none was begun. -/
def ended (word : List Char) : List Token :=
  if word.isEmpty then [] else [.word (String.ofList word)]

/-- The units of a text, behind the beginning of a word. -/
def scan (word : List Char) : List Char → List Token
  | [] => ended word
  | c :: cs =>
    if c = ' ' then ended word ++ scan [] cs
    else if c = '(' then ended word ++ .opening :: scan [] cs
    else if c = ')' then ended word ++ .closing :: scan [] cs
    else scan (word ++ [c]) cs

@[simp] theorem ended_nil : ended [] = [] := rfl

@[simp] theorem scan_nil (word : List Char) : scan word [] = ended word := rfl

@[simp] theorem scan_blank (word cs : List Char) :
    scan word (' ' :: cs) = ended word ++ scan [] cs := rfl

@[simp] theorem scan_opening (word cs : List Char) :
    scan word ('(' :: cs) = ended word ++ .opening :: scan [] cs := rfl

@[simp] theorem scan_closing (word cs : List Char) :
    scan word (')' :: cs) = ended word ++ .closing :: scan [] cs := rfl

/-- A word does not go on in the text. -/
def EndsWord : List Char → Prop
  | [] => True
  | c :: _ => isBreak c = true

theorem endsWord_blank (cs : List Char) : EndsWord (' ' :: cs) := by
  rw [EndsWord]
  rfl

theorem endsWord_closing (cs : List Char) : EndsWord (')' :: cs) := by
  rw [EndsWord]
  rfl

theorem scan_of_endsWord {rest : List Char} (ends : EndsWord rest) (word : List Char) :
    scan word rest = ended word ++ scan [] rest := by
  cases rest with
  | nil => simp
  | cons c cs =>
      simp only [EndsWord, isBreak, Bool.or_eq_true, beq_iff_eq] at ends
      obtain (rfl | rfl) | rfl := ends <;> simp

theorem scan_append {text : List Char} (unbroken : ∀ c ∈ text, isBreak c = false)
    (word rest : List Char) : scan word (text ++ rest) = scan (word ++ text) rest := by
  induction text generalizing word with
  | nil => simp
  | cons c cs ih =>
      obtain ⟨first, others⟩ := List.forall_mem_cons.mp unbroken
      simp only [isBreak, Bool.or_eq_false_iff, beq_eq_false_iff_ne] at first
      obtain ⟨⟨notBlank, notOpening⟩, notClosing⟩ := first
      rw [List.cons_append, scan, if_neg notBlank, if_neg notOpening, if_neg notClosing,
        ih others, List.append_assoc, List.singleton_append]

/-- A word is read up to where it ends. -/
theorem scan_word {text : String} (isWord : IsWord text) {rest : List Char}
    (ends : EndsWord rest) : scan [] (text.toList ++ rest) = .word text :: scan [] rest := by
  obtain ⟨nonempty, unbroken⟩ := isWord
  have begun : text.toList ≠ [] := mt String.toList_eq_nil_iff.mp nonempty
  rw [scan_append unbroken, List.nil_append, scan_of_endsWord ends, ended,
    if_neg (by simpa using begun), String.ofList_toList, List.singleton_append]

end Token

namespace Connective

def ofSql? (text : String) : Option Connective :=
  [and, or].find? (·.sql == text)

@[simp] theorem ofSql?_sql (k : Connective) : ofSql? k.sql = some k := by
  cases k <;> decide +kernel

theorem isWord_sql (k : Connective) : IsWord k.sql := by
  cases k <;> exact isWord_of_alphanum (by decide) (by decide +kernel)

end Connective

namespace Comparison

/-- The comparison with one operand that is written like this. -/
def ofSql? (text : String) : Option Comparison :=
  [equal, notEqual, greater, greaterOrEqual, less, lessOrEqual, like, notLike, ilike,
    notIlike].find? (·.sql == text)

/-- The words of an operator with one operand. -/
def words (c : Comparison) : List String :=
  match c with
  | notLike => ["NOT", "LIKE"]
  | notIlike => ["NOT", "ILIKE"]
  | c => [c.sql]

end Comparison

/-- How far the condition at hand was read. -/
inductive Phase where
  /-- Its connective. -/
  | connected (k : Connective)
  | field (k : Connective) (left : String)
  /-- The first word of a negated operator, behind the field. -/
  | negated (k : Connective) (left : String)
  | compared (k : Connective) (left : String) (comparison : Comparison)
  /-- All of it. -/
  | complete
  deriving DecidableEq, Repr

/-- What was read of a text. -/
structure Reading where
  /-- The open groups, the innermost first: what stands before each, and its connective. -/
  outer : List (List Condition × Connective) := []
  /-- The conditions in the innermost group. -/
  siblings : List Condition := []
  phase : Phase := .connected .and

namespace Reading

/-- What was read with a further word. -/
def stepWord (s : Reading) (text : String) : Option Reading :=
  match s.phase with
  | .connected k => some { s with phase := .field k text }
  | .field k left =>
    if text = "NOT" then some { s with phase := .negated k left }
    else (Comparison.ofSql? text).map fun c => { s with phase := .compared k left c }
  | .negated k left =>
    (Comparison.ofSql? ("NOT " ++ text)).map fun c => { s with phase := .compared k left c }
  | .compared k left c =>
    some
      { s with
        siblings := s.siblings ++ [(Condition.columns (.raw left) c text).withConnective k]
        phase := .complete }
  | .complete => (Connective.ofSql? text).map fun k => { s with phase := .connected k }

/-- What was read with a further unit. -/
def step (s : Reading) : Token → Option Reading
  | .word text => s.stepWord text
  | .opening =>
    match s.phase with
    | .connected k => some { outer := (s.siblings, k) :: s.outer }
    | _ => none
  | .closing =>
    match s.phase, s.outer with
    | .complete, (before, k) :: outer =>
      some { outer, siblings := before ++ [.group k s.siblings], phase := .complete }
    | _, _ => none

/-- What was read at the end of a text. -/
def through (s : Reading) (text : List Char) : Option Reading :=
  (Token.scan [] text).foldlM step s

/-- The conditions that were read, if none was left unfinished. -/
def finish : Reading → Option (List Condition)
  | ⟨[], siblings, .complete⟩ => some siblings
  | ⟨[], [], .connected _⟩ => some []
  | _ => none

end Reading

/-- The conditions that stand side by side in a text. -/
def Condition.read? (text : String) : Option (List Condition) :=
  (Reading.through {} text.toList).bind Reading.finish

/-- The condition is made of groups, and of comparisons of two words by an operator that is
neither a null check nor takes a list or a range. -/
inductive Condition.OfWords : Condition → Prop
  | test (k : Connective) {left right : String} {comparison : Comparison}
      (one : comparison.arity = .one) (leftWord : IsWord left) (rightWord : IsWord right) :
      OfWords ((columns (.raw left) comparison right).withConnective k)
  | group (k : Connective) {children : List Condition} (each : ∀ x ∈ children, OfWords x) :
      OfWords (.group k children)

namespace Comparison

theorem scan_sql {c : Comparison} (one : c.arity = .one) (rest : List Char) :
    Token.scan [] (c.sql.toList ++ ' ' :: rest) = c.words.map .word ++ Token.scan [] rest := by
  cases c with
  | isIn | isNotIn | isNull | isNotNull | between | notBetween => cases one
  | _ => rfl

theorem foldlM_words {c : Comparison} (one : c.arity = .one) (s : Reading) (k : Connective)
    (left : String) :
    (c.words.map .word).foldlM Reading.step { s with phase := .field k left } =
      some { s with phase := .compared k left c } := by
  cases c with
  | isIn | isNotIn | isNull | isNotNull | between | notBetween => cases one
  | _ => simp [words, Reading.step, Reading.stepWord, ofSql?, sql]

end Comparison

namespace Reading

variable (s : Reading)

theorem through_blank (rest : List Char) : s.through (' ' :: rest) = s.through rest := rfl

theorem through_opening (rest : List Char) :
    s.through ('(' :: rest) = (s.step .opening).bind (·.through rest) := rfl

theorem through_closing (rest : List Char) :
    s.through (')' :: rest) = (s.step .closing).bind (·.through rest) := rfl

theorem through_word {text : String} (isWord : IsWord text) {rest : List Char}
    (ends : Token.EndsWord rest) :
    s.through (text.toList ++ rest) = (s.stepWord text).bind (·.through rest) := by
  rw [through, Token.scan_word isWord ends]
  rfl

theorem through_comparison {c : Comparison} (one : c.arity = .one) (k : Connective)
    (left : String) (rest : List Char) :
    through { s with phase := .field k left } (c.sql.toList ++ ' ' :: rest) =
      through { s with phase := .compared k left c } rest := by
  rw [through, Comparison.scan_sql one, List.foldlM_append, Comparison.foldlM_words one]
  rfl

theorem through_connective (k : Connective) (rest : List Char) :
    through { s with phase := .complete } (' ' :: (k.sql.toList ++ ' ' :: rest)) =
      through { s with phase := .connected k } rest := by
  rw [through_blank, through_word _ k.isWord_sql (Token.endsWord_blank _), stepWord,
    Connective.ofSql?_sql]
  rfl

end Reading

namespace Condition

@[simp] theorem render_withConnective (d : Dialect) (k : Connective) (c : Condition) :
    (c.withConnective k).render d = c.render d := by
  cases c <;> simp only [withConnective, render]

theorem text_render_columns (d : Dialect) {left right : String} {comparison : Comparison}
    (one : comparison.arity = .one) :
    ((columns (.raw left) comparison right).render d).text =
      left ++ " " ++ comparison.sql ++ " " ++ right := by
  simp [columns, render, Expr.render, Operand.rightSide, Comparison.phrase, one]

/-- A reader finds the condition in its text, wherever a condition can begin. -/
def ReadsBack (d : Dialect) (c : Condition) : Prop :=
  ∀ outer siblings k rest, Token.EndsWord rest →
    Reading.through ⟨outer, siblings, .connected k⟩ ((c.render d).text.toList ++ rest) =
      Reading.through ⟨outer, siblings ++ [c.normal.withConnective k], .complete⟩ rest

theorem normal_columns (left : String) (comparison : Comparison) (right : String)
    (k : Connective) :
    ((columns (.raw left) comparison right).withConnective k).normal =
      (columns (.raw left) comparison right).withConnective k := by
  rw [columns, withConnective, normal_test, Expr.normal, Operand.normal]

theorem readsBack_columns (d : Dialect) {left right : String} {comparison : Comparison}
    (one : comparison.arity = .one) (leftWord : IsWord left) (rightWord : IsWord right)
    (k : Connective) : ((columns (.raw left) comparison right).withConnective k).ReadsBack d := by
  intro outer siblings k' rest ends
  have text : ((columns (.raw left) comparison right).render d).text.toList ++ rest =
      left.toList ++ ' ' :: (comparison.sql.toList ++ ' ' :: (right.toList ++ rest)) := by
    rw [text_render_columns d one]
    simp
  rw [render_withConnective, text, Reading.through_word _ leftWord (Token.endsWord_blank _)]
  simp only [Reading.stepWord, Option.bind_some]
  rw [Reading.through_blank, Reading.through_comparison ⟨outer, siblings, .complete⟩ one,
    Reading.through_word _ rightWord ends]
  simp only [Reading.stepWord, Option.bind_some]
  rw [normal_columns]
  rfl

/-- Conditions side by side are read one after the other, each behind its connective. -/
theorem through_chained (d : Dialect) {cs : List Condition} (each : ∀ c ∈ cs, c.ReadsBack d)
    (nonempty : cs ≠ []) (outer : List (List Condition × Connective)) (siblings : List Condition)
    (k : Connective) {rest : List Char} (ends : Token.EndsWord rest) :
    Reading.through ⟨outer, siblings, .connected k⟩
        ((Rendering.chained (cs.map fun c => (c.connective, c.render d))).text.toList ++ rest) =
      Reading.through ⟨outer, siblings ++ withLeading k (cs.map normal), .complete⟩ rest := by
  induction cs generalizing siblings k with
  | nil => exact absurd rfl nonempty
  | cons c cs ih =>
      obtain ⟨first, others⟩ := List.forall_mem_cons.mp each
      cases cs with
      | nil => exact first outer siblings k rest ends
      | cons x xs =>
          have text : (Rendering.chained ((c :: x :: xs).map fun c =>
                (c.connective, c.render d))).text.toList ++ rest =
              (c.render d).text.toList ++ ' ' :: (x.connective.sql.toList ++ ' ' ::
                ((Rendering.chained ((x :: xs).map fun c =>
                  (c.connective, c.render d))).text.toList ++ rest)) := by
            simp [Rendering.chained]
          have own : withLeading x.connective ((x :: xs).map normal) = (x :: xs).map normal := by
            rw [List.map_cons, ← connective_normal x, withLeading_connective]
          rw [text, first outer siblings k _ (Token.endsWord_blank _),
            Reading.through_connective ⟨outer, _, .complete⟩,
            ih others (List.cons_ne_nil x xs), own, List.append_assoc]
          rfl

theorem OfWords.readsBack (d : Dialect) {c : Condition} (ofWords : c.OfWords)
    (asks : c.isEmpty = false) : c.ReadsBack d := by
  induction ofWords with
  | test k one leftWord rightWord => exact readsBack_columns d one leftWord rightWord k
  | @group k children each ih =>
      intro outer siblings k' rest ends
      rw [isEmpty_group] at asks
      have kept : children.filter (!·.isEmpty) ≠ [] := by
        intro none
        have empty : areEmpty children = true := by
          rw [areEmpty_iff_normalKept_eq_nil, normalKept, none, List.map_nil]
        rw [empty] at asks
        cases asks
      have found : ∀ c ∈ children.filter (!·.isEmpty), c.ReadsBack d := by
        intro c member
        obtain ⟨inGroup, notEmpty⟩ := List.mem_filter.mp member
        exact ih c inGroup (by simpa using notEmpty)
      have text : ((Condition.group k children).render d).text.toList ++ rest =
          '(' :: ((Rendering.chained ((children.filter (!·.isEmpty)).map fun c =>
            (c.connective, c.render d))).text.toList ++ ')' :: rest) := by
        rw [render, asks, renderSiblings_eq_map]
        simp [Rendering.text_parenthesized]
      rw [text, Reading.through_opening]
      simp only [Reading.step, Option.bind_some]
      rw [through_chained d found kept _ _ _ (Token.endsWord_closing rest),
        Reading.through_closing, normal_group, normalAll, normalKept]
      rfl

/-- The text of conditions, which compare words, is read as their normal form. -/
theorem read?_renderAll (d : Dialect) {cs : List Condition} (ofWords : ∀ c ∈ cs, c.OfWords) :
    read? (renderAll d cs).text = some (normalAll cs) := by
  rw [read?, renderAll, renderSiblings_eq_map, normalAll, normalKept]
  by_cases kept : cs.filter (!·.isEmpty) = []
  · rw [kept]
    rfl
  · have found : ∀ c ∈ cs.filter (!·.isEmpty), c.ReadsBack d := by
      intro c member
      obtain ⟨inList, notEmpty⟩ := List.mem_filter.mp member
      exact (ofWords c inList).readsBack d (by simpa using notEmpty)
    have through := through_chained d found kept [] [] .and
      (show Token.EndsWord [] from trivial)
    rw [List.append_nil] at through
    rw [through]
    rfl

/-- Conditions that compare words have one text exactly if they have one normal form, and a
reader finds that form in the text: every comparison, the order, the groups, and every
connective but that of a first condition. -/
theorem structure_recoverable (d : Dialect) {cs xs : List Condition}
    (ofWords : ∀ c ∈ cs, c.OfWords) (othersOfWords : ∀ x ∈ xs, x.OfWords) :
    ((renderAll d cs).text = (renderAll d xs).text ↔ normalAll cs = normalAll xs) ∧
      read? (renderAll d cs).text = some (normalAll cs) := by
  have read := read?_renderAll d ofWords
  refine ⟨⟨fun same => ?_, fun same => ?_⟩, read⟩
  · rw [same, read?_renderAll d othersOfWords] at read
    exact (Option.some.inj read).symm
  · rw [← renderAll_normalAll, same, renderAll_normalAll]

/-- Two comparisons in a group behind a third one, and groups that ask for nothing. -/
def scattered : List Condition :=
  [.group .or [.group .and []],
    (columns (.raw "t.a") .notLike "b").withConnective .or,
    .group .or [(columns (.raw "c_1") .greater "d").withConnective .or, .group .or [],
      columns (.raw "NOT") .equal "e"]]

theorem normalAll_scattered :
    normalAll scattered =
      [columns (.raw "t.a") .notLike "b",
        .group .or [columns (.raw "c_1") .greater "d", columns (.raw "NOT") .equal "e"]] := by
  simp [scattered, columns, withConnective, normalAll, normalKept, normal_group,
    normal_test, Expr.normal, Operand.normal]

theorem structure_recoverable_scattered :
    (columns (.raw "t.a") .notLike "b").withConnective .or ∈ scattered ∧
      (∀ c ∈ scattered, c.OfWords) ∧
      read? "t.a NOT LIKE b OR (c_1 > d AND NOT = e)" = some
        [columns (.raw "t.a") .notLike "b",
          .group .or [columns (.raw "c_1") .greater "d", columns (.raw "NOT") .equal "e"]] ∧
      (renderAll .oracle scattered).text ≠ (renderAll .oracle (scattered.drop 2)).text := by
  have nothing (k : Connective) : (Condition.group k []).OfWords := .group k nofun
  have negated : ((columns (.raw "t.a") .notLike "b").withConnective .or).OfWords :=
    .test .or rfl (isWord_of_alphanum (by decide) (by decide +kernel))
      (isWord_of_alphanum (by decide) (by decide +kernel))
  have greater : ((columns (.raw "c_1") .greater "d").withConnective .or).OfWords :=
    .test .or rfl (isWord_of_alphanum (by decide) (by decide +kernel))
      (isWord_of_alphanum (by decide) (by decide +kernel))
  have equal : ((columns (.raw "NOT") .equal "e").withConnective .and).OfWords :=
    .test .and rfl (isWord_of_alphanum (by decide) (by decide +kernel))
      (isWord_of_alphanum (by decide) (by decide +kernel))
  have ofWords : ∀ c ∈ scattered, c.OfWords := by
    simp only [scattered, List.forall_mem_cons]
    refine ⟨.group .or ?_, negated, .group .or ?_, nofun⟩
    · simpa using nothing .and
    · simpa using ⟨greater, nothing .or, equal⟩
  have ofRest : ∀ c ∈ scattered.drop 2, c.OfWords :=
    fun c member => ofWords c (List.mem_of_mem_drop member)
  obtain ⟨oneForm, read⟩ := structure_recoverable .oracle ofWords ofRest
  have member : (columns (.raw "t.a") .notLike "b").withConnective .or ∈ scattered :=
    .tail _ (.head _)
  rw [normalAll_scattered] at oneForm read
  refine ⟨member, ofWords, read, mt oneForm.mp ?_⟩
  intro same
  have counts := congrArg List.length same
  simp [scattered, normalAll, normalKept, columns] at counts

end Condition

end SqlSelect
