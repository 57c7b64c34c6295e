import SqlSelect.Keyword
import SqlSelect.Literal.Basic

/-! # Rendered text

Rendering never fails: a value without a literal becomes a null, and a warning tells that
it did. A rendering is the text together with its warnings, in the order of the nulls
that they explain. -/

namespace SqlSelect

/-- A value had to be written as a null. -/
structure Warning where
  error : LiteralError
  dialect : Dialect
  deriving DecidableEq, Repr

/-- A text, and the warnings that arose while it was written. -/
structure Rendering where
  text : String
  warnings : List Warning := []
  deriving DecidableEq, Repr

namespace Rendering

/-- A text that needs no warning. -/
instance : Coe String Rendering := ⟨fun text => { text }⟩

instance : EmptyCollection Rendering := ⟨{ text := "" }⟩

instance : Append Rendering :=
  ⟨fun a b => { text := a.text ++ b.text, warnings := a.warnings ++ b.warnings }⟩

@[simp] theorem text_empty : (∅ : Rendering).text = "" := rfl

@[simp] theorem warnings_empty : (∅ : Rendering).warnings = [] := rfl

@[simp] theorem text_append (a b : Rendering) : (a ++ b).text = a.text ++ b.text := rfl

@[simp] theorem warnings_append (a b : Rendering) :
    (a ++ b).warnings = a.warnings ++ b.warnings := rfl

@[ext] protected theorem ext {a b : Rendering} (text : a.text = b.text)
    (warnings : a.warnings = b.warnings) : a = b := by
  cases a
  cases b
  simp_all

theorem append_assoc (a b c : Rendering) : a ++ b ++ c = a ++ (b ++ c) := by
  ext <;> simp [String.append_assoc]

@[simp] theorem empty_append (a : Rendering) : ∅ ++ a = a := by
  ext <;> simp

@[simp] theorem append_empty (a : Rendering) : a ++ ∅ = a := by
  ext <;> simp

/-- The renderings in order, with a text between any two. -/
def separated (separator : String) : List Rendering → Rendering
  | [] => ∅
  | [r] => r
  | r :: s :: rest => r ++ separator ++ separated separator (s :: rest)

/-- The renderings in order, each but the first behind its connective. -/
def chained : List (Connective × Rendering) → Rendering
  | [] => ∅
  | [(_, r)] => r
  | (_, r) :: (c, s) :: rest => r ++ (" " ++ c.sql ++ " ") ++ chained ((c, s) :: rest)

/-- In parentheses. -/
def parenthesized (r : Rendering) : Rendering :=
  "(" ++ r ++ ")"

/-- With a name, if there is one. -/
def named (name : Option String) (r : Rendering) : Rendering :=
  match name with
  | none => r
  | some name => r ++ " AS " ++ name

/-- The literal of a supplied value, or a null and a warning. -/
def ofSupply (d : Dialect) (supply : Except String Value) : Rendering :=
  match Value.suppliedLiteral d supply with
  | .ok literal => literal
  | .error error => { text := Literal.null, warnings := [{ error, dialect := d }] }

end Rendering

end SqlSelect
