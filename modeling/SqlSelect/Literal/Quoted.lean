import SqlSelect.Dialect

/-! # Quoted text

A string literal stands between single quotes. Dialects that know backslash escapes get a
backslash before the quote characters and the backslash itself, and a letter for some
control characters; the others write a quote inside the text twice. -/

namespace SqlSelect.Literal

/-- What a character becomes where backslash escapes are known. -/
def backslashed : Char → List Char
  | '\x00' => ['\\', '0']
  | '\x08' => ['\\', 'b']
  | '\n' => ['\\', 'n']
  | '\r' => ['\\', 'r']
  | '\t' => ['\\', 't']
  | '\x1a' => ['\\', 'Z']
  | '\'' => ['\\', '\'']
  | '"' => ['\\', '"']
  | '\\' => ['\\', '\\']
  | c => [c]

/-- What a character becomes where a quote is written twice. -/
def doubled : Char → List Char
  | '\'' => ['\'', '\'']
  | c => [c]

/-- What a character becomes inside a string literal. -/
def escaped (d : Dialect) (c : Char) : List Char :=
  if d.escapesWithBackslash then backslashed c else doubled c

/-- The marker in front of the opening quote: PostgreSQL needs one to recognise escapes,
SQL Server one to keep every character. -/
def marker : Dialect → List Char
  | .postgresql => ['E']
  | .sqlserver => ['N']
  | .mysql | .sqlite | .oracle => []

/-- The contents of a string literal. -/
def contents (d : Dialect) (s : List Char) : List Char :=
  s.flatMap (escaped d)

@[simp] theorem contents_nil (d : Dialect) : contents d [] = [] := rfl

@[simp] theorem contents_cons (d : Dialect) (c : Char) (s : List Char) :
    contents d (c :: s) = escaped d c ++ contents d s := rfl

/-- The string literal of a text. -/
def quoted (d : Dialect) (s : List Char) : List Char :=
  marker d ++ '\'' :: contents d s ++ ['\'']

example : String.ofList (quoted .sqlite "it's".toList) = "'it''s'" := by decide +kernel

example : String.ofList (quoted .postgresql "it's".toList) = "E'it\\'s'" := by decide +kernel

end SqlSelect.Literal
