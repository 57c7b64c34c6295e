import SqlSelect.Literal.Writing
import SqlSelect.Number.Shortest
import SqlSelect.Value

/-! # The literal of a value

Every value has a literal in every dialect, except a double that is not finite. -/

namespace SqlSelect

open Number

/-- Why there is no literal. -/
inductive LiteralError where
  /-- The double is an infinity or a NaN. -/
  | nonFinite (x : Binary64)
  /-- The value was to be supplied later, and its supplier gave this reason instead. -/
  | notSupplied (reason : String)
  /-- The formatter of dates and timestamps refused the value and gave this reason. It refuses
  none that the calendar has. -/
  | unformatted (reason : String)
  deriving DecidableEq, Repr

/-- The wording of the error. -/
def LiteralError.message : LiteralError → String
  | nonFinite x => "non-finite float " ++ x.nonFiniteName ++ " has no sql literal"
  | notSupplied reason => "sql valuer error: " ++ reason
  | unformatted reason => "failed to format date/time literal: " ++ reason

namespace Literal

/-- The spelling of a truth value. -/
def ofBool (d : Dialect) (b : Bool) : String :=
  if d.writesTruthAsNumber then (if b then "1" else "0")
  else if b then "TRUE" else "FALSE"

/-- The literal of a null, and the text that stands in for a value that has none. -/
def null : String := "NULL"

end Literal

namespace Value

/-- The literal of a value in a dialect. -/
def literal (d : Dialect) : Value → Except LiteralError String
  | null => .ok Literal.null
  | bool b => .ok (Literal.ofBool d b)
  | int n => .ok (String.ofList (signedDigits n.toInt))
  | uint n => .ok (String.ofList (digits n.toNat))
  | float x =>
    if x.isFinite then .ok (String.ofList x.positional) else .error (.nonFinite x)
  | text s => .ok (String.ofList (Literal.quoted d s.toList))
  | bytes data => .ok (String.ofList (Literal.binary d data))
  | date day => .ok (String.ofList (Literal.ofDate d day))
  | timestamp t => .ok (String.ofList (Literal.ofTimestamp d t))

/-- The literal of a value that is supplied, or the reason why it is not. -/
def suppliedLiteral (d : Dialect) : (supply : Except String Value) → Except LiteralError String
  | .ok v => v.literal d
  | .error reason => .error (.notSupplied reason)

/-- The steps that write the literal of a value. Every date and every timestamp of the calendar
has digits. -/
def write (d : Dialect) : Value → Literal.Output LiteralError Unit
  | null => .push Literal.null
  | bool b => .push (Literal.ofBool d b)
  | int n => .push (String.ofList (signedDigits n.toInt))
  | uint n => .push (String.ofList (digits n.toNat))
  | float x => do
    if x.isFinite = false then
      throw (.nonFinite x)
    .push (String.ofList x.positional)
  | text s => Literal.writeQuoted d s.toList
  | bytes data => Literal.writeBinary d data
  | date day => Literal.writeDate d (.ok day.iso)
  | timestamp t => Literal.writeTimestamp d (.ok (Literal.timestampText d t))

/-- Writes the literal of a value behind a text. -/
def appendLiteral (d : Dialect) (v : Value) (text : String) :
    Except LiteralError Unit × String :=
  (v.write d).behind text

end Value

example : (Value.literal .oracle (.bool true)).toOption = some "1" := by decide +kernel

example : (Value.literal .mysql (.int (-5))).toOption = some "-5" := by decide +kernel

example : (LiteralError.nonFinite ⟨0xfff0000000000000⟩).message =
    "non-finite float -inf has no sql literal" := by decide +kernel

end SqlSelect
