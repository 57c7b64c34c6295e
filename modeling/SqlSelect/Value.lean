import SqlSelect.Calendar.Timestamp
import SqlSelect.Number.Binary64

/-! # Values

What can stand in a statement as a literal. Numbers keep the range of the machine type
they come from. -/

namespace SqlSelect

open Calendar Number

/-- A value that a literal can denote. -/
inductive Value where
  | null
  | bool (b : Bool)
  | int (n : Int64)
  | uint (n : UInt64)
  | float (x : Binary64)
  | text (s : String)
  | bytes (data : List UInt8)
  | date (d : Date)
  | timestamp (t : Timestamp)
  deriving DecidableEq, Repr

namespace Value

/-- A value that may be missing; a missing one is null. -/
def ofOption : Option Value → Value
  | none => .null
  | some v => v

def isNull : Value → Bool
  | null => true
  | _ => false

@[simp] theorem isNull_iff {v : Value} : v.isNull = true ↔ v = .null := by
  cases v <;> simp [isNull]

/-- Equality of values. Values of different kinds are never equal, doubles are compared
as numbers and timestamps as instants. -/
protected def beq : Value → Value → Bool
  | null, null => true
  | bool a, bool b => a == b
  | int a, int b => a == b
  | uint a, uint b => a == b
  | float a, float b => a == b
  | text a, text b => a == b
  | bytes a, bytes b => a == b
  | date a, date b => a == b
  | timestamp a, timestamp b => a == b
  | _, _ => false

instance : BEq Value := ⟨Value.beq⟩

/-- A value that is not a number. -/
def isNaN : Value → Bool
  | float x => x.isNaN
  | _ => false

/-- Every value but a NaN equals itself. -/
theorem beq_self (v : Value) : (v == v) = !v.isNaN := by
  change Value.beq v v = _
  cases v <;> simp [Value.beq, isNaN, Binary64.beq_self]

end Value

end SqlSelect
