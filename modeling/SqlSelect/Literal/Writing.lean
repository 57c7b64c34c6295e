import SqlSelect.Literal.Bytes
import SqlSelect.Literal.Quoted
import SqlSelect.Literal.Temporal

/-! # Writing literals

A literal is written behind a text piece by piece: what opens it, its characters or digits one
after the other, and what closes it. A step can fail, and what has been written by then stays
written. -/

namespace SqlSelect.Literal

/-- Steps that write behind a text and can fail. -/
abbrev Output (ε : Type) := ExceptT ε (StateM String)

namespace Output

variable {ε : Type}

def push (text : String) : Output ε Unit :=
  modify (· ++ text)

def pushChar (c : Char) : Output ε Unit :=
  modify (·.push c)

/-- What the steps come to behind a text, and what then stands there. -/
def behind (steps : Output ε Unit) (text : String) : Except ε Unit × String :=
  steps.run.run text

end Output

open Calendar Output

variable {ε : Type}

/-- Writes the literal of a text, each character with the escape that it needs. -/
def writeQuoted (d : Dialect) (s : List Char) : Output ε Unit := do
  push (String.ofList (marker d))
  pushChar '\''
  if d.escapesWithBackslash then
    s.forM fun c => push (String.ofList (backslashed c))
  else
    s.forM fun c => do
      if c = '\'' then pushChar '\''
      pushChar c
  pushChar '\''

/-- Writes the literal of a byte string, digit by digit. -/
def writeBinary (d : Dialect) (data : List UInt8) : Output ε Unit := do
  push (binaryWrapper d).1
  data.forM fun byte => do
    pushChar (hexDigit (byte.toNat / 16))
    pushChar (hexDigit (byte.toNat % 16))
  push (binaryWrapper d).2

/-- Writes the literal of a date around its digits, which come from a formatter that can refuse
the date. -/
def writeDate (d : Dialect) (formatted : Except ε (List Char)) : Output ε Unit := do
  let digits ← formatted
  if d = .oracle then push "DATE "
  pushChar '\''
  push (String.ofList digits)
  pushChar '\''

/-- Writes the literal of a timestamp around its digits, which come from a formatter that can
refuse the timestamp. -/
def writeTimestamp (d : Dialect) (formatted : Except ε (List Char)) : Output ε Unit := do
  let digits ← formatted
  push (timestampWrapper d).1
  push (String.ofList digits)
  push (timestampWrapper d).2

example : ((writeQuoted .sqlserver "it's".toList : Output Empty Unit).behind "name = ").2 =
    "name = N'it''s'" := by
  decide +kernel

end SqlSelect.Literal
