import SqlSelect.Dialect

/-! # Byte strings

A byte string is written as two upper-case hexadecimal digits per byte, inside the
wrapper that the dialect knows for binary data. -/

namespace SqlSelect.Literal

/-- The upper-case hexadecimal digit of a number below sixteen. -/
def hexDigit (n : Nat) : Char :=
  (Nat.digitChar n).toUpper

/-- The two digits of a byte, high half first. -/
def hexPair (byte : UInt8) : List Char :=
  [hexDigit (byte.toNat / 16), hexDigit (byte.toNat % 16)]

def hex (data : List UInt8) : List Char :=
  data.flatMap hexPair

@[simp] theorem length_hex (data : List UInt8) : (hex data).length = 2 * data.length := by
  induction data with
  | nil => rfl
  | cons byte rest ih =>
      have hc : hex (byte :: rest) = hexPair byte ++ hex rest := rfl
      simp [hc, ih, hexPair]
      omega

/-- What stands before and after the digits of a byte string. -/
def binaryWrapper : Dialect → String × String
  | .mysql | .sqlite => ("X'", "'")
  | .postgresql => ("E'\\\\x", "'::bytea")
  | .sqlserver => ("0x", "")
  | .oracle => ("hextoraw('", "')")

/-- The literal of a byte string; an empty one is an empty literal, not a null. -/
def binary (d : Dialect) (data : List UInt8) : List Char :=
  (binaryWrapper d).1.toList ++ hex data ++ (binaryWrapper d).2.toList

example : String.ofList (binary .oracle [0x00, 0xab]) = "hextoraw('00AB')" := by decide +kernel

end SqlSelect.Literal
