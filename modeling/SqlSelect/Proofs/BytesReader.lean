import Mathlib.Data.List.Basic
import SqlSelect.Proofs.EscapeString

/-!
# Reading a byte string back

The literal of a byte string is a wrapper of the dialect around hexadecimal digits. Without the
wrapper two upper-case digits are left for each byte, the one for the high half first. No other
text reads as the same bytes, and no literal of a text is a literal of bytes.

## Implementation notes

The wrappers and the digits are spelled out for the reader anew. PostgreSQL reads its wrapper in
two steps: first comes the string literal, and what it stands for is read as bytes.
-/

namespace SqlSelect

namespace Literal

/-- What a text has between an opening and a closing. -/
def between? (opening closing : String) (text : List Char) : Option (List Char) :=
  (text.dropPrefix? opening.toList).bind (·.dropSuffix? closing.toList)

theorem between?_eq_some_iff {opening closing : String} {text inner : List Char} :
    between? opening closing text = some inner ↔
      text = opening.toList ++ inner ++ closing.toList := by
  simp only [between?, Option.bind_eq_some_iff, List.dropPrefix?_eq_some_iff,
    List.dropSuffix?_eq_some_iff, beq_iff_eq]
  constructor
  · rintro ⟨rest, ⟨_, rfl, rfl⟩, _, rfl, rfl⟩
    exact (List.append_assoc _ _ _).symm
  · rintro rfl
    exact ⟨inner ++ closing.toList, ⟨_, List.append_assoc _ _ _, rfl⟩, _, rfl, rfl⟩

/-- The digits in the literal of a byte string. -/
def hexPart? (d : Dialect) (text : List Char) : Option (List Char) :=
  match d with
  | .mysql | .sqlite => between? "X'" "'" text
  | .postgresql => between? "E'\\\\x" "'::bytea" text
  | .sqlserver => between? "0x" "" text
  | .oracle => between? "hextoraw('" "')" text

theorem hexPart?_eq_some_iff {d : Dialect} {text inner : List Char} :
    hexPart? d text = some inner ↔
      text = (binaryWrapper d).1.toList ++ inner ++ (binaryWrapper d).2.toList := by
  cases d <;> exact between?_eq_some_iff

/-- The value of a hexadecimal digit. Only upper-case letters are digits. -/
def hexValue? (c : Char) : Option Nat :=
  "0123456789ABCDEF".toList.idxOf? c

theorem hexValue?_eq_some_iff {c : Char} {n : Nat} :
    hexValue? c = some n ↔ n < 16 ∧ c = hexDigit n := by
  have digits : ∀ m < 16, "0123456789ABCDEF".toList[m]? = some (hexDigit m) := by decide
  have values : ∀ m < 16, hexValue? (hexDigit m) = some m := by decide
  constructor
  · intro found
    obtain ⟨small, same, _⟩ := List.idxOf?_eq_some_iff.mp found
    have shown := digits n small
    rw [List.getElem?_eq_getElem small, same] at shown
    exact ⟨small, Option.some.inj shown⟩
  · rintro ⟨small, rfl⟩
    exact values n small

/-- The bytes that digits stand for, two digits for each byte and the high one first. -/
def unhex? : List Char → Option (List UInt8)
  | [] => some []
  | [_] => none
  | high :: low :: rest =>
    (hexValue? high).bind fun h => (hexValue? low).bind fun l =>
      (unhex? rest).map (UInt8.ofNat (16 * h + l) :: ·)

theorem unhex?_hexPair (byte : UInt8) (rest : List Char) :
    unhex? (hexPair byte ++ rest) = (unhex? rest).map (byte :: ·) := by
  have bound := byte.toNat_lt
  have high : hexValue? (hexDigit (byte.toNat / 16)) = some (byte.toNat / 16) :=
    hexValue?_eq_some_iff.mpr ⟨by omega, rfl⟩
  have low : hexValue? (hexDigit (byte.toNat % 16)) = some (byte.toNat % 16) :=
    hexValue?_eq_some_iff.mpr ⟨by omega, rfl⟩
  have halves : UInt8.ofNat (16 * (byte.toNat / 16) + byte.toNat % 16) = byte := by
    rw [Nat.div_add_mod]
    exact UInt8.ofNat_toNat
  simp only [hexPair, List.cons_append, List.nil_append, unhex?, high, low, Option.bind_some,
    halves]

theorem unhex?_hex (data : List UInt8) : unhex? (hex data) = some data :=
  read_flatMap unhex?_hexPair rfl data

/-- Two digits are those of the byte that they stand for. -/
theorem hexPair_ofNat {h l : Nat} (high : h < 16) (low : l < 16) :
    hexPair (UInt8.ofNat (16 * h + l)) = [hexDigit h, hexDigit l] := by
  have value : (UInt8.ofNat (16 * h + l)).toNat = 16 * h + l := by
    rw [UInt8.toNat_ofNat']
    omega
  have first : (16 * h + l) / 16 = h := by omega
  have second : (16 * h + l) % 16 = l := by omega
  rw [hexPair, value, first, second]

/-- Nothing but their own digits reads as given bytes. -/
theorem eq_hex_of_unhex? {digits : List Char} {data : List UInt8}
    (read : unhex? digits = some data) : digits = hex data := by
  fun_induction unhex? digits generalizing data with
  | case1 =>
      cases read
      rfl
  | case2 => cases read
  | case3 high low rest ih =>
      obtain ⟨h, ofHigh, read⟩ := Option.bind_eq_some_iff.mp read
      obtain ⟨l, ofLow, read⟩ := Option.bind_eq_some_iff.mp read
      obtain ⟨others, ofRest, rfl⟩ := Option.map_eq_some_iff.mp read
      obtain ⟨highSmall, rfl⟩ := hexValue?_eq_some_iff.mp ofHigh
      obtain ⟨lowSmall, rfl⟩ := hexValue?_eq_some_iff.mp ofLow
      have first := hexPair_ofNat highSmall lowSmall
      calc hexDigit h :: hexDigit l :: rest
          = [hexDigit h, hexDigit l] ++ hex others := by rw [ih ofRest]; rfl
        _ = hexPair (UInt8.ofNat (16 * h + l)) ++ hex others := by rw [first]

/-- The bytes that the literal of a byte string stands for. -/
def bytes? (d : Dialect) (text : List Char) : Option (List UInt8) :=
  (hexPart? d text).bind unhex?

theorem hexPart?_binary (d : Dialect) (data : List UInt8) :
    hexPart? d (binary d data) = some (hex data) :=
  hexPart?_eq_some_iff.mpr rfl

theorem bytes?_eq_some_iff {d : Dialect} {text : List Char} {data : List UInt8} :
    bytes? d text = some data ↔ text = binary d data := by
  constructor
  · intro read
    obtain ⟨digits, stripped, read⟩ := Option.bind_eq_some_iff.mp read
    rw [hexPart?_eq_some_iff.mp stripped, eq_hex_of_unhex? read]
    rfl
  · rintro rfl
    rw [bytes?, hexPart?_binary, Option.bind_some, unhex?_hex]

theorem mem_hex {data : List UInt8} {c : Char} (member : c ∈ hex data) :
    c ∈ "0123456789ABCDEF".toList := by
  have digit : ∀ n < 16, hexDigit n ∈ "0123456789ABCDEF".toList := by decide
  exact forall_mem_hex digit data c member

/-- Plain characters stand for themselves inside a string literal. -/
theorem contents_of_plainText (d : Dialect) {text : List Char} (plain : PlainText text) :
    contents d text = text := by
  induction text with
  | nil => rfl
  | cons c cs ih =>
      obtain ⟨first, rest⟩ := PlainText.cons_iff.mp plain
      have itself : escaped d c = [c] := by
        unfold escaped
        split
        · unfold backslashed
          split
          case h_10 => rfl
          all_goals cases first
        · unfold doubled
          split
          · cases first
          · rfl
      rw [contents_cons, itself, ih rest]
      rfl

/-- The quoted part of the literal in PostgreSQL stands for a marker and the digits. -/
theorem escapeString?_binary (data : List UInt8) :
    (between? "" "::bytea" (binary .postgresql data)).bind escapeString? =
      some ('\\' :: 'x' :: hex data) := by
  have plain := plainText_hex data
  have spelled : quoted .postgresql ('\\' :: 'x' :: hex data) =
      "E'\\\\x".toList ++ hex data ++ "'".toList := by
    simp [quoted, contents_of_plainText .postgresql plain]
    rfl
  have part : between? "" "::bytea" (binary .postgresql data) =
      some (quoted .postgresql ('\\' :: 'x' :: hex data)) := by
    rw [between?_eq_some_iff, spelled]
    simp [binary, binaryWrapper]
  have noZero : '\x00' ∉ '\\' :: 'x' :: hex data := by
    simpa using plain.not_mem (by decide)
  have noSubstitute : '\x1a' ∉ '\\' :: 'x' :: hex data := by
    simpa using plain.not_mem (by decide)
  rw [part, Option.bind_some, escapeString?_quoted noZero,
    map_received_eq_self_iff.mpr noSubstitute]

/-- The literals of texts and of bytes begin or end differently. -/
theorem quoted_ne_binary (d : Dialect) (s : List Char) (data : List UInt8) :
    quoted d s ≠ binary d data := by
  intro same
  have first := congrArg List.head? same
  have last := congrArg List.getLast? same
  cases d with
  | postgresql => simp [quoted, binary, binaryWrapper, List.getLast?_cons] at last
  | mysql | sqlite | sqlserver | oracle =>
      simp [quoted, marker, binary, binaryWrapper] at first

end Literal

namespace Value

theorem literal_bytes (d : Dialect) (data : List UInt8) :
    (Value.bytes data).literal d = .ok (String.ofList (Literal.binary d data)) := rfl

/-- Every byte string has a literal. Without the wrapper of the dialect two upper-case digits
are left for each byte, which read as the bytes; in PostgreSQL the wrapper is a string literal
that stands for the digits behind a marker. The literal is the only text that reads as these
bytes, so no other byte string has it, and no text has it either. -/
theorem bytes_read_back (d : Dialect) (data : List UInt8) :
    ∃ (literal : String) (digits : List Char),
      (Value.bytes data).literal d = .ok literal ∧
      Literal.hexPart? d literal.toList = some digits ∧
      digits.length = 2 * data.length ∧
      (∀ c ∈ digits, c ∈ "0123456789ABCDEF".toList) ∧
      Literal.unhex? digits = some data ∧
      (∀ text, Literal.bytes? d text = some data ↔ text = literal.toList) ∧
      (d = .postgresql →
        (Literal.between? "" "::bytea" literal.toList).bind Literal.escapeString? =
          some ('\\' :: 'x' :: digits)) ∧
      (∀ other, (Value.bytes other).literal d = .ok literal → other = data) ∧
      ∀ s, (Value.text s).literal d ≠ .ok literal := by
  refine ⟨_, Literal.hex data, literal_bytes d data, ?_⟩
  rw [String.toList_ofList]
  refine ⟨Literal.hexPart?_binary d data, Literal.length_hex data, fun c => Literal.mem_hex,
    Literal.unhex?_hex data, fun text => Literal.bytes?_eq_some_iff, ?quotedPart, ?distinct,
    ?apart⟩
  case quotedPart =>
    rintro rfl
    exact Literal.escapeString?_binary data
  case distinct =>
    intro other same
    have chars := String.ofList_injective (Except.ok.inj same)
    have read := Literal.bytes?_eq_some_iff.mpr chars.symm
    rw [Literal.bytes?_eq_some_iff.mpr rfl] at read
    exact (Option.some.inj read).symm
  case apart =>
    intro s same
    have chars := String.ofList_injective (Except.ok.inj same)
    exact Literal.quoted_ne_binary d s.toList data chars

/-- Bytes that would be a zero, a quote and a letter as a text are digits like all others. -/
theorem bytes_read_back_controls :
    ∃ literal : String,
      (Value.bytes [0x00, 0x27, 0xfe]).literal .postgresql = .ok literal ∧
      literal = "E'\\\\x0027FE'::bytea" ∧
      (Literal.between? "" "::bytea" literal.toList).bind Literal.escapeString? =
        some "\\x0027FE".toList := by
  obtain ⟨literal, digits, written, stripped, -, -, -, -, received, -, -⟩ :=
    bytes_read_back .postgresql [0x00, 0x27, 0xfe]
  have text : literal = "E'\\\\x0027FE'::bytea" := by
    cases written
    decide +kernel
  refine ⟨literal, written, text, ?_⟩
  have shown : digits = "0027FE".toList := by
    subst text
    exact Option.some.inj (stripped.symm.trans (by decide +kernel))
  rw [received rfl, shown]
  decide

end Value

end SqlSelect
