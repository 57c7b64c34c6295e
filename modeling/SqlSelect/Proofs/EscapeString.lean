import SqlSelect.Proofs.LiteralReader

/-!
# Escape strings of PostgreSQL

An escape string stands between `E'` and a quote. Inside it a backslash and what follows it
stand for one character: a letter for a control character, up to three octal digits, an `x` with
up to two hexadecimal digits, a `u` with four or a `U` with eight of them for a code point, and
any other character for itself. Two quotes stand for one.

The literal of a text is an escape string, and it stands for the text in which every substitute
character has become a `Z`: the escape sequence that is written for that character is one of
MySQL, and PostgreSQL does not know it.

## Implementation notes

The number of characters in an escape sequence varies, so the reader looks at the sequence as a
whole and passes over its characters afterwards. It recurses on the text alone.
-/

namespace SqlSelect

namespace Literal

/-- The value of a digit; a character that is no hexadecimal digit is too large for any base. -/
def digitValue (c : Char) : Nat :=
  if c.isDigit then c.toNat - '0'.toNat
  else if 'a' ≤ c ∧ c ≤ 'f' then c.toNat - 'a'.toNat + 10
  else if 'A' ≤ c ∧ c ≤ 'F' then c.toNat - 'A'.toNat + 10
  else 16

/-- The digits in front of a text, so many at most. -/
def leadingDigits (base most : Nat) (text : List Char) : List Char :=
  (text.take most).takeWhile fun c => decide (digitValue c < base)

/-- The character that digits give as a code point. A text holds no character zero. -/
def ofCodePoint? (base : Nat) (digits : List Char) : Option Char :=
  let point := digits.foldl (fun n c => base * n + digitValue c) 0
  if point ≠ 0 ∧ point.isValidChar then some (Char.ofNat point) else none

/-- The character that stands behind a backslash, and the number of characters that spell it. -/
def behindEscape? : List Char → Option (Char × Nat)
  | [] => none
  | 'b' :: _ => some ('\x08', 1)
  | 'f' :: _ => some ('\x0c', 1)
  | 'n' :: _ => some ('\n', 1)
  | 'r' :: _ => some ('\r', 1)
  | 't' :: _ => some ('\t', 1)
  | 'x' :: rest =>
    let shown := leadingDigits 16 2 rest
    if shown.isEmpty then some ('x', 1)
    else (ofCodePoint? 16 shown).map (·, 1 + shown.length)
  | 'u' :: rest =>
    let shown := leadingDigits 16 4 rest
    if shown.length = 4 then (ofCodePoint? 16 shown).map (·, 5) else none
  | 'U' :: rest =>
    let shown := leadingDigits 16 8 rest
    if shown.length = 8 then (ofCodePoint? 16 shown).map (·, 9) else none
  | c :: rest =>
    let shown := leadingDigits 8 3 (c :: rest)
    if shown.isEmpty then some (c, 1)
    else (ofCodePoint? 8 shown).map (·, shown.length)

/-- The character that a text starts with, and the number of characters that spell it behind
the first one. -/
def symbol? (c : Char) (rest : List Char) : Option (Char × Nat) :=
  if c = '\\' then behindEscape? rest
  else if c = '\'' then (if rest.head? = some '\'' then some ('\'', 1) else none)
  else some (c, 0)

/-- What the contents of an escape string stand for, behind characters that have been read. -/
def denoted? : (passed : Nat) → List Char → Option (List Char)
  | _, [] => some []
  | passed + 1, _ :: rest => denoted? passed rest
  | 0, c :: rest =>
    (symbol? c rest).bind fun read => (denoted? read.2 rest).map (read.1 :: ·)

/-- What an escape string stands for by the rules of PostgreSQL. -/
def escapeString? : List Char → Option (List Char)
  | 'E' :: text =>
    match Scan.outside.split .postgresql text with
    | some (inner, []) => denoted? 0 inner
    | _ => none
  | _ => none

example : escapeString? "E'\\u00e9\\U000000e9 \\101\\x42C ''\\x\\q'".toList =
    some "\u00e9\u00e9 ABC 'xq".toList := by
  decide +kernel

/-- The character that PostgreSQL receives for a character of a text. -/
def received (c : Char) : Char :=
  if c = '\x1a' then 'Z' else c

theorem denoted?_plain {c : Char} (notQuote : c ≠ '\'') (notBackslash : c ≠ '\\')
    (text : List Char) : denoted? 0 (c :: text) = (denoted? 0 text).map (c :: ·) := by
  simp [denoted?, symbol?, notQuote, notBackslash]

/-- The spelling of a character is read as the character that is received for it. The spelling of
character zero would take further digits with it. -/
theorem denoted?_backslashed {c : Char} (notZero : c ≠ '\x00') (text : List Char) :
    denoted? 0 (backslashed c ++ text) = (denoted? 0 text).map (received c :: ·) := by
  unfold backslashed
  split
  case h_1 => exact absurd rfl notZero
  case h_10 notSubstitute notQuote _ notBackslash =>
    have kept : received c = c := if_neg notSubstitute
    rw [kept]
    exact denoted?_plain notQuote notBackslash text
  all_goals rfl

theorem denoted?_contents {s : List Char} (noZero : '\x00' ∉ s) :
    denoted? 0 (contents .postgresql s) = some (s.map received) := by
  have unit : ∀ c ∈ s, ∀ text, denoted? 0 (backslashed c ++ text) =
      (denoted? 0 text).map (received c :: ·) := by
    intro c member text
    have notZero : c ≠ '\x00' := by
      rintro rfl
      exact noZero member
    exact denoted?_backslashed notZero text
  rw [contents_of_escapes rfl, read_flatMap_map received unit rfl]

theorem escapeString?_quoted {s : List Char} (noZero : '\x00' ∉ s) :
    escapeString? (quoted .postgresql s) = some (s.map received) := by
  have shape : quoted .postgresql s = 'E' :: ('\'' :: contents .postgresql s ++ ['\'']) := rfl
  rw [shape, escapeString?, Scan.split_whole]
  exact denoted?_contents noZero

/-- A text is received as it is unless the substitute character is in it. -/
theorem map_received_eq_self_iff {s : List Char} : s.map received = s ↔ '\x1a' ∉ s := by
  have each : s.map received = s ↔ ∀ c ∈ s, received c = c := by
    simpa using List.map_inj_left (f := received) (g := id) (l := s)
  rw [each]
  constructor
  · intro kept member
    exact absurd (kept '\x1a' member) (by decide)
  · intro absent c member
    refine if_neg ?_
    rintro rfl
    exact absent member

end Literal

namespace Value

/-- By the rules of PostgreSQL the literal of a text stands for what is received for each of its
characters. That is the text itself if the substitute character is not in it, and no other. -/
theorem escapeString_of_text {s : String} (noZero : '\x00' ∉ s.toList) :
    ∃ literal : String, (Value.text s).literal .postgresql = .ok literal ∧
      Literal.escapeString? literal.toList = some (s.toList.map Literal.received) ∧
      (Literal.escapeString? literal.toList = some s.toList ↔ '\x1a' ∉ s.toList) := by
  have read := Literal.escapeString?_quoted noZero
  rw [← String.toList_ofList (l := Literal.quoted .postgresql s.toList)] at read
  refine ⟨_, literal_text .postgresql s, read, ?_⟩
  rw [read, Option.some.injEq, Literal.map_received_eq_self_iff]

/-- Quotes, backslashes, control characters and letters that could continue an escape sequence
are all received as they are. -/
theorem escapeString_of_text_mixed :
    '\x00' ∉ "it's\\x41\r\n\t\"\\'".toList ∧
      ∃ literal : String, (Value.text "it's\\x41\r\n\t\"\\'").literal .postgresql = .ok literal ∧
        Literal.escapeString? literal.toList = some "it's\\x41\r\n\t\"\\'".toList := by
  have noZero : '\x00' ∉ "it's\\x41\r\n\t\"\\'".toList := by decide
  obtain ⟨literal, written, -, exactly⟩ := escapeString_of_text noZero
  exact ⟨noZero, literal, written, exactly.mpr (by decide)⟩

/-- The substitute character is received as a letter. -/
theorem escapeString_of_substitute :
    '\x00' ∉ "\x1a".toList ∧ (Value.text "\x1a").literal .postgresql = .ok "E'\\Z'" ∧
      Literal.escapeString? "E'\\Z'".toList = some "Z".toList ∧
      Literal.escapeString? "E'\\Z'".toList ≠ some "\x1a".toList := by
  refine ⟨by decide, rfl, ?_, ?_⟩ <;> decide +kernel

end Value

end SqlSelect
