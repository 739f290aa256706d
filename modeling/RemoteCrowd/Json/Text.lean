import RemoteCrowd.Json.Scan

/-!
Strings in a document. A string that is read must spell characters: surrogates come in
pairs. A string that is passed over is only checked for the form of its escapes.
-/

namespace RemoteCrowd.Json

/-- The value of a hexadecimal digit. -/
private def hexValue? (c : Char) : Option Nat :=
  if '0' ≤ c ∧ c ≤ '9' then some (c.toNat - '0'.toNat)
  else if 'a' ≤ c ∧ c ≤ 'f' then some (c.toNat - 'a'.toNat + 10)
  else if 'A' ≤ c ∧ c ≤ 'F' then some (c.toNat - 'A'.toNat + 10)
  else none

private def hexValue (digits : List Char) : Option Nat :=
  digits.foldlM (fun value c => (hexValue? c).map (16 * value + ·)) 0

/-- Pass over the rest of the document. -/
private def toEnd : Scan Unit := do
  let _ ← skipWhile fun _ => true

/-- The number behind `\u`. All four bytes are read before they are looked at. -/
private def readHex : Scan Nat := do
  if (← remaining) < 4 then
    toEnd
    fail .stringEnds
  else
    let digits := [← next, ← next, ← next, ← next]
    match hexValue (digits.filterMap id) with
    | some value => return value
    | none => fail .badEscape

private def isLeading (n : Nat) : Bool := 0xD800 ≤ n && n ≤ 0xDBFF

private def isTrailing (n : Nat) : Bool := 0xDC00 ≤ n && n ≤ 0xDFFF

/-- One byte that must follow a leading surrogate. -/
private def expectInPair (c : Char) : Scan Unit := do
  match ← peek with
  | none => fail .stringEnds
  | some found =>
    advance
    if found = c then return () else fail .brokenSurrogatePair

/-- The bytes of the character behind `\u`. -/
private def readCodePoint : Scan Bytes := do
  let first ← readHex
  if isTrailing first then fail .loneSurrogate
  else if isLeading first then
    expectInPair '\\'
    expectInPair 'u'
    let second ← readHex
    if isTrailing second then
      let point := (first - 0xD800) * 0x400 + (second - 0xDC00) + 0x10000
      return String.utf8EncodeChar (Char.ofNat point)
    else fail .loneSurrogate
  else return String.utf8EncodeChar (Char.ofNat first)

/-- The character that a one-letter escape stands for. -/
private def escaped? : Char → Option Char
  | '"' => some '"'
  | '\\' => some '\\'
  | '/' => some '/'
  | 'b' => some '\x08'
  | 'f' => some '\x0c'
  | 'n' => some '\n'
  | 'r' => some '\r'
  | 't' => some '\t'
  | _ => none

private def readEscape : Scan Bytes := do
  match ← next with
  | none => fail .stringEnds
  | some 'u' => readCodePoint
  | some c =>
    match escaped? c with
    | some plain => return [UInt8.ofNat plain.toNat]
    | none => fail .badEscape

/-- The bytes up to the closing quote, in reverse order in front of those read before. -/
private def readBody : Nat → Bytes → Scan Bytes
  | 0, _ => fail .stringEnds
  | left + 1, before => do
    match ← next with
    | none => fail .stringEnds
    | some '"' => return before
    | some '\\' => do
      let bytes ← readEscape
      readBody left (bytes.reverse ++ before)
    | some c =>
      if c.toNat < 32 then fail .controlCharacter
      else readBody left (UInt8.ofNat c.toNat :: before)

/-- A string behind its opening quote. -/
def readText : Scan String := do
  let bytes ← readBody ((← remaining) + 1) []
  return (String.fromUTF8? ⟨bytes.reverse.toArray⟩).getD ""

private def skipEscape : Scan Unit := do
  match ← next with
  | none => fail .stringEnds
  | some 'u' => do
    let _ ← readHex
  | some c => if (escaped? c).isSome then return () else fail .badEscape

private def skipBody : Nat → Scan Unit
  | 0 => fail .stringEnds
  | left + 1 => do
    match ← peek with
    | none => fail .stringEnds
    | some c =>
      if c.toNat < 32 then fail .controlCharacter
      else
        advance
        if c = '"' then return ()
        else
          if c = '\\' then skipEscape
          skipBody left

/-- Pass over a string behind its opening quote. -/
def skipText : Scan Unit := do
  skipBody ((← remaining) + 1)

end RemoteCrowd.Json
