/-!
Numerals as text: decimal and hexadecimal spellings, and the reader of signed 32-bit
decimals. Reading accepts one optional sign, leading zeros and ASCII digits only.
-/

namespace RemoteCrowd.Text

/-- Two hexadecimal digits in upper case, behind `0x`. -/
def hexByte (b : UInt8) : String :=
  String.ofList ['0', 'x', digit (b.toNat / 16), digit (b.toNat % 16)]
where
  digit (d : Nat) : Char := (Nat.digitChar d).toUpper

/-- The hexadecimal spelling of a number in lower case, without leading zeros. -/
def hexLower (n : Nat) : List Char :=
  Nat.toDigits 16 n

/-- The decimal digits of a number, most significant first. -/
def digits (n : Nat) : List Char :=
  Nat.toDigits 10 n

/-- A whole number in decimals, with a minus sign where it is negative. -/
def integer : Int → String
  | .ofNat n => String.ofList (digits n)
  | .negSucc n => String.ofList ('-' :: digits (n + 1))

/-- The number that a nonempty run of decimal digits spells. -/
def natural? (cs : List Char) : Option Nat :=
  if cs ≠ [] ∧ cs.all Char.isDigit then some (Nat.ofDigitChars 10 cs 0) else none

/-- A whole number with one optional sign. -/
def integer? (text : String) : Option Int :=
  match text.toList with
  | '-' :: rest => (natural? rest).map fun n => -(n : Int)
  | '+' :: rest => (natural? rest).map fun n => (n : Int)
  | cs => (natural? cs).map fun n => (n : Int)

/-- A whole number in the range of a signed 32-bit word. -/
def int32? (text : String) : Option Int32 := do
  let value ← integer? text
  if -2147483648 ≤ value ∧ value ≤ 2147483647 then some (Int32.ofInt value) else none

/-- A whole number below `bound`, with one optional plus sign. -/
def naturalBelow? (bound : Nat) (text : String) : Option Nat := do
  let value ← natural? (match text.toList with | '+' :: rest => rest | cs => cs)
  if value < bound then some value else none

end RemoteCrowd.Text
