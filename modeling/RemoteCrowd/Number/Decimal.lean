import RemoteCrowd.Number.Rounding

/-!
Decimal numerals as doubles: the double nearest to the number that is written, with one
optional sign, digits around an optional point, and an optional power of ten. Infinity and
NaN can be written in words.
-/

namespace RemoteCrowd.Number

/-- The double nearest to `n * 10 ^ e`. Beyond the least and the greatest double the power
of ten is not worked out. -/
def roundDecimal (n : Nat) (e : Int) : Double :=
  let digits := (Nat.toDigits 10 n).length
  if n = 0 ∨ e + digits < -400 then .zero
  else if 400 < e + digits then .infinity
  else if 0 ≤ e then roundBinary (n * Nat.pow 10 e.toNat) 0
  else
    let divisor := Nat.pow 10 (-e).toNat
    let shift := 64 + divisor.log2
    let scaled := n <<< shift
    let sticky := if scaled % divisor = 0 then 0 else 1
    roundBinary (2 * (scaled / divisor) + sticky) (-(shift : Int) - 1)

/-- The opposite number, by the sign bit. -/
def opposite (d : Double) : Double := ⟨d.bits ^^^ 0x8000000000000000⟩

/-- A power of ten behind `e`, or nothing. -/
private def exponent? : List Char → Option Int
  | [] => some 0
  | mark :: rest =>
    if mark = 'e' ∨ mark = 'E' then
      match rest with
      | '-' :: digits => (digitsValue? digits).map fun n => -(n : Int)
      | '+' :: digits => (digitsValue? digits).map fun n => (n : Int)
      | digits => (digitsValue? digits).map fun n => (n : Int)
    else none
where
  digitsValue? (digits : List Char) : Option Nat :=
    if digits ≠ [] ∧ digits.all Char.isDigit then some (Nat.ofDigitChars 10 digits 0) else none

/-- An unsigned numeral. -/
private def unsigned? (text : List Char) : Option Double := do
  let whole := text.takeWhile Char.isDigit
  let (places, rest) := match text.dropWhile Char.isDigit with
    | '.' :: behind => (behind.takeWhile Char.isDigit, behind.dropWhile Char.isDigit)
    | rest => ([], rest)
  if whole ++ places = [] then none
  else
    let power ← exponent? rest
    return roundDecimal (Nat.ofDigitChars 10 (whole ++ places) 0) (power - places.length)

/-- A numeral without its sign. -/
private def magnitude? (text : List Char) : Option Double :=
  let word := String.ofList (text.map Char.toLower)
  if word = "inf" ∨ word = "infinity" then some .infinity
  else if word = "nan" then some .nan
  else unsigned? text

/-- The double that a numeral writes. -/
def double? (text : String) : Option Double :=
  match text.toList with
  | '-' :: rest => (magnitude? rest).map opposite
  | '+' :: rest => magnitude? rest
  | cs => magnitude? cs

end RemoteCrowd.Number
