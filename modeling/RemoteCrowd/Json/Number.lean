import RemoteCrowd.Json.Scan
import RemoteCrowd.Number.Text

/-!
Numbers in a document. A whole number that fits 64 bits stays whole, and every other one
becomes a double: the first digits that fit 64 bits, scaled once by a power of ten.
-/

namespace RemoteCrowd.Json

/-- A number as it was read. -/
inductive Numeral where
  | natural (n : Nat)
  /-- A whole number below zero, by its magnitude. -/
  | negative (magnitude : Nat)
  | double (value : Double)
deriving DecidableEq

/-- The double nearest to a 64-bit number. -/
private def ofWord (n : Nat) : Double := .ofFloat (UInt64.ofNat n).toFloat

private def negate (d : Double) : Double := .ofFloat (-d.toFloat)

def Numeral.toDouble : Numeral → Double
  | natural n => ofWord n
  | negative magnitude => negate (ofWord magnitude)
  | double value => value

/-- How a number is named where another kind of value was expected. -/
def Numeral.describe : Numeral → String
  | natural n => "integer `" ++ Text.integer n ++ "`"
  | negative magnitude => "integer `-" ++ Text.integer magnitude ++ "`"
  | double value => "floating point `" ++ Number.document.render value ++ "`"

/-- Multiply by a power of ten, or divide by it in steps that keep it finite. Nothing comes
out where the result is not finite. -/
private def scale (value : Double) (exponent : Int) : Option Double :=
  if exponent.natAbs ≤ 308 then
    let power := Double.ofFloat (Float.ofScientific 1 false exponent.natAbs)
    if 0 ≤ exponent then
      let product := value * power
      if product.isInfinite then none else some product
    else some (value / power)
  else if value.significand = 0 then some value
  else if 0 ≤ exponent then none
  else scale (value / .ofFloat 1e308) (exponent + 308)
termination_by exponent.natAbs
decreasing_by omega

/-- The double with the given digits, moved by a power of ten. -/
private def ofParts (positive : Bool) (significand : Nat) (exponent : Int) : Scan Double := do
  match scale (ofWord significand) exponent with
  | some value => return if positive then value else negate value
  | none => fail .numberTooLarge

private def digitOf (c : Char) : Nat := c.toNat - '0'.toNat

/-- Read digits into a number below `bound`, and count them. Reading stops in front of the
digit that would not fit. -/
private def boundedDigits (bound : Nat) : Nat → Nat → Nat → Scan (Nat × Nat × Bool)
  | 0, value, count => return (value, count, false)
  | left + 1, value, count => do
    match ← peek with
    | some c =>
      if isDigit c then
        let extended := 10 * value + digitOf c
        if extended < bound then
          advance
          boundedDigits bound left extended (count + 1)
        else return (value, count, true)
      else return (value, count, false)
    | none => return (value, count, false)

private def readDigits (bound value : Nat) : Scan (Nat × Nat × Bool) := do
  boundedDigits bound (← remaining) value 0

/-- The exponent behind `e`, and the number it completes. -/
private def readExponent (positive : Bool) (significand : Nat) (start : Int) : Scan Double := do
  advance
  let sign ← nextIf fun c => c == '+' || c == '-'
  match ← next with
  | none => fail .valueEnds
  | some c =>
    if isDigit c then
      let (exponent, _, more) ← readDigits (1 <<< 31) (digitOf c)
      if more then
        advance
        if significand ≠ 0 ∧ sign ≠ some '-' then fail .numberTooLarge
        else
          let _ ← skipWhile isDigit
          return if positive then .zero else negate .zero
      else
        ofParts positive significand
          (if sign = some '-' then start - exponent else start + exponent)
    else fail .badNumber

private def isExponentMark (c : Char) : Bool := c == 'e' || c == 'E'

/-- An exponent if there is one, and the number it completes. -/
private def finishDouble (positive : Bool) (significand : Nat) (exponent : Int) :
    Scan Double := do
  match (← peek).map isExponentMark with
  | some true => readExponent positive significand exponent
  | _ => ofParts positive significand exponent

/-- The decimal places behind the point. Places that no longer fit are dropped. -/
private def readPlaces (positive : Bool) (significand : Nat) (start : Int) : Scan Double := do
  advance
  let (extended, count, more) ← readDigits UInt64.size significand
  if more then
    let _ ← skipWhile isDigit
    finishDouble positive extended (start - count)
  else if count = 0 then
    match ← peek with
    | some _ => failAhead .badNumber
    | none => failAhead .valueEnds
  else finishDouble positive extended (start - count)

/-- What follows the digits in front of the point. -/
private def readRest (positive : Bool) (significand : Nat) : Scan Numeral := do
  match ← peek with
  | some '.' => return .double (← readPlaces positive significand 0)
  | some 'e' | some 'E' => return .double (← readExponent positive significand 0)
  | _ =>
    if positive then return .natural significand
    else if 0 < significand ∧ significand ≤ 1 <<< 63 then return .negative significand
    else return .double (negate (ofWord significand))

/-- A number whose digits no longer fit: the further ones only count. -/
private def readLong (positive : Bool) (significand : Nat) : Scan Numeral := do
  let dropped ← skipWhile isDigit
  match ← peek with
  | some '.' => return .double (← readPlaces positive significand dropped)
  | _ => return .double (← finishDouble positive significand dropped)

/-- A number behind its sign. -/
def readNumeral (positive : Bool) : Scan Numeral := do
  match ← next with
  | none => fail .valueEnds
  | some '0' =>
    match (← peek).map isDigit with
    | some true => failAhead .badNumber
    | _ => readRest positive 0
  | some c =>
    if isDigit c then
      let (significand, _, more) ← readDigits UInt64.size (digitOf c)
      if more then readLong positive significand else readRest positive significand
    else fail .badNumber

/-- Pass over the exponent behind `e`. -/
private def skipExponent : Scan Unit := do
  advance
  let _ ← nextIf fun c => c == '+' || c == '-'
  match ← next with
  | some c => if isDigit c then let _ ← skipWhile isDigit else fail .badNumber
  | none => fail .badNumber

private def skipExponentIfAny : Scan Unit := do
  match (← peek).map isExponentMark with
  | some true => skipExponent
  | _ => return ()

/-- Pass over a number behind its sign. Only its form is checked. -/
def skipNumeral : Scan Unit := do
  match ← next with
  | some '0' =>
    match (← peek).map isDigit with
    | some true => failAhead .badNumber
    | _ => skipFraction
  | some c =>
    if isDigit c then
      let _ ← skipWhile isDigit
      skipFraction
    else fail .badNumber
  | none => fail .badNumber
where
  skipFraction : Scan Unit := do
    match ← peek with
    | some '.' =>
      advance
      let count ← skipWhile isDigit
      if count = 0 then failAhead .badNumber else skipExponentIfAny
    | _ => skipExponentIfAny

end RemoteCrowd.Json
