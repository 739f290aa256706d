import RemoteCrowd.Number.Shortest
import RemoteCrowd.Text.Numeral

/-!
Doubles as text. All spellings but the last write the shortest digits and differ in the
decisions of a `Style`; the last one writes a fixed number of places.
-/

namespace RemoteCrowd.Number

open Text (digits integer)

/-- How a double is spelled. -/
structure Style where
  /-- Whether a number whose first digit counts `10 ^ n` is written without exponent. -/
  positional : Int → Bool
  /-- What follows a whole number. -/
  wholeMark : List Char
  /-- What stands before an exponent that is not negative. -/
  exponentMark : List Char := []
  /-- The last digit where two are equally near. -/
  tie : Tie := .upper

/-- Plain decimals, never an exponent, and no mark on whole numbers. -/
def plain : Style where
  positional _ := true
  wholeMark := []

/-- Whole numbers are marked as doubles, and very large or small ones have an exponent. -/
def marked : Style where
  positional n := -4 ≤ n ∧ n < 16
  wholeMark := ['.', '0']

/-- As `marked`, with one more place below one, a sign on every exponent, and an even last
digit where there is a choice. -/
def document : Style where
  positional n := -5 ≤ n ∧ n < 16
  wholeMark := ['.', '0']
  exponentMark := ['+']
  tie := .even

private def zeros (n : Nat) : List Char := List.replicate n '0'

/-- Digits with the point where the exponent puts it. -/
private def positionalText (style : Style) (value : Decimal) : List Char :=
  let ds := digits value.digits
  if 0 ≤ value.exponent then ds ++ zeros value.exponent.toNat ++ style.wholeMark
  else
    let places := (-value.exponent).toNat
    let padded := zeros (places + 1 - ds.length) ++ ds
    padded.take (padded.length - places) ++ '.' :: padded.drop (padded.length - places)

/-- One digit before the point, and the power of ten behind `e`. -/
private def scientificText (style : Style) (value : Decimal) (leading : Int) : List Char :=
  let mark := if leading < 0 then [] else style.exponentMark
  let power := 'e' :: mark ++ (integer leading).toList
  match digits value.digits with
  | first :: second :: rest => first :: '.' :: second :: rest ++ power
  | ds => ds ++ power

private def signed (d : Double) (text : List Char) : String :=
  String.ofList (if d.isNegative then '-' :: text else text)

/-- The spelling of a double with the fewest digits that read back as it. -/
def Style.render (style : Style) (d : Double) : String :=
  if d.isNaN then "NaN"
  else if d.isInfinite then signed d ['i', 'n', 'f']
  else if d.significand = 0 then signed d ('0' :: style.wholeMark)
  else
    let value := shortest style.tie d
    let leading := value.exponent + (digits value.digits).length - 1
    signed d
      (if style.positional leading then positionalText style value
       else scientificText style value leading)

/-- Divide to the nearest whole number; a tie goes to the even one. -/
def divideEven (n divisor : Nat) : Nat :=
  let low := n / divisor
  let rest := n % divisor
  if 2 * rest < divisor then low
  else if divisor < 2 * rest then low + 1
  else if low % 2 = 0 then low else low + 1

/-- The spelling of a double with a fixed number of decimal places, at least one, rounded
from its exact value. -/
def fixedPlaces (places : Nat) (d : Double) : String :=
  if d.isNaN then "NaN"
  else if d.isInfinite then signed d ['i', 'n', 'f']
  else
    let scaled := (d.significand * Nat.pow 10 places) <<< d.exponent.toNat
    let value := divideEven scaled (1 <<< (-d.exponent).toNat)
    signed d (positionalText plain ⟨value, -places⟩)

end RemoteCrowd.Number
