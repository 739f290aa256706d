/-!
Double precision numbers as they stand on the wire: a value is its 64-bit pattern, so that
encoding loses nothing and equality is decidable. Arithmetic and comparison are those of
IEEE 754.
-/

namespace RemoteCrowd

/-- A double, known by its bit pattern. -/
structure Double where
  bits : UInt64
deriving DecidableEq, Inhabited

namespace Double

def toFloat (d : Double) : Float := Float.ofBits d.bits

def ofFloat (f : Float) : Double := ⟨f.toBits⟩

/-- The double nearest to a natural number. -/
def ofNat (n : Nat) : Double := ofFloat (Float.ofNat n)

def zero : Double := ⟨0⟩

instance : Add Double where
  add a b := ofFloat (a.toFloat + b.toFloat)

instance : Sub Double where
  sub a b := ofFloat (a.toFloat - b.toFloat)

instance : Mul Double where
  mul a b := ofFloat (a.toFloat * b.toFloat)

instance : Div Double where
  div a b := ofFloat (a.toFloat / b.toFloat)

/-- The double nearest to the square root. -/
def sqrt (d : Double) : Double := ofFloat d.toFloat.sqrt

/-- The double without its sign. -/
def abs (d : Double) : Double := ⟨d.bits &&& 0x7fffffffffffffff⟩

/-- Less than, as numbers: false beside a NaN, and the two zeros are equal. -/
def lt (a b : Double) : Bool := a.toFloat < b.toFloat

/-- At most, as numbers: false beside a NaN. -/
def le (a b : Double) : Bool := a.toFloat ≤ b.toFloat

/-- The sign bit; it is set for negative zero too. -/
def isNegative (d : Double) : Bool := d.bits.toNat >>> 63 == 1

private def exponentField (d : Double) : Nat := d.bits.toNat >>> 52 % 2048

private def fractionField (d : Double) : Nat := d.bits.toNat % 1 <<< 52

def isNaN (d : Double) : Bool := d.exponentField == 2047 && d.fractionField != 0

def isInfinite (d : Double) : Bool := d.exponentField == 2047 && d.fractionField == 0

def infinity : Double := ⟨0x7ff0000000000000⟩

def nan : Double := ⟨0x7ff8000000000000⟩

/-- The whole number `significand` such that a finite double has the magnitude
`significand * 2 ^ exponent`. -/
def significand (d : Double) : Nat :=
  if d.exponentField = 0 then d.fractionField else 1 <<< 52 + d.fractionField

/-- The power of two that scales the significand. It is never below -1074. -/
def exponent (d : Double) : Int :=
  if d.exponentField = 0 then -1074 else (d.exponentField : Int) - 1075

/-- Whether the next double below in magnitude is only half as far as the next above: the
significand is the least of its binade, and the binade below is a finer one. -/
def atBinadeStart (d : Double) : Bool :=
  d.fractionField == 0 && d.exponentField > 1

end Double

end RemoteCrowd
