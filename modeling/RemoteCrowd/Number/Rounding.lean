import RemoteCrowd.Number.Double

/-!
Rounding of an exact binary number to the nearest double. Ties go to the even
significand, small results lose bits gradually, and large ones become infinite.
-/

namespace RemoteCrowd.Number

/-- Divide by a power of two to the nearest whole number; a tie goes to the even one. -/
def shiftRightEven (n shift : Nat) : Nat :=
  let low := n >>> shift
  let rest := n - low <<< shift
  let half := 1 <<< shift
  if 2 * rest < half then low
  else if half < 2 * rest then low + 1
  else if low % 2 = 0 then low else low + 1

/-- The double nearest to `n * 2 ^ q`. A significand that rounds up to the next power of
two carries into the exponent field, which is the right neighbour. -/
def roundBinary (n : Nat) (q : Int) : Double :=
  if n = 0 then .zero
  else
    let scale := max (-1074) (q + n.log2 - 52)
    let significand :=
      if scale ≤ q then n <<< (q - scale).toNat else shiftRightEven n (scale - q).toNat
    let bits := (scale + 1074).toNat <<< 52 + significand
    if bits < 2047 <<< 52 then ⟨UInt64.ofNat bits⟩ else .infinity

end RemoteCrowd.Number
