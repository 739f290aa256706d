import RemoteCrowd.Number.Double

/-!
The length of a plane vector, in double arithmetic. The root of the rounded sum of squares
can be off in its last places, and one correction by what its square is too large takes
most of that away. Parts that are too large or too small to be squared are scaled by a power
of two first, and a part too small to count is only added.
-/

namespace RemoteCrowd.Number

/-- The double `2 ^ e`, for the exponents of normal doubles. -/
def powerOfTwo (e : Int) : Double := ⟨UInt64.ofNat ((1023 + e).toNat <<< 52)⟩

/-- By how much the square of `root` exceeds `a * a + b * b`. The difference between the
root and the closer of `b` and `a` is taken first, so that no large squares are subtracted. -/
def excess (a b root : Double) : Double :=
  let two := powerOfTwo 1
  if root.le (two * b) then
    let rest := root - b
    a * (two * rest - a) + (rest - two * (a - b)) * rest
  else
    let rest := root - a
    two * rest * (a - two * b) + ((powerOfTwo 2 * rest - b) * b + rest * rest)

/-- The length of `(a, b)` for `b ≤ a` that can be squared: a root, corrected once. -/
def correctedRoot (a b : Double) : Double :=
  let root := (a * a + b * b).sqrt
  root - excess a b root / (powerOfTwo 1 * root)

/-- The length of `(a, b)` for finite `0 ≤ b ≤ a`. -/
def orderedMagnitude (a b : Double) : Double :=
  if (powerOfTwo 511).lt a then
    if b.le (a * powerOfTwo (-54)) then a + b
    else correctedRoot (a * powerOfTwo (-600)) (b * powerOfTwo (-600)) * powerOfTwo 600
  else if b.lt (powerOfTwo (-459)) then
    if (b * powerOfTwo 54).le a then a + b
    else correctedRoot (a * powerOfTwo 600) (b * powerOfTwo 600) * powerOfTwo (-600)
  else if b.le (a * powerOfTwo (-54)) then a + b
  else correctedRoot a b

/-- The length of `(x, y)`. An infinite part makes it infinite, even beside a NaN. -/
def magnitude (x y : Double) : Double :=
  if x.isInfinite || y.isInfinite then .infinity
  else if x.isNaN || y.isNaN then .nan
  else if x.abs.lt y.abs then orderedMagnitude y.abs x.abs
  else orderedMagnitude x.abs y.abs

end RemoteCrowd.Number
