import RemoteCrowd.Number.Double

/-!
The shortest decimal that reads back as a given double. Among the decimals that round to
the double, those on the coarsest decimal grid are taken, and of these the one nearest to
it. All comparisons are exact, on natural numbers.
-/

namespace RemoteCrowd.Number

/-- The decimal number `digits * 10 ^ exponent`. -/
structure Decimal where
  digits : Nat
  exponent : Int
deriving DecidableEq

/-- Which of two decimals is taken where a double lies midway between them. -/
inductive Tie where
  | upper
  | even
deriving DecidableEq

/-- The reals that round to a positive double, in quarters of its last place: the centre,
both ends, the power of two that scales them, and whether the ends belong. -/
private structure Neighbourhood where
  low : Nat
  centre : Nat
  high : Nat
  scale : Int
  closed : Bool

private def neighbourhood (d : Double) : Neighbourhood where
  low := 4 * d.significand - (if d.atBinadeStart then 1 else 2)
  centre := 4 * d.significand
  high := 4 * d.significand + 2
  scale := d.exponent - 2
  closed := d.significand % 2 == 0

/-- The point of the grid `10 ^ e` in the neighbourhood that is nearest to its centre. -/
private def pointOnGrid? (tie : Tie) (area : Neighbourhood) (e : Int) : Option Nat :=
  let unit := (if 0 ≤ e then Nat.pow 10 e.toNat else 1) <<< (-area.scale).toNat
  let lift := (if 0 ≤ e then 1 else Nat.pow 10 (-e).toNat) <<< area.scale.toNat
  let centre := area.centre * lift
  let contains (n : Nat) : Bool :=
    let point := n * unit
    if area.closed then area.low * lift ≤ point && point ≤ area.high * lift
    else area.low * lift < point && point < area.high * lift
  let below := centre / unit
  let above := below + 1
  match contains below, contains above with
  | true, true =>
    let down := centre - below * unit
    let up := above * unit - centre
    let yields := tie = .even ∧ below % 2 = 0
    some (if down < up ∨ down = up ∧ yields then below else above)
  | true, false => some below
  | false, true => some above
  | false, false => none

/-- Refine the grid until it has a point in the neighbourhood. -/
private def search (tie : Tie) (area : Neighbourhood) (e : Int) : Nat → Decimal
  | 0 => ⟨(pointOnGrid? tie area e).getD 0, e⟩
  | finer + 1 =>
    match pointOnGrid? tie area e with
    | some digits => ⟨digits, e⟩
    | none => search tie area (e - 1) finer

/-- The shortest decimal for the magnitude of a finite double other than zero. The first
grid is coarser than the number itself, and eighteen digits always suffice. -/
def shortest (tie : Tie) (d : Double) : Decimal :=
  let magnitude : Int := (d.significand.log2 + d.exponent) * 30103 / 100000
  search tie (neighbourhood d) (magnitude + 1) 20

end RemoteCrowd.Number
