import KeyTree.Decimal.Binary

/-!
# `KeyTree.Decimal.Shortest`: decimals, and the shortest one for a double

A `Decimal` is `± digits · 10 ^ exponent`. `shortest` finds, for a binary
value, the decimal of fewest digits that rounds back to it, and of those
the nearest; it looks at both neighbours of the value on the decimal grid
of one digit, two digits, and so on, in exact arithmetic. Seventeen
digits always suffice for a double, nine for a single.

`Decimal.toDouble` is the way back: the double nearest to a decimal.
-/

set_option autoImplicit false

namespace KeyTree

/-- A decimal number: `digits · 10 ^ exponent`, with a sign. -/
structure Decimal where
  negative : Bool
  digits : Nat
  exponent : Int
  deriving DecidableEq, Repr

/-- The decimal digits of a whole number, without leading zeros. -/
def decimalDigits (n : Nat) : List Char := Nat.toDigits 10 n

namespace Decimal

/-- The fraction `digits · 10 ^ exponent`. -/
def ratio (digits : Nat) (exponent : Int) : Nat × Nat :=
  if 0 ≤ exponent then (digits * Nat.pow 10 exponent.toNat, 1)
  else (digits, Nat.pow 10 (-exponent).toNat)

/-- The double nearest to a decimal. Past `10 ^ 400` every double is
infinite and below `10 ^ -400` zero, which keeps the powers small. -/
def toDouble (d : Decimal) : Double :=
  let top : Int := d.exponent + (decimalDigits d.digits).length
  if d.digits = 0 then .zero d.negative
  else if 400 < top then .infinity d.negative
  else if top < -400 then .zero d.negative
  else
    let (num, den) := ratio d.digits d.exponent
    .ofRatio d.negative num den

/-- Takes trailing zeros off the digits. The fuel is the number of digits. -/
def trimZeros : Nat → Nat → Int → Nat × Int
  | 0, digits, exponent => (digits, exponent)
  | fuel + 1, digits, exponent =>
    if digits % 10 = 0 then trimZeros fuel (digits / 10) (exponent + 1)
    else (digits, exponent)

end Decimal

/-! ### The fewest digits that read back -/

/-- Which of two equally near decimals of the same length is taken. -/
inductive Tie where
  /-- The greater one. -/
  | up
  /-- The one whose last digit is even. -/
  | even
  deriving DecidableEq, Repr

/-- The numbers that round to one binary value, as fractions over a common
denominator, with the value itself. The ends belong to the interval when
`closed` holds. -/
structure RoundingInterval where
  low : Nat
  value : Nat
  high : Nat
  denominator : Nat
  closed : Bool
  deriving Repr

namespace RoundingInterval

/-- Whether the fraction `num / den` rounds to the interval's value. -/
def contains (interval : RoundingInterval) (num den : Nat) : Bool :=
  let point := num * interval.denominator
  let low := interval.low * den
  let high := interval.high * den
  if interval.closed then decide (low ≤ point ∧ point ≤ high)
  else decide (low < point ∧ point < high)

/-- The interval around `significand · 2 ^ exponent`. It reaches half way
to the neighbours, and the lower neighbour of a power of two is only half
as far away. A tie rounds to the even significand. -/
def around (format : BinaryFormat) (significand : Nat) (exponent : Int) :
    RoundingInterval :=
  let narrow := decide (significand = 1 <<< format.fractionBits
    ∧ format.leastExponent < exponent)
  -- Everything counted in quarters of the last place.
  let quarters := 4 * significand
  let q := exponent - 2
  let scale := if 0 ≤ q then 1 <<< q.toNat else 1
  { low := (quarters - if narrow then 1 else 2) * scale
    value := quarters * scale
    high := (quarters + 2) * scale
    denominator := if 0 ≤ q then 1 else 1 <<< (-q).toNat
    closed := significand % 2 = 0 }

end RoundingInterval

/-- The exponent of the greatest power of ten not above `num / den`, both
above zero: the guess from the number of digits is at most one too great. -/
def floorLog10 (num den : Nat) : Int :=
  let guess : Int := (decimalDigits num).length - (decimalDigits den).length
  let (tenNum, tenDen) := Decimal.ratio 1 guess
  if tenNum * den ≤ num * tenDen then guess else guess - 1

/-- Tries the grid of `count` digits, then longer ones, and answers digits
and exponent. The grid's unit is `10 ^ (top - count + 1)`. -/
def shortestFrom (interval : RoundingInterval) (tie : Tie) (top : Int) :
    Nat → Nat → Nat × Int
  | 0, count => (0, top - count)
  | fuel + 1, count =>
    let exponent := top - count + 1
    let (unitNum, unitDen) := Decimal.ratio 1 exponent
    let below := interval.value * unitDen / (interval.denominator * unitNum)
    let belowFits := interval.contains (below * unitNum) unitDen
    let aboveFits := interval.contains ((below + 1) * unitNum) unitDen
    -- Twice the distance from `below`, in units, against one unit.
    let twice := 2 * (interval.value * unitDen % (interval.denominator * unitNum))
    let unit := interval.denominator * unitNum
    let takeAbove := decide (unit < twice)
      || (twice == unit && (tie == .up || below % 2 == 1))
    if belowFits && aboveFits then
      (if takeAbove then below + 1 else below, exponent)
    else if belowFits then (below, exponent)
    else if aboveFits then (below + 1, exponent)
    else shortestFrom interval tie top fuel (count + 1)

/-- The decimal of fewest digits that rounds to
`significand · 2 ^ exponent`, and of those the nearest. -/
def shortest (format : BinaryFormat) (tie : Tie) (negative : Bool)
    (significand : Nat) (exponent : Int) : Decimal :=
  if significand = 0 then ⟨negative, 0, 0⟩
  else
    let interval := RoundingInterval.around format significand exponent
    let top := floorLog10 interval.value interval.denominator
    let (digits, place) := shortestFrom interval tie top 17 1
    let (digits, place) := Decimal.trimZeros 18 digits place
    ⟨negative, digits, place⟩

/-- The double that is nearest to the shortest decimal of a single, given
by its 32 bits. -/
def Double.ofSingle (bits : UInt32) : Double :=
  match BinaryFormat.single.decode bits.toNat with
  | .nan => .nan
  | .infinite negative => .infinity negative
  | .finite negative significand exponent =>
    (shortest .single .up negative significand exponent).toDouble

end KeyTree
