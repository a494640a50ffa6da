import KeyTree.Decimal.Shortest

/-!
# `KeyTree.Decimal.Written`: decimals as text

`DecimalStyle` holds the choices by which written decimals differ: from
where to where digits are written in their positions, and whether a whole
number keeps a point. `Decimal.written` writes a decimal in a style.
-/

set_option autoImplicit false

namespace KeyTree

/-- How decimals are written. -/
structure DecimalStyle where
  /-- The powers of ten of the leading digit that are written in position:
  from the first, below the second. Without bounds all are. -/
  positional : Option (Int × Int)
  /-- Whether a whole number in position ends in a point and a zero. -/
  wholePoint : Bool
  deriving DecidableEq, Repr

/-- Digits in position, whole numbers without a point: `0.00001`, `100`. -/
def DecimalStyle.plain : DecimalStyle := ⟨none, false⟩

namespace Decimal

/-- Digits in their positions: `digits · 10 ^ exponent`. -/
def positional (wholePoint : Bool) (digits : List Char) (exponent : Int) : List Char :=
  if 0 ≤ exponent then
    digits ++ List.replicate exponent.toNat '0' ++ (if wholePoint then ['.', '0'] else [])
  else
    let places := (-exponent).toNat
    if digits.length ≤ places then
      '0' :: '.' :: List.replicate (places - digits.length) '0' ++ digits
    else
      digits.take (digits.length - places) ++ '.' :: digits.drop (digits.length - places)

/-- One digit, a point if more follow, and the power of ten. -/
def scientific (digits : List Char) (top : Int) : List Char :=
  let fraction := digits.drop 1
  let power := if top < 0 then '-' :: decimalDigits (-top).toNat
    else '+' :: decimalDigits top.toNat
  digits.take 1 ++ (if fraction.isEmpty then [] else '.' :: fraction) ++ 'e' :: power

/-- A decimal in a style. -/
def written (style : DecimalStyle) (d : Decimal) : String :=
  let digits := decimalDigits d.digits
  let top : Int := d.exponent + digits.length - 1
  let inPosition := match style.positional with
    | none => true
    | some (low, high) => decide (low ≤ top ∧ top < high)
  String.ofList <| (if d.negative then ['-'] else []) ++
    (if inPosition then positional style.wholePoint digits d.exponent
      else scientific digits top)

end Decimal

/-- A whole number with its sign, if negative. -/
def integerText (n : Int) : String :=
  match n with
  | .ofNat m => String.ofList (decimalDigits m)
  | .negSucc m => String.ofList ('-' :: decimalDigits (m + 1))

end KeyTree
