/-!
# `KeyTree.Decimal.Binary`: binary floating point, by its bits

A floating-point number is held as the bit pattern of its IEEE 754
format, and everything that is asked of one is answered from those bits
with whole-number arithmetic: `BinaryFormat.decode` takes a pattern apart
into a sign and a value `m · 2 ^ q`, `BinaryFormat.round` finds the
pattern whose value is nearest to a fraction. No machine floating point
is involved.

A pattern without its sign grows with the value it stands for, so a
rounding that carries into the next power of two needs no extra case.
-/

set_option autoImplicit false

namespace KeyTree

/-- An IEEE 754 interchange format: a sign bit, then the exponent bits,
then the fraction bits. -/
structure BinaryFormat where
  fractionBits : Nat
  exponentBits : Nat
  deriving DecidableEq, Repr

namespace BinaryFormat

/-- 64 bits. -/
def double : BinaryFormat := ⟨52, 11⟩

/-- 32 bits. -/
def single : BinaryFormat := ⟨23, 8⟩

variable (format : BinaryFormat)

/-- The power of two that the last place of the smallest numbers counts. -/
def leastExponent : Int :=
  2 - (1 <<< (format.exponentBits - 1) : Nat) - format.fractionBits

/-- The pattern of positive infinity: all exponent bits set. -/
def infinityBits : Nat :=
  (1 <<< format.exponentBits - 1) <<< format.fractionBits

/-- The weight of the sign bit. -/
def signBit : Nat := 1 <<< (format.exponentBits + format.fractionBits)

end BinaryFormat

/-- What a bit pattern stands for. -/
inductive BinaryValue where
  | nan
  | infinite (negative : Bool)
  /-- `significand · 2 ^ exponent` with its sign; zero has a sign too. -/
  | finite (negative : Bool) (significand : Nat) (exponent : Int)
  deriving DecidableEq, Repr

namespace BinaryFormat

variable (format : BinaryFormat)

/-- Takes a bit pattern apart. Patterns with exponent bits zero have no
leading one before the fraction. -/
def decode (bits : Nat) : BinaryValue :=
  let negative := decide (bits / format.signBit % 2 = 1)
  let exponent := (bits >>> format.fractionBits) % 1 <<< format.exponentBits
  let fraction := bits % 1 <<< format.fractionBits
  if exponent = 1 <<< format.exponentBits - 1 then
    if fraction = 0 then .infinite negative else .nan
  else if exponent = 0 then
    .finite negative fraction format.leastExponent
  else
    .finite negative (1 <<< format.fractionBits + fraction)
      (format.leastExponent + (exponent - 1))

/-- The whole number nearest to `num / den`, the even one of two. -/
def nearestEven (num den : Nat) : Nat :=
  let whole := num / den
  let twice := 2 * (num % den)
  if twice < den then whole
  else if den < twice then whole + 1
  else if whole % 2 = 0 then whole else whole + 1

/-- The fraction `num / den` times `2 ^ (-q)`, as numerator and denominator. -/
def scaleDown (num den : Nat) (q : Int) : Nat × Nat :=
  if 0 ≤ q then (num, den <<< q.toNat) else (num <<< (-q).toNat, den)

/-- The exponent of the greatest power of two that is not above the
fraction `num / den`, both above zero. -/
def floorLog2 (num den : Nat) : Int :=
  let guess : Int := (num.log2 : Int) - den.log2
  let (n, d) := scaleDown num den guess
  if d ≤ n then guess else guess - 1

/-- The pattern, without a sign, of the value nearest to `num / den`; of
two the one with an even significand, and infinity past the last value. -/
def round (num den : Nat) : Nat :=
  if num = 0 then 0
  else
    let q := max (floorLog2 num den - format.fractionBits) format.leastExponent
    let (n, d) := scaleDown num den q
    min ((q - format.leastExponent).toNat <<< format.fractionBits + nearestEven n d)
      format.infinityBits

end BinaryFormat

/-! ### Double precision -/

/-- A double-precision number, as its 64 bits. -/
structure Double where
  bits : UInt64
  deriving DecidableEq, Repr

namespace Double

/-- What the bits stand for. -/
def value (x : Double) : BinaryValue := BinaryFormat.double.decode x.bits.toNat

/-- The double with the given sign and the pattern of a magnitude. -/
def ofMagnitude (negative : Bool) (bits : Nat) : Double :=
  ⟨UInt64.ofNat (bits + if negative then BinaryFormat.double.signBit else 0)⟩

/-- The double nearest to `num / den` with the given sign. -/
def ofRatio (negative : Bool) (num den : Nat) : Double :=
  ofMagnitude negative (BinaryFormat.double.round num den)

/-- Infinity with the given sign. -/
def infinity (negative : Bool) : Double :=
  ofMagnitude negative BinaryFormat.double.infinityBits

/-- A quiet value that is no number. -/
def nan : Double := ⟨0x7ff8000000000000⟩

/-- Zero with the given sign. -/
def zero (negative : Bool) : Double := ofMagnitude negative 0

/-- Whether the value is a number and not infinite. -/
def isFinite (x : Double) : Bool :=
  match x.value with
  | .finite _ _ _ => true
  | _ => false

end Double

end KeyTree
