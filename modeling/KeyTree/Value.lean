import KeyTree.Schema.Basic
import KeyTree.Decimal.Written

/-!
# `KeyTree.Value`: argument values and the segments they write

A value fills a slot; `Value.segment` is the text it puts into the key.
Whole numbers are kept exact over the union of the signed and unsigned
64-bit ranges: `Value.ofInt?` takes the signed form wherever it fits.

Numbers with a fraction are written with the fewest digits that read
back, in position, and of two equally near decimals the greater.
-/

set_option autoImplicit false

namespace KeyTree

/-- A value for a slot. -/
inductive Value where
  | boolean (b : Bool)
  /-- A whole number of the signed 64-bit range. -/
  | signed (n : Int64)
  /-- A whole number of the unsigned 64-bit range. -/
  | unsigned (n : UInt64)
  | number (x : Double)
  | text (s : String)
  deriving DecidableEq, Repr

/-- The key text of a double: whole numbers without a point, zero without
its sign, and names for what is no finite number. -/
def Double.segment (x : Double) : String :=
  match x.value with
  | .nan => "NaN"
  | .infinite false => "Infinity"
  | .infinite true => "-Infinity"
  | .finite negative significand exponent =>
    if significand = 0 then "0"
    else (shortest .double .up negative significand exponent).written .plain

namespace Value

/-- The slot kind a value is of. -/
def kind : Value → SlotKind
  | boolean _ => .boolean
  | signed _ | unsigned _ | number _ => .number
  | text _ => .text

/-- The text a value puts into a key. -/
def segment : Value → String
  | boolean true => "true"
  | boolean false => "false"
  | signed n => integerText n.toInt
  | unsigned n => integerText n.toNat
  | number x => x.segment
  | text s => s

/-- A whole number as a value: signed if it fits, else unsigned if it
fits. -/
def ofInt? (n : Int) : Option Value :=
  if -0x8000000000000000 ≤ n ∧ n < 0x8000000000000000 then some (signed (Int64.ofInt n))
  else if 0 ≤ n ∧ n < 0x10000000000000000 then some (unsigned (UInt64.ofNat n.toNat))
  else none

end Value

end KeyTree
