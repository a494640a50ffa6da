import KeyTree.Decimal.Shortest

/-!
# `KeyTree.Decimal.Read`: numbers read from text

The texts of whole and decimal numbers, as accepted where a number stands
alone: an optional sign, ASCII digits, for decimals at most one point with
a digit on at least one side and an optional power of ten. Nothing may
stand around a number, not even blanks.
-/

set_option autoImplicit false

namespace KeyTree

/-- The value of a digit in bases up to sixteen, in either case. -/
def digitValue? (c : Char) : Option Nat :=
  if '0' ≤ c ∧ c ≤ '9' then some (c.toNat - '0'.toNat)
  else if 'a' ≤ c ∧ c ≤ 'f' then some (c.toNat - 'a'.toNat + 10)
  else if 'A' ≤ c ∧ c ≤ 'F' then some (c.toNat - 'A'.toNat + 10)
  else none

/-- The number that digits of a base write, continuing from `acc`. -/
def readDigitsFrom? (base : Nat) : Nat → List Char → Option Nat
  | acc, [] => some acc
  | acc, c :: rest => do
    let d ← digitValue? c
    if d < base then readDigitsFrom? base (acc * base + d) rest else none

/-- The number written in a base: at least one digit and nothing else. -/
def readDigits? (base : Nat) (text : List Char) : Option Nat :=
  if text.isEmpty then none else readDigitsFrom? base 0 text

/-- Takes an optional sign off; the flag says that it was a minus. -/
def takeSign : List Char → Bool × List Char
  | '-' :: rest => (true, rest)
  | '+' :: rest => (false, rest)
  | text => (false, text)

/-- A whole number: an optional sign and decimal digits. -/
def readInteger? (text : List Char) : Option Int :=
  let (negative, digits) := takeSign text
  (readDigits? 10 digits).map fun n => if negative then -(n : Int) else n

/-- The number that decimal digits write; other characters count nothing. -/
def digitsValue (digits : List Char) : Nat :=
  (readDigitsFrom? 10 0 digits).getD 0

/-- The power of ten behind the mark `e`, if there is one; nothing else
may be left. -/
def readPower? : List Char → Option Int
  | [] => some 0
  | c :: rest => if c = 'e' ∨ c = 'E' then readInteger? rest else none

/-- A decimal number without its sign. -/
def readUnsignedDecimal? (negative : Bool) (text : List Char) : Option Decimal :=
  let whole := text.takeWhile Char.isDigit
  let rest := text.dropWhile Char.isDigit
  let (fraction, rest) := match rest with
    | '.' :: rest => (rest.takeWhile Char.isDigit, rest.dropWhile Char.isDigit)
    | _ => ([], rest)
  if whole.isEmpty && fraction.isEmpty then none
  else (readPower? rest).map fun power =>
    ⟨negative, digitsValue (whole ++ fraction), power - fraction.length⟩

/-- A decimal number: an optional sign, digits with at most one point, and
an optional power of ten. -/
def readDecimal? (text : List Char) : Option Decimal :=
  let (negative, rest) := takeSign text
  readUnsignedDecimal? negative rest

/-- A double: a decimal number, or infinity or not-a-number by name in any
case. -/
def readDouble? (text : List Char) : Option Double :=
  match readDecimal? text with
  | some d => some d.toDouble
  | none =>
    let (negative, rest) := takeSign text
    let word := rest.map Char.toLower
    if word = "inf".toList ∨ word = "infinity".toList then some (.infinity negative)
    else if word = "nan".toList then some .nan
    else none

end KeyTree
