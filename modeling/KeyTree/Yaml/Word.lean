import KeyTree.Decimal.Read

/-!
# `KeyTree.Yaml.Word`: what plain scalars mean

A plain scalar is null, a truth value, a number or a text, and which of
these is told by its characters (`Word.ofText`). Whole numbers are written
in decimal, hexadecimal, octal or binary digits; decimal digits with a zero
in front of them are a text.

Whole numbers of more than 64 bits are kept apart (`Word.wide`): they are
numbers, but nothing can hold them.
-/

set_option autoImplicit false

namespace KeyTree.Yaml

/-- The meaning of a plain scalar. -/
inductive Word where
  | null
  | boolean (b : Bool)
  /-- A whole number of 64 bits, signed or unsigned. -/
  | integer (n : Int)
  /-- A whole number of more than 64 and at most 128 bits. -/
  | wide
  | decimal (x : Double)
  | text
  deriving DecidableEq, Repr

namespace Word

/-- Whether a word means null. -/
def isNull (word : String) : Bool := ["null", "Null", "NULL", "~"].contains word

/-- The truth value a word means. -/
def boolean? (word : String) : Option Bool :=
  if ["true", "True", "TRUE"].contains word then some true
  else if ["false", "False", "FALSE"].contains word then some false
  else none

/-- Whether a word is decimal digits that start with a zero which is not all
of them, with or without a sign. -/
def hasLeadingZero (word : List Char) : Bool :=
  let (_, digits) := takeSign word
  match digits with
  | '0' :: d :: more => (d :: more).all Char.isDigit
  | _ => false

/-- Digits of a base behind the two characters that announce it, or decimal
digits. -/
def magnitude? : List Char → Option Nat
  | '0' :: 'x' :: digits => readDigits? 16 digits
  | '0' :: 'o' :: digits => readDigits? 8 digits
  | '0' :: 'b' :: digits => readDigits? 2 digits
  | digits => readDigits? 10 digits

/-- The whole number that a word writes, if it has at most 128 bits:
unsigned, or signed if it is negative. -/
def whole? (word : List Char) : Option Word :=
  if hasLeadingZero word then none
  else
    let (negative, digits) := takeSign word
    match magnitude? digits with
    | none => none
    | some n =>
      let fits (bits : Nat) : Bool := if negative then n ≤ 1 <<< (bits - 1) else n < 1 <<< bits
      if fits 64 then some (.integer (if negative then -n else n))
      else if fits 128 then some .wide
      else none

/-- The infinity, not-a-number or finite double that a word writes. -/
def decimal? (word : List Char) : Option Double :=
  let (negative, size) := takeSign word
  if [".inf", ".Inf", ".INF"].contains (String.ofList size) then some (.infinity negative)
  else if [".nan", ".NaN", ".NAN"].contains (String.ofList word) then some .nan
  else match readDecimal? word with
    | some d => if d.toDouble.isFinite then some d.toDouble else none
    | none => none

/-- The meaning of a plain scalar. -/
def ofText (word : String) : Word :=
  if word = "" || isNull word then .null
  else match boolean? word with
    | some b => .boolean b
    | none =>
      match whole? word.toList with
      | some number => number
      | none =>
        if hasLeadingZero word.toList then .text
        else match decimal? word.toList with
          | some x => .decimal x
          | none => .text

end Word

end KeyTree.Yaml
