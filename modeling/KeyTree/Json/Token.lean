import KeyTree.Json.Basic
import KeyTree.Decimal.Read

/-!
# `KeyTree.Json.Token`: JSON text as tokens

`Token.scan` cuts a JSON text into tokens. A token whose text is wrong is
a token too, and the last one: it becomes a fault only when a reader comes
to it, so that the first fault of a text is the one that counts, whether it
is one of the text or of what the text says.

Two faults of a text depend on whether its value is wanted: a number may be
too great, and escapes may give half of a surrogate pair. Such tokens are
kept apart from those that are wrong as text.
-/

set_option autoImplicit false

namespace KeyTree.Json

/-- What is wrong with a JSON text. -/
inductive Fault where
  /-- The text ends too early. -/
  | ended
  /-- The text is no JSON. -/
  | malformed
  /-- The text is JSON of another shape than wanted. -/
  | mismatch
  deriving DecidableEq, Repr

/-! ### Numbers -/

/-- The parts of a number's text. -/
structure NumberText where
  negative : Bool
  whole : List Char
  /-- The digits behind the point; empty without a point. -/
  fraction : List Char
  /-- The sign and the digits of the power of ten. -/
  power : Option (Bool × List Char)
  deriving DecidableEq, Repr

namespace NumberText

/-- Reads on the digits as long as the number fits 64 bits; the digits
left over come second. -/
def accumulate (acc : Nat) : List Char → Nat × List Char
  | [] => (acc, [])
  | c :: rest =>
    let next := acc * 10 + (digitValue? c).getD 0
    if next < 0x10000000000000000 then accumulate next rest else (acc, c :: rest)

/-- The pattern of a magnitude times or over ten to `power`, which itself
is rounded to a double first; rounded once more. -/
def scaleOnce (bits : Nat) (down : Bool) (power : Nat) : Nat :=
  let format := BinaryFormat.double
  match format.decode bits, format.decode (format.round (Nat.pow 10 power) 1) with
  | .finite _ m p, .finite _ n q =>
    if down then
      let (num, den) := BinaryFormat.scaleDown m n (q - p)
      format.round num den
    else
      let (num, den) := BinaryFormat.scaleDown (m * n) 1 (-(p + q))
      format.round num den
  | _, _ => format.infinityBits

/-- The pattern of a magnitude times ten to `exponent`. Greatest steps of
`10 ^ 308` are taken downwards; upwards the whole power has to be one step,
and the result has to be finite. -/
def scale : Nat → Nat → Int → Except Fault Nat
  | 0, bits, _ => .ok bits
  | fuel + 1, bits, exponent =>
    if exponent.natAbs ≤ 308 then
      let scaled := scaleOnce bits (decide (exponent < 0)) exponent.natAbs
      if scaled = BinaryFormat.double.infinityBits then .error .malformed else .ok scaled
    else if bits = 0 then .ok 0
    else if 0 ≤ exponent then .error .malformed
    else scale fuel (scaleOnce bits true 308) (exponent + 308)

/-- The value of `digits · 10 ^ exponent` as a double, or a fault if that
is too great. -/
def double (negative : Bool) (digits : Nat) (exponent : Int) : Except Fault JsonNumber := do
  let bits ← scale 8 (BinaryFormat.double.round digits 1) exponent
  .ok (.double (.ofMagnitude negative bits))

/-- The value of a number's text. Digits count while the number they make
fits 64 bits and only shift the power of ten after that. Whole numbers
without a point or a power stay exact as far as 64 bits reach; minus zero
is a double. -/
def value (parts : NumberText) : Except Fault JsonNumber :=
  let (digits, dropped) := accumulate 0 parts.whole
  if parts.fraction.isEmpty && parts.power.isNone && dropped.isEmpty then
    if ! parts.negative then .ok (.integer digits)
    else if 0 < digits ∧ digits ≤ 0x8000000000000000 then .ok (.integer (-digits))
    else double true digits 0
  else
    let (digits, unread) := accumulate digits parts.fraction
    let exponent : Int := dropped.length - (parts.fraction.length - unread.length : Nat)
    match parts.power with
    | none => double parts.negative digits exponent
    | some (down, power) =>
      let power := digitsValue power
      -- A power past the 32-bit range is not looked at any closer.
      if 0x80000000 ≤ power then
        if digits ≠ 0 ∧ ! down then .error .malformed
        else .ok (.double (.zero parts.negative))
      else double parts.negative digits (if down then exponent - power else exponent + power)

end NumberText

/-- Digits at the start of a text; at least one is needed. -/
def scanDigits (chars : List Char) : Except Fault (List Char × List Char) :=
  match chars.takeWhile Char.isDigit with
  | [] => .error (if chars.isEmpty then .ended else .malformed)
  | digits => .ok (digits, chars.dropWhile Char.isDigit)

/-- The digits behind a point, if there is one. -/
def scanFraction : List Char → Except Fault (List Char × List Char)
  | '.' :: rest => scanDigits rest
  | chars => .ok ([], chars)

/-- The power of ten, if there is one. -/
def scanPower : List Char → Except Fault (Option (Bool × List Char) × List Char)
  | [] => .ok (none, [])
  | c :: rest =>
    if c = 'e' ∨ c = 'E' then do
      let (down, rest) := takeSign rest
      let (digits, rest) ← scanDigits rest
      .ok (some (down, digits), rest)
    else .ok (none, c :: rest)

/-- A number at the start of a text: no leading zeros, digits on both
sides of a point and behind the mark of a power. -/
def scanNumber (chars : List Char) : Except Fault (NumberText × List Char) := do
  let (negative, rest) := match chars with
    | '-' :: rest => (true, rest)
    | _ => (false, chars)
  let (whole, rest) ← scanDigits rest
  if whole.head? = some '0' ∧ 1 < whole.length then .error .malformed
  else
    let (fraction, rest) ← scanFraction rest
    let (power, rest) ← scanPower rest
    .ok (⟨negative, whole, fraction, power⟩, rest)

/-! ### Texts -/

/-- What stands between the quotes of a text: characters, and the code
units that escapes give by number. -/
inductive TextUnit where
  | char (c : Char)
  | unit (n : Nat)
  deriving DecidableEq, Repr

/-- The character a one-letter escape stands for. -/
def escaped? (c : Char) : Option Char :=
  if c = '"' ∨ c = '\\' ∨ c = '/' then some c
  else if c = 'b' then some '\x08'
  else if c = 'f' then some '\x0c'
  else if c = 'n' then some '\n'
  else if c = 'r' then some '\r'
  else if c = 't' then some '\t'
  else none

/-- Four hexadecimal digits. -/
def hexUnit? (a b c d : Char) : Option Nat := readDigits? 16 [a, b, c, d]

/-- Scans a text up to its closing quote. The units found come first, then
what follows the quote or why there is none. Too little text for four
digits, counted in bytes, is the end of the text. -/
def scanText : List Char → List TextUnit × Except Fault (List Char)
  | [] => ([], .error .ended)
  | '"' :: rest => ([], .ok rest)
  | '\\' :: [] => ([], .error .ended)
  | '\\' :: 'u' :: a :: b :: c :: d :: rest =>
    match hexUnit? a b c d with
    | some n =>
      let (units, rest) := scanText rest
      (.unit n :: units, rest)
    | none => ([], .error .malformed)
  | '\\' :: c :: rest =>
    match escaped? c with
    | some e =>
      let (units, rest) := scanText rest
      (.char e :: units, rest)
    | none =>
      let short := c = 'u' ∧ (String.ofList rest).utf8ByteSize < 4
      ([], .error (if short then .ended else .malformed))
  | c :: rest =>
    if c.toNat < 0x20 then ([], .error .malformed)
    else
      let (units, rest) := scanText rest
      (.char c :: units, rest)

/-- The text of some units: two code units that are the halves of a
surrogate pair make one character. -/
def joinUnits : List TextUnit → Option (List Char)
  | [] => some []
  | .char c :: rest => (joinUnits rest).map (c :: ·)
  | .unit n :: rest =>
    if 0xD800 ≤ n ∧ n < 0xDC00 then
      match rest with
      | .unit m :: rest =>
        if 0xDC00 ≤ m ∧ m < 0xE000 then
          (joinUnits rest).map
            (Char.ofNat (0x10000 + (n - 0xD800) * 0x400 + (m - 0xDC00)) :: ·)
        else none
      | _ => none
    else if 0xDC00 ≤ n ∧ n < 0xE000 then none
    else (joinUnits rest).map (Char.ofNat n :: ·)

/-- Whether a half of a surrogate pair stands at the end of some units. -/
def endsInHalf (units : List TextUnit) : Bool :=
  match units.getLast? with
  | some (.unit n) => decide (0xD800 ≤ n ∧ n < 0xDC00)
  | _ => false

/-! ### Tokens -/

/-- A token of a JSON text. -/
inductive Token where
  | openArray
  | closeArray
  | openObject
  | closeObject
  | comma
  | colon
  | null
  | boolean (b : Bool)
  | number (text : NumberText)
  /-- A text in quotes; `none` if its escapes give no characters. -/
  | text (s : Option String)
  /-- A number or a word with a fault. -/
  | badNumber (fault : Fault)
  | badWord (fault : Fault)
  /-- A text with a fault: the first one of all, and the first one that
  counts where the text is not wanted. -/
  | badText (fault skipped : Fault)
  /-- A character that starts no token. -/
  | stray
  deriving DecidableEq, Repr

/-- Takes a word off the start of a text, or tells why it is not there. -/
def scanWord : List Char → List Char → Except Fault (List Char)
  | [], chars => .ok chars
  | _ :: _, [] => .error .ended
  | w :: word, c :: chars => if w = c then scanWord word chars else .error .malformed

/-- Whether a character may stand between tokens. -/
def isBlank (c : Char) : Bool := c == ' ' || c == '\n' || c == '\t' || c == '\r'

/-- The tokens of a text; the fuel is its length. -/
def scanFrom : Nat → List Char → List Token
  | 0, _ => []
  | _, [] => []
  | fuel + 1, c :: rest =>
    if isBlank c then scanFrom fuel rest
    else if c = '[' then .openArray :: scanFrom fuel rest
    else if c = ']' then .closeArray :: scanFrom fuel rest
    else if c = '{' then .openObject :: scanFrom fuel rest
    else if c = '}' then .closeObject :: scanFrom fuel rest
    else if c = ',' then .comma :: scanFrom fuel rest
    else if c = ':' then .colon :: scanFrom fuel rest
    else if c = 'n' then word fuel .null "ull" rest
    else if c = 't' then word fuel (.boolean true) "rue" rest
    else if c = 'f' then word fuel (.boolean false) "alse" rest
    else if c = '"' then
      match scanText rest with
      | (units, .ok rest) =>
        .text ((joinUnits units).map String.ofList) :: scanFrom fuel rest
      | (units, .error fault) =>
        -- A half pair that the fault cuts off may still have been one.
        let whole := if endsInHalf units then units.dropLast else units
        [.badText (if (joinUnits whole).isNone then .malformed else fault) fault]
    else if c = '-' ∨ c.isDigit then
      match scanNumber (c :: rest) with
      | .ok (parts, rest) => .number parts :: scanFrom fuel rest
      | .error fault => [.badNumber fault]
    else [.stray]
where
  /-- A word whose first letter has been seen. -/
  word (fuel : Nat) (token : Token) (tail : String) (rest : List Char) : List Token :=
    match scanWord tail.toList rest with
    | .ok rest => token :: scanFrom fuel rest
    | .error fault => [.badWord fault]

/-- The tokens of a text. -/
def scan (text : String) : List Token :=
  scanFrom text.toList.length text.toList

end KeyTree.Json
