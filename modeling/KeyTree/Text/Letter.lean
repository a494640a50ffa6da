import KeyTree.Text.Alphabetic
import KeyTree.Text.Numeric
import KeyTree.Text.LetterCase

/-!
# `KeyTree.Text.Letter`: classes of letters and their case

What a text is split into words by: which characters count as letters or
digits, which are upper or lower case, and what their other case is.
`LetterRules` holds these questions as functions, so that what is built on
them can be stated for any answers; `LetterRules.unicode` are the answers
of the Unicode tables.
-/

set_option autoImplicit false

namespace KeyTree

/-- The classes of characters, and the case mappings. -/
structure LetterRules where
  alphabetic : Char → Bool
  numeric : Char → Bool
  uppercase : Char → Bool
  lowercase : Char → Bool
  /-- The lower case of a character; it may be several characters. -/
  toLower : Char → List Char
  /-- The upper case of a character; it may be several characters. -/
  toUpper : Char → List Char

/-- Whether a character is a letter or a numeral. -/
def LetterRules.alphanumeric (rules : LetterRules) (c : Char) : Bool :=
  rules.alphabetic c || rules.numeric c

/-- A character mapped by shifts, with exceptions that become several
characters. -/
def mapCase (expansions : List (Nat × List Nat)) (shifts : List CharShift) (c : Char) :
    List Char :=
  match expansions.lookup c.toNat with
  | some points => points.map Char.ofNat
  | none => [Char.ofNat (shiftBy shifts c.toNat)]

/-- The classes and mappings of Unicode. -/
def LetterRules.unicode : LetterRules where
  alphabetic c := inRuns alphabeticRuns c.toNat
  numeric c := inRuns numericRuns c.toNat
  uppercase c := inRuns uppercaseRuns c.toNat
  lowercase c := inRuns lowercaseRuns c.toNat
  toLower := mapCase lowerExpansions lowerShifts
  toUpper := mapCase upperExpansions upperShifts

end KeyTree
