import KeyTree.Text.Combining
import KeyTree.Text.Unprintable

/-!
# `KeyTree.Text.Escape`: text inside Rust source

Rust source holds texts in two places. A string literal (`rustLiteral`)
stands in double quotes; a comment line holds escaped text (`rustEscaped`)
that also escapes single quotes. In both, control characters and all that
shows nothing is written as an escape, so neither contains a line break.

A combining character is escaped wherever it stands in a literal; in
escaped text only at the start, since elsewhere it attaches to the
character before it. `PrintRules` tells which characters these are;
`PrintRules.unicode` are those of the Unicode tables.
-/

set_option autoImplicit false

namespace KeyTree

/-- Which characters do not show by themselves. -/
structure PrintRules where
  /-- Characters that attach to the one before them. -/
  combining : Char → Bool
  /-- Characters that show nothing. -/
  unprintable : Char → Bool

/-- The characters of Unicode. -/
def PrintRules.unicode : PrintRules where
  combining c := inRuns combiningRuns c.toNat
  unprintable c := inRuns unprintableRuns c.toNat

/-- How text is escaped. -/
structure EscapeStyle where
  singleQuote : Bool
  doubleQuote : Bool
  combining : Bool
  deriving DecidableEq, Repr

/-- A character by its number: `\u`, and the hexadecimal digits in braces. -/
def numberEscape (c : Char) : List Char :=
  '\\' :: 'u' :: '{' :: Nat.toDigits 16 c.toNat ++ ['}']

/-- A character in a style. -/
def escapeChar (style : EscapeStyle) (c : Char) (print : PrintRules := .unicode) : List Char :=
  if c = '\x00' then ['\\', '0']
  else if c = '\t' then ['\\', 't']
  else if c = '\r' then ['\\', 'r']
  else if c = '\n' then ['\\', 'n']
  else if c = '\\' then ['\\', '\\']
  else if c = '"' ∧ style.doubleQuote then ['\\', '"']
  else if c = '\'' ∧ style.singleQuote then ['\\', '\'']
  else if style.combining && print.combining c then numberEscape c
  else if print.unprintable c then numberEscape c
  else [c]

/-- The style inside the quotes of a string literal. -/
def EscapeStyle.literal : EscapeStyle := ⟨false, true, true⟩

/-- The style of escaped text; `first` holds for its first character. -/
def EscapeStyle.bare (first : Bool) : EscapeStyle := ⟨true, true, first⟩

/-- A string literal of Rust source. -/
def rustLiteral (text : String) (print : PrintRules := .unicode) : String :=
  String.ofList ('"' :: text.toList.flatMap (escapeChar .literal · print) ++ ['"'])

/-- A text escaped so that it stays on its line. -/
def rustEscaped (text : String) (print : PrintRules := .unicode) : String :=
  match text.toList with
  | [] => ""
  | c :: rest =>
    String.ofList
      (escapeChar (.bare true) c print ++ rest.flatMap (escapeChar (.bare false) · print))

end KeyTree
