import KeyTree.Yaml.Cursor
import KeyTree.Yaml.Word
import KeyTree.Json.Basic

/-!
# `KeyTree.Yaml.Written`: JSON values as YAML text

`Json.yaml` writes a value with one item or field to a line. Collections
are indented by two columns, but a sequence that is the value of a field
stands at the column of the field's name.

A text takes the first form of these that can hold it (`styleOf`): a
literal block if it has line feeds, plain if it reads back as a text, single
quotes, and double quotes.
-/

set_option autoImplicit false

namespace KeyTree.Yaml

/-! ### Forms of texts -/

/-- Whether a character may stand for itself in a written text. -/
def isPrintable (c : Char) : Bool :=
  let n := c.toNat
  n = 0x0A || (0x20 ≤ n && n ≤ 0x7E) || (0xA0 ≤ n && n ≤ 0xD7FF)
    || (0xE000 ≤ n && n ≤ 0xFFFD && n ≠ 0xFEFF) || 0x10000 ≤ n

/-- Whether a character would break a line if it stood for itself. -/
def breaksLine (c : Char) : Bool := isBreak c || c = '\r' || c = '\u0085'

/-- How a text is written. -/
inductive Style where
  | plain
  | single
  | double
  | literal
  deriving DecidableEq, Repr

/-- Whether a character that passes the first test stands next to one that
passes the second, in front of it. -/
def hasPair (first second : Char → Bool) : List Char → Bool
  | a :: b :: rest => (first a && second b) || hasPair first second (b :: rest)
  | _ => false

/-- Whether a text holds what would end a plain scalar: a colon with a space
behind it or at the end, or a comment. -/
def endsPlain (text : List Char) : Bool :=
  hasPair (· = ':') (· = ' ') text || text.getLast? = some ':'
    || hasPair (· = ' ') (· = '#') text

/-- Whether a text starts with what no plain scalar starts with. -/
def startsOtherwise (text : List Char) : Bool :=
  text.take 3 = ['-', '-', '-'] || text.take 3 = ['.', '.', '.']
    || text.head?.any (fun c => "#,[]\x7b\x7d&*!|>'\"%@`".toList.contains c)
    || (text.head?.any (fun c => "?:-".toList.contains c) && isSpaced (text.drop 1))

/-- Whether a text can be written plain. -/
def canBePlain (text : List Char) : Bool :=
  text.all isPrintable && ! text.any isBreak
    && text.head? ≠ some ' ' && text.getLast? ≠ some ' '
    && ! startsOtherwise text && ! endsPlain text

/-- Whether a text can be written in single quotes. -/
def canBeSingle (text : List Char) : Bool :=
  text.all isPrintable && ! hasPair isBreak (· = ' ') text && ! hasPair (· = ' ') isBreak text

/-- Whether a text can be written as a literal block. -/
def canBeLiteral (text : List Char) : Bool :=
  text.all isPrintable && ! hasPair (· = ' ') isBreak text && text.getLast? ≠ some ' '

/-- Whether a text read back as a plain scalar would be no text, or look
like a number. -/
def readsOtherwise (text : String) : Bool :=
  Word.ofText text ≠ .text || Word.hasLeadingZero text.toList

/-- The form of a text. -/
def styleOf (text : String) : Style :=
  let chars := text.toList
  if chars.contains '\n' then if canBeLiteral chars then .literal else .double
  else if ! readsOtherwise text && canBePlain chars then .plain
  else if canBeSingle chars then .single
  else .double

/-! ### Texts -/

/-- Blanks up to a column. -/
def indentation (column : Nat) : List Char := List.replicate column ' '

/-- Characters over several lines: each line that is not empty is indented.
The flag tells that a line starts here. -/
def indentedChars (column : Nat) (write : Char → List Char) : Bool → List Char → List Char
  | _, [] => []
  | fresh, c :: rest =>
    if isBreak c then c :: indentedChars column write true rest
    else (if fresh then indentation column else []) ++ write c
      ++ indentedChars column write false rest

/-- A character in single quotes. -/
def singleChar (c : Char) : List Char := if c = '\'' then ['\'', '\''] else [c]

/-- The letter of the escape for a character, if it has one. -/
def escapeLetter? (c : Char) : Option Char :=
  [('\x00', '0'), ('\x07', 'a'), ('\x08', 'b'), ('\t', 't'), ('\n', 'n'), ('\x0b', 'v'),
    ('\x0c', 'f'), ('\r', 'r'), ('\x1b', 'e'), ('"', '"'), ('\\', '\\'), ('\u0085', 'N'),
    ('\u2028', 'L'), ('\u2029', 'P')].lookup c

/-- A character in double quotes. -/
def doubleChar (c : Char) : List Char :=
  match escapeLetter? c with
  | some letter => ['\\', letter]
  | none =>
    if isPrintable c then [c]
    else
      let (letter, width) :=
        if c.toNat ≤ 0xFF then ('x', 2) else if c.toNat ≤ 0xFFFF then ('u', 4) else ('U', 8)
      '\\' :: letter :: (hexDigits width c.toNat).map Char.toUpper

/-- The header of a literal block: whether its first line starts with a
blank or is empty, and what becomes of the breaks at its end. -/
def literalHeader (text : List Char) : List Char :=
  let depth := if text.head?.any fun c => c = ' ' || isBreak c then ['2'] else []
  let chomping := match text.reverse with
    | last :: before =>
      if ! isBreak last then ['-'] else if before.head?.all isBreak then ['+'] else []
    | [] => ['-']
  '|' :: depth ++ chomping

/-- A text and the end of its line. Further lines start at `column`. -/
def textLines (column : Nat) (text : String) : List Char :=
  let chars := text.toList
  match styleOf text with
  | .plain => chars ++ ['\n']
  | .single =>
    let tail := if chars.getLast?.any isBreak then indentation column else []
    '\'' :: indentedChars column singleChar false chars ++ tail ++ ['\'', '\n']
  | .double => '"' :: chars.flatMap doubleChar ++ ['"', '\n']
  | .literal =>
    literalHeader chars ++ '\n' :: indentedChars column (fun c => [c]) true chars
      ++ (if chars.getLast?.any isBreak then [] else ['\n'])

/-- Whether a name can stand in front of its value in one line. -/
def isSimpleKey (name : String) : Bool :=
  ! name.toList.any breaksLine && name.utf8ByteSize ≤ 128

/-! ### Values -/

mutual

/-- A value behind the mark or name of the item or field it belongs to, up
to the end of its last line. That item or field stands at `column`; `here`
tells that a collection may start in the same line. -/
def valueLines (column : Nat) (here : Bool) : Json → List Char
  | .null => " null\n".toList
  | .boolean b => (if b then " true\n" else " false\n").toList
  | .number n => ' ' :: n.written.toList ++ ['\n']
  | .text s => ' ' :: textLines (column + 2) s
  | .array [] => " []\n".toList
  | .array (item :: rest) =>
    let place := if here then column + 2 else column
    (if here then ' ' else '\n') :: itemLines place here (item :: rest)
  | .object [] => " \x7b\x7d\n".toList
  | .object (field :: rest) =>
    (if here then ' ' else '\n') :: fieldLines (column + 2) here (field :: rest)
termination_by structural value => value

/-- Items at a column; `here` tells that the first needs no indentation. -/
def itemLines (column : Nat) (here : Bool) : List Json → List Char
  | [] => []
  | item :: rest =>
    (if here then [] else indentation column) ++ '-' :: valueLines column true item
      ++ itemLines column false rest
termination_by structural items => items

/-- Fields at a column; `here` tells that the first needs no indentation. -/
def fieldLines (column : Nat) (here : Bool) : List (String × Json) → List Char
  | [] => []
  | (name, value) :: rest =>
    let key := textLines (column + 2) name
    (if here then [] else indentation column)
      ++ (if isSimpleKey name then key.dropLast ++ ':' :: valueLines column false value
        else '?' :: ' ' :: key ++ indentation column ++ ':' :: valueLines column true value)
      ++ fieldLines column false rest
termination_by structural fields => fields

end

end KeyTree.Yaml

/-- A value as a YAML document. -/
def KeyTree.Json.yaml (value : Json) : String :=
  String.ofList <| match value with
    | .array (item :: rest) => Yaml.itemLines 0 true (item :: rest)
    | .object (field :: rest) => Yaml.fieldLines 0 true (field :: rest)
    | .text s => Yaml.textLines 2 s
    | _ => (Yaml.valueLines 0 true value).drop 1
