import KeyTree.NameMap
import KeyTree.Decimal.Written

/-!
# `KeyTree.Json.Basic`: JSON values and their text

`Json` is the tree that documents are read into and written from. The
fields of an object are a list; `Json.ofFields` puts them into name order
and lets the last of several fields of one name stand, which is how
readers build objects. Writing keeps the order of the list.

Two forms are written: `Json.compact` without blanks and `Json.pretty`
with one item or field to a line and two blanks for each level.
-/

set_option autoImplicit false

namespace KeyTree

/-- A JSON number: a whole number between the least signed and the
greatest unsigned number of 64 bits, or a double. -/
inductive JsonNumber where
  | integer (n : Int)
  | double (x : Double)
  deriving DecidableEq, Repr

/-- A JSON value. -/
inductive Json where
  | null
  | boolean (b : Bool)
  | number (n : JsonNumber)
  | text (s : String)
  | array (items : List Json)
  | object (fields : List (String × Json))
  deriving Repr

instance : Inhabited Json := ⟨.null⟩

/-- JSON writes a double with the fewest digits that read back: in
position from a hundred-thousandth to below ten to the sixteenth, whole
numbers with a point, all others with a signed power of ten. -/
def DecimalStyle.json : DecimalStyle := ⟨some (-5, 16), true⟩

/-- The text of a number. What is no finite number has none and is
written as null. -/
def JsonNumber.written : JsonNumber → String
  | integer n => integerText n
  | double x =>
    match x.value with
    | .finite negative significand exponent =>
      (shortest .double .even negative significand exponent).written .json
    | _ => "null"

/-- The lower-case hexadecimal digits of a number, padded with zeros to a
width. -/
def hexDigits (width n : Nat) : List Char :=
  let digits := Nat.toDigits 16 n
  List.replicate (width - digits.length) '0' ++ digits

namespace Json

/-! ### Quoted text -/

/-- One character inside quotes: quotes, backslashes and control
characters are escaped, all else stands as it is. -/
def quotedChar (c : Char) : List Char :=
  if c = '"' then ['\\', '"']
  else if c = '\\' then ['\\', '\\']
  else if c = '\x08' then ['\\', 'b']
  else if c = '\x0c' then ['\\', 'f']
  else if c = '\n' then ['\\', 'n']
  else if c = '\r' then ['\\', 'r']
  else if c = '\t' then ['\\', 't']
  else if c.toNat < 0x20 then '\\' :: 'u' :: hexDigits 4 c.toNat
  else [c]

/-- A text in quotes. -/
def quoted (s : String) : List Char :=
  '"' :: s.toList.flatMap quotedChar ++ ['"']

/-! ### Writing -/

mutual

/-- A value without blanks. -/
def compactChars : Json → List Char
  | .null => "null".toList
  | .boolean true => "true".toList
  | .boolean false => "false".toList
  | .number n => n.written.toList
  | .text s => quoted s
  | .array items => '[' :: compactItems true items ++ [']']
  | .object fields => '{' :: compactFields true fields ++ ['}']
termination_by structural value => value

/-- Items with commas between them; `first` tells that none came before. -/
def compactItems (first : Bool) : List Json → List Char
  | [] => []
  | item :: rest =>
    (if first then [] else [',']) ++ compactChars item ++ compactItems false rest
termination_by structural items => items

/-- Fields with commas between them. -/
def compactFields (first : Bool) : List (String × Json) → List Char
  | [] => []
  | (name, value) :: rest =>
    (if first then [] else [',']) ++ quoted name ++ ':' :: compactChars value
      ++ compactFields false rest
termination_by structural fields => fields

end

/-- A value without blanks. -/
def compact (value : Json) : String := String.ofList (compactChars value)

/-- A new line, indented for the given level. -/
def newLine (level : Nat) : List Char := '\n' :: List.replicate (2 * level) ' '

mutual

/-- A value over several lines; empty arrays and objects stay on one. -/
def prettyChars (level : Nat) : Json → List Char
  | .null => "null".toList
  | .boolean true => "true".toList
  | .boolean false => "false".toList
  | .number n => n.written.toList
  | .text s => quoted s
  | .array [] => ['[', ']']
  | .array (item :: rest) =>
    '[' :: newLine (level + 1) ++ prettyChars (level + 1) item
      ++ prettyItems (level + 1) rest ++ newLine level ++ [']']
  | .object [] => ['{', '}']
  | .object ((name, value) :: rest) =>
    '{' :: newLine (level + 1) ++ quoted name ++ ':' :: ' ' ::
      prettyChars (level + 1) value ++ prettyFields (level + 1) rest
      ++ newLine level ++ ['}']
termination_by structural value => value

/-- Further items, each behind a comma and on its own line. -/
def prettyItems (level : Nat) : List Json → List Char
  | [] => []
  | item :: rest => ',' :: newLine level ++ prettyChars level item ++ prettyItems level rest
termination_by structural items => items

/-- Further fields, each behind a comma and on its own line. -/
def prettyFields (level : Nat) : List (String × Json) → List Char
  | [] => []
  | (name, value) :: rest =>
    ',' :: newLine level ++ quoted name ++ ':' :: ' ' :: prettyChars level value
      ++ prettyFields level rest
termination_by structural fields => fields

end

/-- A value over several lines, two blanks to a level. -/
def pretty (value : Json) : String := String.ofList (prettyChars 0 value)

/-! ### Objects -/

/-- The object of some fields: in name order, the last of one name. -/
def ofFields (fields : List (String × Json)) : Json := .object (insertAllNamed fields)

/-- The value of a field, if the value is an object that has it. -/
def field? : Json → String → Option Json
  | .object fields, name => fields.lookup name
  | _, _ => none

end Json

end KeyTree
