import KeyTree.Yaml.Cursor
import KeyTree.Decimal.Read

/-!
# `KeyTree.Yaml.Tag`: tags and directives

A tag names the type of a node. It is written with a handle, which stands
for the start of the tag, or in full in angle brackets. What handles stand
for is said by `%TAG` directives at the start of a document, but for the
two that are always there (`TagHandle.standing`).

Octets can be written as `%` with two digits, so a tag is a list of octets
that need not be a text.
-/

set_option autoImplicit false

namespace KeyTree.Yaml

/-- A tag, or a part of one. -/
abbrev Tag := List UInt8

namespace Tag

/-- The tag with a text. -/
def ofText (text : String) : Tag := text.toUTF8.toList

/-- What the tags of the standard types start with. -/
def standard : Tag := ofText "tag:yaml.org,2002:"

/-- The standard tag of a name. -/
def named (name : String) : Tag := standard ++ ofText name

/-- The mark that starts local tags, and is one itself. -/
def mark : Tag := ofText "!"

/-- What counts of a tag: an octet of zero ends it. -/
def upToZero (tag : Tag) : Tag := tag.takeWhile (· ≠ 0)

/-- Whether a tag is local: a document gives it its meaning, and its octets
are a text. -/
def isLocal (tag : Tag) : Bool :=
  tag.take 1 = mark && (ByteArray.mk tag.toArray).validateUTF8

end Tag

/-! ### The text of tags -/

/-- Whether a character may stand for itself in a tag. Commas and brackets
may where something else marks the end. -/
def isTagChar (bracketed : Bool) (c : Char) : Bool :=
  isNameChar c || ";/?:@&=+$.!~*'()".toList.contains c || (bracketed && ",[]".toList.contains c)

/-- An octet written with two hexadecimal digits. -/
def readOctet? : List Char → Option (UInt8 × List Char)
  | '%' :: a :: b :: rest => (readDigits? 16 [a, b]).map fun n => (UInt8.ofNat n, rest)
  | _ => none

/-- How many octets a character takes that starts with this one. -/
def octetCount? (first : UInt8) : Option Nat :=
  if first < 0x80 then some 1
  else if 0xC0 ≤ first && first < 0xE0 then some 2
  else if 0xE0 ≤ first && first < 0xF0 then some 3
  else if 0xF0 ≤ first && first < 0xF8 then some 4
  else none

/-- Some further octets of a character. -/
def readTrailing? : Nat → List Char → Option (Tag × List Char)
  | 0, text => some ([], text)
  | n + 1, text => do
    let (octet, rest) ← readOctet? text
    if 0x80 ≤ octet && octet < 0xC0 then
      let (more, rest) ← readTrailing? n rest
      some (octet :: more, rest)
    else none

/-- The octets of a character that is written by number. -/
def readOctets? (text : List Char) : Option (Tag × List Char) := do
  let (first, rest) ← readOctet? text
  let (more, rest) ← readTrailing? ((← octetCount? first) - 1) rest
  some (first :: more, rest)

/-- The part of a tag at the start of a text; the fuel is its length. -/
def readTagText? (bracketed : Bool) : Nat → List Char → Option (Tag × List Char)
  | 0, text => some ([], text)
  | _, [] => some ([], [])
  | fuel + 1, c :: rest =>
    if c = '%' then do
      let (octets, rest) ← readOctets? (c :: rest)
      let (more, rest) ← readTagText? bracketed fuel rest
      some (octets ++ more, rest)
    else if isTagChar bracketed c then do
      let (more, rest) ← readTagText? bracketed fuel rest
      some (Tag.ofText c.toString ++ more, rest)
    else some ([], c :: rest)

/-- A part of a tag that is not empty. -/
def readTagPart? (bracketed : Bool) (text : List Char) : Option (Tag × List Char) := do
  let (tag, rest) ← readTagText? bracketed text.length text
  if tag.isEmpty then none else some (tag.upToZero, rest)

/-- What starts a tag: an exclamation mark and a name, which a second mark
may close. -/
def readHandle? : List Char → Option (List Char × List Char)
  | '!' :: rest =>
    let name := rest.takeWhile isNameChar
    match rest.drop name.length with
    | '!' :: rest => some ('!' :: name ++ ['!'], rest)
    | rest => some ('!' :: name, rest)
  | _ => none

/-! ### Tags of nodes -/

/-- A tag as it is written: a handle, empty for none, and the rest. -/
structure TagText where
  handle : String
  suffix : Tag
  deriving DecidableEq, Repr

/-- The tag at the start of a text. -/
def readTag? (text : List Char) : Option (TagText × List Char) :=
  match text with
  | '!' :: '<' :: rest => do
    let (suffix, rest) ← readTagPart? true rest
    match rest with
    | '>' :: rest => some (⟨"", suffix⟩, rest)
    | _ => none
  | _ => do
    let (handle, rest) ← readHandle? text
    if 1 < handle.length ∧ handle.getLast? = some '!' then
      let (suffix, rest) ← readTagPart? false rest
      some (⟨String.ofList handle, suffix⟩, rest)
    else
      let (more, rest) ← readTagText? false rest.length rest
      let suffix := (Tag.ofText (String.ofList (handle.drop 1)) ++ more).upToZero
      some (if suffix.isEmpty then ⟨"", Tag.mark⟩ else ⟨"!", suffix⟩, rest)

/-! ### Directives -/

/-- A handle and what it stands for. -/
structure TagHandle where
  handle : String
  start : Tag
  deriving DecidableEq, Repr

/-- The handles that need no directive. -/
def TagHandle.standing : List TagHandle :=
  [⟨"!", Tag.mark⟩, ⟨"!!", Tag.standard⟩]

/-- The tag that is written, if its handle is known. -/
def TagText.resolve? (written : TagText) (handles : List TagHandle) : Option Tag :=
  if written.handle = "" then some written.suffix
  else (handles.find? (·.handle = written.handle)).map (·.start ++ written.suffix)

/-- An instruction at the start of a document. -/
inductive Directive where
  | version (major minor : Nat)
  | handle (declared : TagHandle)
  deriving DecidableEq, Repr

/-- A number of at most nine digits. -/
def readShortNumber? (text : List Char) : Option (Nat × List Char) := do
  let digits := text.takeWhile Char.isDigit
  if 9 < digits.length then none
  else some (← readDigits? 10 digits, text.drop digits.length)

/-- The directive at the start of a text, behind its percent sign. -/
def readDirective? (text : List Char) : Option (Directive × List Char) := do
  let name := text.takeWhile isNameChar
  let rest := text.drop name.length
  if ! isSpaced rest then none
  else
    let rest := rest.dropWhile isBlank
    if name = "YAML".toList then
      let (major, rest) ← readShortNumber? rest
      match rest with
      | '.' :: rest =>
        let (minor, rest) ← readShortNumber? rest
        some (.version major minor, rest)
      | _ => none
    else if name = "TAG".toList then
      let (handle, rest) ← readHandle? rest
      if handle.length ≠ 1 ∧ handle.getLast? ≠ some '!' then none
      else
        match rest with
        | [] => none
        | c :: _ =>
          if isBlank c then
            let (start, rest) ← readTagPart? true (rest.dropWhile isBlank)
            if isSpaced rest then some (.handle ⟨String.ofList handle, start⟩, rest) else none
          else none
    else none

end KeyTree.Yaml
