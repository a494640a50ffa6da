/-!
# `KeyTree.Yaml.Cursor`: a place in a YAML text

YAML gives meaning to lines and columns, so a text is read through a
`Cursor`, which knows both. Line breaks are made uniform first
(`unifyBreaks`): after that a break is a single character, a line feed or
one of the two Unicode separators, which stay themselves inside scalars.

A `Gap` is what stands between two words of a scalar. `Gap.joined` is what
becomes of it: blanks stay, one line break becomes a blank, and of several
the first is left out.
-/

set_option autoImplicit false

namespace KeyTree.Yaml

/-! ### Characters -/

/-- Whether a YAML text may hold the character. -/
def isAllowed (c : Char) : Bool :=
  let n := c.toNat
  n = 0x09 || n = 0x0A || n = 0x0D || (0x20 ≤ n && n ≤ 0x7E) || n = 0x85
    || (0xA0 ≤ n && n ≤ 0xD7FF) || (0xE000 ≤ n && n ≤ 0xFFFD) || 0x10000 ≤ n

/-- Every ordinary line break as a line feed: a carriage return with or
without one, and the next-line character. -/
def unifyBreaks : List Char → List Char
  | [] => []
  | '\r' :: '\n' :: rest => '\n' :: unifyBreaks rest
  | c :: rest => (if c = '\r' ∨ c = '\u0085' then '\n' else c) :: unifyBreaks rest

/-- A line break of a text with uniform breaks. -/
def isBreak (c : Char) : Bool := c = '\n' || c = '\u2028' || c = '\u2029'

/-- A blank inside a line. -/
def isBlank (c : Char) : Bool := c = ' ' || c = '\t'

/-- A character of names: of anchors, tag handles and directives. -/
def isNameChar (c : Char) : Bool := c.isAlphanum || c = '_' || c = '-'

/-- Whether a text ends here, or goes on with a blank or a break. -/
def isSpaced : List Char → Bool
  | [] => true
  | c :: _ => isBlank c || isBreak c

/-! ### Places -/

/-- A place in a text with uniform breaks. -/
structure Cursor where
  line : Nat
  /-- The characters of the line before this place. -/
  column : Nat
  /-- The same, counted in octets. -/
  octets : Nat
  /-- The text from here on. -/
  rest : List Char
  deriving Repr

namespace Cursor

/-- The start of a text. -/
def ofText (text : String) : Cursor := ⟨0, 0, 0, unifyBreaks text.toList⟩

/-- One character on. -/
def next (cursor : Cursor) : Cursor :=
  match cursor.rest with
  | [] => cursor
  | c :: rest =>
    if isBreak c then ⟨cursor.line + 1, 0, 0, rest⟩
    else ⟨cursor.line, cursor.column + 1, cursor.octets + c.utf8Size, rest⟩

/-- Some characters on. -/
def advance (cursor : Cursor) : Nat → Cursor
  | 0 => cursor
  | n + 1 => cursor.next.advance n

/-- To where only `rest` is left, further on in the same line. -/
def onLine (cursor : Cursor) (rest : List Char) : Cursor :=
  let passed := cursor.rest.take (cursor.rest.length - rest.length)
  ⟨cursor.line, cursor.column + passed.length,
    cursor.octets + (String.ofList passed).utf8ByteSize, rest⟩

/-- The characters from here on that pass a test, and the place behind
them. -/
def span (cursor : Cursor) (test : Char → Bool) : List Char × Cursor :=
  let found := cursor.rest.takeWhile test
  (found, cursor.advance found.length)

/-- Past all characters that pass a test. -/
def skip (cursor : Cursor) (test : Char → Bool) : Cursor := (cursor.span test).2

/-- The character here. -/
def head? (cursor : Cursor) : Option Char := cursor.rest.head?

/-- Whether the line, and perhaps the text, ends here. -/
def atLineEnd (cursor : Cursor) : Bool := cursor.head?.all isBreak

/-- Past a mark of the byte order at the start of a line: it belongs to no
token, but takes a column. -/
def skipOrderMark (cursor : Cursor) : Cursor :=
  if cursor.column = 0 && cursor.head? = some '\uFEFF' then cursor.next else cursor

/-- Whether the line holds three of a character here, and no more of a
word. -/
def atTriple (cursor : Cursor) (c : Char) : Bool :=
  cursor.column = 0 && cursor.rest.take 3 = [c, c, c] && isSpaced (cursor.rest.drop 3)

/-- Whether a line starts here that starts or ends a document. -/
def atDocumentMark (cursor : Cursor) : Bool := cursor.atTriple '-' || cursor.atTriple '.'

/-- Past blanks and a comment; only the end of the line may follow, and is
passed too. -/
def endLine? (cursor : Cursor) : Option Cursor :=
  let cursor := cursor.skip isBlank
  let cursor := if cursor.head? = some '#' then cursor.skip (! isBreak ·) else cursor
  if cursor.atLineEnd then some cursor.next else none

end Cursor

/-! ### Gaps -/

/-- What stands between two words: blanks in the line of the first, and the
breaks. Blanks at the start of the lines after that do not count. -/
structure Gap where
  blanks : List Char
  breaks : List Char
  deriving Repr

namespace Gap

/-- Whether the words are not apart. -/
def isEmpty (gap : Gap) : Bool := gap.blanks.isEmpty && gap.breaks.isEmpty

/-- Whether the second word is on a line of its own. -/
def isBroken (gap : Gap) : Bool := ! gap.breaks.isEmpty

/-- The text that joins the words. -/
def joined (gap : Gap) : List Char :=
  match gap.breaks with
  | [] => gap.blanks
  | ['\n'] => [' ']
  | '\n' :: others => others
  | breaks => breaks

end Gap

/-- Whether a tab stands left of a column on one of the lines after the
first. -/
def tabLeftOf (limit : Nat) : Option Nat → List Char → Bool
  | _, [] => false
  | column, c :: rest =>
    if isBreak c then tabLeftOf limit (some 0) rest
    else (c == '\t' && column.any (· < limit)) || tabLeftOf limit (column.map (· + 1)) rest

/-- The gap from here on, and the place behind it. -/
def Cursor.gap (cursor : Cursor) : Gap × Cursor :=
  let (run, after) := cursor.span fun c => isBlank c || isBreak c
  (⟨run.takeWhile isBlank, run.filter isBreak⟩, after)

end KeyTree.Yaml
