import KeyTree.Yaml.Cursor
import KeyTree.Decimal.Read

/-!
# `KeyTree.Yaml.Scalar`: the text of scalars

Scalars are written plain, in single or double quotes, or as a block of
lines. Each reader here starts at the first character of the scalar and
answers its text and the place behind it, or nothing if it is malformed.

- Words of plain and quoted scalars may stand on several lines, with a
  `Gap` between them.
- A block holds the lines behind its header that are indented deep enough;
  a folded one joins lines that start with no blank.
-/

set_option autoImplicit false

namespace KeyTree.Yaml

/-- Puts text in front of a result. -/
def prepend {α : Type} (chars : List Char) : Option (List Char × α) → Option (List Char × α) :=
  Option.map fun (text, more) => (chars ++ text, more)

/-! ### Quoted -/

/-- The character a one-letter escape stands for. -/
def escaped? (c : Char) : Option Char :=
  [('0', '\x00'), ('a', '\x07'), ('b', '\x08'), ('t', '\t'), ('\t', '\t'), ('n', '\n'),
    ('v', '\x0b'), ('f', '\x0c'), ('r', '\r'), ('e', '\x1b'), (' ', ' '), ('"', '"'),
    ('/', '/'), ('\\', '\\'), ('N', '\u0085'), ('_', '\u00a0'), ('L', '\u2028'),
    ('P', '\u2029')].lookup c

/-- How many hexadecimal digits follow the letter of an escape by number. -/
def escapeWidth? (c : Char) : Option Nat :=
  [('x', 2), ('u', 4), ('U', 8)].lookup c

/-- The character of an escape, of which the backslash has been taken, and
the length of what names it. Halves of surrogate pairs are no characters. -/
def readEscape? : List Char → Option (Char × Nat)
  | [] => none
  | c :: rest =>
    match escapeWidth? c with
    | none => (escaped? c).map (·, 1)
    | some width => do
      let n ← if rest.length < width then none else readDigits? 16 (rest.take width)
      if h : n.isValidChar then some (Char.ofNatAux n h, 1 + width) else none

/-- The quotes of a scalar. -/
inductive Quote where
  | single
  | double
  deriving DecidableEq, Repr

/-- The character that opens and closes. -/
def Quote.char : Quote → Char
  | single => '\''
  | double => '"'

/-- The rest of a quoted scalar; the fuel is the length of the text. In
single quotes a quote is written twice, in double quotes a backslash
escapes. An escaped line break joins words without a blank. -/
def readQuotedFrom? (quote : Quote) : Nat → Cursor → Option (List Char × Cursor)
  | 0, _ => none
  | fuel + 1, cursor =>
    let behindGap (text : List Char) (cursor : Cursor) :=
      if cursor.atDocumentMark then none else prepend text (readQuotedFrom? quote fuel cursor)
    match cursor.rest with
    | [] => none
    | c :: rest =>
      if isBlank c || isBreak c then
        let (gap, after) := cursor.gap
        behindGap gap.joined after
      else if c = quote.char then
        if quote = .single && rest.head? = some '\'' then
          prepend ['\''] (readQuotedFrom? quote fuel (cursor.advance 2))
        else some ([], cursor.next)
      else if quote = .double && c = '\\' then
        if rest.head?.any isBreak then
          let (gap, after) := (cursor.advance 2).gap
          behindGap gap.breaks after
        else do
          let (e, length) ← readEscape? rest
          prepend [e] (readQuotedFrom? quote fuel (cursor.advance (1 + length)))
      else prepend [c] (readQuotedFrom? quote fuel cursor.next)

/-- A quoted scalar, from its first quote on. -/
def readQuoted? (quote : Quote) (cursor : Cursor) : Option (List Char × Cursor) :=
  readQuotedFrom? quote cursor.rest.length cursor.next

/-! ### Plain -/

/-- Whether a character ends plain scalars in brackets. -/
def isFlowMark (c : Char) : Bool := c = ',' || c = '[' || c = ']' || c = '{' || c = '}'

/-- The word of a plain scalar at the start of a text. A colon with space
behind it ends the word; in brackets, a bracket or comma does, and they may
not follow a colon. -/
def plainWord? (inFlow : Bool) : List Char → Option (List Char)
  | [] => some []
  | c :: rest =>
    if isBlank c || isBreak c then some []
    else if inFlow && c = ':' && rest.head?.any (fun d => isFlowMark d || d = '?') then none
    else if (c = ':' && isSpaced rest) || (inFlow && isFlowMark c) then some []
    else (plainWord? inFlow rest).map (c :: ·)

/-- What was read as a plain scalar. -/
structure PlainText where
  text : List Char
  /-- Whether a line break follows, which belongs to no scalar. -/
  breaksAfter : Bool
  /-- The place behind the scalar and the blanks and breaks that follow. -/
  after : Cursor

/-- The words of a plain scalar from here on; the fuel is the length of the
text. Outside of brackets, words on further lines have to be at the column
`limit` or right of it, and no tab may stand left of that. -/
def readPlainFrom? (inFlow : Bool) (limit : Nat) : Nat → Cursor → Option PlainText
  | 0, cursor => some ⟨[], false, cursor⟩
  | fuel + 1, cursor =>
    if cursor.atDocumentMark || cursor.head? = some '#' then some ⟨[], false, cursor⟩
    else do
      let word ← plainWord? inFlow cursor.rest
      if word.isEmpty then some ⟨[], false, cursor⟩
      else
        let behind := cursor.advance word.length
        let (gap, after) := behind.gap
        if gap.isEmpty then some ⟨word, false, after⟩
        else if tabLeftOf limit none (behind.rest.takeWhile fun c => isBlank c || isBreak c) then
          none
        else if ! inFlow && after.column < limit then some ⟨word, gap.isBroken, after⟩
        else do
          let more ← readPlainFrom? inFlow limit fuel after
          if more.text.isEmpty then some ⟨word, gap.isBroken, more.after⟩
          else some { more with text := word ++ gap.joined ++ more.text }

/-- A plain scalar. -/
def readPlain? (inFlow : Bool) (limit : Nat) (cursor : Cursor) : Option PlainText :=
  readPlainFrom? inFlow limit cursor.rest.length cursor

/-! ### Blocks -/

/-- What becomes of the line breaks at the end of a block. -/
inductive Chomping where
  /-- All stay. -/
  | keep
  /-- The first stays. -/
  | clip
  /-- None stays. -/
  | strip
  deriving DecidableEq, Repr

/-- The sign that asks for keeping or stripping. -/
def chomping? (c : Char) : Option Chomping :=
  if c = '+' then some .keep else if c = '-' then some .strip else none

/-- The depth that a block may be given, from one to nine. -/
def depth? (c : Char) : Option Nat :=
  if '1' ≤ c ∧ c ≤ '9' then digitValue? c else none

/-- The header of a block behind its first character: a sign and a depth,
both optional, in either order. -/
def readHeader? (cursor : Cursor) : Option (Chomping × Option Nat × Cursor) := do
  let sign (cursor : Cursor) := match cursor.head?.bind chomping? with
    | some chomping => (chomping, cursor.next)
    | none => (.clip, cursor)
  let depth (cursor : Cursor) := match cursor.head?.bind depth? with
    | some depth => (some depth, cursor.next)
    | none => (none, cursor)
  if cursor.head?.any fun c => (chomping? c).isSome then
    let (chomping, cursor) := sign cursor
    let (depth, cursor) := depth cursor
    some (chomping, depth, ← cursor.endLine?)
  else
    let (depth, cursor) := depth cursor
    let (chomping, cursor) := if depth.isSome then sign cursor else (.clip, cursor)
    some (chomping, depth, ← cursor.endLine?)

/-- Passes the indentation of a line and all lines that hold nothing else.
Answers the breaks passed, the place, and the greatest column seen. Without
an indentation that is wanted, all blanks belong to it. A tab cannot. -/
def skipEmptyLines? (indent : Option Nat) :
    Nat → Nat → Cursor → Option (List Char × Nat × Cursor)
  | 0, _, _ => none
  | fuel + 1, deepest, cursor =>
    let blanks := (cursor.rest.takeWhile (· = ' ')).length
    let after := cursor.advance (match indent with
      | none => blanks
      | some column => min blanks (column - cursor.column))
    let deepest := max deepest after.column
    if indent.all (after.column < ·) && after.head? = some '\t' then none
    else match after.rest with
      | [] => some ([], deepest, after)
      | c :: _ =>
        if isBreak c then prepend [c] (skipEmptyLines? indent fuel deepest after.next)
        else some ([], deepest, after)

/-- Where a block stands while its lines are read. -/
structure BlockState where
  /-- The break behind the last line. -/
  lastBreak : List Char
  /-- The breaks of empty lines after it. -/
  emptyLines : List Char
  /-- Whether the last line starts with a blank. -/
  startsBlank : Bool
  place : Cursor

/-- The lines of a block; the fuel is the length of the text. In a folded
block one break between lines that start with no blank becomes a blank, and
of several the first is left out. -/
def readLines? (folded : Bool) (indent : Nat) :
    Nat → BlockState → Option (List Char × BlockState)
  | 0, _ => none
  | fuel + 1, state =>
    match state.place.rest with
    | [] => some ([], state)
    | c :: _ =>
      if state.place.column ≠ indent then some ([], state)
      else do
        let blank := isBlank c
        let joined :=
          if folded && state.lastBreak = ['\n'] && ! state.startsBlank && ! blank then
            (if state.emptyLines.isEmpty then [' '] else [])
          else state.lastBreak
        let (line, behind) := state.place.span (! isBreak ·)
        let (empty, _, place) ← skipEmptyLines? (some indent) (behind.rest.length + 1) 0 behind.next
        prepend (joined ++ state.emptyLines ++ line)
          (readLines? folded indent fuel ⟨behind.rest.take 1, empty, blank, place⟩)

/-- A block, from its first character on. Its lines are deeper than
`outer`, the column of the collection around it, if there is one: as deep as
the header says, or as the deepest of the empty lines and the first other. -/
def readBlock? (folded : Bool) (outer : Option Nat) (cursor : Cursor) :
    Option (List Char × Cursor) := do
  let (chomping, depth, start) ← readHeader? cursor.next
  let given := depth.map (· + outer.getD 0)
  let (empty, deepest, place) ← skipEmptyLines? given (start.rest.length + 1) 0 start
  let indent := given.getD (max (max deepest 1) (outer.map (· + 1) |>.getD 0))
  let (text, last) ←
    readLines? folded indent (start.rest.length + 1) ⟨[], empty, false, place⟩
  let tail := match chomping with
    | .strip => []
    | .clip => last.lastBreak
    | .keep => last.lastBreak ++ last.emptyLines
  some (text ++ tail, last.place)

end KeyTree.Yaml
