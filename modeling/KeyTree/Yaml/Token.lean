import KeyTree.Yaml.Scalar
import KeyTree.Yaml.Tag

/-!
# `KeyTree.Yaml.Token`: YAML text as tokens

`Token.scan` cuts a YAML text into tokens. Indentation becomes tokens too:
a collection opens where its first item is deeper than what is around it and
closes with the first line that is less deep.

That a node is the key of a mapping shows only behind it, at a colon. So
each token has a slot, and when the colon is found the slot of the node
before it gets a key token in front, and an opening token if the mapping
starts there. Such a key has to end in the line where it starts and not
too far from there (`keyReach`).
-/

set_option autoImplicit false

namespace KeyTree.Yaml

/-- A token of a YAML text. The end of the text has none. -/
inductive Token where
  | directive (d : Directive)
  | documentStart
  | documentEnd
  | openBlockSequence
  | openBlockMapping
  | closeBlock
  | openSequence
  | closeSequence
  | openMapping
  | closeMapping
  /-- A dash in front of an item. -/
  | item
  /-- A comma between items. -/
  | comma
  /-- What follows is a key. -/
  | key
  /-- What follows is the value of a key. -/
  | value
  | alias (name : String)
  | anchor (name : String)
  | tag (written : TagText)
  | scalar (plain : Bool) (text : String)
  deriving DecidableEq, Repr

/-- How far behind its start the colon of a key may stand in a line, counted
in octets. -/
def keyReach : Nat := 1024

/-- The start of a node that may turn out to be a key. -/
structure KeyStart where
  /-- The slot of the node's first token. -/
  slot : Nat
  line : Nat
  column : Nat
  octets : Nat
  /-- Whether nothing but a key can stand there. -/
  required : Bool
  deriving Repr

/-- Whether a key that starts somewhere may not go on to a place. -/
def KeyStart.isStale (start : KeyStart) (place : Cursor) : Bool :=
  start.line < place.line || start.octets + keyReach < place.octets

/-- Where the cutting of a text stands. -/
structure Scanner where
  place : Cursor
  /-- The slots filled so far, each with the tokens that stand there. -/
  slots : Array (List Token)
  /-- The columns of the open block collections, from the innermost on. -/
  indents : List Nat
  /-- The start of what may be a key, if there is one. -/
  candidate : Option KeyStart
  /-- The same for what is around each open bracket, from the innermost on. -/
  outer : List (Option KeyStart)
  /-- Whether a key may start here. -/
  keyAllowed : Bool

/-- Cutting a text fails at the first malformed token. -/
abbrev Scan := StateT Scanner Option

namespace Scanner

/-- Whether the place is inside brackets. -/
def inFlow (scanner : Scanner) : Bool := ! scanner.outer.isEmpty

/-- The column of the innermost block collection. -/
def indent? (scanner : Scanner) : Option Nat := scanner.indents.head?

end Scanner

namespace Scan

/-- Takes a further token. -/
def emit (token : Token) : Scan Unit :=
  modify fun s => { s with slots := s.slots.push [token] }

/-- Goes on at a place. -/
def moveTo (place : Cursor) : Scan Unit := modify fun s => { s with place }

/-- Says whether a key may start next. -/
def allowKey (keyAllowed : Bool) : Scan Unit := modify fun s => { s with keyAllowed }

/-! ### Keys -/

/-- Gives up the start of a key; a required one must not be. -/
def dropCandidate : Scan Unit := do
  let s ← get
  if s.candidate.any (·.required) then failure
  set { s with candidate := none }

/-- Gives up the start of a key that would be too long. What stands around
brackets has its turn when they are closed. -/
def dropStale : Scan Unit := do
  let s ← get
  if s.candidate.any (·.isStale s.place) then dropCandidate

/-- Notes that a key may start here. -/
def noteCandidate : Scan Unit := do
  let s ← get
  if s.keyAllowed then
    dropCandidate
    let required := ! s.inFlow && s.indent? = some s.place.column
    modify fun s =>
      let place := s.place
      { s with
        candidate := some ⟨s.slots.size, place.line, place.column, place.octets, required⟩ }

/-! ### Indentation -/

/-- Closes the block collections that are deeper than a column; all of them
if none is given. -/
def closeBlocks (column : Option Nat) : Scan Unit := do
  let s ← get
  if ! s.inFlow then
    let closed := s.indents.takeWhile fun indent => column.all (· < indent)
    closed.forM fun _ => emit .closeBlock
    modify fun s => { s with indents := s.indents.drop closed.length }

/-- Opens a block collection at a column if none is open there. Answers
whether it did. -/
def openBlock (column : Nat) : Scan Bool := do
  let s ← get
  if ! s.inFlow && s.indent?.all (· < column) then
    set { s with indents := column :: s.indents }
    pure true
  else pure false

/-- Opens a block collection at this column with a token. -/
def openBlockHere (token : Token) : Scan Unit := do
  let s ← get
  if ! s.inFlow then
    if ! s.keyAllowed then failure
    if ← openBlock s.place.column then emit token

/-! ### Tokens -/

/-- A line that starts or ends a document, or gives a directive: it closes
all that is open. -/
def closeAll : Scan Unit := do
  closeBlocks none
  dropCandidate
  allowKey false

/-- A directive. -/
def directive : Scan Unit := do
  closeAll
  let place := (← get).place.next
  let (d, rest) ← readDirective? place.rest
  emit (.directive d)
  moveTo (← (place.onLine rest).endLine?)

/-- The line that starts or ends a document. -/
def documentMark (token : Token) : Scan Unit := do
  closeAll
  emit token
  moveTo ((← get).place.advance 3)

/-- A single character that is a token. -/
def mark (token : Token) : Scan Unit := do
  emit token
  moveTo (← get).place.next

/-- An opening bracket. -/
def openFlow (token : Token) : Scan Unit := do
  noteCandidate
  modify fun s => { s with candidate := none, outer := s.candidate :: s.outer }
  allowKey true
  mark token

/-- A closing bracket. -/
def closeFlow (token : Token) : Scan Unit := do
  dropCandidate
  modify fun s => match s.outer with
    | [] => s
    | candidate :: outer => { s with candidate, outer }
  allowKey false
  mark token

/-- A comma. -/
def comma : Scan Unit := do
  dropCandidate
  allowKey true
  mark .comma

/-- The dash of an item. -/
def item : Scan Unit := do
  openBlockHere .openBlockSequence
  dropCandidate
  allowKey true
  mark .item

/-- The question mark of a key. -/
def key : Scan Unit := do
  openBlockHere .openBlockMapping
  dropCandidate
  allowKey (! (← get).inFlow)
  mark .key

/-- The colon of a value: what stands before it becomes a key, if it may. -/
def value : Scan Unit := do
  let s ← get
  match s.candidate with
  | some start =>
    let opening := if ← openBlock start.column then [Token.openBlockMapping, .key] else [.key]
    modify fun s =>
      { s with slots := s.slots.modify start.slot (opening ++ ·), candidate := none }
    allowKey false
  | none =>
    openBlockHere .openBlockMapping
    allowKey (! s.inFlow)
  mark .value

/-- The name of an anchor, behind its first character. -/
def anchorName? (text : List Char) : Option (String × List Char) :=
  let name := text.takeWhile isNameChar
  let rest := text.drop name.length
  let ends := isSpaced rest || rest.head?.any fun c => "?:,]\x7d%@`".toList.contains c
  if name.isEmpty || ! ends then none else some (String.ofList name, rest)

/-- A node of one token, which may be a key. -/
def node (read : Scanner → Option (Token × Cursor)) : Scan Unit := do
  noteCandidate
  allowKey false
  let (token, place) ← read (← get)
  emit token
  moveTo place

/-- An anchor, or an alias for one. -/
def anchor (token : String → Token) : Scan Unit := node fun s => do
  let (name, rest) ← anchorName? (s.place.rest.drop 1)
  some (token name, s.place.onLine rest)

/-- A tag. In brackets a comma may follow it. -/
def tag : Scan Unit := node fun s => do
  let (written, rest) ← readTag? s.place.rest
  if isSpaced rest || (s.inFlow && rest.head? = some ',') then
    some (.tag written, s.place.onLine rest)
  else none

/-- A quoted scalar. -/
def quoted (quote : Quote) : Scan Unit := node fun s => do
  let (text, place) ← readQuoted? quote s.place
  some (.scalar false (String.ofList text), place)

/-- A plain scalar. -/
def plain : Scan Unit := do
  noteCandidate
  allowKey false
  let s ← get
  let read ← readPlain? s.inFlow (s.indent?.map (· + 1) |>.getD 0) s.place
  emit (.scalar true (String.ofList read.text))
  moveTo read.after
  if read.breaksAfter then allowKey true

/-- A block scalar. -/
def block (folded : Bool) : Scan Unit := do
  dropCandidate
  allowKey true
  let s ← get
  let (text, place) ← readBlock? folded s.indent? s.place
  emit (.scalar false (String.ofList text))
  moveTo place

/-- Whether a plain scalar can start with a character that has `rest` behind
it. -/
def startsPlain (inFlow : Bool) (c : Char) (rest : List Char) : Bool :=
  ! (isBlank c || isBreak c || "-?:,[]\x7b\x7d#&*!|>'\"%@`".toList.contains c)
    || (c = '-' && ! rest.head?.any isBlank)
    || (! inFlow && (c = '?' || c = ':') && ! isSpaced rest)

/-- Passes blanks, comments, line breaks and marks of the byte order; the
fuel is the length of the text. A tab is a blank where no key can start. -/
def skipSpace : Nat → Scanner → Scanner
  | 0, s => s
  | fuel + 1, s =>
    let place := s.place.skipOrderMark.skip fun c =>
      c = ' ' || (c = '\t' && (s.inFlow || ! s.keyAllowed))
    let place := if place.head? = some '#' then place.skip (! isBreak ·) else place
    if place.head?.any isBreak then
      skipSpace fuel { s with place := place.next, keyAllowed := s.keyAllowed || ! s.inFlow }
    else { s with place }

/-- The next token; false at the end of the text. The fuel is the length of
the text. -/
def step (fuel : Nat) : Scan Bool := do
  modify (skipSpace fuel)
  dropStale
  let s ← get
  closeBlocks (some s.place.column)
  match s.place.rest with
  | [] =>
    closeAll
    pure false
  | c :: rest =>
    if s.place.column = 0 && c = '%' then directive
    else if s.place.atTriple '-' then documentMark .documentStart
    else if s.place.atTriple '.' then documentMark .documentEnd
    else if c = '[' then openFlow .openSequence
    else if c = '{' then openFlow .openMapping
    else if c = ']' then closeFlow .closeSequence
    else if c = '}' then closeFlow .closeMapping
    else if c = ',' then comma
    else if c = '-' && isSpaced rest then item
    else if c = '?' && (s.inFlow || isSpaced rest) then key
    else if c = ':' && (s.inFlow || isSpaced rest) then value
    else if c = '*' then anchor .alias
    else if c = '&' then anchor .anchor
    else if c = '!' then tag
    else if c = '|' && ! s.inFlow then block false
    else if c = '>' && ! s.inFlow then block true
    else if c = '\'' then quoted .single
    else if c = '"' then quoted .double
    else if startsPlain s.inFlow c rest then plain
    else failure
    pure true

/-- All tokens of a text of a certain length, which is also the fuel. -/
def steps (length : Nat) : Nat → Scan Unit
  | 0 => failure
  | fuel + 1 => do if ← step length then steps length fuel

end Scan

/-- The tokens of a text. -/
def Token.scan (text : String) : Option (List Token) :=
  if ! text.toList.all isAllowed then none
  else do
    let start : Scanner := ⟨.ofText text, #[], [], none, [], true⟩
    let length := text.toList.length + 2
    let (_, last) ← (Scan.steps length length).run start
    some last.slots.toList.flatten

end KeyTree.Yaml
