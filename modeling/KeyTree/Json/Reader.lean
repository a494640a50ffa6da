import KeyTree.Json.Token

/-!
# `KeyTree.Json.Reader`: reading tokens into values

A reader takes a value of one shape off a list of tokens, or tells the
first fault. Values of any shape are read by shifting tokens on a stack of
open arrays and objects (`Shift`), one step a token; the same steps skip a
value that is not wanted.

Records are read from objects, whose other fields are skipped, or from
arrays that hold the fields in their declared order (`Reader.record`).

Arrays and objects nest at most `depthLimit` deep; what is skipped may
nest to any depth.
-/

set_option autoImplicit false

namespace KeyTree.Json

/-- How deep arrays and objects may nest. -/
def depthLimit : Nat := 127

/-! ### Values of any shape -/

/-- An open array or object, with what it holds so far. -/
inductive Frame where
  /-- The items, the last one first. -/
  | array (items : List Json)
  /-- The fields, and the name of the one whose value is read. -/
  | object (fields : List (String × Json)) (name : String)

/-- What is expected next, and around it the open arrays and objects from
the innermost on. -/
inductive Shift where
  /-- Nothing: the value is complete. -/
  | done (value : Json)
  /-- A value. -/
  | value (stack : List Frame)
  /-- The first item of an array, or its end. -/
  | items (stack : List Frame)
  /-- The first name of an object, or its end. -/
  | fields (stack : List Frame)
  /-- A further name of an object with the given fields. -/
  | field (fields : List (String × Json)) (stack : List Frame)
  /-- The colon behind a name. -/
  | colon (fields : List (String × Json)) (name : String) (stack : List Frame)
  /-- A comma, or the end of the innermost array or object. -/
  | more (frame : Frame) (stack : List Frame)

/-- What a walk over a value makes of its tokens. -/
structure Reading where
  /-- How many arrays and objects may be open at once, if that is limited. -/
  limit : Option Nat
  /-- A single token as a value. -/
  scalar : Token → Except Fault Json
  /-- A single token as the name of a field. -/
  name : Token → Except Fault String

namespace Token

/-- A token that is a value of its own. -/
def scalar : Token → Except Fault Json
  | null => .ok .null
  | boolean b => .ok (.boolean b)
  | number parts => parts.value.map .number
  | text (some s) => .ok (.text s)
  | badNumber fault | badWord fault | badText fault _ => .error fault
  | _ => .error .malformed

/-- A token that is the name of a field. -/
def name : Token → Except Fault String
  | text (some s) => .ok s
  | badText fault _ => .error fault
  | _ => .error .malformed

/-- A token in the place of a value that is not wanted: only its text has
to be right. -/
def skipped : Token → Except Fault Json
  | null | boolean _ | number _ | text _ => .ok .null
  | badWord fault | badText _ fault => .error fault
  | _ => .error .malformed

/-- A token in the place of a name that is not wanted. -/
def skippedName : Token → Except Fault String
  | text _ => .ok ""
  | badText _ fault => .error fault
  | _ => .error .malformed

end Token

/-- Reading a value that is wanted, with room for so many levels. -/
def Reading.wanted (room : Nat) : Reading := ⟨some room, Token.scalar, Token.name⟩

/-- Passing over a value that is not wanted. -/
def Reading.unwanted : Reading := ⟨none, Token.skipped, Token.skippedName⟩

namespace Shift

/-- A value is complete: it goes into the innermost open array or object. -/
def settle (v : Json) : List Frame → Shift
  | [] => .done v
  | .array held :: stack => .more (.array (v :: held)) stack
  | .object held name :: stack => .more (.object (insertNamed name v held) name) stack

/-- Whether one more array or object may be opened. -/
def hasRoom (reading : Reading) (stack : List Frame) : Bool :=
  match reading.limit with
  | none => true
  | some limit => stack.length < limit

/-- A token where a value is expected. -/
def startValue (reading : Reading) (stack : List Frame) : Token → Except Fault Shift
  | .openArray =>
    if hasRoom reading stack then .ok (.items stack) else .error .malformed
  | .openObject =>
    if hasRoom reading stack then .ok (.fields stack) else .error .malformed
  | token => (reading.scalar token).map (settle · stack)

/-- The step that one token makes. -/
def step (reading : Reading) (token : Token) : Shift → Except Fault Shift
  | .done v => .ok (.done v)
  | .value stack => startValue reading stack token
  | .items stack =>
    match token with
    | .closeArray => .ok (settle (.array []) stack)
    | token => startValue reading (.array [] :: stack) token
  | .fields stack =>
    match token with
    | .closeObject => .ok (settle (.object []) stack)
    | token => (reading.name token).map (.colon [] · stack)
  | .field held stack => (reading.name token).map (.colon held · stack)
  | .colon held name stack =>
    match token with
    | .colon => .ok (.value (.object held name :: stack))
    | _ => .error .malformed
  | .more (.array held) stack =>
    match token with
    | .comma => .ok (.value (.array held :: stack))
    | .closeArray => .ok (settle (.array held.reverse) stack)
    | _ => .error .malformed
  | .more (.object held _) stack =>
    match token with
    | .comma => .ok (.field held stack)
    | .closeObject => .ok (settle (.object held) stack)
    | _ => .error .malformed

/-- Steps on until the value is complete; the tokens behind it are left. -/
def run (reading : Reading) : Shift → List Token → Except Fault (Json × List Token)
  | .done v, tokens => .ok (v, tokens)
  | _, [] => .error .ended
  | shift, token :: rest => do run reading (← shift.step reading token) rest

end Shift

/-! ### Readers -/

/-- Takes a value off the tokens; the first argument is the number of
levels that may still be opened. -/
abbrev Reader (α : Type) := Nat → List Token → Except Fault (α × List Token)

/-- The fault of a value that is not of the wanted shape: of a single
token, a fault of its own comes first. -/
def wrongShape {α : Type} : List Token → Except Fault α
  | [] => .error .ended
  | .openArray :: _ | .openObject :: _ => .error .mismatch
  | token :: _ =>
    match token.scalar with
    | .ok _ => .error .mismatch
    | .error fault => .error fault

/-- One certain token; all others are wrong. -/
def expect (wanted : Token) : List Token → Except Fault (List Token)
  | [] => .error .ended
  | token :: rest => if token = wanted then .ok rest else .error .malformed

namespace Reader

/-- A value of any shape. -/
def any : Reader Json := fun room tokens =>
  (Shift.value []).run (.wanted room) tokens

/-- Passes over a value. -/
def skip : Reader Unit := fun _ tokens => do
  let (_, rest) ← (Shift.value []).run .unwanted tokens
  .ok ((), rest)

/-- A text. -/
def text : Reader String := fun _ tokens =>
  match tokens with
  | .text (some s) :: rest => .ok (s, rest)
  | _ => wrongShape tokens

/-- True or false. -/
def boolean : Reader Bool := fun _ tokens =>
  match tokens with
  | .boolean b :: rest => .ok (b, rest)
  | _ => wrongShape tokens

/-- Null, or a value of a shape. -/
def optional {α : Type} (reader : Reader α) : Reader (Option α) := fun room tokens =>
  match tokens with
  | .null :: rest => .ok (none, rest)
  | _ => do
    let (value, rest) ← reader room tokens
    .ok (some value, rest)

/-- A value of any shape that `convert` accepts. -/
def accept {α : Type} (convert : Json → Option α) : Reader α := fun room tokens => do
  let (value, rest) ← any room tokens
  match convert value with
  | some result => .ok (result, rest)
  | none => .error .mismatch

/-- One of some words, as a text or as an object whose one field has that
name and the value null. -/
def word {α : Type} (ofWord? : String → Option α) : Reader α := fun room tokens =>
  let found (name : String) : Except Fault α :=
    match ofWord? name with
    | some value => .ok value
    | none => .error .mismatch
  match tokens with
  | [] => .error .ended
  | .openObject :: rest =>
    if room = 0 then .error .malformed
    else match rest with
      | [] => .error .ended
      | token :: rest => do
        let value ← found (← token.name)
        let rest ← expect .colon rest
        match rest with
        | .null :: rest => do .ok (value, ← expect .closeObject rest)
        | _ => wrongShape rest
  | token :: rest => do .ok (← found (← token.name), rest)

/-- Items up to the end of an array; the fuel is the number of tokens. -/
def itemsFrom {α : Type} (reader : Reader α) (room : Nat) :
    Nat → List α → List Token → Except Fault (List α × List Token)
  | 0, _, _ => .error .ended
  | fuel + 1, items, tokens => do
    let (item, rest) ← reader room tokens
    match rest with
    | [] => .error .ended
    | .closeArray :: rest => .ok ((item :: items).reverse, rest)
    | .comma :: rest => itemsFrom reader room fuel (item :: items) rest
    | _ => .error .malformed

/-- An array of values of one shape. -/
def list {α : Type} (reader : Reader α) : Reader (List α) := fun room tokens =>
  match tokens with
  | .openArray :: rest =>
    if room = 0 then .error .malformed
    else match rest with
      | [] => .error .ended
      | .closeArray :: rest => .ok ([], rest)
      | _ => itemsFrom reader (room - 1) tokens.length [] rest
  | _ => wrongShape tokens

/-- A value behind a colon. -/
def afterColon {α : Type} (reader : Reader α) : Reader α := fun room tokens => do
  reader room (← expect .colon tokens)

/-- Fields up to the end of an object. Each is taken in by `onField`, which
reads on from the colon behind the name; the fuel is the number of tokens. -/
def fieldsFrom {σ : Type} (onField : String → σ → Reader σ) (room : Nat) :
    Nat → σ → List Token → Except Fault (σ × List Token)
  | 0, _, _ => .error .ended
  | _, _, [] => .error .ended
  | fuel + 1, state, token :: rest => do
    let (state, rest) ← onField (← token.name) state room rest
    match rest with
    | [] => .error .ended
    | .closeObject :: rest => .ok (state, rest)
    | .comma :: rest => fieldsFrom onField room fuel state rest
    | _ => .error .malformed

/-- An object, from the bracket that opens it on. -/
def fields {σ : Type} (onField : String → σ → Reader σ) (start : σ) : Reader σ :=
  fun room tokens =>
    match tokens with
    | .openObject :: rest =>
      if room = 0 then .error .malformed
      else match rest with
        | [] => .error .ended
        | .closeObject :: rest => .ok (start, rest)
        | _ => fieldsFrom onField (room - 1) tokens.length start rest
    | _ => wrongShape tokens

/-- An object that maps names to values of one shape; of several fields of
one name the last stands. -/
def map {α : Type} (reader : Reader α) : Reader (NameMap α) :=
  fields (fun name held room tokens => do
    let (value, rest) ← afterColon reader room tokens
    .ok (held.insert name value, rest)) .empty

/-! ### Records -/

/-- A field of a record that is read piece by piece. -/
structure Field (σ : Type) where
  name : String
  /-- Whether the record has the field already. -/
  isSet : σ → Bool
  /-- Reads the value into the record. -/
  read : σ → Reader σ
  /-- What becomes of a record that does not have the field. -/
  missing : σ → Except Fault σ

/-- A field that has to be there. -/
def Field.required {σ α : Type} (name : String) (reader : Reader α) (get : σ → Option α)
    (set : σ → α → σ) : Field σ where
  name := name
  isSet state := (get state).isSome
  read state room tokens := do
    let (value, rest) ← reader room tokens
    .ok (set state value, rest)
  missing state := if (get state).isSome then .ok state else .error .mismatch

/-- A field that stands for `value` if it is not there. -/
def Field.defaulted {σ α : Type} (name : String) (reader : Reader α) (value : α)
    (get : σ → Option α) (set : σ → α → σ) : Field σ where
  name := name
  isSet state := (get state).isSome
  read := (Field.required name reader get set).read
  missing state := .ok (if (get state).isSome then state else set state value)

/-- The fields of a record in an array, in their declared order. The flag
tells that an item came before. -/
def inOrder {σ : Type} (room : Nat) :
    Bool → List (Field σ) → σ → List Token → Except Fault (σ × List Token)
  | _, _, _, [] => .error .ended
  | _, [], state, .closeArray :: rest => .ok (state, rest)
  | _, [], _, _ => .error .malformed
  | first, field :: others, state, token :: rest => do
    match token, first with
    | .closeArray, _ => inOrder room first others (← field.missing state) (token :: rest)
    | .comma, false =>
      match rest with
      | .closeArray :: _ => .error .malformed
      | _ =>
        let (state, rest) ← field.read state room rest
        inOrder room false others state rest
    | _, false => .error .malformed
    | _, true =>
      let (state, rest) ← field.read state room (token :: rest)
      inOrder room false others state rest

/-- A record: an object with these fields among others, none of these twice,
or an array of these fields in order. -/
def record {σ : Type} (known : List (Field σ)) (start : σ) : Reader σ :=
  fun room tokens =>
    match tokens with
    | .openArray :: rest =>
      if room = 0 then .error .malformed
      else inOrder (room - 1) true known start rest
    | _ => do
      let onField (name : String) (state : σ) : Reader σ :=
        match known.find? (·.name = name) with
        | some field =>
          if field.isSet state then fun _ _ => .error .mismatch
          else afterColon (field.read state)
        | none => fun room tokens => do
          let (_, rest) ← afterColon skip room tokens
          .ok (state, rest)
      let (state, rest) ← fields onField start room tokens
      let state ← known.foldlM (fun state field => field.missing state) state
      .ok (state, rest)

/-- Reads a whole text: nothing but blanks may follow the value. -/
def read {α : Type} (reader : Reader α) (source : String) : Except Fault α := do
  let (value, rest) ← reader depthLimit (scan source)
  if rest.isEmpty then .ok value else .error .malformed

end Reader

/-- A text as a value of any shape. -/
def parse (source : String) : Except Fault Json := Reader.any.read source

end KeyTree.Json
