import KeyTree.Schema.Template
import KeyTree.Json.Basic
import KeyTree.Event

/-!
# `KeyTree.Document.Keys`: schemas written as JSON values

The `keys` of a document are an object. Each field is an entry:

- null is an absent entry;
- an array of texts and slots is a key, where a slot is an object whose one
  field is named after its kind and holds its name;
- an object with the field `$parameterize` is a gate: that field holds one
  slot or an array of slots, the field `$schema` the object behind it;
- any other object is a branch.

All else is skipped, as are other fields of a gate. Such fields are always
reported, entries that are skipped only in development. Only gates can be
wrong: a slot that is none, no slot at all, or nothing to stand behind them.
`Level.toFields` writes a level back in this form.
-/

set_option autoImplicit false

namespace KeyTree

/-- The field of a gate that holds its slots. -/
def gateSlotsField : String := "$parameterize"

/-- The field of a gate that holds what stands behind it. -/
def gateLevelField : String := "$schema"

/-! ### Writing -/

/-- A slot: its kind names the field that holds its name. -/
def Slot.toKeys (slot : Slot) : Json := .object [(slot.kind.tag, .text slot.name)]

/-- A piece: a literal is a text. -/
def Piece.toKeys : Piece → Json
  | .literal text => .text text
  | .slot s => s.toKeys

/-- The fields of a level, in its order. -/
def Level.toFields : Level → List (String × Json)
  | .nil => []
  | .absent name rest => (name, .null) :: rest.toFields
  | .key name pieces rest => (name, .array (pieces.map Piece.toKeys)) :: rest.toFields
  | .branch name below rest => (name, .object below.toFields) :: rest.toFields
  | .gate name slots behind rest =>
    (name, .object
      [ (gateSlotsField, .array (slots.toList.map Slot.toKeys)),
        (gateLevelField, .object behind.toFields) ]) :: rest.toFields

/-- A schema as a JSON value. -/
def Schema.toKeys (schema : Schema) : Json := .object schema.level.toFields

/-! ### Reading -/

/-- What is wrong with the `keys` of a document; paths are dotted and lead
to the entry in question. -/
inductive KeysError where
  /-- A value is no object. -/
  | notAMapping (path : String)
  /-- A value among the slots of a gate is no slot. -/
  | invalidSlot (path : String) (found : Json)
  /-- A gate cannot be made. -/
  | gate (path : String) (cause : GateError)
  deriving Repr

/-- The text of the error. -/
def KeysError.message : KeysError → String
  | notAMapping path => "expected a mapping at `" ++ path ++ "`"
  | invalidSlot path found => "invalid placeholder at `" ++ path ++ "`: " ++ found.compact
  | gate path cause => "`" ++ path ++ "`: " ++ cause.message

/-- Reading keys: a result or the first error, with the events before it. -/
abbrev Loading (α : Type) := ExceptT KeysError Logged α

namespace Loading

/-- Reports an event. -/
def note (event : Event) : Loading Unit := ExceptT.lift (Logged.note event)

/-- Reports an event in development. -/
def noteInDevelopment (event : Event) : Loading Unit :=
  ExceptT.lift (Logged.noteInDevelopment event)

/-- Ends with an error. -/
def fail {α : Type} (error : KeysError) : Loading α := ExceptT.mk (pure (.error error))

end Loading

/-- The slot that a value is, if it is one. -/
def Json.slot? : Json → Option Slot
  | .object [(tag, .text name)] => (SlotKind.ofTag? tag).map (⟨name, ·⟩)
  | _ => none

/-- The piece that a value is, if it is one. -/
def Json.piece? : Json → Option Piece
  | .text s => some (.literal s)
  | value => value.slot?.map .slot

/-- The slot that a value among the slots of a gate has to be. -/
def slotAt (path : List String) (value : Json) : Loading Slot :=
  match value.slot? with
  | some slot => pure slot
  | none => .fail (.invalidSlot (dotted path) value)

/-- The slots of a gate: an array of them, a single one, or null for none. -/
def gateSlots (path : List String) : Option Json → Loading (List Slot)
  | some (.array items) => items.mapM (slotAt path)
  | some .null | none => pure []
  | some single => do pure [← slotAt path single]

/-- Reports the fields of a gate that mean nothing. -/
def noteIgnored (path : List String) : List (String × Json) → Loading Unit
  | [] => pure ()
  | (name, _) :: rest => do
    if name ≠ gateSlotsField ∧ name ≠ gateLevelField then
      Loading.note (.ignoredField (dotted path) name)
    noteIgnored path rest

/-- Skips an entry of no known shape, which is reported in development. -/
def skipEntry (path : List String) (found : String) : Loading (Option (Option Node)) := do
  Loading.noteInDevelopment (.skippedUnrecognized (dotted path) found)
  pure none

/-- The gate with these slots in front of a schema, if there is one. -/
def gateAt (path : List String) (slots : List Slot) (behind : Option Schema) :
    Loading Node :=
  let behind : Node := match behind with
    | some schema => .branch schema
    | none => .key []
  match Node.gateOver slots behind with
  | .ok node => pure node
  | .error cause => .fail (.gate (dotted path) cause)

mutual

/-- The schema of an object's fields. -/
def loadFields (path : List String) : List (String × Json) → Loading Schema
  | [] => pure .empty
  | (name, value) :: rest => do
    let entry ← loadEntry (path ++ [name]) value
    let others ← loadFields path rest
    match entry with
    | some node => pure (others.insert name node)
    | none => pure others
termination_by structural fields => fields

/-- The entry that a value stands for, if it stands for one. -/
def loadEntry (path : List String) : Json → Loading (Option (Option Node))
  | .null => pure (some none)
  | .boolean _ => skipEntry path "boolean"
  | .number _ => skipEntry path "number"
  | .text _ => skipEntry path "string"
  | .array items =>
    match items.mapM Json.piece? with
    | some pieces => pure (some (some (.key pieces)))
    | none => skipEntry path "array with a non-segment element"
  | .object fields =>
    if (fields.lookup gateSlotsField).isSome then do
      noteIgnored path fields
      let slots ← gateSlots path (fields.lookup gateSlotsField)
      let behind ← loadBehind path fields
      pure (some (some (← gateAt path slots behind)))
    else do
      pure (some (some (.branch (← loadFields path fields))))
termination_by structural value => value

/-- The schema behind a gate, if the field that holds it is an object. -/
def loadBehind (path : List String) : List (String × Json) → Loading (Option Schema)
  | [] => pure none
  | (name, value) :: rest =>
    if name = gateLevelField then
      match value with
      | .object fields => do pure (some (← loadFields path fields))
      | _ => pure none
    else loadBehind path rest
termination_by structural fields => fields

end

/-- The schema of a document's keys. -/
def Schema.ofKeys : Json → Logged (Except KeysError Schema)
  | .object fields => (loadFields [] fields).run
  | _ => pure (.error (.notAMapping "keys"))

end KeyTree
