import KeyTree.Arguments
import KeyTree.Json.Reader
import KeyTree.Layout.Basic

/-!
# `KeyTree.Exchange`: slots, values, arguments and layouts as JSON

How the parts of the library are read from JSON and written to it. A value
is written as it is, without a mark of what it is: a boolean, a number or a
text. Reading decides by the text of a number: a whole number is signed if
it fits, else unsigned, and everything else is a double.
-/

set_option autoImplicit false

namespace KeyTree

open Json

/-! ### Slots -/

/-- A kind is read from its word. -/
def SlotKind.reader : Reader SlotKind := .word SlotKind.ofTag?

/-- A slot whose fields are being read. -/
structure SlotDraft where
  name : Option String := none
  kind : Option SlotKind := none

/-- A slot is a record of its name and its kind. -/
def Slot.reader : Reader Slot := fun room tokens => do
  let (draft, rest) ← Reader.record
    [ .required "name" .text SlotDraft.name fun d name => { d with name := some name },
      .required "value_type" SlotKind.reader SlotDraft.kind
        fun d kind => { d with kind := some kind } ]
    {} room tokens
  .ok (⟨draft.name.getD "", draft.kind.getD .text⟩, rest)

/-- A slot as a record. -/
def Slot.toJson (slot : Slot) : Json :=
  .object [("name", .text slot.name), ("value_type", .text slot.kind.tag)]

/-! ### Values and arguments -/

/-- The value that a boolean, a number or a text is. -/
def Value.ofJson? : Json → Option Value
  | .boolean b => some (.boolean b)
  | .number (.integer n) => Value.ofInt? n
  | .number (.double x) => some (.number x)
  | .text s => some (.text s)
  | _ => none

/-- A value without a mark of what it is. -/
def Value.toJson : Value → Json
  | .boolean b => .boolean b
  | .signed n => .number (.integer n.toInt)
  | .unsigned n => .number (.integer n.toNat)
  | .number x => .number (.double x)
  | .text s => .text s

/-- A value of any kind. -/
def Value.reader : Reader Value := .accept Value.ofJson?

/-- Arguments are an object; null is a name without a value. -/
def Arguments.reader : Reader Arguments := .map (.optional Value.reader)

/-- Arguments as an object, in name order. -/
def Arguments.toJson (args : Arguments) : Json :=
  .object (args.entries.map fun (name, value) => (name, (value.map Value.toJson).getD .null))

/-! ### Settings -/

/-- What a schema is compiled with. -/
structure Settings where
  separator : String
  deriving DecidableEq, Repr

/-- Settings are a record in which the separator may be left out. -/
def Settings.reader (standard : Settings) : Reader Settings := fun room tokens => do
  let (separator, rest) ← Reader.record
    [.defaulted "separator" .text standard.separator id fun _ text => some text]
    none room tokens
  .ok (⟨separator.getD standard.separator⟩, rest)

/-- Settings as a record. -/
def Settings.toJson (settings : Settings) : Json :=
  .object [("separator", .text settings.separator)]

/-! ### Layouts -/

/-- An argument; that it is inherited is only said when it is. -/
def LayoutArgument.toJson (argument : LayoutArgument) : Json :=
  .object ([("name", .text argument.name), ("type", .text argument.kind.tag)]
    ++ if argument.inherited then [("inherited", .boolean true)] else [])

/-- A key of a layout as a record. -/
def LayoutEntry.toJson (entry : LayoutEntry) : Json :=
  .object
    [ ("path", .text entry.path), ("template", .text entry.template),
      ("arguments", .array (entry.arguments.map LayoutArgument.toJson)) ]

/-- A layout as a record. -/
def Layout.toJson (layout : Layout) : Json :=
  .object
    [ ("separator", .text layout.separator),
      ("entries", .array (layout.entries.map LayoutEntry.toJson)),
      ("fingerprint", .text layout.fingerprint) ]

/-- An argument whose fields are being read. -/
structure LayoutArgumentDraft where
  name : Option String := none
  kind : Option SlotKind := none
  inherited : Option Bool := none

/-- An argument; it is not inherited where nothing is said. -/
def LayoutArgument.reader : Reader LayoutArgument := fun room tokens => do
  let (draft, rest) ← Reader.record
    [ .required "name" .text LayoutArgumentDraft.name
        fun d name => { d with name := some name },
      .required "type" SlotKind.reader LayoutArgumentDraft.kind
        fun d kind => { d with kind := some kind },
      .defaulted "inherited" .boolean false LayoutArgumentDraft.inherited
        fun d flag => { d with inherited := some flag } ]
    {} room tokens
  .ok (⟨draft.name.getD "", draft.kind.getD .text, draft.inherited.getD false⟩, rest)

/-- A key whose fields are being read. -/
structure LayoutEntryDraft where
  path : Option String := none
  template : Option String := none
  arguments : Option (List LayoutArgument) := none

/-- A key of a layout; it has no arguments where nothing is said. -/
def LayoutEntry.reader : Reader LayoutEntry := fun room tokens => do
  let (draft, rest) ← Reader.record
    [ .required "path" .text LayoutEntryDraft.path fun d path => { d with path := some path },
      .required "template" .text LayoutEntryDraft.template
        fun d template => { d with template := some template },
      .defaulted "arguments" (.list LayoutArgument.reader) [] LayoutEntryDraft.arguments
        fun d arguments => { d with arguments := some arguments } ]
    {} room tokens
  .ok (⟨draft.path.getD "", draft.template.getD "", draft.arguments.getD []⟩, rest)

/-- A layout whose fields are being read. -/
structure LayoutDraft where
  separator : Option String := none
  entries : Option (List LayoutEntry) := none
  fingerprint : Option String := none

/-- A layout; its fingerprint is taken as it is. -/
def Layout.reader : Reader Layout := fun room tokens => do
  let (draft, rest) ← Reader.record
    [ .required "separator" .text LayoutDraft.separator
        fun d separator => { d with separator := some separator },
      .required "entries" (.list LayoutEntry.reader) LayoutDraft.entries
        fun d entries => { d with entries := some entries },
      .required "fingerprint" .text LayoutDraft.fingerprint
        fun d fingerprint => { d with fingerprint := some fingerprint } ]
    {} room tokens
  .ok (⟨draft.separator.getD "", draft.entries.getD [], draft.fingerprint.getD ""⟩, rest)

end KeyTree
