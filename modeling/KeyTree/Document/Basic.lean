import KeyTree.Document.Keys
import KeyTree.Document.Format
import KeyTree.Json.Reader
import KeyTree.Yaml.Content
import KeyTree.Yaml.Written
import KeyTree.Layout.Basic
import KeyTree.Compiled.Tree

/-!
# `KeyTree.Document.Basic`: documents

A document is a schema with the separator its keys are joined by. Written,
it is an object with the fields `keys` and `separator`, the latter of which
may be null or missing and then stands for a colon.
-/

set_option autoImplicit false

namespace KeyTree

/-- A schema and the separator of its keys. -/
structure Document where
  separator : String
  schema : Schema
  deriving DecidableEq

/-- Why a document cannot be loaded or saved. -/
inductive DocumentError where
  /-- The file cannot be read or written. -/
  | file
  /-- The text is not the JSON that is wanted. -/
  | json (fault : Json.Fault)
  /-- The text is not the YAML that is wanted. -/
  | yaml
  /-- The keys are wrong. -/
  | keys (error : KeysError)
  deriving Repr

/-- What is wrong with a JSON text, in words. -/
def Json.Fault.message : Json.Fault → String
  | ended => "the text ends too early"
  | malformed => "the text is malformed"
  | mismatch => "the text is of another shape than expected"

/-- The text of the error. -/
def DocumentError.message : DocumentError → String
  | file => "I/O error: the file is not accessible"
  | json fault => "JSON error: " ++ fault.message
  | yaml => "YAML error: the text is malformed or of another shape than expected"
  | keys error => error.message

/-- The fields of a document as they are written. -/
structure DocumentFields where
  /-- None if nothing or null is written. -/
  separator : Option String
  keys : Json

namespace Document

/-- The document of some fields. -/
def ofFields (fields : DocumentFields) : Logged (Except DocumentError Document) := do
  match ← Schema.ofKeys fields.keys with
  | .ok schema => pure (.ok ⟨fields.separator.getD defaultSeparator, schema⟩)
  | .error error => pure (.error (.keys error))

/-- The fields of a document while they are read. -/
structure Draft where
  separator : Option (Option String) := none
  keys : Option Json := none

/-- The fields of a document in JSON: a record. -/
def fieldsReader : Json.Reader DocumentFields := fun room tokens => do
  let (draft, rest) ← Json.Reader.record
    [ .defaulted "separator" (.optional .text) none Draft.separator
        fun d separator => { d with separator := some separator },
      .required "keys" .any Draft.keys fun d keys => { d with keys := some keys } ]
    {} room tokens
  .ok (⟨draft.separator.join, draft.keys.getD .null⟩, rest)

/-- Reads a JSON document. -/
def ofJson (text : String) : Logged (Except DocumentError Document) :=
  match fieldsReader.read text with
  | .ok fields => ofFields fields
  | .error fault => pure (.error (.json fault))

/-- Takes an entry of the root of a YAML document in. The fields must not
come twice; other entries are passed over. -/
def addEntry (draft : Draft) (entry : Yaml.Node × Yaml.Node) : Yaml.Content Draft := do
  match ← entry.1.text with
  | "separator" =>
    if draft.separator.isSome then failure
    pure { draft with separator := some (← entry.2.optionalText) }
  | "keys" =>
    if draft.keys.isSome then failure
    pure { draft with keys := some (← entry.2.content (Yaml.nestingLimit - 1)) }
  | _ => pure draft

/-- The fields of a document in YAML: entries of its root. -/
def fieldsOfNode : Yaml.Node → Yaml.Content DocumentFields
  | .mapping _ entries => do
    let draft ← entries.foldlM addEntry {}
    let keys : Option Json := draft.keys
    pure ⟨draft.separator.join, ← keys⟩
  | _ => failure

/-- Reads a YAML document. -/
def ofYaml (text : String) : Logged (Except DocumentError Document) :=
  match (Yaml.Node.ofText? text).bind (Yaml.Content.ofRoot · fieldsOfNode) with
  | some fields => ofFields fields
  | none => pure (.error .yaml)

/-- Reads a document in a format. -/
def ofText (format : DocumentFormat) (text : String) : Logged (Except DocumentError Document) :=
  match format with
  | .json => ofJson text
  | .yaml => ofYaml text

/-- A document as a JSON value. -/
def toJson (document : Document) : Json :=
  .object [("keys", document.schema.toKeys), ("separator", .text document.separator)]

/-- A document as a text in a format. -/
def toText (document : Document) : DocumentFormat → String
  | .json => document.toJson.pretty
  | .yaml => document.toJson.yaml

/-- The tree of a document's keys. -/
def compile (document : Document) : Logged Tree :=
  document.schema.compile document.separator

/-- The layout of a document's keys. -/
def layout (document : Document) : Layout :=
  .ofSchema document.schema document.separator

end Document

end KeyTree
