import KeyTree.Document.Basic
import KeyTree.Proofs.Document.RoundTrip
import KeyTree.Proofs.Json.Reading

/-!
# `KeyTree.Proofs.Document.Written`: documents read back from their text

A document is written as the value of its schema beside its separator, in
JSON over several lines. Here this text is followed back through all that
reads it: the scan, the record of the two fields, and the schema in the one
called `keys`.

* `canonical_fieldsJson`: the value of a document is one of those that come back
  from their text. Its objects are in name order because the levels are.
* `fieldsReader_read_pretty`: what the two fields are read as. The text is
  refused if and only if it nests deeper than the reader goes.

What a document is read back as is then `ofJson_toText`, and
`ofJson_toText_iff` tells which documents come back.
-/

set_option autoImplicit false

namespace KeyTree

/-! ### Canonical values -/

theorem Slot.canonical_toKeys (slot : Slot) : slot.toKeys.Canonical :=
  .cons (List.forall_mem_nil _) (.text slot.name) .emptyObject

theorem Piece.canonical_toKeys (piece : Piece) : piece.toKeys.Canonical := by
  cases piece with
  | literal text => exact .text text
  | slot s => exact s.canonical_toKeys

/-- The object of a gate is canonical, if the object behind the gate is. -/
theorem Slots.canonical_gate (slots : Slots) {behind : Json} (h : behind.Canonical) :
    (Json.object [(gateSlotsField, .array (slots.toList.map Slot.toKeys)),
      (gateLevelField, behind)]).Canonical := by
  have hlt : gateSlotsField < gateLevelField := by decide
  refine .cons (List.forall_mem_singleton.mpr hlt) (.array fun item hitem => ?_)
    (.cons (List.forall_mem_nil _) h .emptyObject)
  obtain ⟨slot, -, rfl⟩ := List.mem_map.mp hitem
  exact slot.canonical_toKeys

/-- The object of a level is canonical. -/
theorem Level.canonical_toFields {level : Level} (h : level.Ordered) :
    (Json.object level.toFields).Canonical := by
  induction level with
  | nil => exact .emptyObject
  | absent name rest ih =>
      obtain ⟨hlt, hrest⟩ := h
      exact .cons (map_fst_toFields rest ▸ hlt) .null (ih hrest)
  | key name pieces rest ih =>
      obtain ⟨hlt, hrest⟩ := h
      refine .cons (map_fst_toFields rest ▸ hlt) (.array fun item hitem => ?_) (ih hrest)
      obtain ⟨piece, -, rfl⟩ := List.mem_map.mp hitem
      exact piece.canonical_toKeys
  | branch name below rest ihb ihr =>
      obtain ⟨hlt, hbelow, hrest⟩ := h
      exact .cons (map_fst_toFields rest ▸ hlt) (ihb hbelow) (ihr hrest)
  | gate name slots behind rest ihb ihr =>
      obtain ⟨hlt, hbehind, hrest⟩ := h
      exact .cons (map_fst_toFields rest ▸ hlt) (slots.canonical_gate (ihb hbehind)) (ihr hrest)

theorem Schema.canonical_toKeys (schema : Schema) : schema.toKeys.Canonical :=
  Level.canonical_toFields schema.ordered

namespace Document

open Json (Reader)

/-! ### The two fields -/

/-- The value that the two fields of a document are written as. -/
def fieldsJson (keys : Json) (separator : String) : Json :=
  .object [("keys", keys), ("separator", .text separator)]

theorem canonical_fieldsJson {keys : Json} (h : keys.Canonical) (separator : String) :
    (fieldsJson keys separator).Canonical := by
  have hlt : "keys" < "separator" := by decide
  exact .cons (List.forall_mem_singleton.mpr hlt) h
    (.cons (List.forall_mem_nil _) (.text separator) .emptyObject)

/-- The field `keys` comes first, so its value decides how deep the text is
and whether it is refused. -/
theorem fieldsReader_tokens {keys : Json} (h : keys.Canonical) (separator : String) (room : Nat) :
    fieldsReader (room + 1) (fieldsJson keys separator).tokens
      = if keys.depth ≤ room then .ok (⟨some separator, keys⟩, []) else .error .malformed := by
  have htokens : (fieldsJson keys separator).tokens
      = .openObject :: .text (some "keys") :: .colon :: (keys.tokens ++
        [.comma, .text (some "separator"), .colon, .text (some separator), .closeObject]) := by
    simp [fieldsJson, Json.tokens, Json.moreFields]
  have hkeys := Reader.any_tokens h room
    [.comma, .text (some "separator"), .colon, .text (some separator), .closeObject]
  rw [htokens]
  -- All tokens but those of the keys are known, so the record can be followed
  -- step by step once it is known what reading the keys gives.
  by_cases hdepth : keys.depth ≤ room
  · rw [if_pos hdepth] at hkeys ⊢
    simp [fieldsReader, Reader.record, Reader.fields, Reader.fieldsFrom, Json.Token.name,
      Reader.Field.required, Reader.Field.defaulted, Reader.afterColon, Json.expect, hkeys,
      Reader.optional, Reader.text, bind, Except.bind, pure, Except.pure]
  · rw [if_neg hdepth] at hkeys ⊢
    simp [fieldsReader, Reader.record, Reader.fields, Reader.fieldsFrom, Json.Token.name,
      Reader.Field.required, Reader.Field.defaulted, Reader.afterColon, Json.expect, hkeys,
      bind, Except.bind]

/-- A written text is refused if and only if it nests deeper than the reader
goes. -/
theorem fieldsReader_read_pretty {keys : Json} (h : keys.Canonical) (separator : String) :
    fieldsReader.read (fieldsJson keys separator).pretty
      = if (fieldsJson keys separator).depth ≤ Json.depthLimit then .ok ⟨some separator, keys⟩
        else .error .malformed := by
  have hread : fieldsReader Json.depthLimit (fieldsJson keys separator).tokens = _ :=
    fieldsReader_tokens h separator 126
  have hdepth : (fieldsJson keys separator).depth = keys.depth + 1 := by
    simp [fieldsJson, Json.depth, Json.fieldsDepth]
  have hlimit : keys.depth + 1 ≤ Json.depthLimit ↔ keys.depth ≤ 126 := Nat.succ_le_succ_iff
  rw [Reader.read, Json.scan_pretty (canonical_fieldsJson h separator), hread, hdepth]
  by_cases hkeys : keys.depth ≤ 126
  · rw [if_pos hkeys, if_pos (hlimit.mpr hkeys)]
    rfl
  · rw [if_neg hkeys, if_neg (fun hle => hkeys (hlimit.mp hle))]
    rfl

/-! ### Documents -/

/-- What a written text is read as: the document of its fields, unless it
nests too deep. -/
theorem ofJson_pretty {keys : Json} (h : keys.Canonical) (separator : String) :
    ofJson (fieldsJson keys separator).pretty
      = if (fieldsJson keys separator).depth ≤ Json.depthLimit then ofFields ⟨some separator, keys⟩
        else pure (.error (.json .malformed)) := by
  have hread := fieldsReader_read_pretty h separator
  by_cases hdepth : (fieldsJson keys separator).depth ≤ Json.depthLimit
  · rw [if_pos hdepth] at hread ⊢
    rw [ofJson, hread]
  · rw [if_neg hdepth] at hread ⊢
    rw [ofJson, hread]

/-- A document is read from fields that hold its schema and its separator. -/
theorem ofFields_eq_ok_iff {fields : DocumentFields} {document : Document} :
    (ofFields fields).result = .ok document
      ↔ (Schema.ofKeys fields.keys).result = .ok document.schema
        ∧ fields.separator.getD defaultSeparator = document.separator := by
  obtain ⟨separator, schema⟩ := document
  rw [ofFields, Logged.result_bind]
  cases hkeys : (Schema.ofKeys fields.keys).result with
  | error e => simp
  | ok read => simp [and_comm]

/-- A document is read from a text that holds such fields. -/
theorem ofJson_eq_ok_iff {text : String} {document : Document} :
    (ofJson text).result = .ok document
      ↔ ∃ fields, fieldsReader.read text = .ok fields
        ∧ (Schema.ofKeys fields.keys).result = .ok document.schema
        ∧ fields.separator.getD defaultSeparator = document.separator := by
  rw [ofJson]
  cases fieldsReader.read text with
  | error fault => simp
  | ok fields => simp [ofFields_eq_ok_iff]

/-- Whatever text is read, the schema is reloadable. -/
theorem reloadable_of_ofJson {text : String} {document : Document}
    (h : (ofJson text).result = .ok document) : document.schema.level.Reloadable := by
  obtain ⟨fields, -, hkeys, -⟩ := ofJson_eq_ok_iff.mp h
  exact Schema.reloadable_of_ofKeys hkeys

/-- What the text of a document with a reloadable schema is read as. -/
theorem ofJson_toText {document : Document} (h : document.schema.level.Reloadable) :
    ofJson (document.toText .json)
      = if document.toJson.depth ≤ Json.depthLimit then pure (.ok document)
        else pure (.error (.json .malformed)) := by
  have hfields : ofFields ⟨some document.separator, document.schema.toKeys⟩
      = pure (.ok document) := by
    rw [ofFields, Schema.ofKeys_toKeys_of_reloadable h]
    rfl
  rw [← hfields]
  exact ofJson_pretty document.schema.canonical_toKeys document.separator

/-- A document comes back from its own text exactly when no branch has an entry
named after the field of a gate's slots and its value nests no deeper than the
reader goes. Nothing is reported then. Which characters its texts hold does not
matter. -/
theorem ofJson_toText_iff (document : Document) :
    ((ofJson (document.toText .json)).result = .ok document
        ↔ document.schema.level.Reloadable ∧ document.toJson.depth ≤ Json.depthLimit)
      ∧ (document.schema.level.Reloadable ∧ document.toJson.depth ≤ Json.depthLimit
        ↔ ofJson (document.toText .json) = pure (.ok document)) := by
  have hback : document.schema.level.Reloadable ∧ document.toJson.depth ≤ Json.depthLimit →
      ofJson (document.toText .json) = pure (.ok document) := by
    rintro ⟨hreload, hdepth⟩
    rw [ofJson_toText hreload, if_pos hdepth]
  have honly : (ofJson (document.toText .json)).result = .ok document →
      document.schema.level.Reloadable ∧ document.toJson.depth ≤ Json.depthLimit := by
    intro h
    have hreload := reloadable_of_ofJson h
    refine ⟨hreload, ?_⟩
    by_contra hdepth
    rw [ofJson_toText hreload, if_neg hdepth] at h
    cases h
  exact ⟨⟨honly, fun h => congrArg Logged.result (hback h)⟩,
    ⟨hback, fun h => honly (congrArg Logged.result h)⟩⟩

example :
    let document : Document := ⟨"\"\\", .insert .empty "é\n" (some (.key [.literal "\x01𝄞"]))⟩
    ofJson (document.toText .json) = pure (.ok document) := by
  cbv

end Document

end KeyTree
