import KeyTree.Proofs.Document.Accepted
import KeyTree.Proofs.Document.Written
import KeyTree.Proofs.Json.NameOrder

/-!
# `KeyTree.Proofs.Document.Saved`: documents that are loaded and saved

What is loaded from a text is not saved as that text: what was skipped is gone,
a missing separator is written out, and the slots of a gate are always written
as an array. The last of these can make the saved text deeper than the one that
was loaded, since a single slot may stand by itself there.

* `savesWithin_of_slotsShort`: the bound on what is saved, by induction on the
  fields. A gate may be `short` levels short of an array of slots, and what is
  saved is not deeper by more than that.
* `depth_keys_lt_of_read`: the bound on what is loaded, from the reader.

`ofJson_toText_of_ofJson` puts the two together: the saved text is one level too
deep at most, and whether it is read again depends on nothing else. A gate at the
last level but one is what it takes (`shorthand_at_limit_refused`).
-/

set_option autoImplicit false

namespace KeyTree

/-! ### Entries as they are written -/

/-- An entry as it is written. -/
def Level.entryKeys : Option Level.Entry → Json
  | none => .null
  | some (.key pieces) => .array (pieces.map Piece.toKeys)
  | some (.branch below) => .object below.toFields
  | some (.gate slots behind) =>
    .object [(gateSlotsField, .array (slots.toList.map Slot.toKeys)),
      (gateLevelField, .object behind.toFields)]

theorem Level.toFields_eq_map (level : Level) :
    level.toFields = level.entries.map fun listed => (listed.1, entryKeys listed.2) := by
  induction level with
  | nil => rfl
  | absent name rest ih => rw [toFields, ih, entries, List.map_cons]; rfl
  | key name pieces rest ih => rw [toFields, ih, entries, List.map_cons]; rfl
  | branch name below rest _ ih => rw [toFields, ih, entries, List.map_cons]; rfl
  | gate name slots behind rest _ ih => rw [toFields, ih, entries, List.map_cons]; rfl

theorem Slot.depth_toKeys (slot : Slot) : slot.toKeys.depth = 1 := by
  simp [toKeys, Json.depth, Json.fieldsDepth]

/-- The array of a gate's slots holds slots, and at least one. -/
theorem Slots.depth_toKeys (slots : Slots) :
    (Json.array (slots.toList.map Slot.toKeys)).depth = 2 := by
  have hle : Json.itemsDepth (slots.others.map Slot.toKeys) ≤ 1 := by
    rw [Json.itemsDepth_le_iff]
    intro item hitem
    obtain ⟨slot, -, rfl⟩ := List.mem_map.mp hitem
    exact Nat.le_of_eq slot.depth_toKeys
  rw [toList, List.map_cons, Json.depth, Json.itemsDepth, Slot.depth_toKeys]
  omega

namespace Json

/-! ### Depth of what is saved -/

/-- So many levels have to be added to the slots of each gate, to make them as
deep as an array of slots. A single slot may stand by itself and not in an
array. -/
def SlotsShort (short : Nat) (fields : List (String × Json)) : Prop :=
  ∀ (inner : List (String × Json)) (given : Json) (slots : Slots), Reaches fields (.object inner) →
    inner.lookup gateSlotsField = some given → slots.WrittenAs given → 2 ≤ given.depth + short

theorem depth_le_fieldsDepth {fields : List (String × Json)} {name : String} {value : Json}
    (h : (name, value) ∈ fields) : value.depth ≤ fieldsDepth fields :=
  fieldsDepth_le_iff.mp (Nat.le_refl _) (name, value) h

/-- What some fields describe is written with so many levels more at most. -/
def SavesWithin (short : Nat) (fields : List (String × Json)) : Prop :=
  ∀ schema : Schema, Describes fields schema →
    fieldsDepth schema.level.toFields ≤ fieldsDepth fields + short

/-- An entry is written like the value that stands for it, apart from the slots
of a gate and what is inside. -/
theorem depth_entryKeys_le {short : Nat} {value : Json} {entry : Option Node}
    (h : value.StandsFor entry)
    (hbranch : ∀ inner, value = .object inner → inner.lookup gateSlotsField = none →
      SavesWithin short inner)
    (hgate : ∀ inner given below, value = .object inner →
      inner.lookup gateSlotsField = some given →
      inner.lookup gateLevelField = some (.object below) → SavesWithin short below)
    (hslots : ∀ (inner : List (String × Json)) (given : Json) (slots : Slots),
      value = .object inner → inner.lookup gateSlotsField = some given → slots.WrittenAs given →
      2 ≤ given.depth + short) :
    (Level.entryKeys (entry.map Node.toEntry)).depth ≤ value.depth + short := by
  cases h with
  | absent => exact Nat.zero_le _
  | key pieces => exact Nat.le_add_right _ short
  | @branch fields kept below hnone hlists hbelow =>
      have hinner := hbranch fields rfl hnone below ⟨kept, hlists, hbelow⟩
      show fieldsDepth below.level.toFields + 1 ≤ fieldsDepth fields + 1 + short
      omega
  | @gate fields inner given slots kept behind hgiven hwritten hlevel hlists hbehind =>
      have hinner := hgate fields given inner rfl hgiven hlevel behind ⟨kept, hlists, hbehind⟩
      have htwo := hslots fields given slots rfl hgiven hwritten
      have hgivenDepth := depth_le_fieldsDepth (mem_of_lookup hgiven)
      have hinnerDepth : fieldsDepth inner + 1 ≤ fieldsDepth fields :=
        depth_le_fieldsDepth (mem_of_lookup hlevel)
      have harray := slots.depth_toKeys
      show max (Json.array (slots.toList.map Slot.toKeys)).depth
        (max (fieldsDepth behind.level.toFields + 1) 0) + 1 ≤ fieldsDepth fields + 1 + short
      omega

/-- What fields describe is saved with no levels more than the slots of their
gates are short of. -/
theorem savesWithin_of_slotsShort {short : Nat} {fields : List (String × Json)}
    (h : SlotsShort short fields) : SavesWithin short fields := by
  induction fields using fields_induction with
  | step fields ih =>
      rintro schema ⟨kept, hlists, hschema⟩
      rw [fieldsDepth_le_iff, Level.toFields_eq_map]
      intro field hfield
      obtain ⟨⟨name, written⟩, hwritten, rfl⟩ := List.mem_map.mp hfield
      -- The entry stands in the schema because a field stands for it.
      have hnodup := ((Level.ordered_iff schema.level).mp schema.ordered).1.nodup
      have hfind : schema.level.find? name = some written :=
        (lookup_eq_some_iff_mem hnodup name written).mpr hwritten
      rw [Schema.find?_level, Option.map_eq_some_iff] at hfind
      obtain ⟨entry, hentry, rfl⟩ := hfind
      rw [hschema name] at hentry
      obtain ⟨value, hmem, hvalue⟩ := (hlists.mem_iff name entry).mp (mem_of_lookup hentry)
      have hdepth := depth_le_fieldsDepth hmem
      have hentryDepth : (Level.entryKeys (entry.map Node.toEntry)).depth
          ≤ value.depth + short := by
        -- What is reached from inside the value is reached from here, so the
        -- slots in there are not short of more either.
        refine depth_entryKeys_le hvalue ?_ ?_ ?_
        · rintro inner rfl hnone
          refine (ih name inner hmem).1 fun below given slots hreach => ?_
          exact h below given slots (.branch hmem hnone hreach)
        · rintro inner given below rfl hgiven hlevel
          have hsome : (inner.lookup gateSlotsField).isSome := by simp [hgiven]
          refine (ih name inner hmem).2 below hlevel fun deeper given slots hreach => ?_
          exact h deeper given slots (.gate hmem hsome hlevel hreach)
        · rintro inner given slots rfl
          exact h inner given slots (.entry hmem)
      exact Nat.le_trans hentryDepth (Nat.add_le_add_right hdepth short)

/-- The slots of each gate stand in an array. -/
def SlotsListed (fields : List (String × Json)) : Prop :=
  ∀ inner given, Reaches fields (.object inner) → inner.lookup gateSlotsField = some given →
    ∃ items, given = .array items

/-- Slots in an array are as deep as they are saved. -/
theorem SlotsListed.slotsShort {fields : List (String × Json)} (h : SlotsListed fields) :
    SlotsShort 0 fields := by
  intro inner given slots hreach hgiven hwritten
  obtain ⟨items, rfl⟩ := h inner given hreach hgiven
  rcases hwritten with hitems | ⟨-, hslot⟩
  · have harray := slots.depth_toKeys
    rw [hitems]
    omega
  · cases hslot

/-- A slot by itself is one level short. -/
theorem slotsShort_one (fields : List (String × Json)) : SlotsShort 1 fields := by
  rintro inner given slots - - (rfl | ⟨-, rfl⟩)
  · have harray := slots.depth_toKeys
    omega
  · have hslot := slots.first.depth_toKeys
    omega

end Json

namespace Document

open Json (Reader)

/-- What holds of null and of every value that is read inside of the object around
the keys holds of the keys. -/
theorem keys_of_fieldsReader {Q : Json → Prop} (hnull : Q .null) {room : Nat}
    (hany : ∀ {tokens rest : List Json.Token} {value : Json},
      Reader.any (room - 1) tokens = .ok (value, rest) → Q value)
    {tokens rest : List Json.Token} {fields : DocumentFields}
    (h : fieldsReader room tokens = .ok (fields, rest)) : Q fields.keys := by
  obtain ⟨⟨draft, behind⟩, hrecord, h⟩ := bind_eq_ok_iff.mp h
  cases h
  have hdraft : ∀ keys ∈ draft.keys, Q keys := by
    have hstart : ∀ keys ∈ ({} : Draft).keys, Q keys := by
      intro keys hkeys
      cases hkeys
    refine Reader.record_preserves (P := fun draft => ∀ keys ∈ draft.keys, Q keys)
      hstart ?_ ?_ hrecord
    · refine List.forall_mem_cons.mpr ⟨?_, List.forall_mem_singleton.mpr ?_⟩
      · exact Reader.Field.preserves_defaulted fun _ _ _ _ hstate _ => hstate
      · refine Reader.Field.preserves_required ?_
        intro state keys tokens rest hstate hread held hheld
        cases hheld
        exact hany hread
    · refine List.forall_mem_cons.mpr ⟨?_, List.forall_mem_singleton.mpr ?_⟩
      · intro state next hstate hmissing
        rcases Reader.Field.eq_or_eq_of_missing_defaulted hmissing with rfl | rfl
        · exact hstate
        · exact hstate
      · intro state next hstate hmissing
        rwa [Reader.Field.eq_of_missing_required hmissing]
  show Q (draft.keys.getD .null)
  cases hkeys : draft.keys with
  | none => exact hnull
  | some keys => exact hdraft keys hkeys

/-- The keys are read inside of the object around them. -/
theorem depth_keys_le_of_fieldsReader {room : Nat} {tokens rest : List Json.Token}
    {fields : DocumentFields} (h : fieldsReader room tokens = .ok (fields, rest)) :
    fields.keys.depth ≤ room - 1 := by
  have hnull : Json.null.depth ≤ room - 1 := Nat.zero_le _
  exact keys_of_fieldsReader hnull Reader.depth_le_of_any h

/-- The keys of a document that is read are in name order. -/
theorem inNameOrder_keys_of_fieldsReader {room : Nat} {tokens rest : List Json.Token}
    {fields : DocumentFields} (h : fieldsReader room tokens = .ok (fields, rest)) :
    fields.keys.InNameOrder :=
  keys_of_fieldsReader .null Reader.inNameOrder_of_any h

/-- The text has to have room for the object around the keys. -/
theorem depth_keys_lt_of_read {text : String} {fields : DocumentFields}
    (h : fieldsReader.read text = .ok fields) : fields.keys.depth < Json.depthLimit := by
  obtain ⟨⟨read, rest⟩, hread, h⟩ := bind_eq_ok_iff.mp h
  have hdepth := depth_keys_le_of_fieldsReader hread
  simp only at h
  split at h
  · cases h
    exact Nat.lt_of_le_pred (by decide) hdepth
  · cases h

theorem depth_toJson (document : Document) :
    document.toJson.depth = Json.fieldsDepth document.schema.level.toFields + 2 := by
  simp [toJson, Schema.toKeys, Json.depth, Json.fieldsDepth]

/-- What is read as a schema is an object whose fields describe it. -/
theorem exists_describes_of_ofKeys {value : Json} {schema : Schema}
    (h : (Schema.ofKeys value).result = .ok schema) :
    ∃ fields, value = .object fields ∧ Json.Describes fields schema := by
  cases value with
  | object fields => exact ⟨fields, rfl, (Json.loadFields_gives_iff fields [] schema).mp h⟩
  | null => cases h
  | boolean b => cases h
  | number n => cases h
  | text s => cases h
  | array items => cases h

/-- What was read is saved with one level more at most, and with none more if
the slots of each gate stand in an array. -/
theorem depth_toJson_le_of_ofKeys {keys : Json} {document : Document}
    (h : (Schema.ofKeys keys).result = .ok document.schema) :
    document.toJson.depth ≤ keys.depth + 2
      ∧ ∀ inner, keys = .object inner → Json.SlotsListed inner →
        document.toJson.depth ≤ keys.depth + 1 := by
  obtain ⟨fields, rfl, hdescribes⟩ := exists_describes_of_ofKeys h
  rw [depth_toJson, Json.depth]
  constructor
  · have hone := Json.savesWithin_of_slotsShort (Json.slotsShort_one fields) document.schema
      hdescribes
    omega
  · intro inner hinner hlisted
    obtain rfl := Json.object.inj hinner
    have hnone := Json.savesWithin_of_slotsShort hlisted.slotsShort document.schema hdescribes
    omega

/-! ### A gate in branches -/

/-- The slot of the gate. -/
def insideSlot : Slot := ⟨"x", .text⟩

/-- A gate whose one slot stands by itself, inside so many branches. -/
def shorthandInside : Nat → Json
  | 0 => .object [(gateSlotsField, insideSlot.toKeys), (gateLevelField, .object [])]
  | n + 1 => .object [("a", shorthandInside n)]

/-- The schema whose one entry is this gate, inside so many branches. -/
def gateInside : Nat → Schema
  | 0 => Schema.empty.insert "a" (some (.gate ⟨insideSlot, []⟩ .empty))
  | n + 1 => Schema.empty.insert "a" (some (.branch (gateInside n)))

/-- A text of this schema. -/
def shorthandText (n : Nat) : String := (fieldsJson (shorthandInside (n + 1)) ":").pretty

theorem depth_shorthandInside (n : Nat) : (shorthandInside n).depth = n + 2 := by
  induction n with
  | zero => rfl
  | succ n ih =>
      show max (shorthandInside n).depth 0 + 1 = n + 1 + 2
      omega

/-- The slot is saved in an array, one level further in. -/
theorem fieldsDepth_gateInside (n : Nat) :
    Json.fieldsDepth (gateInside n).level.toFields = n + 3 := by
  induction n with
  | zero => rfl
  | succ n ih =>
      show max (Json.fieldsDepth (gateInside n).level.toFields + 1) 0 = n + 1 + 3
      omega

theorem canonical_shorthandInside (n : Nat) : (shorthandInside n).Canonical := by
  induction n with
  | zero =>
      have hlt : gateSlotsField < gateLevelField := by decide
      exact .cons (List.forall_mem_singleton.mpr hlt) insideSlot.canonical_toKeys
        (.cons (List.forall_mem_nil _) .emptyObject .emptyObject)
  | succ n ih => exact .cons (List.forall_mem_nil _) ih .emptyObject

theorem loadFields_shorthandInside (path : List String) (n : Nat) :
    loadFields path [("a", shorthandInside n)] = pure (gateInside n) := by
  induction n generalizing path with
  | zero => rfl
  | succ n ih =>
      -- Without the field of a gate's slots the object is taken for a branch.
      have hnone : [("a", shorthandInside n)].lookup gateSlotsField = none := rfl
      rw [loadFields, shorthandInside, loadEntry, hnone, ih]
      rfl

/-- With up to 123 branches the text has 127 levels at most. -/
theorem fieldsReader_shorthandText {n : Nat} (h : n ≤ 123) :
    fieldsReader.read (shorthandText n) = .ok ⟨some ":", shorthandInside (n + 1)⟩ := by
  have hdepth : (fieldsJson (shorthandInside (n + 1)) ":").depth ≤ Json.depthLimit := by
    show max (shorthandInside (n + 1)).depth 0 + 1 ≤ 127
    rw [depth_shorthandInside]
    omega
  rw [shorthandText, fieldsReader_read_pretty (canonical_shorthandInside (n + 1)), if_pos hdepth]

theorem ofJson_shorthandText {n : Nat} (h : n ≤ 123) :
    (ofJson (shorthandText n)).result = .ok ⟨":", gateInside n⟩ := by
  have hkeys : Schema.ofKeys (shorthandInside (n + 1)) = pure (.ok (gateInside n)) := by
    show (loadFields [] [("a", shorthandInside n)]).run = _
    rw [loadFields_shorthandInside]
    rfl
  refine ofJson_eq_ok_iff.mpr ⟨_, fieldsReader_shorthandText h, ?_, rfl⟩
  rw [hkeys]
  rfl

/-! ### Loading what was saved -/

/-- A document that was read from a text is read again from the text that it is
saved as, unless that one nests too deep; then it is refused. It is one level too
deep at most, and not so if the slots of each gate stand in an array or if the
text that was read had a level to spare. -/
theorem ofJson_toText_of_ofJson {text : String} {document : Document}
    (h : (ofJson text).result = .ok document) :
    (ofJson (document.toText .json)
        = if document.toJson.depth ≤ Json.depthLimit then pure (.ok document)
          else pure (.error (.json .malformed)))
      ∧ document.toJson.depth ≤ Json.depthLimit + 1
      ∧ ∀ fields inner, fieldsReader.read text = .ok fields → fields.keys = .object inner →
          (Json.SlotsListed inner ∨ fields.keys.depth + 1 < Json.depthLimit) →
          ofJson (document.toText .json) = pure (.ok document) := by
  have hreload := ofJson_toText (reloadable_of_ofJson h)
  -- What was read fits into the reader, and is not saved with much more.
  obtain ⟨fields, hread, hkeys, -⟩ := ofJson_eq_ok_iff.mp h
  have hlimit := depth_keys_lt_of_read hread
  obtain ⟨hdepth, hlisted⟩ := depth_toJson_le_of_ofKeys hkeys
  refine ⟨hreload, by omega, ?_⟩
  intro fields' inner hread' hinner hspare
  obtain rfl := Except.ok.inj (hread.symm.trans hread')
  rw [hreload, if_pos]
  rcases hspare with hslots | hroom
  · have hle := hlisted inner hinner hslots
    omega
  · omega

/-- A gate inside 122 branches has a level to spare for the array of its slots. -/
theorem shorthand_below_limit_reloaded :
    (ofJson (shorthandText 122)).result = .ok ⟨":", gateInside 122⟩
      ∧ ofJson (Document.toText ⟨":", gateInside 122⟩ .json)
        = pure (.ok ⟨":", gateInside 122⟩) := by
  have hload := ofJson_shorthandText (Nat.le_succ 122)
  have hspare : (shorthandInside 123).depth + 1 < Json.depthLimit := by
    rw [depth_shorthandInside]
    decide
  obtain ⟨-, -, hreload⟩ := ofJson_toText_of_ofJson hload
  exact ⟨hload, hreload _ _ (fieldsReader_shorthandText (Nat.le_succ 122)) rfl (.inr hspare)⟩

/-- Inside 123 branches it has none: the text is loaded, and what is saved of it
is refused. -/
theorem shorthand_at_limit_refused :
    (ofJson (shorthandText 123)).result = .ok ⟨":", gateInside 123⟩
      ∧ ofJson (Document.toText ⟨":", gateInside 123⟩ .json)
        = pure (.error (.json .malformed)) := by
  have hload := ofJson_shorthandText (Nat.le_refl 123)
  have hdepth : ¬ (Document.toJson ⟨":", gateInside 123⟩).depth ≤ Json.depthLimit := by
    rw [depth_toJson, fieldsDepth_gateInside]
    decide
  refine ⟨hload, ?_⟩
  rw [ofJson_toText (reloadable_of_ofJson hload), if_neg hdepth]

end Document

end KeyTree
