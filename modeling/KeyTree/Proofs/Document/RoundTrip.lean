import KeyTree.Document.Keys
import KeyTree.Proofs.Schema.Entries

/-!
# `KeyTree.Proofs.Document.RoundTrip`: schemas written as values and read back

`Schema.toKeys` writes a schema as a JSON value, `Schema.ofKeys` reads one.
Reading tells a gate from a branch by the field `$parameterize` alone, so a
branch with an entry of that name is not read back as it was.

* `Level.Reloadable`: no branch has such an entry, at any depth. The root
  and the levels behind gates may have one, since nothing looks for the
  field there.
* `loadFields_toFields`: the fields of a reloadable level are read back as
  the level, and nothing is reported.
* `reloadable_of_loadFields`: whatever fields are read, the level they give
  is reloadable.

So the schemas that come back from their own value are exactly those that
some value is read as (`Schema.ofKeys_toKeys_iff_reloadable`).
-/

set_option autoImplicit false

namespace KeyTree

/-! ### Slots and pieces -/

@[simp] theorem Slot.slot?_toKeys (slot : Slot) : slot.toKeys.slot? = some slot := by
  simp [toKeys, Json.slot?]

@[simp] theorem Piece.piece?_toKeys (piece : Piece) : piece.toKeys.piece? = some piece := by
  cases piece with
  | literal text => rfl
  | slot s => simp [toKeys, Json.piece?, Slot.toKeys, Json.slot?]

/-- The pieces of a key are read back from their array. -/
theorem mapM_piece?_toKeys (pieces : List Piece) :
    (pieces.map Piece.toKeys).mapM Json.piece? = some pieces := by
  induction pieces with
  | nil => rfl
  | cons piece rest ih => simp [ih]

/-- The slots of a gate are read back from their array. -/
theorem gateSlots_toKeys (path : List String) (slots : List Slot) :
    gateSlots path (some (.array (slots.map Slot.toKeys))) = pure slots := by
  unfold gateSlots
  induction slots with
  | nil => rfl
  | cons slot rest ih =>
      have hslot : slotAt path slot.toKeys = pure slot := by rw [slotAt, Slot.slot?_toKeys]
      simp only at ih
      simp [List.mapM_cons, hslot, ih]

/-! ### Putting a first entry in front -/

/-- An entry whose name is below all others comes first. -/
theorem Schema.level_insert_of_lt {schema : Schema} {name : String}
    (h : ∀ other ∈ schema.level.names, name < other) (node : Option Node) :
    (schema.insert name node).level = .cons name (node.map Node.toEntry) schema.level := by
  show Level.ofEntries (insertNamed name _ schema.level.entries) = _
  rw [insertNamed_of_lt h, Level.ofEntries, List.foldr_cons]
  exact congrArg _ (Level.ofEntries_entries schema.level)

/-! ### Reloadable levels -/

namespace Level

/-- No branch has an entry named after the field of a gate's slots, at any
depth. -/
def Reloadable : Level → Prop
  | .nil => True
  | .absent _ rest => rest.Reloadable
  | .key _ _ rest => rest.Reloadable
  | .branch _ below rest => gateSlotsField ∉ below.names ∧ below.Reloadable ∧ rest.Reloadable
  | .gate _ _ behind rest => behind.Reloadable ∧ rest.Reloadable

/-- What `Reloadable` asks of one entry. -/
def Entry.Reloadable : Entry → Prop
  | .key _ => True
  | .branch below => gateSlotsField ∉ below.names ∧ below.Reloadable
  | .gate _ behind => behind.Reloadable

/-- A level is reloadable exactly when each of its present entries is. -/
theorem reloadable_iff (level : Level) :
    level.Reloadable ↔ ∀ listed ∈ level.entries, ∀ entry ∈ listed.2, entry.Reloadable := by
  induction level with
  | nil => simp [Reloadable, entries]
  | absent name rest ih => simp [Reloadable, entries, ih]
  | key name pieces rest ih => simp [Reloadable, entries, ih, Entry.Reloadable]
  | branch name below rest _ ih => simp [Reloadable, entries, ih, Entry.Reloadable, and_assoc]
  | gate name slots behind rest _ ih => simp [Reloadable, entries, ih, Entry.Reloadable]

/-- Inserting a reloadable entry keeps a level reloadable. -/
theorem reloadable_insert {level : Level} (h : level.Reloadable) (name : String)
    {entry : Option Entry} (hentry : ∀ node ∈ entry, node.Reloadable) :
    (level.insert name entry).Reloadable := by
  rw [reloadable_iff] at h ⊢
  intro listed hlisted node hnode
  rw [insert, entries_ofEntries] at hlisted
  rcases mem_insertNamed hlisted with rfl | hold
  · exact hentry node hnode
  · exact h listed hold node hnode

/-- The fields of a level are named like its entries. -/
theorem map_fst_toFields (level : Level) : level.toFields.map Prod.fst = level.names := by
  unfold names
  induction level with
  | nil => rfl
  | absent name rest ih => simpa [toFields, entries] using ih
  | key name pieces rest ih => simpa [toFields, entries] using ih
  | branch name below rest _ ih => simpa [toFields, entries] using ih
  | gate name slots behind rest _ ih => simpa [toFields, entries] using ih

/-- A name that no entry has is no field. -/
theorem lookup_toFields_of_not_mem {level : Level} {name : String} (h : name ∉ level.names) :
    level.toFields.lookup name = none := by
  rw [List.lookup_eq_none_iff]
  rintro ⟨other, value⟩ hmem
  rw [← map_fst_toFields] at h
  exact bne_iff_ne.mpr fun heq => h (List.mem_map.mpr ⟨_, hmem, heq.symm⟩)

end Level

/-! ### Reading back what was written -/

/-- A gate is read back from its two fields, if the level behind it is. -/
theorem loadEntry_gate {path : List String} {fields : List (String × Json)} {behind : Schema}
    (h : loadFields path fields = pure behind) (slots : Slots) :
    loadEntry path (.object [(gateSlotsField, .array (slots.toList.map Slot.toKeys)),
        (gateLevelField, .object fields)])
      = pure (some (some (.gate slots behind))) := by
  have hne : (gateLevelField == gateSlotsField) = false := by decide
  have hslots : gateSlotsField ≠ gateLevelField := by decide
  simp [loadEntry, noteIgnored, gateSlots_toKeys, loadBehind, hslots, h, gateAt, Node.gateOver]

/-- The fields of a reloadable level are read back as the level, with
nothing to report. -/
theorem loadFields_toFields {level : Level} (h : level.Ordered) (hr : level.Reloadable)
    (path : List String) : loadFields path level.toFields = pure ⟨level, h⟩ := by
  induction level generalizing path with
  | nil => rfl
  | absent name rest ih =>
      simp only [Level.toFields, loadFields, loadEntry, ih h.2 hr, pure_bind]
      exact congrArg pure (Schema.ext_level (Schema.level_insert_of_lt h.1 none))
  | key name pieces rest ih =>
      simp only [Level.toFields, loadFields, loadEntry, mapM_piece?_toKeys, ih h.2 hr, pure_bind]
      exact congrArg pure (Schema.ext_level (Schema.level_insert_of_lt h.1 _))
  | branch name below rest ihb ihr =>
      obtain ⟨hlt, hbelow, hrest⟩ := h
      obtain ⟨hnot, hrbelow, hrrest⟩ := hr
      -- Without the field the object is taken for a branch.
      simp only [Level.toFields, loadFields, loadEntry,
        Level.lookup_toFields_of_not_mem hnot, Option.isSome_none, Bool.false_eq_true, if_false,
        ihb hbelow hrbelow, ihr hrest hrrest, pure_bind]
      exact congrArg pure (Schema.ext_level (Schema.level_insert_of_lt hlt _))
  | gate name slots behind rest ihb ihr =>
      obtain ⟨hlt, hbehind, hrest⟩ := h
      simp only [Level.toFields, loadFields, loadEntry_gate (ihb hbehind hr.1 _),
        ihr hrest hr.2, pure_bind]
      exact congrArg pure (Schema.ext_level (Schema.level_insert_of_lt hlt _))

/-! ### What values are read as -/

namespace Loading

variable {α β : Type}

/-- The reading ends without an error and gives `a`, whatever it reports. -/
def Gives (loading : Loading α) (a : α) : Prop := loading.run.result = .ok a

@[simp] theorem gives_pure (a b : α) : Gives (pure a) b ↔ a = b := by
  simp [Gives]

@[simp] theorem not_gives_fail (error : KeysError) (a : α) : ¬ Gives (fail error) a := by
  simp [Gives, fail, ExceptT.run, ExceptT.mk]

/-- A reading in two steps gives what the second step makes of what the
first one gives. -/
@[simp] theorem gives_bind (loading : Loading α) (next : α → Loading β) (b : β) :
    Gives (loading >>= next) b ↔ ∃ a, loading.Gives a ∧ (next a).Gives b := by
  unfold Gives
  rw [ExceptT.run_bind, Logged.result_bind]
  cases hresult : loading.run.result with
  | error e => simp
  | ok a => simp

end Loading

/-- A skipped entry gives no entry. -/
theorem not_gives_skipEntry (path : List String) (found : String) (entry : Option Node) :
    ¬ (skipEntry path found).Gives (some entry) := by
  simp only [skipEntry, Loading.gives_bind, Loading.gives_pure, reduceCtorEq, and_false,
    exists_false, not_false_eq_true]

/-- A gate that can be made stands in front of the level that was read. -/
theorem reloadable_of_gateAt {path : List String} {slots : List Slot} {behind : Option Schema}
    (h : ∀ schema ∈ behind, schema.level.Reloadable) {node : Node}
    (hgate : (gateAt path slots behind).Gives node) : node.toEntry.Reloadable := by
  unfold gateAt Node.gateOver at hgate
  cases hslots : Slots.ofList? slots with
  | none => simp [hslots] at hgate
  | some slots =>
      cases behind with
      | none => simp [hslots] at hgate
      | some schema =>
          simp only [hslots, Loading.gives_pure] at hgate
          subst hgate
          exact h schema rfl

mutual

/-- Whatever fields are read, the level they give is reloadable and names
nothing that is no field. -/
theorem reloadable_of_loadFields (path : List String) :
    ∀ (fields : List (String × Json)) (schema : Schema), (loadFields path fields).Gives schema →
      schema.level.Reloadable ∧ schema.level.names ⊆ fields.map Prod.fst
  | [], schema, h => by
      simp only [loadFields, Loading.gives_pure] at h
      subst h
      exact ⟨trivial, fun _ hname => hname⟩
  | (name, value) :: rest, schema, h => by
      simp only [loadFields, Loading.gives_bind] at h
      obtain ⟨entry, hentry, others, hothers, h⟩ := h
      obtain ⟨hreload, hnames⟩ := reloadable_of_loadFields path rest others hothers
      cases entry with
      | none =>
          simp only [Loading.gives_pure] at h
          subst h
          exact ⟨hreload, fun other hother => List.mem_cons_of_mem name (hnames hother)⟩
      | some node =>
          simp only [Loading.gives_pure] at h
          subst h
          -- The new entry is reloadable by the other induction, and its name
          -- is the name of the first field.
          refine ⟨Level.reloadable_insert hreload name fun held hheld => ?_, fun other hother => ?_⟩
          · obtain ⟨present, rfl, rfl⟩ := Option.map_eq_some_iff.mp hheld
            exact reloadable_of_loadEntry (path ++ [name]) value present hentry
          · rcases mem_names_insertNamed (by simpa [Level.names, Schema.insert, Level.insert]
              using hother) with rfl | hold
            · exact List.mem_cons_self
            · exact List.mem_cons_of_mem name (hnames hold)
termination_by structural fields => fields

/-- Whatever value is read as a present entry, the entry is reloadable. -/
theorem reloadable_of_loadEntry (path : List String) :
    ∀ (value : Json) (node : Node), (loadEntry path value).Gives (some (some node)) →
      node.toEntry.Reloadable
  | .null, node, h => by simp [loadEntry] at h
  | .boolean _, node, h => absurd h (not_gives_skipEntry path "boolean" (some node))
  | .number _, node, h => absurd h (not_gives_skipEntry path "number" (some node))
  | .text _, node, h => absurd h (not_gives_skipEntry path "string" (some node))
  | .array items, node, h => by
      rw [loadEntry] at h
      split at h
      · simp only [Loading.gives_pure, Option.some.injEq] at h
        subst h
        trivial
      · exact absurd h (not_gives_skipEntry path _ (some node))
  | .object fields, node, h => by
      rw [loadEntry] at h
      split at h
      · -- A gate: only the level behind it counts.
        simp only [Loading.gives_bind, Loading.gives_pure, Option.some.injEq] at h
        obtain ⟨-, -, slots, -, behind, hbehind, found, hgate, rfl⟩ := h
        refine reloadable_of_gateAt (fun schema hschema => ?_) hgate
        obtain rfl := Option.mem_def.mp hschema
        exact reloadable_of_loadBehind path fields schema hbehind
      · -- A branch: its object has no field named like that of a gate.
        rename_i hno
        simp only [Loading.gives_bind, Loading.gives_pure, Option.some.injEq] at h
        obtain ⟨below, hbelow, rfl⟩ := h
        obtain ⟨hreload, hnames⟩ := reloadable_of_loadFields path fields below hbelow
        refine ⟨fun hname => hno ?_, hreload⟩
        obtain ⟨field, hfield, hfst⟩ := List.mem_map.mp (hnames hname)
        rw [Option.isSome_iff_ne_none, ne_eq, List.lookup_eq_none_iff]
        exact fun hall => by simpa [hfst] using hall field hfield
termination_by structural value => value

/-- The level behind a gate is reloadable. -/
theorem reloadable_of_loadBehind (path : List String) :
    ∀ (fields : List (String × Json)) (schema : Schema),
      (loadBehind path fields).Gives (some schema) → schema.level.Reloadable
  | [], schema, h => by simp [loadBehind] at h
  | (name, value) :: rest, schema, h => by
      by_cases hname : name = gateLevelField
      · cases value with
        | object fields =>
            simp only [loadBehind, if_pos hname, Loading.gives_bind, Loading.gives_pure,
              Option.some.injEq] at h
            obtain ⟨read, hread, rfl⟩ := h
            exact (reloadable_of_loadFields path fields read hread).1
        | _ => simp [loadBehind, hname] at h
      · have hrest : loadBehind path ((name, value) :: rest) = loadBehind path rest := by
          cases value <;> simp only [loadBehind, if_neg hname]
        rw [hrest] at h
        exact reloadable_of_loadBehind path rest schema h
termination_by structural fields => fields

end

/-! ### The schemas that come back -/

/-- A reloadable schema is read back from its own value, with nothing to
report. -/
theorem Schema.ofKeys_toKeys_of_reloadable {schema : Schema} (h : schema.level.Reloadable) :
    ofKeys schema.toKeys = pure (.ok schema) := by
  show (loadFields [] schema.level.toFields).run = _
  rw [loadFields_toFields schema.ordered h]
  rfl

/-- Whatever value is read, the schema is reloadable. -/
theorem Schema.reloadable_of_ofKeys {value : Json} {schema : Schema}
    (h : (ofKeys value).result = .ok schema) : schema.level.Reloadable := by
  cases value with
  | object fields => exact (reloadable_of_loadFields [] fields schema h).1
  | null => cases h
  | boolean b => cases h
  | number n => cases h
  | text s => cases h
  | array items => cases h

/-- A schema comes back from its own value exactly when no branch has an
entry named after the field of a gate's slots, and then nothing is
reported. Every schema that is read from a value is of this kind, so it is
read back from its own value. -/
theorem Schema.ofKeys_toKeys_iff_reloadable (schema : Schema) :
    ((ofKeys schema.toKeys).result = .ok schema ↔ schema.level.Reloadable)
      ∧ (schema.level.Reloadable ↔ ofKeys schema.toKeys = pure (.ok schema))
      ∧ (schema.level.Reloadable ↔ ∃ value, (ofKeys value).result = .ok schema) := by
  have hback := @ofKeys_toKeys_of_reloadable schema
  refine ⟨⟨reloadable_of_ofKeys, fun h => by rw [hback h]; rfl⟩,
    ⟨hback, fun h => reloadable_of_ofKeys (congrArg Logged.result h)⟩,
    ⟨fun h => ⟨schema.toKeys, by rw [hback h]; rfl⟩, fun ⟨_, h⟩ => reloadable_of_ofKeys h⟩⟩

end KeyTree
