import KeyTree.Proofs.Document.RoundTrip

/-!
# `KeyTree.Proofs.Document.Grammar`: what values are read as

`Schema.ofKeys` reads a value entry by entry and skips what it does not know.
This module says the same without a run, as a grammar.

* `Json.StandsFor`, `Json.Lists`: what a value stands for as an entry, and
  which entries some fields list. `Json.Describes` is a schema with just
  these entries.
* `loadFields_gives_iff`: reading fields gives a schema exactly when the
  fields describe it. The induction is on the fields, `fields_induction`:
  reading one entry goes on in the object that it is, or in the object that
  stands behind it.
* `Describes.find?_eq_some_iff`: what a described schema holds, for fields
  whose names differ.
-/

set_option autoImplicit false

namespace KeyTree

/-! ### The grammar -/

/-- How the slots of a gate are written: an array of them, or a single one
by itself. -/
def Slots.WrittenAs (slots : Slots) (given : Json) : Prop :=
  given = .array (slots.toList.map Slot.toKeys)
    ∨ slots.others = [] ∧ given = slots.first.toKeys

/-- A schema holds under each name what a list has there first, and nothing
under all other names. -/
def Schema.Holds (schema : Schema) (kept : List (String × Option Node)) : Prop :=
  ∀ name, schema.find? name = kept.lookup name

namespace Json

/-- An entry of no known shape: a bare value, or an array that does not hold
texts and slots only. -/
def Unrecognized : Json → Prop
  | .boolean _ | .number _ | .text _ => True
  | .array items => ∀ pieces : List Piece, items ≠ pieces.map Piece.toKeys
  | .null | .object _ => False

mutual

/-- What a value stands for as an entry. -/
inductive StandsFor : Json → Option Node → Prop
  | absent : StandsFor .null none
  | key (pieces : List Piece) :
      StandsFor (.array (pieces.map Piece.toKeys)) (some (.key pieces))
  | branch {fields : List (String × Json)} {kept : List (String × Option Node)} {below : Schema}
      (hslots : fields.lookup gateSlotsField = none)
      (hlists : Lists fields kept) (hbelow : below.Holds kept) :
      StandsFor (.object fields) (some (.branch below))
  | gate {fields inner : List (String × Json)} {given : Json} {slots : Slots}
      {kept : List (String × Option Node)} {behind : Schema}
      (hgiven : fields.lookup gateSlotsField = some given) (hslots : slots.WrittenAs given)
      (hlevel : fields.lookup gateLevelField = some (.object inner))
      (hlists : Lists inner kept) (hbehind : behind.Holds kept) :
      StandsFor (.object fields) (some (.gate slots behind))

/-- The entries that some fields list, in the order of the fields. Fields of
no known shape are passed over. -/
inductive Lists : List (String × Json) → List (String × Option Node) → Prop
  | nil : Lists [] []
  | keep {name : String} {value : Json} {entry : Option Node} {rest : List (String × Json)}
      {kept : List (String × Option Node)}
      (hentry : StandsFor value entry) (hrest : Lists rest kept) :
      Lists ((name, value) :: rest) ((name, entry) :: kept)
  | skip {name : String} {value : Json} {rest : List (String × Json)}
      {kept : List (String × Option Node)}
      (hvalue : value.Unrecognized) (hrest : Lists rest kept) :
      Lists ((name, value) :: rest) kept

end

/-- A schema with just the entries that some fields list. -/
def Describes (fields : List (String × Json)) (schema : Schema) : Prop :=
  ∃ kept, Lists fields kept ∧ schema.Holds kept

/-! ### Objects inside objects -/

theorem sizeOf_lt_of_mem {fields inner : List (String × Json)} {name : String}
    (h : (name, object inner) ∈ fields) : sizeOf inner < sizeOf fields := by
  have hsize := List.sizeOf_lt_of_mem h
  simp only [Prod.mk.sizeOf_spec, object.sizeOf_spec] at hsize
  omega

/-- A field that is found is one of the fields. -/
theorem mem_of_lookup {α : Type} {fields : List (String × α)} {name : String} {value : α}
    (h : fields.lookup name = some value) : (name, value) ∈ fields := by
  obtain ⟨front, back, hfields, -⟩ := List.lookup_eq_some_iff.mp h
  simp [hfields]

/-- Induction over fields. The step may use what holds of the fields of any
object in them, and of the object that stands behind it if it is a gate. -/
theorem fields_induction {P : List (String × Json) → Prop}
    (step : ∀ fields, (∀ name inner, (name, object inner) ∈ fields →
        P inner ∧ ∀ below, inner.lookup gateLevelField = some (object below) → P below) →
      P fields) (fields : List (String × Json)) : P fields := by
  -- The object behind a gate is two objects further in, so the size has to carry.
  induction hsize : sizeOf fields using Nat.strongRecOn generalizing fields with
  | ind size ih =>
      subst hsize
      refine step fields fun name inner hmem => ?_
      have hinner := sizeOf_lt_of_mem hmem
      refine ⟨ih _ hinner inner rfl, fun below hbelow => ?_⟩
      have hlevel := sizeOf_lt_of_mem (mem_of_lookup hbelow)
      exact ih _ (by omega) below rfl

end Json

/-! ### Slots and pieces -/

theorem SlotKind.eq_tag_of_ofTag? {word : String} {kind : SlotKind}
    (h : SlotKind.ofTag? word = some kind) : word = kind.tag := by
  unfold SlotKind.ofTag? at h
  split at h
  · cases h
    assumption
  · split at h
    · cases h
      assumption
    · obtain ⟨hword, hkind⟩ := Option.ite_none_right_eq_some.mp h
      cases hkind
      exact hword

/-- A value is read as a slot exactly when the slot is written so. -/
theorem Json.slot?_eq_some_iff {value : Json} {slot : Slot} :
    value.slot? = some slot ↔ value = slot.toKeys := by
  constructor
  · intro h
    unfold slot? at h
    split at h
    · rename_i tag name
      obtain ⟨kind, hkind, rfl⟩ := Option.map_eq_some_iff.mp h
      rw [Slot.toKeys, SlotKind.eq_tag_of_ofTag? hkind]
    · cases h
  · rintro rfl
    exact Slot.slot?_toKeys slot

theorem Json.piece?_eq_some_iff {value : Json} {piece : Piece} :
    value.piece? = some piece ↔ value = piece.toKeys := by
  constructor
  · intro h
    unfold piece? at h
    split at h
    · cases h
      rfl
    · obtain ⟨slot, hslot, rfl⟩ := Option.map_eq_some_iff.mp h
      exact slot?_eq_some_iff.mp hslot
  · rintro rfl
    exact Piece.piece?_toKeys piece

/-- An array is read as pieces exactly when it holds just these. -/
theorem mapM_piece?_eq_some_iff {items : List Json} {pieces : List Piece} :
    items.mapM Json.piece? = some pieces ↔ items = pieces.map Piece.toKeys := by
  constructor
  · intro h
    induction items generalizing pieces with
    | nil =>
        cases h
        rfl
    | cons item rest ih =>
        rw [List.mapM_cons, Option.bind_eq_bind, Option.bind_eq_some_iff] at h
        obtain ⟨piece, hpiece, h⟩ := h
        rw [Option.bind_eq_bind, Option.bind_eq_some_iff] at h
        obtain ⟨others, hothers, h⟩ := h
        cases h
        rw [List.map_cons, ← Json.piece?_eq_some_iff.mp hpiece, ← ih hothers]
  · rintro rfl
    exact mapM_piece?_toKeys pieces

theorem slotAt_gives_iff {path : List String} {value : Json} {slot : Slot} :
    (slotAt path value).Gives slot ↔ value = slot.toKeys := by
  rw [← Json.slot?_eq_some_iff, slotAt]
  cases value.slot? with
  | none => simp
  | some found => simp

theorem mapM_slotAt_gives_iff {path : List String} {items : List Json} {slots : List Slot} :
    (items.mapM (slotAt path)).Gives slots ↔ items = slots.map Slot.toKeys := by
  induction items generalizing slots with
  | nil => cases slots <;> simp
  | cons item rest ih =>
      rw [List.mapM_cons]
      simp only [Loading.gives_bind, Loading.gives_pure, slotAt_gives_iff, ih]
      constructor
      · rintro ⟨slot, rfl, others, rfl, rfl⟩
        rfl
      · intro h
        cases slots with
        | nil => cases h
        | cons slot others =>
            obtain ⟨hitem, hrest⟩ := List.cons.inj h
            exact ⟨slot, hitem, others, hrest, rfl⟩

/-! ### Gates -/

@[simp] theorem Loading.gives_map {α β : Type} (f : α → β) (loading : Loading α) (b : β) :
    (f <$> loading).Gives b ↔ ∃ a, loading.Gives a ∧ f a = b := by
  rw [map_eq_pure_bind, gives_bind]
  simp only [gives_pure]

/-- The slots of a gate are read exactly from what they are written as. -/
theorem gateSlots_gives_iff {path : List String} {given : Json} {slots : Slots} :
    (∃ list, (gateSlots path (some given)).Gives list ∧ Slots.ofList? list = some slots)
      ↔ slots.WrittenAs given := by
  -- A value that is no array has to be a slot itself.
  have hsingle : (∃ list, (do pure [← slotAt path given] : Loading (List Slot)).Gives list
        ∧ Slots.ofList? list = some slots)
      ↔ slots.others = [] ∧ given = slots.first.toKeys := by
    simp only [Loading.gives_bind, Loading.gives_pure, slotAt_gives_iff]
    constructor
    · rintro ⟨list, ⟨slot, hgiven, rfl⟩, hlist⟩
      cases hlist
      exact ⟨rfl, hgiven⟩
    · rintro ⟨hothers, hgiven⟩
      obtain ⟨first, others⟩ := slots
      subst hothers
      exact ⟨[first], ⟨first, hgiven, rfl⟩, rfl⟩
  cases given with
  | array items =>
      rw [gateSlots]
      simp only [mapM_slotAt_gives_iff]
      constructor
      · rintro ⟨list, rfl, hlist⟩
        exact .inl (by rw [Slots.toList_of_ofList? hlist])
      · rintro (hitems | ⟨-, hslot⟩)
        · cases hitems
          exact ⟨slots.toList, rfl, Slots.ofList?_toList slots⟩
        · cases hslot
  | null =>
      rw [gateSlots]
      constructor
      · rintro ⟨list, hgives, hlist⟩
        obtain rfl := (Loading.gives_pure _ _).mp hgives
        cases hlist
      · rintro (hitems | ⟨-, hslot⟩)
        · cases hitems
        · cases hslot
  | boolean b => exact hsingle.trans (by simp [Slots.WrittenAs])
  | number n => exact hsingle.trans (by simp [Slots.WrittenAs])
  | text s => exact hsingle.trans (by simp [Slots.WrittenAs])
  | object fields => exact hsingle.trans (by simp [Slots.WrittenAs])

/-- A gate is made exactly of slots, at least one, and a schema behind them. -/
theorem gateAt_gives_iff {path : List String} {list : List Slot} {behind : Option Schema}
    {node : Node} :
    (gateAt path list behind).Gives node
      ↔ ∃ slots schema, Slots.ofList? list = some slots ∧ behind = some schema
          ∧ node = .gate slots schema := by
  unfold gateAt Node.gateOver
  cases Slots.ofList? list with
  | none => simp
  | some slots =>
      cases behind with
      | none => simp
      | some schema => simp [eq_comm]

theorem noteIgnored_gives (path : List String) (fields : List (String × Json)) :
    (noteIgnored path fields).Gives () := by
  induction fields with
  | nil => simp [noteIgnored]
  | cons field rest ih =>
      rw [noteIgnored]
      split
      · exact (Loading.gives_bind _ _ _).mpr ⟨(), rfl, ih⟩
      · exact ih

/-- The schema behind a gate is read from the first field that may hold it. -/
theorem loadBehind_gives_some_iff {path : List String} {fields : List (String × Json)}
    {schema : Schema} :
    (loadBehind path fields).Gives (some schema)
      ↔ ∃ inner, fields.lookup gateLevelField = some (.object inner)
          ∧ (loadFields path inner).Gives schema := by
  induction fields with
  | nil => simp [loadBehind]
  | cons field rest ih =>
      obtain ⟨name, value⟩ := field
      by_cases hname : name = gateLevelField
      · subst hname
        cases value <;> simp [loadBehind]
      · have hskip : loadBehind path ((name, value) :: rest) = loadBehind path rest := by
          cases value <;> simp only [loadBehind, if_neg hname]
        rw [hskip, ih, List.lookup_cons, beq_eq_false_iff_ne.mpr (Ne.symm hname)]

/-! ### Schemas that hold a list -/

namespace Schema

theorem Holds.insert {schema : Schema} {kept : List (String × Option Node)}
    (h : schema.Holds kept) (name : String) (entry : Option Node) :
    (schema.insert name entry).Holds ((name, entry) :: kept) := by
  intro other
  rw [find?_insert, List.lookup_cons, h other]
  by_cases hname : other = name
  · simp [hname]
  · simp [hname, beq_eq_false_iff_ne.mpr hname]

/-- Every list is held by a schema. -/
theorem exists_holds (kept : List (String × Option Node)) :
    ∃ schema : Schema, schema.Holds kept := by
  induction kept with
  | nil => exact ⟨empty, find?_empty⟩
  | cons entry rest ih =>
      obtain ⟨schema, hschema⟩ := ih
      exact ⟨schema.insert entry.1 entry.2, hschema.insert entry.1 entry.2⟩

/-- A list is held by one schema only. -/
theorem Holds.unique {schema other : Schema} {kept : List (String × Option Node)}
    (h : schema.Holds kept) (h' : other.Holds kept) : schema = other := by
  apply ext_find?
  intro name
  rw [h, h']

end Schema

/-! ### Reading is the grammar -/

/-- What reading an entry may give: what the value stands for, or nothing if
it is of no known shape. -/
def Json.Becomes (value : Json) : Option (Option Node) → Prop
  | some entry => value.StandsFor entry
  | none => value.Unrecognized

/-- Reading some fields gives exactly the schema that they describe. -/
def Json.ReadAsDescribed (fields : List (String × Json)) : Prop :=
  ∀ path schema, (loadFields path fields).Gives schema ↔ Json.Describes fields schema

theorem skipEntry_gives_iff {path : List String} {found : String} {entry : Option (Option Node)} :
    (skipEntry path found).Gives entry ↔ entry = none := by
  simp only [skipEntry, Loading.gives_bind, Loading.gives_pure]
  constructor
  · rintro ⟨-, -, rfl⟩
    rfl
  · rintro rfl
    exact ⟨(), rfl, rfl⟩

namespace Json

theorem not_unrecognized_of_standsFor {value : Json} {entry : Option Node}
    (h : value.StandsFor entry) : ¬ value.Unrecognized := by
  cases h with
  | absent => exact id
  | key pieces => exact fun hnone => hnone pieces rfl
  | branch => exact id
  | gate => exact id

/-- An array stands for one key only. -/
theorem standsFor_array_iff {pieces : List Piece} {entry : Option Node} :
    (Json.array (pieces.map Piece.toKeys)).StandsFor entry ↔ entry = some (.key pieces) := by
  constructor
  · intro h
    generalize hitems : Json.array (pieces.map Piece.toKeys) = value at h
    cases h with
    | key others =>
        have hpieces := mapM_piece?_toKeys pieces
        rw [Json.array.inj hitems, mapM_piece?_toKeys others] at hpieces
        cases hpieces
        rfl
    | absent => cases hitems
    | branch => cases hitems
    | gate => cases hitems
  · rintro rfl
    exact .key pieces

/-- An entry of no known shape is passed over. -/
theorem skipEntry_gives_iff_becomes {value : Json} (path : List String) (found : String)
    (entry : Option (Option Node)) (hvalue : value.Unrecognized) :
    (skipEntry path found).Gives entry ↔ value.Becomes entry := by
  rw [skipEntry_gives_iff]
  constructor
  · rintro rfl
    exact hvalue
  · intro h
    cases entry with
    | none => rfl
    | some node => exact absurd hvalue (not_unrecognized_of_standsFor h)

theorem loadEntry_array_gives_iff (items : List Json) (path : List String)
    (entry : Option (Option Node)) :
    (loadEntry path (.array items)).Gives entry ↔ (array items).Becomes entry := by
  rw [loadEntry]
  cases hpieces : items.mapM Json.piece? with
  | none =>
      refine skipEntry_gives_iff_becomes path _ entry fun pieces heq => ?_
      rw [mapM_piece?_eq_some_iff.mpr heq] at hpieces
      cases hpieces
  | some pieces =>
      obtain rfl := mapM_piece?_eq_some_iff.mp hpieces
      rw [Loading.gives_pure]
      cases entry with
      | none => exact ⟨fun h => (nomatch h), fun h => absurd rfl (h pieces)⟩
      | some node => rw [Becomes, standsFor_array_iff, Option.some.injEq, eq_comm]

/-- An object without slots is a branch of its fields. -/
theorem loadEntry_branch_gives_iff {fields : List (String × Json)}
    (hnone : fields.lookup gateSlotsField = none) (ih : ReadAsDescribed fields)
    (path : List String) (entry : Option (Option Node)) :
    (loadEntry path (.object fields)).Gives entry ↔ (object fields).Becomes entry := by
  rw [loadEntry, hnone]
  simp only [Option.isSome_none, Bool.false_eq_true, if_false, Loading.gives_bind,
    Loading.gives_pure, ih path]
  constructor
  · rintro ⟨below, ⟨kept, hlists, hbelow⟩, rfl⟩
    exact .branch hnone hlists hbelow
  · intro h
    cases entry with
    | none => cases h
    | some node =>
        cases h with
        | branch _ hlists hbelow => exact ⟨_, ⟨_, hlists, hbelow⟩, rfl⟩
        | gate hsome => simp [hnone] at hsome

/-- An object with slots is a gate, over the level of the object behind it. -/
theorem loadEntry_gate_gives_iff {fields : List (String × Json)} {given : Json}
    (hgiven : fields.lookup gateSlotsField = some given)
    (ih : ∀ inner, fields.lookup gateLevelField = some (.object inner) → ReadAsDescribed inner)
    (path : List String) (entry : Option (Option Node)) :
    (loadEntry path (.object fields)).Gives entry ↔ (object fields).Becomes entry := by
  rw [loadEntry, hgiven]
  simp only [Option.isSome_some, if_true, Loading.gives_bind, Loading.gives_pure,
    gateAt_gives_iff]
  constructor
  · rintro ⟨-, -, list, hlist, behind, hbehind, node, ⟨slots, schema, hslots, rfl, rfl⟩, rfl⟩
    obtain ⟨inner, hlevel, hread⟩ := loadBehind_gives_some_iff.mp hbehind
    obtain ⟨kept, hlists, hkept⟩ := (ih inner hlevel path schema).mp hread
    exact .gate hgiven (gateSlots_gives_iff.mp ⟨list, hlist, hslots⟩) hlevel hlists hkept
  · intro h
    cases entry with
    | none => cases h
    | some node =>
        cases h with
        | branch hnone => simp [hgiven] at hnone
        | @gate _ inner given' slots kept behind hgiven' hslots hlevel hlists hbehind =>
            obtain rfl : given = given' := Option.some.inj (hgiven.symm.trans hgiven')
            obtain ⟨list, hlist, hofList⟩ := gateSlots_gives_iff.mpr hslots
            have hread := (ih inner hlevel path behind).mpr ⟨kept, hlists, hbehind⟩
            exact ⟨(), noteIgnored_gives path fields, list, hlist, some behind,
              loadBehind_gives_some_iff.mpr ⟨inner, hlevel, hread⟩,
              _, ⟨slots, behind, hofList, rfl, rfl⟩, rfl⟩

/-- One entry, if reading is the grammar for the objects in it. -/
theorem loadEntry_gives_iff {value : Json}
    (ih : ∀ fields, value = .object fields → ReadAsDescribed fields
      ∧ ∀ inner, fields.lookup gateLevelField = some (.object inner) → ReadAsDescribed inner)
    (path : List String) (entry : Option (Option Node)) :
    (loadEntry path value).Gives entry ↔ value.Becomes entry := by
  cases value with
  | null =>
      rw [loadEntry, Loading.gives_pure]
      constructor
      · rintro rfl
        exact .absent
      · intro h
        cases entry with
        | none => cases h
        | some node =>
            cases h
            rfl
  | boolean b => exact skipEntry_gives_iff_becomes path "boolean" entry trivial
  | number n => exact skipEntry_gives_iff_becomes path "number" entry trivial
  | text s => exact skipEntry_gives_iff_becomes path "string" entry trivial
  | array items => exact loadEntry_array_gives_iff items path entry
  | object fields =>
      obtain ⟨ihfields, ihlevel⟩ := ih fields rfl
      cases hgiven : fields.lookup gateSlotsField with
      | none => exact loadEntry_branch_gives_iff hgiven ihfields path entry
      | some given => exact loadEntry_gate_gives_iff hgiven ihlevel path entry

/-- Fields, if reading is the grammar for each of them. -/
theorem readAsDescribed_of_entries {fields : List (String × Json)}
    (h : ∀ name value, (name, value) ∈ fields → ∀ path entry,
      (loadEntry path value).Gives entry ↔ value.Becomes entry) : ReadAsDescribed fields := by
  induction fields with
  | nil =>
      intro path schema
      rw [loadFields, Loading.gives_pure]
      constructor
      · rintro rfl
        exact ⟨[], .nil, Schema.find?_empty⟩
      · rintro ⟨kept, hlists, hschema⟩
        cases hlists
        have hempty : Schema.empty.Holds [] := Schema.find?_empty
        exact hempty.unique hschema
  | cons field rest ih =>
      obtain ⟨name, value⟩ := field
      have hvalue := h name value List.mem_cons_self
      have hrest := ih fun other held hmem => h other held (List.mem_cons_of_mem _ hmem)
      intro path schema
      rw [loadFields]
      simp only [Loading.gives_bind, hvalue, hrest path]
      constructor
      · rintro ⟨entry, hentry, others, ⟨kept, hlists, hothers⟩, hgives⟩
        cases entry with
        | none =>
            obtain rfl := (Loading.gives_pure _ _).mp hgives
            exact ⟨kept, .skip hentry hlists, hothers⟩
        | some node =>
            obtain rfl := (Loading.gives_pure _ _).mp hgives
            exact ⟨(name, node) :: kept, .keep hentry hlists, hothers.insert name node⟩
      · rintro ⟨kept, hlists, hschema⟩
        cases hlists with
        | skip hskip hlists =>
            exact ⟨none, hskip, schema, ⟨kept, hlists, hschema⟩, (Loading.gives_pure _ _).mpr rfl⟩
        | @keep _ _ node _ kept hentry hlists =>
            -- What the rest lists is held by some schema, and the entry put
            -- into it gives the only schema that holds all.
            obtain ⟨others, hothers⟩ := Schema.exists_holds kept
            have heq := (hothers.insert name node).unique hschema
            exact ⟨some node, hentry, others, ⟨kept, hlists, hothers⟩,
              (Loading.gives_pure _ _).mpr heq⟩

/-- Reading fields gives a schema exactly when the fields describe it. -/
theorem loadFields_gives_iff (fields : List (String × Json)) : ReadAsDescribed fields := by
  induction fields using fields_induction with
  | step fields ih =>
      refine readAsDescribed_of_entries fun name value hmem => ?_
      refine loadEntry_gives_iff fun inner hinner => ?_
      exact ih name inner (hinner ▸ hmem)

/-! ### Fields whose names differ -/

/-- A value stands for one entry at most, since reading gives one result. -/
theorem StandsFor.unique {value : Json} {entry other : Option Node} (h : value.StandsFor entry)
    (h' : value.StandsFor other) : entry = other := by
  have hread : ∀ node : Option Node, value.StandsFor node →
      (loadEntry [] value).run.result = .ok (some node) := by
    intro node hnode
    refine (loadEntry_gives_iff (fun fields _ => ?_) [] (some node)).mpr hnode
    exact ⟨loadFields_gives_iff fields, fun inner _ => loadFields_gives_iff inner⟩
  have heq := (hread entry h).symm.trans (hread other h')
  exact Option.some.inj (Except.ok.inj heq)

/-- What is listed is what some field stands for. -/
theorem Lists.mem_iff {fields : List (String × Json)} {kept : List (String × Option Node)}
    (h : Lists fields kept) (name : String) (entry : Option Node) :
    (name, entry) ∈ kept ↔ ∃ value, (name, value) ∈ fields ∧ value.StandsFor entry := by
  induction fields generalizing kept with
  | nil =>
      cases h
      simp
  | cons field rest ih =>
      cases h with
      | @skip key held _ _ hskip hlists =>
          rw [ih hlists]
          constructor
          · rintro ⟨value, hmem, hvalue⟩
            exact ⟨value, List.mem_cons_of_mem _ hmem, hvalue⟩
          · rintro ⟨value, hmem, hvalue⟩
            -- The skipped field itself stands for nothing.
            rcases List.mem_cons.mp hmem with heq | hmem
            · cases heq
              exact absurd hskip (not_unrecognized_of_standsFor hvalue)
            · exact ⟨value, hmem, hvalue⟩
      | @keep key held node _ _ hentry hlists =>
          rw [List.mem_cons, ih hlists]
          constructor
          · rintro (heq | ⟨value, hmem, hvalue⟩)
            · cases heq
              exact ⟨held, List.mem_cons_self, hentry⟩
            · exact ⟨value, List.mem_cons_of_mem _ hmem, hvalue⟩
          · rintro ⟨value, hmem, hvalue⟩
            rcases List.mem_cons.mp hmem with heq | hmem
            · cases heq
              exact .inl (by rw [hvalue.unique hentry])
            · exact .inr ⟨value, hmem, hvalue⟩

theorem Lists.sublist_names {fields : List (String × Json)} {kept : List (String × Option Node)}
    (h : Lists fields kept) : (kept.map Prod.fst).Sublist (fields.map Prod.fst) := by
  induction fields generalizing kept with
  | nil =>
      cases h
      exact .slnil
  | cons field rest ih =>
      cases h with
      | skip hskip hlists => exact .cons _ (ih hlists)
      | keep hentry hlists => exact .cons_cons _ (ih hlists)

/-- Where no name comes twice, as in every object that is read from a text,
a described schema has just the entries that the fields stand for. -/
theorem Describes.find?_eq_some_iff {fields : List (String × Json)} {schema : Schema}
    (h : Describes fields schema) (hnodup : (fields.map Prod.fst).Nodup) (name : String)
    (entry : Option Node) :
    schema.find? name = some entry ↔ ∃ value, (name, value) ∈ fields ∧ value.StandsFor entry := by
  obtain ⟨kept, hlists, hschema⟩ := h
  rw [hschema, lookup_eq_some_iff_mem (hnodup.sublist hlists.sublist_names), hlists.mem_iff]

end Json

end KeyTree
