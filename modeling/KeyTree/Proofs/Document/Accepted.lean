import KeyTree.Proofs.Document.Grammar

/-!
# `KeyTree.Proofs.Document.Accepted`: which values can be read

Reading skips what it does not know and fails only at gates. So a value can
be read exactly when it is an object and all the gates that reading comes by
are well formed.

* `Json.Reaches`: the values that reading some fields comes by.
* `Json.GateFields`: the fields of a well-formed gate.
* `exists_lists_iff`: fields list entries, as `Json.Lists` has it, exactly
  when every gate they reach is well formed.

`Schema.ofKeys_accepts_iff` puts this beside the grammar.
-/

set_option autoImplicit false

namespace KeyTree

namespace Json

/-! ### Reached gates -/

/-- The values that reading some fields comes by: those of the fields, and
from there those of the fields of a branch, and of the object behind a gate. -/
inductive Reaches : List (String × Json) → Json → Prop
  | entry {fields : List (String × Json)} {name : String} {value : Json}
      (hmem : (name, value) ∈ fields) : Reaches fields value
  | branch {fields inner : List (String × Json)} {name : String} {value : Json}
      (hmem : (name, .object inner) ∈ fields) (hslots : inner.lookup gateSlotsField = none)
      (hinner : Reaches inner value) : Reaches fields value
  | gate {fields inner below : List (String × Json)} {name : String} {value : Json}
      (hmem : (name, .object inner) ∈ fields) (hslots : (inner.lookup gateSlotsField).isSome)
      (hlevel : inner.lookup gateLevelField = some (.object below))
      (hbelow : Reaches below value) : Reaches fields value

/-- The fields of a well-formed gate: slots, at least one, and an object to
stand behind them. What other fields there are does not matter. -/
structure GateFields (fields : List (String × Json)) : Prop where
  slots : ∃ given, fields.lookup gateSlotsField = some given
    ∧ ∃ slots : Slots, slots.WrittenAs given
  level : ∃ below, fields.lookup gateLevelField = some (.object below)

/-- Every gate that some fields reach is well formed. -/
def GatesFormed (fields : List (String × Json)) : Prop :=
  ∀ inner, Reaches fields (.object inner) → (inner.lookup gateSlotsField).isSome →
    GateFields inner

/-! ### What is accepted -/

/-- What the gates in an entry have to be like. -/
structure EntryFormed (fields : List (String × Json)) : Prop where
  branch : fields.lookup gateSlotsField = none → GatesFormed fields
  gate : (fields.lookup gateSlotsField).isSome → GateFields fields
  behind : (fields.lookup gateSlotsField).isSome →
    ∀ inner, fields.lookup gateLevelField = some (.object inner) → GatesFormed inner

/-- The gates that are reached are those of the entries, and those that are
reached from there. -/
theorem gatesFormed_iff {fields : List (String × Json)} :
    GatesFormed fields ↔ ∀ name inner, (name, .object inner) ∈ fields → EntryFormed inner := by
  constructor
  · intro h name inner hmem
    constructor
    · intro hnone below hbelow
      exact h below (.branch hmem hnone hbelow)
    · intro hgate
      exact h inner (.entry hmem) hgate
    · intro hgate behind hlevel below hbelow
      exact h below (.gate hmem hgate hlevel hbelow)
  · intro h inner hreach hgate
    -- The last step of the way there tells which entry the gate is, or is in.
    generalize hvalue : object inner = value at hreach
    cases hreach with
    | entry hmem => exact (h _ inner (hvalue ▸ hmem)).gate hgate
    | branch hmem hnone hreach => exact (h _ _ hmem).branch hnone inner (hvalue ▸ hreach) hgate
    | gate hmem hsome hlevel hreach =>
        exact (h _ _ hmem).behind hsome _ hlevel inner (hvalue ▸ hreach) hgate

theorem exists_lists_cons_iff {field : String × Json} {rest : List (String × Json)} :
    (∃ kept, Lists (field :: rest) kept)
      ↔ (∃ entry, field.2.Becomes entry) ∧ ∃ kept, Lists rest kept := by
  constructor
  · rintro ⟨kept, hlists⟩
    cases hlists with
    | skip hskip hlists => exact ⟨⟨none, hskip⟩, _, hlists⟩
    | keep hentry hlists => exact ⟨⟨some _, hentry⟩, _, hlists⟩
  · rintro ⟨⟨entry, hentry⟩, kept, hlists⟩
    cases entry with
    | none => exact ⟨kept, .skip hentry hlists⟩
    | some node => exact ⟨_, .keep hentry hlists⟩

/-- Fields list entries exactly when each of them can be read. -/
theorem exists_lists_iff_forall {fields : List (String × Json)} :
    (∃ kept, Lists fields kept) ↔ ∀ field ∈ fields, ∃ entry, field.2.Becomes entry := by
  induction fields with
  | nil => exact ⟨fun _ => List.forall_mem_nil _, fun _ => ⟨[], .nil⟩⟩
  | cons field rest ih => rw [exists_lists_cons_iff, ih, List.forall_mem_cons]

/-- An object can be read exactly when the gates in it are well formed, if
this is so of the fields that are read inside. -/
theorem exists_becomes_object_iff {fields : List (String × Json)}
    (ih : (∃ kept, Lists fields kept) ↔ GatesFormed fields)
    (ihlevel : ∀ inner, fields.lookup gateLevelField = some (.object inner) →
      ((∃ kept, Lists inner kept) ↔ GatesFormed inner)) :
    (∃ entry, (object fields).Becomes entry) ↔ EntryFormed fields := by
  constructor
  · rintro ⟨entry, h⟩
    cases entry with
    | none => cases h
    | some node =>
        cases h with
        | branch hnone hlists =>
            refine ⟨fun _ => ih.mp ⟨_, hlists⟩, fun hsome => ?_, fun hsome => ?_⟩
            · simp [hnone] at hsome
            · simp [hnone] at hsome
        | gate hgiven hslots hlevel hlists =>
            refine ⟨fun hnone => ?_, fun _ => ⟨⟨_, hgiven, _, hslots⟩, _, hlevel⟩,
              fun _ inner hinner => ?_⟩
            · simp [hgiven] at hnone
            · obtain rfl := object.inj (Option.some.inj (hlevel.symm.trans hinner))
              exact (ihlevel _ hinner).mp ⟨_, hlists⟩
  · intro h
    cases hgiven : fields.lookup gateSlotsField with
    | none =>
        obtain ⟨kept, hlists⟩ := ih.mpr (h.branch hgiven)
        obtain ⟨below, hbelow⟩ := Schema.exists_holds kept
        exact ⟨some (some (.branch below)), .branch hgiven hlists hbelow⟩
    | some given =>
        have hsome : (fields.lookup gateSlotsField).isSome := by simp [hgiven]
        obtain ⟨⟨given', hgiven', slots, hslots⟩, inner, hlevel⟩ := h.gate hsome
        obtain ⟨kept, hlists⟩ := (ihlevel inner hlevel).mpr (h.behind hsome inner hlevel)
        obtain ⟨behind, hbehind⟩ := Schema.exists_holds kept
        exact ⟨some (some (.gate slots behind)), .gate hgiven' hslots hlevel hlists hbehind⟩

/-- Bare values and arrays can always be read, if only to be passed over. -/
theorem exists_becomes_of_not_object {value : Json} (h : ∀ fields, value ≠ .object fields) :
    ∃ entry, value.Becomes entry := by
  cases value with
  | null => exact ⟨some none, .absent⟩
  | boolean b => exact ⟨none, trivial⟩
  | number n => exact ⟨none, trivial⟩
  | text s => exact ⟨none, trivial⟩
  | array items =>
      by_cases hpieces : ∃ pieces : List Piece, items = pieces.map Piece.toKeys
      · obtain ⟨pieces, rfl⟩ := hpieces
        exact ⟨some (some (.key pieces)), .key pieces⟩
      · exact ⟨none, fun pieces heq => hpieces ⟨pieces, heq⟩⟩
  | object fields => exact absurd rfl (h fields)

/-- Fields list entries exactly when every gate they reach is well formed. -/
theorem exists_lists_iff (fields : List (String × Json)) :
    (∃ kept, Lists fields kept) ↔ GatesFormed fields := by
  induction fields using fields_induction with
  | step fields ih =>
      have hobject : ∀ name inner, (name, object inner) ∈ fields →
          ((∃ entry, (object inner).Becomes entry) ↔ EntryFormed inner) := by
        intro name inner hmem
        exact exists_becomes_object_iff (ih name inner hmem).1 (ih name inner hmem).2
      rw [exists_lists_iff_forall, gatesFormed_iff]
      constructor
      · intro h name inner hmem
        exact (hobject name inner hmem).mp (h (name, object inner) hmem)
      · intro h field hmem
        obtain ⟨name, value⟩ := field
        -- Only an object can fail to be read.
        by_cases hvalue : ∃ inner, value = object inner
        · obtain ⟨inner, rfl⟩ := hvalue
          exact (hobject name inner hmem).mpr (h name inner hmem)
        · exact exists_becomes_of_not_object fun inner heq => hvalue ⟨inner, heq⟩

end Json

/-- A value is read exactly if it is an object and every gate object that is
reached in it is well formed: its slots are one slot or an array of slots, at
least one, and an object stands behind them. What is read is then exactly the
schema that the fields describe: where no name comes twice, it has the names
whose values stand for something and no others. Null stands for an absent entry,
an array of texts and slots for the key of these pieces, a gate object for the
gate of its slots over its level, and any other object for a branch. -/
theorem Schema.ofKeys_accepts_iff (value : Json) :
    ((∃ schema, (ofKeys value).result = .ok schema)
        ↔ ∃ fields, value = .object fields ∧ Json.GatesFormed fields)
      ∧ (∀ schema, (ofKeys value).result = .ok schema
          ↔ ∃ fields, value = .object fields ∧ Json.Describes fields schema)
      ∧ ∀ fields schema, Json.Describes fields schema → (fields.map Prod.fst).Nodup →
          ∀ name entry, schema.find? name = some entry
            ↔ ∃ held, (name, held) ∈ fields ∧ held.StandsFor entry := by
  have hdescribes : ∀ schema, (ofKeys value).result = .ok schema
      ↔ ∃ fields, value = .object fields ∧ Json.Describes fields schema := by
    intro schema
    cases value with
    | object fields =>
        rw [show (ofKeys (.object fields)).result = .ok schema
          ↔ Json.Describes fields schema from Json.loadFields_gives_iff fields [] schema]
        simp
    | null => simp [ofKeys]
    | boolean b => simp [ofKeys]
    | number n => simp [ofKeys]
    | text s => simp [ofKeys]
    | array items => simp [ofKeys]
  refine ⟨?_, hdescribes, fun fields schema h => h.find?_eq_some_iff⟩
  simp only [hdescribes, ← Json.exists_lists_iff]
  constructor
  · rintro ⟨schema, fields, hfields, kept, hlists, -⟩
    exact ⟨fields, hfields, kept, hlists⟩
  · rintro ⟨fields, hfields, kept, hlists⟩
    obtain ⟨schema, hschema⟩ := exists_holds kept
    exact ⟨schema, fields, hfields, kept, hlists, hschema⟩

end KeyTree
