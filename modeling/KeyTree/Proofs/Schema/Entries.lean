import KeyTree.Proofs.Schema.Templates

/-!
# `KeyTree.Proofs.Schema.Entries`: schemas by what stands under each name

`Schema.entries` hands out the entries of a schema with the schemas below
them, each with the proof that it is in name order. `find?_level` and
`presentAt?_level` bring a look-up there back to the level. Two schemas in
which every name finds the same are one schema (`Schema.ext_find?`), so a
schema can be pinned down name by name.
-/

set_option autoImplicit false

namespace KeyTree

/-! ### Lists in name order -/

theorem NamesOrdered.pairwise {α : Type} {entries : List (String × α)} (h : NamesOrdered entries) :
    entries.Pairwise (fun entry other => entry.1 < other.1) := by
  induction entries with
  | nil => exact .nil
  | cons entry rest ih =>
      refine .cons (fun other hother => ?_) (ih h.2)
      exact h.1 other.1 (List.mem_map_of_mem hother)

theorem NamesOrdered.nodup_entries {α : Type} {entries : List (String × α)}
    (h : NamesOrdered entries) : entries.Nodup := by
  refine h.pairwise.imp fun {entry other} hlt heq => ?_
  exact String.lt_irrefl other.1 (heq ▸ hlt)

/-- Lists in name order in which every name finds the same are equal. -/
theorem NamesOrdered.ext {α : Type} {entries others : List (String × α)} (h : NamesOrdered entries)
    (h' : NamesOrdered others) (hlookup : ∀ name, entries.lookup name = others.lookup name) :
    entries = others := by
  have hmem : ∀ entry, entry ∈ entries ↔ entry ∈ others := by
    rintro ⟨name, value⟩
    rw [← lookup_eq_some_iff_mem h.nodup, ← lookup_eq_some_iff_mem h'.nodup, hlookup]
  have hperm : entries.Perm others :=
    (List.perm_ext_iff_of_nodup h.nodup_entries h'.nodup_entries).mpr hmem
  refine hperm.eq_of_pairwise (fun entry other _ _ hlt hgt => ?_) h.pairwise h'.pairwise
  exact absurd (String.lt_trans hlt hgt) (String.lt_irrefl _)

/-! ### Entries of a schema -/

namespace Node

theorem toEntry_injective {node other : Node} (h : node.toEntry = other.toEntry) :
    node = other := by
  rcases node with pieces | ⟨below, hbelow⟩ | ⟨slots, behind, hbehind⟩ <;>
    rcases other with pieces' | ⟨below', hbelow'⟩ | ⟨slots', behind', hbehind'⟩ <;>
    cases h <;> rfl

end Node

namespace Schema

theorem ext_level {schema other : Schema} (h : schema.level = other.level) :
    schema = other := by
  cases schema
  cases other
  cases h
  rfl

/-- The entries of a schema are those of its level. -/
theorem entries_toEntry (schema : Schema) :
    schema.entries.map (fun listed => (listed.1, listed.2.map Node.toEntry))
      = schema.level.entries := by
  unfold entries
  rw [List.map_map]
  refine Eq.trans (List.map_congr_left ?_) (List.attach_map_subtype_val schema.level.entries)
  rintro ⟨⟨name, entry⟩, hmem⟩ -
  rcases entry with _ | _ | _ | _ <;> rfl

/-- What stands under a name, as it stands in the level. -/
theorem find?_level (schema : Schema) (name : String) :
    schema.level.find? name = (schema.find? name).map (Option.map Node.toEntry) := by
  rw [Level.find?, ← entries_toEntry, find?]
  exact lookup_map_entries (fun _ node => node.map Node.toEntry) schema.entries name

/-- The present entry under a name, as it stands in the level. -/
theorem presentAt?_level (schema : Schema) (name : String) :
    schema.level.presentAt? name = (schema.find? name).join.map Node.toEntry := by
  rw [Level.presentAt?, find?_level]
  rcases schema.find? name with _ | _ | _ <;> rfl

/-- Schemas in which every name finds the same are equal. -/
theorem ext_find? {schema other : Schema}
    (h : ∀ name, schema.find? name = other.find? name) : schema = other := by
  have hlevel : ∀ name, schema.level.find? name = other.level.find? name := by
    intro name
    rw [find?_level, find?_level, h]
  have hordered := ((Level.ordered_iff schema.level).1 schema.ordered).1
  have hordered' := ((Level.ordered_iff other.level).1 other.ordered).1
  apply ext_level
  rw [← Level.ofEntries_entries schema.level, ← Level.ofEntries_entries other.level,
    hordered.ext hordered' hlevel]

@[simp] theorem find?_empty (name : String) : empty.find? name = none := rfl

/-- After an insertion the inserted name finds the new entry, and every
other name what it found before. -/
theorem find?_insert (schema : Schema) (name other : String) (node : Option Node) :
    (schema.insert name node).find? other
      = if other = name then some node else schema.find? other := by
  have hlevel := Level.find?_insert schema.level name other (node.map Node.toEntry)
  have hfind := find?_level (schema.insert name node) other
  rw [show (schema.insert name node).level.find? other = _ from hlevel, find?_level] at hfind
  -- Entries of schemas are told apart by how they stand in a level.
  have hinj : Function.Injective (Option.map (Option.map Node.toEntry)) :=
    Option.map_injective (Option.map_injective fun _ _ => Node.toEntry_injective)
  apply hinj
  rw [← hfind]
  split <;> rfl

end Schema

end KeyTree
