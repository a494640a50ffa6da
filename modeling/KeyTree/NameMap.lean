/-!
# `KeyTree.NameMap`: maps from names, kept in name order

A `NameMap` is a list of named values whose names strictly increase.
Names are compared by code point, which is also the order of their UTF-8
bytes. Inserting under a name that is already there replaces the value,
so of several insertions under one name the last one stands.

- `insertNamed` is insertion on the bare list; `lookup_insertNamed` says
  what it does to every name, `insertNamed_of_lt` and
  `insertNamed_of_ordered` what it does at either end.
- `NameMap.insert` carries the order along, from `ordered_insertNamed`.
-/

set_option autoImplicit false

namespace KeyTree

/-! ### Lists of named values -/

/-- The names of a list of named values strictly increase. -/
def NamesOrdered {α : Type} : List (String × α) → Prop
  | [] => True
  | (name, _) :: rest => (∀ other ∈ rest.map Prod.fst, name < other) ∧ NamesOrdered rest

/-- Puts `value` under `name`, before the first greater name and in the
place of an equal one. -/
def insertNamed {α : Type} (name : String) (value : α) :
    List (String × α) → List (String × α)
  | [] => [(name, value)]
  | (other, held) :: rest =>
    if name < other then (name, value) :: (other, held) :: rest
    else if name = other then (name, value) :: rest
    else (other, held) :: insertNamed name value rest

/-- Inserts one after another, so that the last of several values under
one name stands. -/
def insertAllNamed {α : Type} (entries : List (String × α)) : List (String × α) :=
  entries.foldl (fun held entry => insertNamed entry.1 entry.2 held) []

/-- A name that is neither less than nor equal to another is greater. -/
theorem lt_of_not_lt_of_ne {a b : String} (h : ¬ a < b) (hne : a ≠ b) : b < a := by
  by_cases hba : b < a
  · exact hba
  · exact absurd (String.le_antisymm (String.not_lt.1 hba) (String.not_lt.1 h)) hne

/-- Insertion adds no name but the one inserted. -/
theorem mem_names_insertNamed {α : Type} {name other : String} {value : α}
    {entries : List (String × α)}
    (h : other ∈ (insertNamed name value entries).map Prod.fst) :
    other = name ∨ other ∈ entries.map Prod.fst := by
  induction entries with
  | nil => simp [insertNamed] at h; exact .inl h
  | cons entry rest ih =>
    obtain ⟨key, held⟩ := entry
    simp only [insertNamed] at h
    split at h
    · simpa using h
    · split at h
      · rename_i heq
        subst heq
        simp only [List.map_cons, List.mem_cons] at h ⊢
        exact h.elim .inl fun hr => .inr (.inr hr)
      · simp only [List.map_cons, List.mem_cons] at h ⊢
        rcases h with h | h
        · exact .inr (.inl h)
        · exact (ih h).imp_right .inr

/-- Insertion keeps names strictly increasing. -/
theorem ordered_insertNamed {α : Type} (name : String) (value : α)
    {entries : List (String × α)} (h : NamesOrdered entries) :
    NamesOrdered (insertNamed name value entries) := by
  induction entries with
  | nil => exact ⟨by simp, trivial⟩
  | cons entry rest ih =>
    obtain ⟨key, held⟩ := entry
    obtain ⟨hkey, hrest⟩ := h
    simp only [insertNamed]
    split
    · rename_i hlt
      refine ⟨fun other ho => ?_, hkey, hrest⟩
      simp only [List.map_cons, List.mem_cons] at ho
      rcases ho with rfl | ho
      · exact hlt
      · exact String.lt_trans hlt (hkey other ho)
    · split
      · rename_i heq
        subst heq
        exact ⟨hkey, hrest⟩
      · rename_i hlt hne
        refine ⟨fun other ho => ?_, ih hrest⟩
        rcases mem_names_insertNamed ho with rfl | ho
        · exact lt_of_not_lt_of_ne hlt hne
        · exact hkey other ho

/-- After an insertion the inserted name holds the new value and every
other name holds what it held. -/
theorem lookup_insertNamed {α : Type} (name other : String) (value : α)
    (entries : List (String × α)) :
    (insertNamed name value entries).lookup other =
      if other = name then some value else entries.lookup other := by
  induction entries with
  | nil =>
    by_cases h : other = name
    · simp [insertNamed, h]
    · simp [insertNamed, List.lookup_cons, beq_eq_false_iff_ne.2 h, h]
  | cons entry rest ih =>
    obtain ⟨key, held⟩ := entry
    simp only [insertNamed]
    by_cases h : other = name
    · subst h
      split
      · simp
      · split
        · simp
        · rename_i hne
          simpa [List.lookup_cons, beq_eq_false_iff_ne.2 hne] using ih
    · split
      · simp [List.lookup_cons, beq_eq_false_iff_ne.2 h]
      · split
        · rename_i heq
          subst heq
          simp [List.lookup_cons, beq_eq_false_iff_ne.2 h]
        · simp only [List.lookup_cons, ih, h, if_false]

/-- An inserted list of entries holds nothing but the new and the old ones. -/
theorem mem_insertNamed {α : Type} {name : String} {value : α}
    {entries : List (String × α)} {entry : String × α}
    (h : entry ∈ insertNamed name value entries) :
    entry = (name, value) ∨ entry ∈ entries := by
  induction entries with
  | nil => simpa [insertNamed] using h
  | cons held rest ih =>
    obtain ⟨key, old⟩ := held
    simp only [insertNamed] at h
    split at h
    · simpa using h
    · split at h
      · simp only [List.mem_cons] at h ⊢
        exact h.imp_right .inr
      · simp only [List.mem_cons] at h ⊢
        rcases h with h | h
        · exact .inr (.inl h)
        · exact (ih h).imp_right .inr

/-- A name below all others is inserted in front. -/
theorem insertNamed_of_lt {α : Type} {name : String} {entries : List (String × α)}
    (h : ∀ other ∈ entries.map Prod.fst, name < other) (value : α) :
    insertNamed name value entries = (name, value) :: entries := by
  cases entries with
  | nil => rfl
  | cons entry rest =>
      rw [insertNamed, if_pos (h entry.1 (by simp))]

/-- A name above all others is inserted at the end. -/
theorem insertNamed_of_ordered {α : Type} {name : String} {value : α}
    {held others : List (String × α)} (h : NamesOrdered (held ++ (name, value) :: others)) :
    insertNamed name value held = held ++ [(name, value)] := by
  induction held with
  | nil => rfl
  | cons entry rest ih =>
      obtain ⟨hfirst, hrest⟩ := h
      have hlt : entry.1 < name := hfirst name (by simp)
      have hne : name ≠ entry.1 := fun heq => String.lt_irrefl _ (heq ▸ hlt)
      rw [insertNamed, if_neg (String.lt_asymm hlt), if_neg hne, ih hrest, List.cons_append]

/-- Insertion one after another leaves a list in name order as it is. -/
theorem foldl_insertNamed_of_ordered {α : Type} {held fields : List (String × α)}
    (h : NamesOrdered (held ++ fields)) :
    fields.foldl (fun held field => insertNamed field.1 field.2 held) held = held ++ fields := by
  induction fields generalizing held with
  | nil => rw [List.foldl_nil, List.append_nil]
  | cons field rest ih =>
      have hrest : NamesOrdered ((held ++ [field]) ++ rest) := by
        rwa [List.append_assoc, List.singleton_append]
      rw [List.foldl_cons, insertNamed_of_ordered h, ih hrest, List.append_assoc,
        List.singleton_append]

/-! ### The map -/

/-- A map from names to values, listed in strictly increasing order of
its names. -/
structure NameMap (α : Type) where
  /-- The named values, in name order. -/
  entries : List (String × α)
  ordered : NamesOrdered entries

namespace NameMap

variable {α : Type}

/-- The map without names. -/
def empty : NameMap α := ⟨[], trivial⟩

/-- Puts `value` under `name`, in the place of what stood there. -/
def insert (map : NameMap α) (name : String) (value : α) : NameMap α :=
  ⟨insertNamed name value map.entries, ordered_insertNamed name value map.ordered⟩

/-- What stands under `name`. -/
def find? (map : NameMap α) (name : String) : Option α :=
  map.entries.lookup name

/-- Whether anything stands under `name`. -/
def contains (map : NameMap α) (name : String) : Bool :=
  (map.find? name).isSome

/-- How many names there are. -/
def size (map : NameMap α) : Nat := map.entries.length

/-- Inserts one after another into the empty map. -/
def ofList (entries : List (String × α)) : NameMap α :=
  entries.foldl (fun map entry => map.insert entry.1 entry.2) empty

theorem find?_insert (map : NameMap α) (name other : String) (value : α) :
    (map.insert name value).find? other =
      if other = name then some value else map.find? other :=
  lookup_insertNamed name other value map.entries

end NameMap

end KeyTree
