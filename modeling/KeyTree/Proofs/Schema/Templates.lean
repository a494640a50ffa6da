import KeyTree.Schema.Template

/-!
# `KeyTree.Proofs.Schema.Templates`: templates found by their path

`Level.templates` lists the templates of a whole schema with three stacks
that grow on the way down. Here the same templates are found one by one:
`Level.templateAt?` follows a single path of names and answers the template
of the key at its end. The theorems:

* `templatesFrom_eq_map_under`: the stacks only put something in front.
  The list for any stacks is the list for empty ones, with each template
  moved below them (`Template.under`).
* `slotsOf_pieces_of_mem_templatesFrom`: the slots among a template's pieces
  are those of the gates on the way and then the key's own.
* `mem_templates_iff`: a template of a level is the template of one of its
  present entries (`Level.present`, `Level.Entry.templates`).
* `mem_templates_iff_templateAt?`: in a level in name order, the templates
  with a path are exactly what `templateAt?` finds there. In particular no
  two templates share a path.
-/

set_option autoImplicit false

namespace KeyTree

/-! ### Names that are listed once -/

/-- Where names are listed once, a look-up finds exactly what is listed. -/
theorem lookup_eq_some_iff_mem {α : Type} {entries : List (String × α)}
    (h : (entries.map Prod.fst).Nodup) (name : String) (value : α) :
    entries.lookup name = some value ↔ (name, value) ∈ entries := by
  induction entries with
  | nil => simp
  | cons entry rest ih =>
      obtain ⟨key, held⟩ := entry
      obtain ⟨hkey, hrest⟩ := List.nodup_cons.mp h
      by_cases hname : name = key
      · -- `key` is not listed again, so nothing behind it counts.
        subst hname
        have hnot : (name, value) ∉ rest := fun hmem =>
          hkey (List.mem_map.mpr ⟨_, hmem, rfl⟩)
        simp [hnot, eq_comm]
      · rw [List.lookup_cons, beq_eq_false_iff_ne.mpr hname]
        simp [ih hrest, hname]

/-- Looking a name up commutes with mapping what is listed. -/
theorem lookup_map_entries {α β : Type} (f : String → α → β) (entries : List (String × α))
    (name : String) :
    (entries.map fun listed => (listed.1, f listed.1 listed.2)).lookup name
      = (entries.lookup name).map (f name) := by
  induction entries with
  | nil => rfl
  | cons listed rest ih =>
      obtain ⟨key, a⟩ := listed
      by_cases hname : name = key
      · subst hname
        simp
      · simpa [List.lookup_cons, beq_eq_false_iff_ne.mpr hname] using ih

/-- Names that strictly increase are listed once. -/
theorem NamesOrdered.nodup {α : Type} {entries : List (String × α)} (h : NamesOrdered entries) :
    (entries.map Prod.fst).Nodup := by
  induction entries with
  | nil => exact List.nodup_nil
  | cons entry rest ih =>
      rw [List.map_cons, List.nodup_cons]
      exact ⟨fun hmem => String.lt_irrefl _ (h.1 _ hmem), ih h.2⟩

namespace Level

/-- The present entries of a level, in order. -/
def present (level : Level) : List (String × Entry) :=
  level.entries.filterMap fun listed => listed.2.map fun entry => (listed.1, entry)

@[simp] theorem present_cons (name : String) (entry : Entry) (rest : Level) :
    (cons name (some entry) rest).present = (name, entry) :: rest.present := by
  rw [present, entries_cons]
  rfl

/-- An entry is present if it is listed and not absent. -/
theorem mem_present_iff {level : Level} {name : String} {entry : Entry} :
    (name, entry) ∈ level.present ↔ (name, some entry) ∈ level.entries := by
  rw [present, List.mem_filterMap]
  constructor
  · rintro ⟨⟨other, held⟩, hmem, hheld⟩
    obtain ⟨_, rfl, heq⟩ := Option.map_eq_some_iff.mp hheld
    obtain ⟨rfl, rfl⟩ := Prod.mk.inj heq
    exact hmem
  · intro hmem
    exact ⟨(name, some entry), hmem, rfl⟩

/-- The present entry under a name. -/
def presentAt? (level : Level) (name : String) : Option Entry := (level.find? name).join

/-- In a level in name order the present entry under a name is the one that
the level lists. -/
theorem presentAt?_eq_some_iff {level : Level} (h : level.Ordered) (name : String) (entry : Entry) :
    level.presentAt? name = some entry ↔ (name, entry) ∈ level.present := by
  rw [mem_present_iff, ← lookup_eq_some_iff_mem ((ordered_iff level).1 h).1.nodup]
  exact Option.join_eq_some_iff

/-- The names of the present entries are among all names, in the same order. -/
theorem sublist_names_present (level : Level) :
    (level.present.map Prod.fst).Sublist level.names := by
  induction level with
  | nil => exact .slnil
  | absent name rest ih => exact .cons name ih
  | key name pieces rest ih => exact .cons_cons name ih
  | branch name below rest _ ih => exact .cons_cons name ih
  | gate name slots behind rest _ ih => exact .cons_cons name ih

/-- In a level in name order looking a present entry up finds it. -/
theorem lookup_present {level : Level} (h : level.Ordered) (name : String) :
    level.present.lookup name = level.presentAt? name := by
  have hnodup : (level.present.map Prod.fst).Nodup :=
    ((ordered_iff level).1 h).1.nodup.sublist level.sublist_names_present
  refine Option.ext fun entry => ?_
  rw [lookup_eq_some_iff_mem hnodup, presentAt?_eq_some_iff h]

/-- What a level in name order holds below an entry is in name order. -/
theorem ordered_of_presentAt? {level : Level} (h : level.Ordered) {name : String} {entry : Entry}
    (hentry : level.presentAt? name = some entry) : entry.Ordered :=
  ((ordered_iff level).1 h).2 _ (mem_present_iff.1 ((presentAt?_eq_some_iff h name entry).1 hentry))
    entry rfl

end Level

/-! ### Slots among pieces -/

@[simp] theorem slotsOf_nil : slotsOf [] = [] := rfl

@[simp] theorem slotsOf_literal (text : String) (pieces : List Piece) :
    slotsOf (.literal text :: pieces) = slotsOf pieces := rfl

@[simp] theorem slotsOf_slot (slot : Slot) (pieces : List Piece) :
    slotsOf (.slot slot :: pieces) = slot :: slotsOf pieces := rfl

@[simp] theorem slotsOf_append (pieces others : List Piece) :
    slotsOf (pieces ++ others) = slotsOf pieces ++ slotsOf others :=
  List.filterMap_append

/-- Slots as pieces are the slots among them. -/
@[simp] theorem slotsOf_map_slot (slots : List Slot) : slotsOf (slots.map .slot) = slots := by
  induction slots with
  | nil => rfl
  | cons slot rest ih => rw [List.map_cons, slotsOf_slot, ih]

/-- The pieces a gate puts in front hold the gate's slots. -/
@[simp] theorem slotsOf_gatePieces (name : String) (slots : Slots) :
    slotsOf (gatePieces name slots) = slots.toList := by
  rw [gatePieces, slotsOf_literal, slotsOf_map_slot]

/-! ### The stacks of the listing -/

/-- A template as it reads from further up: below the names `path`, the
pieces `stem` and gates with the slots `inherited`. -/
def Template.under (path : List String) (stem : List Piece) (inherited : List Slot)
    (template : Template) : Template where
  path := path ++ template.path
  inherited := inherited ++ template.inherited
  own := template.own
  pieces := stem ++ template.pieces

/-- Stacks are put in front one after another. -/
theorem Template.under_under (path path' : List String) (stem stem' : List Piece)
    (inherited inherited' : List Slot) (template : Template) :
    (template.under path' stem' inherited').under path stem inherited
      = template.under (path ++ path') (stem ++ stem') (inherited ++ inherited') := by
  simp [Template.under]

namespace Level

/-- The stacks of the listing only put something in front of each template. -/
theorem templatesFrom_eq_map_under (level : Level) (path : List String) (stem : List Piece)
    (inherited : List Slot) :
    level.templatesFrom path stem inherited
      = level.templates.map (Template.under path stem inherited) := by
  unfold templates
  induction level generalizing path stem inherited with
  | nil => rfl
  | absent name rest ih => exact ih path stem inherited
  | key name pieces rest ih =>
      simp only [templatesFrom, List.map_cons]
      rw [ih path stem inherited]
      simp [Template.under]
  | branch name below rest ihb ihr =>
      -- `templates` lists below an entry with stacks of its own, so the
      -- hypothesis for the entry's level is used on both sides.
      simp only [templatesFrom, List.map_append]
      rw [ihb, ihr path stem inherited, ihb ([] ++ [name]), List.map_map]
      simp only [Function.comp_def, Template.under_under, List.nil_append, List.append_nil]
  | gate name slots behind rest ihb ihr =>
      simp only [templatesFrom, List.map_append]
      rw [ihb, ihr path stem inherited, ihb ([] ++ [name]), List.map_map]
      simp only [Function.comp_def, Template.under_under, List.nil_append]

/-- The slots among the pieces of a template are those of the gates on the
way, outermost first, and then the key's own. It holds as long as the two
stacks `stem` and `inherited` agree. -/
theorem slotsOf_pieces_of_mem_templatesFrom {level : Level} {path : List String}
    {stem : List Piece} {inherited : List Slot} (hstem : slotsOf stem = inherited)
    {template : Template} (h : template ∈ level.templatesFrom path stem inherited) :
    slotsOf template.pieces = template.slots := by
  induction level generalizing path stem inherited with
  | nil => cases h
  | absent name rest ih => exact ih hstem h
  | key name pieces rest ih =>
      rcases List.mem_cons.mp h with rfl | h
      · rw [slotsOf_append, hstem]
        rfl
      · exact ih hstem h
  | branch name below rest ihb ihr =>
      rcases List.mem_append.mp h with h | h
      · exact ihb (by simpa using hstem) h
      · exact ihr hstem h
  | gate name slots behind rest ihb ihr =>
      rcases List.mem_append.mp h with h | h
      · exact ihb (by rw [slotsOf_append, hstem, slotsOf_gatePieces]) h
      · exact ihr hstem h

/-! ### Templates of one entry -/

/-- The templates of an entry that stands under a name. -/
def Entry.templates (name : String) : Entry → List Template
  | .key pieces => [⟨[name], [], slotsOf pieces, pieces⟩]
  | .branch below => below.templates.map (.under [name] [.literal name] [])
  | .gate slots behind =>
    behind.templates.map (.under [name] (gatePieces name slots) slots.toList)

/-- The templates of a level are those of its present entries, one entry
after another. -/
theorem templates_eq_flatMap (level : Level) :
    level.templates = level.present.flatMap fun listed => listed.2.templates listed.1 := by
  unfold templates
  induction level with
  | nil => rfl
  | absent name rest ih => exact ih
  | key name pieces rest ih =>
      rw [templatesFrom, ih]
      rfl
  | branch name below rest _ ih =>
      rw [templatesFrom, ih, templatesFrom_eq_map_under]
      rfl
  | gate name slots behind rest _ ih =>
      rw [templatesFrom, ih, templatesFrom_eq_map_under]
      rfl

/-- A template of a level is the template of one of its present entries. -/
theorem mem_templates_iff {level : Level} {template : Template} :
    template ∈ level.templates
      ↔ ∃ name entry, (name, entry) ∈ level.present ∧ template ∈ entry.templates name := by
  rw [templates_eq_flatMap, List.mem_flatMap, Prod.exists]

/-- The path of an entry's template starts with the entry's name. -/
theorem Entry.path_of_mem_templates {name : String} {entry : Entry} {template : Template}
    (h : template ∈ entry.templates name) : ∃ rest, template.path = name :: rest := by
  cases entry with
  | key pieces =>
      rw [List.mem_singleton.mp h]
      exact ⟨[], rfl⟩
  | branch below =>
      obtain ⟨inner, -, rfl⟩ := List.mem_map.mp h
      exact ⟨inner.path, rfl⟩
  | gate slots behind =>
      obtain ⟨inner, -, rfl⟩ := List.mem_map.mp h
      exact ⟨inner.path, rfl⟩

/-! ### One template, by its path -/

/-- The template of the key that a path of names leads to. -/
def templateAt? : Level → List String → Option Template
  | _, [] => none
  | level, name :: rest =>
    match level.presentAt? name with
    | none => none
    | some (.key pieces) =>
      if rest.isEmpty then some ⟨[name], [], slotsOf pieces, pieces⟩ else none
    | some (.branch below) =>
      (below.templateAt? rest).map (.under [name] [.literal name] [])
    | some (.gate slots behind) =>
      (behind.templateAt? rest).map (.under [name] (gatePieces name slots) slots.toList)

/-- Moving templates below one name moves what is found along. -/
private theorem mem_map_under_iff {level : Level} {rest : List String}
    (ih : ∀ inner, inner ∈ level.templates ∧ inner.path = rest
      ↔ level.templateAt? rest = some inner)
    (name : String) (stem : List Piece) (inherited : List Slot) (template : Template) :
    template ∈ level.templates.map (Template.under [name] stem inherited)
        ∧ template.path = name :: rest
      ↔ (level.templateAt? rest).map (Template.under [name] stem inherited) = some template := by
  simp only [List.mem_map, Option.map_eq_some_iff]
  constructor
  · rintro ⟨⟨inner, hinner, rfl⟩, hpath⟩
    exact ⟨inner, (ih inner).mp ⟨hinner, (List.cons.inj hpath).2⟩, rfl⟩
  · rintro ⟨inner, hfound, rfl⟩
    obtain ⟨hinner, hpath⟩ := (ih inner).mpr hfound
    exact ⟨⟨inner, hinner, rfl⟩, congrArg (name :: ·) hpath⟩

/-- In a level in name order, the templates with a path are exactly what
following the path finds. -/
theorem mem_templates_iff_templateAt? {level : Level} (h : level.Ordered) (path : List String)
    (template : Template) :
    template ∈ level.templates ∧ template.path = path
      ↔ level.templateAt? path = some template := by
  induction path generalizing level template with
  | nil =>
      simp only [templateAt?, reduceCtorEq, iff_false]
      rintro ⟨hmem, hpath⟩
      obtain ⟨name, entry, -, ht⟩ := mem_templates_iff.mp hmem
      obtain ⟨rest, hrest⟩ := Entry.path_of_mem_templates ht
      simp [hpath] at hrest
  | cons name rest ih =>
      -- Only the entry under the path's first name can have the template.
      have hentry : template ∈ level.templates ∧ template.path = name :: rest
          ↔ ∃ entry, level.presentAt? name = some entry
              ∧ template ∈ entry.templates name ∧ template.path = name :: rest := by
        rw [mem_templates_iff]
        constructor
        · rintro ⟨⟨other, entry, hmem, ht⟩, hpath⟩
          obtain ⟨below, hbelow⟩ := Entry.path_of_mem_templates ht
          obtain rfl : other = name := (List.cons.inj (hbelow.symm.trans hpath)).1
          exact ⟨entry, (presentAt?_eq_some_iff h other entry).mpr hmem, ht, hpath⟩
        · rintro ⟨entry, hfound, ht, hpath⟩
          exact ⟨⟨name, entry, (presentAt?_eq_some_iff h name entry).mp hfound, ht⟩, hpath⟩
      rw [hentry]
      cases hfound : level.presentAt? name with
      | none => simp [templateAt?, hfound]
      | some entry =>
          have hbelow : entry.Ordered := ordered_of_presentAt? h hfound
          cases entry with
          | key pieces =>
              simp only [Option.some.injEq, exists_eq_left', Entry.templates, templateAt?, hfound,
                List.mem_singleton]
              cases rest with
              | nil =>
                  constructor
                  · rintro ⟨rfl, -⟩
                    rfl
                  · rintro ⟨⟩
                    exact ⟨rfl, rfl⟩
              | cons next others =>
                  -- A key has one name only, so the path leads behind it.
                  constructor
                  · rintro ⟨rfl, hpath⟩
                    simp at hpath
                  · rintro ⟨⟩
          | branch below =>
              simpa [templateAt?, hfound, Entry.templates] using
                mem_map_under_iff (fun inner => ih hbelow inner) name [.literal name] [] template
          | gate slots behind =>
              simpa [templateAt?, hfound, Entry.templates] using
                mem_map_under_iff (fun inner => ih hbelow inner) name (gatePieces name slots)
                  slots.toList template

end Level

/-- The slots among the pieces of a listed template are all its slots. -/
theorem Schema.slotsOf_pieces {schema : Schema} {template : Template}
    (h : template ∈ schema.templates) : slotsOf template.pieces = template.slots := by
  have hlisted : template ∈ schema.level.templatesFrom [] [] [] := h
  exact Level.slotsOf_pieces_of_mem_templatesFrom rfl hlisted

end KeyTree
