import KeyTree.Proofs.Schema.Placed

/-!
# `KeyTree.Proofs.Schema.Paths`: what stands along a path of names

A path of names need not lead to a key. `Level.entryAt?` is the present entry
that a path leads to, whatever it is, with the stages of the branches and gates
on the way. Everything else about a path is said of its parts from the root on:

* `Level.exists_below_of_prefix`: an entry is reached through branches and
  gates only, so each shorter part of its path leads to one of these.
* `Level.HasKeyAt.exists_template`: a path that leads to a key is that of a
  template.
* `Level.Needs`: the slots that a path asks for, those of the gates that it
  goes on behind and of the key that it ends at. A gate at the end of a path
  asks for nothing, and neither does a key that a path goes on behind.
  `Level.needs_cons_iff` takes a path apart at its first name.
-/

set_option autoImplicit false

namespace KeyTree.Level

/-! ### Entries by their path -/

/-- The present entry that a path of names leads to, with the stages of the
branches and gates on the way to it. -/
def entryAt? : Level → List String → Option (List Stage × Entry)
  | _, [] => none
  | level, name :: rest =>
    match level.presentAt? name with
    | none => none
    | some entry =>
      if rest.isEmpty then some ([], entry)
      else match entry.below? with
        | none => none
        | some inner =>
          (inner.entryAt? rest).map fun found => (entry.stage name :: found.1, found.2)

variable {level inner : Level} {name : String} {entry found : Entry} {path rest : List String}
  {stages : List Stage} {slot : Slot}

/-- A path that leads to an entry has names. -/
theorem ne_nil_of_entryAt? (h : level.entryAt? path = some (stages, found)) : path ≠ [] := by
  rintro rfl
  cases h

/-- Nothing is found behind a name that no present entry has. -/
theorem entryAt?_cons_of_none (hentry : level.presentAt? name = none) (rest : List String) :
    level.entryAt? (name :: rest) = none := by
  rw [entryAt?, hentry]

/-- Further names lead on from the level below the entry under the first. -/
theorem entryAt?_cons (hentry : level.presentAt? name = some entry)
    (hbelow : entry.below? = some inner) (hne : rest ≠ []) :
    level.entryAt? (name :: rest)
      = (inner.entryAt? rest).map fun found => (entry.stage name :: found.1, found.2) := by
  obtain ⟨next, others, rfl⟩ := List.exists_cons_of_ne_nil hne
  rw [entryAt?, hentry]
  simp [hbelow]

/-- A path leads to an entry of the level itself, or on through one of them. -/
theorem entryAt?_cons_eq_some_iff :
    level.entryAt? (name :: rest) = some (stages, found)
      ↔ (rest = [] ∧ stages = [] ∧ level.presentAt? name = some found)
        ∨ ∃ entry inner deeper, level.presentAt? name = some entry ∧ entry.below? = some inner
            ∧ inner.entryAt? rest = some (deeper, found) ∧ stages = entry.stage name :: deeper := by
  cases hentry : level.presentAt? name with
  | none => simp [entryAt?_cons_of_none hentry]
  | some entry =>
      cases rest with
      | nil => simp [entryAt?, hentry, eq_comm]
      | cons next others =>
          cases hbelow : entry.below? with
          | none => simp [entryAt?, hentry, hbelow]
          | some inner =>
              rw [entryAt?_cons hentry hbelow (List.cons_ne_nil next others),
                Option.map_eq_some_iff]
              constructor
              · rintro ⟨⟨deeper, found⟩, hfound, heq⟩
                cases heq
                exact .inr ⟨entry, inner, deeper, rfl, hbelow, hfound, rfl⟩
              · rintro (⟨hnil, -, -⟩ | ⟨_, _, deeper, ⟨⟩, hbelow', hfound, rfl⟩)
                · cases hnil
                · obtain rfl := Option.some.inj (hbelow.symm.trans hbelow')
                  exact ⟨_, hfound, rfl⟩

/-- A part of a path that has names starts with the first name of the path. -/
theorem exists_cons_of_prefix {names : List String} (hnames : names <+: name :: rest)
    (hne : names ≠ []) : ∃ others, names = name :: others ∧ others <+: rest := by
  obtain ⟨first, others, rfl⟩ := List.exists_cons_of_ne_nil hne
  obtain ⟨rfl, hothers⟩ := List.cons_prefix_cons.mp hnames
  exact ⟨others, rfl, hothers⟩

/-- Each shorter part of an entry's path leads to a branch or a gate. -/
theorem exists_below_of_prefix {names : List String}
    (h : level.entryAt? path = some (stages, found)) (hnames : names <+: path) (hne : names ≠ [])
    (hmore : names ≠ path) :
    ∃ stages entry inner, level.entryAt? names = some (stages, entry)
      ∧ entry.below? = some inner := by
  induction path generalizing level names stages with
  | nil => cases h
  | cons name rest ih =>
      obtain ⟨others, rfl, hothers⟩ := exists_cons_of_prefix hnames hne
      rcases entryAt?_cons_eq_some_iff.mp h with
        ⟨rfl, -, -⟩ | ⟨entry, inner, deeper, hentry, hbelow, hfound, -⟩
      · exact absurd (congrArg _ (List.prefix_nil.mp hothers)) hmore
      · by_cases hend : others = []
        · subst hend
          exact ⟨[], entry, inner, entryAt?_cons_eq_some_iff.mpr (.inl ⟨rfl, rfl, hentry⟩), hbelow⟩
        · obtain ⟨stages, further, below, hfurther, hdeeper⟩ :=
            ih hfound hothers hend fun heq => hmore (congrArg _ heq)
          exact ⟨_, further, below, entryAt?_cons_eq_some_iff.mpr
            (.inr ⟨entry, inner, stages, hentry, hbelow, hfurther, rfl⟩), hdeeper⟩

/-! ### Paths of keys -/

/-- The path leads to a key. -/
def HasKeyAt (level : Level) (path : List String) : Prop :=
  ∃ stages pieces, level.entryAt? path = some (stages, .key pieces)

/-- Only a key has no level below it. -/
theorem Entry.below?_eq_none_iff : entry.below? = none ↔ ∃ pieces, entry = .key pieces := by
  cases entry <;> simp [below?]

/-- A single name leads to a key of the level itself. -/
theorem HasKeyAt.of_key {pieces : List Piece}
    (hentry : level.presentAt? name = some (.key pieces)) : level.HasKeyAt [name] :=
  ⟨[], pieces, entryAt?_cons_eq_some_iff.mpr (.inl ⟨rfl, rfl, hentry⟩)⟩

/-- What leads to a key from the level below an entry, leads to it through the
entry. -/
theorem HasKeyAt.behind (hentry : level.presentAt? name = some entry)
    (hbelow : entry.below? = some inner) (h : inner.HasKeyAt rest) :
    level.HasKeyAt (name :: rest) := by
  obtain ⟨stages, pieces, hfound⟩ := h
  exact ⟨_, pieces, entryAt?_cons_eq_some_iff.mpr
    (.inr ⟨entry, inner, stages, hentry, hbelow, hfound, rfl⟩)⟩

/-- A path that leads to a key is the path of stages that do. -/
theorem HasKeyAt.exists_leads (h : level.HasKeyAt path) :
    ∃ leading, level.Leads leading ∧ leading.map Stage.name = path := by
  obtain ⟨stages, pieces, h⟩ := h
  induction path generalizing level stages with
  | nil => cases h
  | cons name rest ih =>
      rcases entryAt?_cons_eq_some_iff.mp h with
        ⟨rfl, -, hentry⟩ | ⟨entry, inner, deeper, hentry, hbelow, hfound, -⟩
      · exact ⟨_, .key hentry, rfl⟩
      · obtain ⟨leading, hleads, rfl⟩ := ih deeper hfound
        exact ⟨_, .deeper hentry hbelow hleads, by simp⟩

/-- A path that leads to a key is the path of a template. -/
theorem HasKeyAt.exists_template (hordered : level.Ordered) (h : level.HasKeyAt path) :
    ∃ template ∈ level.templates, template.path = path := by
  obtain ⟨leading, hleads, hpath⟩ := h.exists_leads
  refine ⟨Template.ofStages leading, ?_, ?_⟩
  · exact (mem_templates_iff_leads hordered _).mpr ⟨leading, hleads, rfl⟩
  · rw [Template.path_ofStages, hpath]

/-! ### Slots that a path asks for -/

/-- A slot that has to be filled along a path. -/
inductive Needs (level : Level) (path : List String) (slot : Slot) : Prop
  /-- It belongs to a gate, and the path goes on behind the gate. -/
  | gate {front : List String} {stages : List Stage} {slots : Slots} {behind : Level}
      (hgate : level.entryAt? front = some (stages, .gate slots behind)) (hfront : front <+: path)
      (hmore : front ≠ path) (hslot : slot ∈ slots.toList)
  /-- It belongs to the key at the end of the path. -/
  | key {stages : List Stage} {pieces : List Piece}
      (hkey : level.entryAt? path = some (stages, .key pieces)) (hslot : slot ∈ slotsOf pieces)

/-- A path without names needs nothing. -/
theorem not_needs_nil (level : Level) (slot : Slot) : ¬ level.Needs [] slot := by
  intro h
  cases h with
  | gate hgate hfront hmore hslot => exact hmore (List.prefix_nil.mp hfront)
  | key hkey hslot => cases hkey

/-- A path that starts nowhere needs nothing. -/
theorem not_needs_cons_of_none (hentry : level.presentAt? name = none) :
    ¬ level.Needs (name :: rest) slot := by
  intro h
  cases h with
  | @gate front stages slots behind hgate hfront hmore hslot =>
      obtain ⟨others, rfl, -⟩ := exists_cons_of_prefix hfront (ne_nil_of_entryAt? hgate)
      rw [entryAt?_cons_of_none hentry] at hgate
      cases hgate
  | key hkey hslot =>
      rw [entryAt?_cons_of_none hentry] at hkey
      cases hkey

/-- The first name of a path needs the slots of its entry, if this is a gate
and the path goes on, or a key and the path ends. The rest needs what it needs
from the level below. -/
theorem needs_cons_iff (hentry : level.presentAt? name = some entry) :
    level.Needs (name :: rest) slot
      ↔ (slot ∈ entry.slots ∧ (rest = [] ↔ entry.below? = none))
        ∨ ∃ inner, entry.below? = some inner ∧ inner.Needs rest slot := by
  have hfirst : level.entryAt? [name] = some ([], entry) :=
    entryAt?_cons_eq_some_iff.mpr (.inl ⟨rfl, rfl, hentry⟩)
  constructor
  · intro h
    cases h with
    | @gate front stages slots behind hgate hfront hmore hslot =>
        obtain ⟨others, rfl, hothers⟩ := exists_cons_of_prefix hfront (ne_nil_of_entryAt? hgate)
        have hrest : others ≠ rest := fun heq => hmore (congrArg _ heq)
        rcases entryAt?_cons_eq_some_iff.mp hgate with
          ⟨rfl, -, hheld⟩ | ⟨held, inner, deeper, hheld, hbelow, hfound, -⟩
        · obtain rfl := Option.some.inj (hentry.symm.trans hheld)
          exact .inl ⟨hslot, by simpa [Entry.below?] using hrest.symm⟩
        · obtain rfl := Option.some.inj (hentry.symm.trans hheld)
          exact .inr ⟨inner, hbelow, .gate hfound hothers hrest hslot⟩
    | key hkey hslot =>
        rcases entryAt?_cons_eq_some_iff.mp hkey with
          ⟨rfl, -, hheld⟩ | ⟨held, inner, deeper, hheld, hbelow, hfound, -⟩
        · obtain rfl := Option.some.inj (hentry.symm.trans hheld)
          exact .inl ⟨hslot, by simp [Entry.below?]⟩
        · obtain rfl := Option.some.inj (hentry.symm.trans hheld)
          exact .inr ⟨inner, hbelow, .key hfound hslot⟩
  · rintro (⟨hslot, hend⟩ | ⟨inner, hbelow, hneeds⟩)
    · cases entry with
      | key pieces =>
          obtain rfl := hend.mpr rfl
          exact .key hfirst hslot
      | branch below => cases hslot
      | gate slots behind =>
          refine .gate hfirst (List.prefix_append [name] rest) (fun heq => ?_) hslot
          exact absurd (hend.mp (List.cons.inj heq).2.symm) (Option.some_ne_none _)
    · cases hneeds with
      | gate hgate hfront hmore hslot =>
          have hthrough := entryAt?_cons_eq_some_iff.mpr
            (.inr ⟨entry, inner, _, hentry, hbelow, hgate, rfl⟩)
          exact .gate hthrough (List.cons_prefix_cons.mpr ⟨rfl, hfront⟩)
            (fun heq => hmore (List.cons.inj heq).2) hslot
      | key hkey hslot =>
          exact .key (entryAt?_cons_eq_some_iff.mpr
            (.inr ⟨entry, inner, _, hentry, hbelow, hkey, rfl⟩)) hslot

end KeyTree.Level
