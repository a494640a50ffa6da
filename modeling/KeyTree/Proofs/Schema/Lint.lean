import Mathlib.Data.List.Infix
import KeyTree.Schema.Lint
import KeyTree.Proofs.Schema.Placed

/-!
# `KeyTree.Proofs.Schema.Lint`: the lint finds what is wrong and nothing else

`Level.lintFrom` walks a schema with the names that apply so far and reports
on the way. What it reports of one entry depends on the place of the entry
only:

* `slotFinding`: what is found about a slot where other names apply. There is
  no memory in it of what was found before.
* `Level.Placed.findings`: what is found about an entry, slot by slot. The
  names that apply to a slot are those of the gates around the entry and of
  the entry's own slots in front of it.
* `Level.Placed.Sound`: nothing is wrong with an entry. This is about all
  names that apply to it, those of the gates around it included, although
  they are looked at only once, at their own gates.

`lintFrom_eq_flatMap` takes the walk apart, `findings_eq_nil_iff_sound` says
what a walk without findings means. `Schema.lint_exact` states both for a
schema.
-/

set_option autoImplicit false

namespace KeyTree

/-! ### Findings about slots -/

/-- What is found about a slot where the names `names` apply already. -/
def slotFinding (path : String) (names : List String) (slot : Slot) : Option Finding :=
  if slot.name = "" then some (.emptySlotName path)
  else if slot.name ∈ names then some (.duplicateSlot slot.name path)
  else none

/-- Each of some slots with the slots in front of it. -/
def withEarlier (slots : List Slot) : List (List Slot × Slot) := slots.inits.zip slots

@[simp] theorem withEarlier_nil : withEarlier [] = [] := rfl

/-- The first slot has none in front of it, and stands in front of all others. -/
theorem withEarlier_cons (slot : Slot) (rest : List Slot) :
    withEarlier (slot :: rest)
      = ([], slot) :: (withEarlier rest).map fun listed => (slot :: listed.1, listed.2) := by
  rw [withEarlier, withEarlier, List.inits_cons, List.zip_cons_cons, List.zip_map_left]
  rfl

/-- The walk over slots finds about each of them what is found by the names
that apply to it. The walk remembers no name twice and no empty one, so only
the non-empty names in `seen` and `names` have to be the same. -/
theorem slotFindings_eq_filterMap (path : String) {seen names : List String}
    (h : ∀ name, name ≠ "" → (name ∈ seen ↔ name ∈ names)) (own : List Slot) :
    slotFindings path seen own
      = (withEarlier own).filterMap fun listed =>
          slotFinding path (names ++ listed.1.map Slot.name) listed.2 := by
  induction own generalizing seen names with
  | nil => rfl
  | cons slot rest ih =>
      -- For the rest, the name of this slot applies as well.
      have hrest : ∀ seen, (∀ name, name ≠ "" → (name ∈ seen ↔ name ∈ names ∨ name = slot.name)) →
          slotFindings path seen rest
            = (withEarlier rest).filterMap fun listed =>
                slotFinding path (names ++ (slot :: listed.1).map Slot.name) listed.2 := by
        intro seen hseen
        have hnames : ∀ name, name ≠ "" → (name ∈ seen ↔ name ∈ names ++ [slot.name]) := by
          intro name hname
          rw [hseen name hname, List.mem_append, List.mem_singleton]
        rw [ih hnames]
        simp only [List.map_cons, List.append_assoc, List.singleton_append]
      rw [withEarlier_cons, List.filterMap_cons, List.filterMap_map, slotFindings, slotFinding,
        List.map_nil, List.append_nil]
      by_cases hempty : slot.name = ""
      · simp only [if_pos hempty]
        refine congrArg _ (hrest seen fun name hname => ?_)
        rw [h name hname, hempty]
        exact (or_iff_left hname).symm
      · have hmem := h slot.name hempty
        by_cases hseen : slot.name ∈ seen
        · simp only [if_neg hempty, if_pos hseen, if_pos (hmem.mp hseen)]
          refine congrArg _ (hrest seen fun name hname => ?_)
          rw [h name hname]
          constructor
          · exact .inl
          · rintro (hname | rfl)
            · exact hname
            · exact hmem.mp hseen
        · simp only [if_neg hempty, if_neg hseen, if_neg (mt hmem.mpr hseen)]
          refine hrest _ fun name hname => ?_
          rw [List.mem_cons, h name hname, or_comm]

/-- Nothing is found about slots exactly when they have names, and these are
neither among the names before nor given twice. -/
theorem filterMap_slotFinding_eq_nil_iff (path : String) (names : List String) (own : List Slot) :
    ((withEarlier own).filterMap fun listed =>
        slotFinding path (names ++ listed.1.map Slot.name) listed.2) = []
      ↔ (∀ slot ∈ own, slot.name ≠ "" ∧ slot.name ∉ names) ∧ (own.map Slot.name).Nodup := by
  induction own generalizing names with
  | nil => simp
  | cons slot rest ih =>
      have hslot : slotFinding path (names ++ ([] : List Slot).map Slot.name) slot = none
          ↔ slot.name ≠ "" ∧ slot.name ∉ names := by
        rw [List.map_nil, List.append_nil, slotFinding]
        by_cases hempty : slot.name = ""
        · simp [hempty]
        · by_cases hmem : slot.name ∈ names <;> simp [hempty, hmem]
      have hrest := ih (names ++ [slot.name])
      simp only [List.append_assoc, List.singleton_append] at hrest
      rw [withEarlier_cons, List.filterMap_eq_nil_iff, List.forall_mem_cons, hslot,
        ← List.filterMap_eq_nil_iff, List.filterMap_map]
      simp only [Function.comp_def, List.map_cons]
      rw [hrest, List.forall_mem_cons, List.nodup_cons]
      -- That the first name is not given again is said at the other end here.
      have hagain : (∀ other ∈ rest, other.name ≠ "" ∧ other.name ∉ names ++ [slot.name])
          ↔ (∀ other ∈ rest, other.name ≠ "" ∧ other.name ∉ names)
            ∧ slot.name ∉ rest.map Slot.name := by
        simp only [List.mem_append, List.mem_singleton, not_or, List.mem_map, not_exists, not_and]
        constructor
        · intro h
          exact ⟨fun other hother => ⟨(h other hother).1, (h other hother).2.1⟩,
            fun other hother => (h other hother).2.2⟩
        · rintro ⟨h, hne⟩ other hother
          exact ⟨(h other hother).1, (h other hother).2, hne other hother⟩
      rw [hagain]
      simp only [and_assoc]

/-! ### Findings about entries -/

namespace Level

/-- What is found about an entry: that a key has no pieces, and what is found
about each of its own slots. -/
def Placed.findings (placed : Placed) : List Finding :=
  (if placed.entry = .key [] then [.emptyKey (dotted placed.path)] else [])
    ++ (withEarlier placed.entry.slots).filterMap fun listed =>
      slotFinding (dotted placed.path) ((placed.inherited ++ listed.1).map Slot.name) listed.2

/-- The walk over a level finds about each entry what its place tells. -/
theorem lintFrom_eq_flatMap (level : Level) (path : List String) (inherited : List Slot) :
    level.lintFrom path (inherited.map Slot.name)
      = (level.placedFrom path inherited).flatMap Placed.findings := by
  have hslots : ∀ (here : String) (inherited own : List Slot),
      slotFindings here (inherited.map Slot.name) own
        = (withEarlier own).filterMap fun listed =>
            slotFinding here ((inherited ++ listed.1).map Slot.name) listed.2 := by
    intro here inherited own
    rw [slotFindings_eq_filterMap here (fun _ _ => Iff.rfl) own]
    simp only [List.map_append]
  induction level generalizing path inherited with
  | nil => rfl
  | absent name rest ih => exact ih path inherited
  | key name pieces rest ih =>
      rw [lintFrom, placedFrom, List.flatMap_cons, ih, hslots]
      cases pieces <;> rfl
  | branch name below rest ihb ihr =>
      rw [lintFrom, placedFrom, ihb, ihr, List.cons_append, List.flatMap_cons, List.flatMap_append]
      rfl
  | gate name slots behind rest ihb ihr =>
      rw [lintFrom, placedFrom, ← List.map_append, ihb, ihr, hslots, List.cons_append,
        List.flatMap_cons, List.flatMap_append, List.append_assoc]
      rfl

/-! ### Entries with nothing wrong -/

/-- Slots with names that are not empty and differ. -/
structure NamesSound (slots : List Slot) : Prop where
  named : ∀ slot ∈ slots, slot.name ≠ ""
  nodup : (slots.map Slot.name).Nodup

theorem namesSound_nil : NamesSound [] := ⟨List.forall_mem_nil _, List.nodup_nil⟩

/-- Slots behind others are sound with them if they are so for themselves and
share no name with them. -/
theorem namesSound_append_iff {slots own : List Slot} (h : NamesSound slots) :
    NamesSound (slots ++ own)
      ↔ (∀ slot ∈ own, slot.name ≠ "" ∧ slot.name ∉ slots.map Slot.name)
        ∧ (own.map Slot.name).Nodup := by
  constructor
  · rintro ⟨hnamed, hnodup⟩
    rw [List.map_append, List.nodup_append] at hnodup
    obtain ⟨-, hown, hdisjoint⟩ := hnodup
    refine ⟨fun slot hslot => ⟨hnamed slot (List.mem_append_right _ hslot), fun hmem => ?_⟩, hown⟩
    exact hdisjoint _ hmem _ (List.mem_map_of_mem hslot) rfl
  · rintro ⟨hslots, hown⟩
    constructor
    · intro slot hslot
      rcases List.mem_append.mp hslot with hslot | hslot
      · exact h.named slot hslot
      · exact (hslots slot hslot).1
    · rw [List.map_append, List.nodup_append]
      refine ⟨h.nodup, hown, fun name hname other hother heq => ?_⟩
      obtain ⟨slot, hslot, rfl⟩ := List.mem_map.mp hother
      exact (hslots slot hslot).2 (heq ▸ hname)

/-- Nothing is wrong with an entry: a key has pieces, and the slots that apply
to a key or to a gate have different names that are not empty. -/
structure Placed.Sound (placed : Placed) : Prop where
  pieces : placed.entry ≠ .key []
  names : (∀ below, placed.entry ≠ .branch below) → NamesSound placed.scope

/-- Nothing is found about an entry exactly when nothing is wrong with it, if
the slots of the gates around it are sound. -/
theorem Placed.findings_eq_nil_iff {placed : Placed} (h : NamesSound placed.inherited) :
    placed.findings = [] ↔ placed.Sound := by
  have hslots : ((withEarlier placed.entry.slots).filterMap fun listed =>
      slotFinding (dotted placed.path) ((placed.inherited ++ listed.1).map Slot.name) listed.2) = []
      ↔ NamesSound placed.scope := by
    rw [Placed.scope, namesSound_append_iff h,
      ← filterMap_slotFinding_eq_nil_iff (dotted placed.path)]
    simp only [List.map_append]
  rw [Placed.findings, List.append_eq_nil_iff, hslots]
  constructor
  · rintro ⟨hkey, hnames⟩
    refine ⟨fun heq => ?_, fun _ => hnames⟩
    rw [if_pos heq] at hkey
    cases hkey
  · rintro ⟨hpieces, hnames⟩
    refine ⟨if_neg hpieces, ?_⟩
    by_cases hbranch : ∃ below, placed.entry = .branch below
    · -- A branch has no slots of its own.
      obtain ⟨below, hbelow⟩ := hbranch
      rw [Placed.scope, hbelow]
      simpa [Entry.slots] using h
    · exact hnames fun below heq => hbranch ⟨below, heq⟩

/-- Nothing is found in a level exactly when nothing is wrong with any entry
of it or below. The induction carries that the slots around are sound: behind
a gate they are, because the gate itself has been looked at. -/
theorem findings_eq_nil_iff_sound (level : Level) (path : List String) {inherited : List Slot}
    (h : NamesSound inherited) :
    (∀ placed ∈ level.placedFrom path inherited, placed.findings = [])
      ↔ ∀ placed ∈ level.placedFrom path inherited, placed.Sound := by
  induction level generalizing path inherited with
  | nil => simp [placedFrom]
  | absent name rest ih => exact ih path h
  | key name pieces rest ih =>
      rw [placedFrom, List.forall_mem_cons, List.forall_mem_cons, ih path h,
        Placed.findings_eq_nil_iff h]
  | branch name below rest ihb ihr =>
      rw [placedFrom, List.cons_append, List.forall_mem_cons, List.forall_mem_cons,
        List.forall_mem_append, List.forall_mem_append, ihb (path ++ [name]) h, ihr path h,
        Placed.findings_eq_nil_iff h]
  | gate name slots behind rest ihb ihr =>
      rw [placedFrom, List.cons_append, List.forall_mem_cons, List.forall_mem_cons,
        List.forall_mem_append, List.forall_mem_append, ihr path h, Placed.findings_eq_nil_iff h]
      refine and_congr_right fun hgate => and_congr_left fun _ => ?_
      have hbranch : ∀ below, Entry.gate slots behind ≠ .branch below :=
        fun below heq => Entry.noConfusion heq
      exact ihb (path ++ [name]) (hgate.names hbranch)

end Level

/-! ### The lint of a schema -/

/-- The present entries of a schema in their places, depth first. -/
def Schema.placed (schema : Schema) : List Level.Placed := schema.level.placedFrom [] []

/-- The lint is exact. It reports what is found about each entry that the
schema leads to, one entry after another; the entries are listed once each,
in the order of their paths. So it reports nothing exactly when nothing is
wrong with any of them: every key has pieces, and around and in every key and
every gate all slots have names, no two of them the same. -/
theorem Schema.lint_exact (schema : Schema) :
    schema.lint = schema.placed.flatMap Level.Placed.findings
      ∧ (∀ placed, placed ∈ schema.placed ↔ schema.level.Reaches placed)
      ∧ schema.placed.Pairwise (fun placed next => placed.path < next.path)
      ∧ (schema.lint = [] ↔ ∀ placed, schema.level.Reaches placed → placed.Sound) := by
  have hlint : schema.lint = schema.placed.flatMap Level.Placed.findings :=
    schema.level.lintFrom_eq_flatMap [] []
  have hmem : ∀ placed, placed ∈ schema.placed ↔ schema.level.Reaches placed := by
    intro placed
    rw [Schema.placed, Level.mem_placedFrom_iff]
    simp only [Level.Placed.under_nil, exists_eq_right']
  refine ⟨hlint, hmem, Level.pairwise_path_placedFrom schema.ordered [] [], ?_⟩
  rw [hlint, List.flatMap_eq_nil_iff]
  simp only [← hmem]
  exact schema.level.findings_eq_nil_iff_sound [] Level.namesSound_nil

end KeyTree
