import KeyTree.Proofs.Schema.Templates

/-!
# `KeyTree.Proofs.Schema.Stages`: templates, cut at the names of their path

A key is reached by one name after another, and each name adds some pieces
to it: a branch its name, a gate its name and its slots, and a key, at the
end, the pieces it is made of. A `Stage` is one of these names with what it
adds. Whoever walks a schema name by name, with arguments for one name at a
time, is compared with the templates stage by stage.

* `Level.Leads`: the stages that lead from a level to one of its keys.
* `Level.mem_templates_iff_leads`: the templates of a level in name order
  are what its stages make, put together by `Template.ofStages`.
-/

set_option autoImplicit false

namespace KeyTree

/-! ### Stages -/

/-- One name on the way to a key, and the pieces it adds to the key. -/
structure Stage where
  name : String
  pieces : List Piece
  deriving DecidableEq, Repr

/-- The slots that have to be filled at a stage, in order. -/
def Stage.slots (stage : Stage) : List Slot := slotsOf stage.pieces

namespace Level

/-- What an entry adds to the keys at or below it. The name of a key is not
part of it. -/
def Entry.stage (name : String) : Entry → Stage
  | .key pieces => ⟨name, pieces⟩
  | .branch _ => ⟨name, [.literal name]⟩
  | .gate slots _ => ⟨name, gatePieces name slots⟩

@[simp] theorem Entry.name_stage (name : String) (entry : Entry) :
    (entry.stage name).name = name := by
  cases entry <;> rfl

/-- The slots of a gate's stage are the slots of the gate. -/
@[simp] theorem Entry.slots_stage_gate (name : String) (slots : Slots) (behind : Level) :
    ((Entry.gate slots behind).stage name).slots = slots.toList :=
  slotsOf_gatePieces name slots

/-- The level below an entry; a key has none. -/
def Entry.below? : Entry → Option Level
  | .key _ => none
  | .branch below => some below
  | .gate _ behind => some behind

/-- The level below an entry of a level in name order is in name order. -/
theorem ordered_of_below? {level inner : Level} (h : level.Ordered) {name : String}
    {entry : Entry} (hentry : level.presentAt? name = some entry)
    (hbelow : entry.below? = some inner) : inner.Ordered := by
  have hordered := ordered_of_presentAt? h hentry
  cases entry with
  | key pieces => cases hbelow
  | branch below =>
      cases hbelow
      exact hordered
  | gate slots behind =>
      cases hbelow
      exact hordered

/-- The stages that lead from a level to a key: through entries with a level
below them to an entry without one. -/
inductive Leads : Level → List Stage → Prop
  | key {level : Level} {name : String} {pieces : List Piece}
      (hentry : level.presentAt? name = some (.key pieces)) :
      Leads level [(Entry.key pieces).stage name]
  | deeper {level : Level} {name : String} {entry : Entry} {inner : Level} {stages : List Stage}
      (hentry : level.presentAt? name = some entry) (hbelow : entry.below? = some inner)
      (hleads : Leads inner stages) : Leads level (entry.stage name :: stages)

end Level

/-! ### Templates of stages -/

/-- The template that stages make. The slots of the last stage are the key's
own. -/
def Template.ofStages : List Stage → Template
  | [] => ⟨[], [], [], []⟩
  | [stage] => ⟨[stage.name], [], stage.slots, stage.pieces⟩
  | stage :: next :: rest =>
    (ofStages (next :: rest)).under [stage.name] stage.pieces stage.slots

namespace Template

/-- A stage in front puts its name, its pieces and its slots in front. -/
theorem ofStages_cons (stage : Stage) {stages : List Stage} (hne : stages ≠ []) :
    ofStages (stage :: stages)
      = (ofStages stages).under [stage.name] stage.pieces stage.slots := by
  obtain ⟨next, rest, rfl⟩ := List.exists_cons_of_ne_nil hne
  rfl

@[simp] theorem path_ofStages (stages : List Stage) :
    (ofStages stages).path = stages.map Stage.name := by
  fun_induction ofStages stages with
  | case1 => rfl
  | case2 stage => rfl
  | case3 stage next rest ih => simp [under, ih]

@[simp] theorem pieces_ofStages (stages : List Stage) :
    (ofStages stages).pieces = stages.flatMap Stage.pieces := by
  fun_induction ofStages stages with
  | case1 => rfl
  | case2 stage => simp
  | case3 stage next rest ih => simp [under, ih]

@[simp] theorem slots_ofStages (stages : List Stage) :
    (ofStages stages).slots = stages.flatMap Stage.slots := by
  fun_induction ofStages stages with
  | case1 => rfl
  | case2 stage => simp [slots]
  | case3 stage next rest ih =>
      rw [List.flatMap_cons, ← ih]
      simp [slots, under]

end Template

namespace Level

/-- Stages lead somewhere. -/
theorem Leads.ne_nil {level : Level} {stages : List Stage} (h : level.Leads stages) :
    stages ≠ [] := by
  cases h <;> exact List.cons_ne_nil _ _

/-- The slots that an entry with a level below adds are those that its
templates inherit from it. -/
theorem Entry.templates_of_below? {name : String} {entry : Entry} {inner : Level}
    (hbelow : entry.below? = some inner) :
    entry.templates name
      = inner.templates.map
          (.under [name] (entry.stage name).pieces (entry.stage name).slots) := by
  cases entry with
  | key pieces => cases hbelow
  | branch below =>
      cases hbelow
      rfl
  | gate slots behind =>
      cases hbelow
      rw [slots_stage_gate]
      rfl

/-- Every template that a path finds is made of stages. -/
theorem exists_leads_of_templateAt? {level : Level} {path : List String} {template : Template}
    (h : level.templateAt? path = some template) :
    ∃ stages, level.Leads stages ∧ Template.ofStages stages = template := by
  induction path generalizing level template with
  | nil => cases h
  | cons name rest ih =>
      rw [templateAt?] at h
      cases hentry : level.presentAt? name with
      | none => simp [hentry] at h
      | some entry =>
          cases entry with
          | key pieces =>
              simp only [hentry, Option.ite_none_right_eq_some, Option.some.injEq] at h
              exact ⟨_, .key hentry, h.2⟩
          | branch below =>
              simp only [hentry, Option.map_eq_some_iff] at h
              obtain ⟨inner, hinner, rfl⟩ := h
              obtain ⟨stages, hleads, rfl⟩ := ih hinner
              exact ⟨_, .deeper hentry rfl hleads, Template.ofStages_cons _ hleads.ne_nil⟩
          | gate slots behind =>
              simp only [hentry, Option.map_eq_some_iff] at h
              obtain ⟨inner, hinner, rfl⟩ := h
              obtain ⟨stages, hleads, rfl⟩ := ih hinner
              refine ⟨_, .deeper hentry rfl hleads, ?_⟩
              rw [Template.ofStages_cons _ hleads.ne_nil, Entry.slots_stage_gate, Entry.name_stage]
              rfl

/-- The templates of a level in name order are made of the stages that lead
to its keys. -/
theorem mem_templates_iff_leads {level : Level} (h : level.Ordered) (template : Template) :
    template ∈ level.templates
      ↔ ∃ stages, level.Leads stages ∧ Template.ofStages stages = template := by
  constructor
  · intro hmem
    exact exists_leads_of_templateAt? ((mem_templates_iff_templateAt? h _ template).mp ⟨hmem, rfl⟩)
  · rintro ⟨stages, hleads, rfl⟩
    induction hleads with
    | key hentry =>
        exact mem_templates_iff.mpr
          ⟨_, _, (presentAt?_eq_some_iff h _ _).mp hentry, List.mem_singleton.mpr rfl⟩
    | deeper hentry hbelow hleads ih =>
        have hinner := ordered_of_below? h hentry hbelow
        -- The stage in front is what the entry's templates start with.
        refine mem_templates_iff.mpr ⟨_, _, (presentAt?_eq_some_iff h _ _).mp hentry, ?_⟩
        rw [Entry.templates_of_below? hbelow, Template.ofStages_cons _ hleads.ne_nil,
          Entry.name_stage]
        exact List.mem_map_of_mem (ih hinner)

end Level

end KeyTree
