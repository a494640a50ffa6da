import KeyTree.Proofs.Compiled.Outcome
import KeyTree.Proofs.Compiled.Resolution
import KeyTree.Proofs.Schema.Stages

/-!
# `KeyTree.Proofs.Compiled.Missing`: where a missing argument is reported

Two things report a missing argument: a gate on the way, which needs all its
slots before anything behind it is looked at, and the key at the end. Each of
them shows a place of its own. What stands in front is filled in both; a gate
shows its name and nothing of its own values, a key shows all its pieces, with
its own slots by name (`MissingAt`).

The order is that of a template's slots: stage by stage from the root on, and
within a stage as declared. `Schema.first_missing_argument` says so for every
template, and that nothing else is reported.
-/

set_option autoImplicit false

namespace KeyTree

variable {args : Arguments} {slot : Slot}

/-- The first missing slot among others, with what stands before it. -/
theorem Arguments.firstMissing?_eq_some_iff {slots : List Slot} :
    args.firstMissing? slots = some slot
      ↔ args.value? slot.name = none
        ∧ ∃ before after, slots = before ++ slot :: after
          ∧ ∀ earlier ∈ before, (args.value? earlier.name).isSome := by
  rw [firstMissing?, List.find?_eq_some_iff_append]
  simp [Option.isSome_iff_ne_none]

/-- What stages put into a key, filled. -/
def Stage.texts (args : Arguments) (stages : List Stage) : List String :=
  (stages.flatMap Stage.pieces).map (Piece.filled args)

/-- Where the first missing slot of some stages is reported. All slots of the
stages in front have values. -/
inductive MissingAt (args : Arguments) (slot : Slot) : List Stage → List String → Prop
  /-- A gate lacks the slot: what stands in front is filled, and the gate's
  name comes last. -/
  | gate {front back : List Stage} {name : String} {slots : Slots}
      (hfront : ∀ outer ∈ front.flatMap Stage.slots, args.Fills outer)
      (hslot : args.firstMissing? slots.toList = some slot) (hback : back ≠ []) :
      MissingAt args slot (front ++ ⟨name, gatePieces name slots⟩ :: back)
        (Stage.texts args front ++ [name])
  /-- The key lacks the slot: what stands in front is filled, and the key's
  own slots are shown by name, whether they have values or not. -/
  | key {front : List Stage} {leaf : Stage}
      (hfront : ∀ outer ∈ front.flatMap Stage.slots, args.Fills outer)
      (hslot : args.firstMissing? leaf.slots = some slot) :
      MissingAt args slot (front ++ [leaf])
        (Stage.texts args front ++ leaf.pieces.map Piece.hint)

/-- A stage in front that lacks nothing puts its texts in front. -/
theorem MissingAt.behind {stages : List Stage} {place : List String}
    (h : MissingAt args slot stages place) {stage : Stage}
    (hstage : ∀ outer ∈ stage.slots, args.Fills outer) :
    MissingAt args slot (stage :: stages) (stage.pieces.map (Piece.filled args) ++ place) := by
  have hmore : ∀ {front : List Stage}, (∀ outer ∈ front.flatMap Stage.slots, args.Fills outer) →
      ∀ outer ∈ (stage :: front).flatMap Stage.slots, args.Fills outer := by
    intro front hfront outer hmem
    rw [List.flatMap_cons, List.mem_append] at hmem
    exact hmem.elim (hstage outer) (hfront outer)
  have htexts : ∀ (front : List Stage) (rest : List String),
      stage.pieces.map (Piece.filled args) ++ (Stage.texts args front ++ rest)
        = Stage.texts args (stage :: front) ++ rest := by
    intro front rest
    simp [Stage.texts]
  cases h with
  | gate hfront hslot hback =>
      rw [htexts, ← List.cons_append]
      exact .gate (hmore hfront) hslot hback
  | key hfront hslot =>
      rw [htexts, ← List.cons_append]
      exact .key (hmore hfront) hslot

/-- The walk along stages of which a slot is missing ends where that slot is
reported. The texts in hand are those of the stages passed so far. -/
theorem Level.Leads.resolution_eq_missing {level : Level} {stages : List Stage}
    (h : level.Leads stages)
    (hmissing : args.firstMissing? (stages.flatMap Stage.slots) = some slot)
    (stem walked : List String) :
    ∃ place, MissingAt args slot stages place
      ∧ level.resolution args stem walked (stages.map Stage.name)
          = .missing slot (stem ++ place) := by
  have hnone : ∀ outer ∈ [], args.Fills outer := List.forall_mem_nil _
  induction h generalizing stem walked with
  | @key level name pieces hentry =>
      have hown : args.firstMissing? (slotsOf pieces) = some slot := by
        simpa [Stage.slots, Entry.stage] using hmissing
      refine ⟨_, @MissingAt.key args slot [] _ hnone hown, ?_⟩
      simp [resolution, Entry.stage, hentry, Resolution.ofPieces, hown, Stage.texts]
  | @deeper level name entry inner stages hentry hbelow hleads ih =>
      rw [List.flatMap_cons, Arguments.firstMissing?_append] at hmissing
      obtain ⟨next, others, rfl⟩ := List.exists_cons_of_ne_nil hleads.ne_nil
      cases entry with
      | key pieces => cases hbelow
      | branch below =>
          cases hbelow
          have hrest : args.firstMissing? ((next :: others).flatMap Stage.slots) = some slot :=
            hmissing
          obtain ⟨place, hat, hwalk⟩ := ih hrest (stem ++ [name]) (walked ++ [name])
          -- A branch has no slots, so it lacks none.
          refine ⟨_, hat.behind hnone, ?_⟩
          simpa [resolution, Entry.stage, hentry, Piece.filled] using hwalk
      | gate slots behind =>
          cases hbelow
          rw [Entry.slots_stage_gate] at hmissing
          cases hgate : args.firstMissing? slots.toList with
          | some found =>
              rw [hgate, Option.some_or, Option.some.injEq] at hmissing
              subst hmissing
              refine ⟨_, @MissingAt.gate args _ [] _ _ _ hnone hgate hleads.ne_nil, ?_⟩
              simp [resolution, Entry.stage, hentry, hgate, Stage.texts]
          | none =>
              rw [hgate, Option.none_or] at hmissing
              obtain ⟨place, hat, hwalk⟩ := ih hmissing
                (stem ++ (gatePieces name slots).map (Piece.filled args)) (walked ++ [name])
              have hfills : ∀ outer ∈ ((Entry.gate slots inner).stage name).slots,
                  args.Fills outer := by
                rw [Entry.slots_stage_gate]
                exact Arguments.firstMissing?_eq_none_iff.mp hgate
              refine ⟨_, hat.behind hfills, ?_⟩
              simpa [resolution, Entry.stage, hentry, hgate] using hwalk

/-- Where some slot of a template has no value, resolving the template's path
fails for a missing argument, and names the first such slot in the order of the
template: gates from the outermost in, each in declared order, and then the key
itself. It is reported at a gate if it is one of a gate's slots, at the key
otherwise. -/
theorem Schema.first_missing_argument {schema : Schema} {template : Template}
    (h : template ∈ schema.templates) (separator : String) {args : Arguments}
    (hmissing : ∃ slot ∈ template.slots, args.value? slot.name = none) :
    ∃ before slot after, template.slots = before ++ slot :: after
      ∧ (∀ earlier ∈ before, (args.value? earlier.name).isSome)
      ∧ args.value? slot.name = none
      ∧ ∃ stages place, schema.level.Leads stages ∧ Template.ofStages stages = template
        ∧ MissingAt args slot stages place
        ∧ ((schema.compile separator).result.resolve template.path args).result
            = .error (.missing ⟨slot.name, separator.intercalate place⟩) := by
  obtain ⟨stages, hleads, rfl⟩ := (Level.mem_templates_iff_leads schema.ordered template).mp h
  rw [Template.slots_ofStages] at hmissing
  obtain ⟨slot, hfirst⟩ : ∃ slot, args.firstMissing? (stages.flatMap Stage.slots) = some slot := by
    obtain ⟨slot, hslot, hnone⟩ := hmissing
    rw [← Option.isSome_iff_exists, Arguments.firstMissing?, List.find?_isSome]
    exact ⟨slot, hslot, by simp [hnone]⟩
  obtain ⟨hnone, before, after, hslots, hbefore⟩ :=
    Arguments.firstMissing?_eq_some_iff.mp hfirst
  obtain ⟨place, hat, hwalk⟩ := hleads.resolution_eq_missing hfirst [] []
  refine ⟨before, slot, after, ?_, hbefore, hnone, stages, place, hleads, rfl, hat, ?_⟩
  · rw [Template.slots_ofStages, hslots]
  · rw [resolve_compile_eq_joined, Template.path_ofStages, hwalk]
    rfl

/-- Teams of an organisation, each behind a gate inside another gate; the inner
gate asks for the outer one's slot again. -/
def Schema.teams : Schema :=
  Schema.empty.insert "org" (some (.gate ⟨⟨"id", .text⟩, []⟩
    (Schema.empty.insert "team" (some (.gate ⟨⟨"id", .text⟩, [⟨"size", .number⟩]⟩
      (Schema.empty.insert "badge"
        (some (.key [.slot ⟨"id", .text⟩, .literal "in", .slot ⟨"color", .text⟩]))))))))

/-- Without a size and a color, the size is missing first. -/
theorem Schema.teams_missing_size :
    let args : Arguments := NameMap.ofList [("id", some (.text "a/b")), ("color", none)]
    ∃ place, ((teams.compile "/").result.resolve ["org", "team", "badge"] args).result
      = .error (.missing ⟨"size", place⟩) := by
  intro args
  let badge : Template :=
    ⟨["org", "team", "badge"], [⟨"id", .text⟩, ⟨"id", .text⟩, ⟨"size", .number⟩],
      [⟨"id", .text⟩, ⟨"color", .text⟩],
      [.literal "org", .slot ⟨"id", .text⟩, .literal "team", .slot ⟨"id", .text⟩,
        .slot ⟨"size", .number⟩, .slot ⟨"id", .text⟩, .literal "in", .slot ⟨"color", .text⟩]⟩
  have hbadge : badge ∈ teams.templates := by decide
  obtain ⟨before, slot, after, hslots, hbefore, hnone, stages, place, -, -, -, hresolved⟩ :=
    @first_missing_argument teams badge hbadge "/" args ⟨⟨"size", .number⟩, by decide, by decide⟩
  have hfirst : args.firstMissing? badge.slots = some slot :=
    Arguments.firstMissing?_eq_some_iff.mpr ⟨hnone, before, after, hslots, hbefore⟩
  have hsize : args.firstMissing? badge.slots = some ⟨"size", .number⟩ := by decide
  obtain rfl : slot = ⟨"size", .number⟩ := by
    rw [hsize] at hfirst
    exact (Option.some.inj hfirst).symm
  exact ⟨_, hresolved⟩

-- The gate shows the value of the outer gate and none of its own, the key
-- shows its own slots by name.
example :
    let resolved := fun args =>
      ((Schema.teams.compile "/").result.resolve ["org", "team", "badge"] args).result
    resolved (NameMap.ofList [("id", some (.text "a/b"))])
        = .error (.missing ⟨"size", "org/a/b/team"⟩)
      ∧ resolved (NameMap.ofList [("id", some (.text "a")), ("size", some (.signed 3))])
        = .error (.missing ⟨"color", "org/a/team/a/3/id/in/color"⟩) := by
  decide

end KeyTree
