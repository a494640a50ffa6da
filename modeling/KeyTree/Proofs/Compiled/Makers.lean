import KeyTree.Proofs.Compiled.Chain
import KeyTree.Proofs.Compiled.Missing

/-!
# `KeyTree.Proofs.Compiled.Makers`: the key makers of all trees that are reached

A key maker holds the pieces of the whole key, and beside them the slots that
are its own. What it builds is read off the pieces, what it asks for is read off
the slots, so the two have to be in step (`KeyMaker.InStep`). They are in every
tree that a walk reaches: what the walk puts in front of the pieces is literal
text, also where it spells the name of a slot.

* `Schema.exists_make_of_walk?` says which makers there are: a walk reaches the
  schema it follows, compiled below the texts of the walk.
* `Schema.reached_maker_in_step`: what each of them asks for and builds, and how
  it fails.
-/

set_option autoImplicit false

namespace KeyTree

/-! ### Makers in step -/

namespace KeyMaker

/-- The slots that a maker asks for are those among its pieces. -/
def InStep (maker : KeyMaker) : Prop := slotsOf maker.template = maker.slots

/-- Texts in front of the pieces of a key have no slots. -/
theorem inStep_make (separator : String) (stem : List String) (pieces : List Piece) :
    (make separator stem pieces).InStep :=
  slotsOf_stem_append stem pieces

namespace InStep

variable {maker : KeyMaker} {args : Arguments}

/-- A maker in step builds a key if no slot is missing that it asks for. -/
theorem exists_build_eq_ok_iff (h : maker.InStep) :
    (∃ key, maker.build args = .ok key) ↔ ∀ slot ∈ maker.slots, args.Fills slot := by
  rw [build_eq, h, ← Arguments.firstMissing?_eq_none_iff]
  cases args.firstMissing? maker.slots <;> simp

/-- A maker in step fails for the first missing slot that it asks for, and
shows its whole key. -/
theorem build_eq_error_iff (h : maker.InStep) {missing : MissingArgument} :
    maker.build args = .error missing
      ↔ ∃ slot, args.firstMissing? maker.slots = some slot ∧ missing = ⟨slot.name, maker.hint⟩ := by
  rw [build_eq, h]
  cases args.firstMissing? maker.slots <;> simp [eq_comm]

/-- A maker in step builds a key without arguments if it asks for none. -/
theorem exists_buildStatic_eq_ok_iff (h : maker.InStep) :
    (∃ key, maker.buildStatic = .ok key) ↔ maker.takesArguments = false := by
  have hempty : ∀ slot : Slot, ¬ Arguments.Fills NameMap.empty slot := by
    intro slot hfills
    cases hfills
  rw [buildStatic, h.exists_build_eq_ok_iff, takesArguments]
  simp [hempty, List.eq_nil_iff_forall_not_mem]

end InStep

end KeyMaker

/-! ### Makers that are reached -/

/-- A maker in a tree that a walk reaches: the walk leads to a schema with a key
under the name, and the maker is made of the key's pieces below the texts of
the walk. -/
theorem Schema.exists_make_of_walk? {schema : Schema} {separator : String} {steps : List Step}
    {reached : Tree} {name : String} {maker : KeyMaker}
    (hwalk : (schema.compile separator).result.walk? steps = some reached)
    (hmaker : reached.key? name = some maker) :
    ∃ texts below pieces, schema.follow? steps = some (texts, below)
      ∧ below.find? name = some (some (.key pieces))
      ∧ maker = .make separator texts pieces := by
  rw [show (schema.compile separator).result.walk? steps = _
      from schema.walk?_compile separator [] steps, Option.map_eq_some_iff] at hwalk
  obtain ⟨⟨texts, below⟩, hfollow, rfl⟩ := hwalk
  rw [Tree.key?_eq_some_iff, List.nil_append, Level.find?_compile below.ordered,
    presentAt?_level] at hmaker
  rcases hnode : below.find? name with _ | _ | node
  · rw [hnode] at hmaker
    cases hmaker
  · rw [hnode] at hmaker
    cases hmaker
  · rw [hnode] at hmaker
    cases node with
    | key pieces =>
        cases hmaker
        exact ⟨texts, below, pieces, hfollow, hnode, rfl⟩
    | branch inner => cases hmaker
    | gate slots behind => cases hmaker

/-- A key maker of any tree that is reached asks for the slots among its pieces,
in order. These are the slots of the key that it is made of; what the walk puts
in front are texts. It builds a key exactly when every slot that it asks for has
a value, and without arguments exactly when it asks for none. Otherwise the
error names the first slot that it asks for and that has no value, and shows
the whole key with slots by name. -/
theorem Schema.reached_maker_in_step {schema : Schema} {separator : String} {steps : List Step}
    {reached : Tree} {name : String} {maker : KeyMaker}
    (hwalk : (schema.compile separator).result.walk? steps = some reached)
    (hmaker : reached.key? name = some maker) :
    maker.slots = slotsOf maker.template
      ∧ (∃ texts below pieces, schema.follow? steps = some (texts, below)
          ∧ below.find? name = some (some (.key pieces)) ∧ maker.slots = slotsOf pieces
          ∧ maker.template = texts.map .literal ++ pieces)
      ∧ (∀ args : Arguments, (∃ key, maker.build args = .ok key)
          ↔ ∀ slot ∈ maker.slots, (args.value? slot.name).isSome)
      ∧ ((∃ key, maker.buildStatic = .ok key) ↔ maker.takesArguments = false)
      ∧ ∀ (args : Arguments) (missing : MissingArgument), maker.build args = .error missing
          ↔ ∃ before slot after, maker.slots = before ++ slot :: after
              ∧ (∀ earlier ∈ before, (args.value? earlier.name).isSome)
              ∧ args.value? slot.name = none ∧ missing = ⟨slot.name, maker.hint⟩ := by
  obtain ⟨texts, below, pieces, hfollow, hkey, rfl⟩ := exists_make_of_walk? hwalk hmaker
  have hstep := KeyMaker.inStep_make separator texts pieces
  refine ⟨hstep.symm, ⟨texts, below, pieces, hfollow, hkey, rfl, rfl⟩,
    fun args => hstep.exists_build_eq_ok_iff, hstep.exists_buildStatic_eq_ok_iff,
    fun args missing => ?_⟩
  rw [hstep.build_eq_error_iff]
  constructor
  · rintro ⟨slot, hslot, rfl⟩
    obtain ⟨hnone, before, after, hslots, hbefore⟩ := Arguments.firstMissing?_eq_some_iff.mp hslot
    exact ⟨before, slot, after, hslots, hbefore, hnone, rfl⟩
  · rintro ⟨before, slot, after, hslots, hbefore, hnone, rfl⟩
    have hslot := Arguments.firstMissing?_eq_some_iff.mpr ⟨hnone, before, after, hslots, hbefore⟩
    exact ⟨slot, hslot, rfl⟩

/-- The values of the gates around a badge spell the names of slots. The maker
asks for its own slots all the same, and shows both. -/
theorem Schema.teams_badge_maker :
    let steps : List Step :=
      [.gate "org" (NameMap.ofList [("id", some (.text "size"))]),
        .gate "team" (NameMap.ofList [("id", some (.text "color")), ("size", some (.signed 3))])]
    ∃ reached maker, (teams.compile "/").result.walk? steps = some reached
      ∧ reached.key? "badge" = some maker ∧ maker.slots = [⟨"id", .text⟩, ⟨"color", .text⟩]
      ∧ slotsOf maker.template = [⟨"id", .text⟩, ⟨"color", .text⟩]
      ∧ maker.build (NameMap.ofList [("id", some (.text "x"))])
        = .error ⟨"color", "org/size/team/color/3/id/in/color"⟩ := by
  intro steps
  let maker := KeyMaker.make "/" ["org", "size", "team", "color", "3"]
    [.slot ⟨"id", .text⟩, .literal "in", .slot ⟨"color", .text⟩]
  obtain ⟨reached, hwalk⟩ : ∃ reached, (teams.compile "/").result.walk? steps = some reached :=
    Option.isSome_iff_exists.mp (by decide)
  have hmaker : reached.key? "badge" = some maker := by
    have hfound : ((teams.compile "/").result.walk? steps).bind (fun tree => tree.key? "badge")
        = some maker := by decide
    rwa [hwalk] at hfound
  obtain ⟨hslots, -, -, -, herror⟩ := reached_maker_in_step hwalk hmaker
  refine ⟨reached, maker, hwalk, hmaker, rfl, hslots.symm, (herror _ _).mpr ?_⟩
  exact ⟨[⟨"id", .text⟩], ⟨"color", .text⟩, [], rfl, by decide, by decide, by decide⟩

end KeyTree
