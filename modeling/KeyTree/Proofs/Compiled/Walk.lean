import Mathlib.Data.List.Forall2
import KeyTree.Proofs.Compiled.Tree
import KeyTree.Proofs.Schema.Stages

/-!
# `KeyTree.Proofs.Compiled.Walk`: keys made one name at a time

`Tree.resolve` fills all slots of a path from one set of arguments. Whoever
walks a tree by hand opens each gate with arguments of its own, and builds
the key at the end with others again (`Tree.keyAlong`). Then a slot takes
the value that is given at its own stage, even if two stages have slots of
one name.

`keyAlong_compile` says which key such a walk makes: the segments of all
stages, in order, joined by the separator. Its invariant is that the tree
in hand is a level compiled below the segments of the stages so far.
-/

set_option autoImplicit false

namespace KeyTree

/-! ### Maps made of lists -/

/-- Of several values listed under a name the last one stands. -/
theorem NameMap.find?_ofList {α : Type} (entries : List (String × α)) (name : String) :
    (NameMap.ofList entries).find? name = entries.reverse.lookup name := by
  rw [ofList, ← List.foldr_reverse]
  induction entries.reverse with
  | nil => rfl
  | cons entry rest ih =>
      obtain ⟨key, value⟩ := entry
      rw [List.foldr_cons, find?_insert, ih, List.lookup_cons]
      by_cases h : name = key
      · simp [h]
      · simp [h, beq_eq_false_iff_ne.mpr h]

/-! ### Values for one stage -/

namespace Stage

/-- Values that a stage takes: one for each slot, of the slot's kind. -/
def Fits (stage : Stage) (values : List Value) : Prop :=
  values.map Value.kind = stage.slots.map Slot.kind

/-- The arguments that give the slots of a stage their values. -/
def arguments (stage : Stage) (values : List Value) : Arguments :=
  NameMap.ofList ((stage.slots.map Slot.name).zip (values.map some))

/-- The segments that a stage adds to a key for some values. -/
def segments (stage : Stage) (values : List Value) : List String :=
  stage.pieces.map (Piece.filled (stage.arguments values))

/-- There is a value for each slot. -/
theorem Fits.length_eq {stage : Stage} {values : List Value} (h : stage.Fits values) :
    values.length = stage.slots.length := by
  simpa using congrArg List.length h

/-- Fitting values fill every slot of the stage. -/
theorem Fits.fills {stage : Stage} {values : List Value} (h : stage.Fits values) {slot : Slot}
    (hslot : slot ∈ stage.slots) : (stage.arguments values).Fills slot := by
  have hnames : ((stage.slots.map Slot.name).zip (values.map some)).map Prod.fst
      = stage.slots.map Slot.name :=
    List.map_fst_zip (by simp [h.length_eq])
  have hlisted : slot.name ∈ stage.slots.map Slot.name := List.mem_map_of_mem hslot
  rw [← hnames] at hlisted
  obtain ⟨⟨name, held⟩, hheld, hname⟩ := List.mem_map.mp hlisted
  -- Whatever is found under the name was listed, so it is a value.
  rw [Arguments.Fills, Arguments.value?, arguments, NameMap.find?_ofList]
  cases hfound : List.lookup slot.name _ with
  | none =>
      have hnot := List.lookup_eq_none_iff.mp hfound _ (List.mem_reverse.mpr hheld)
      exact absurd hname.symm (bne_iff_ne.mp hnot)
  | some found =>
      obtain ⟨front, back, hsplit, -⟩ := List.lookup_eq_some_iff.mp hfound
      have hmem : (slot.name, found) ∈ (stage.slots.map Slot.name).zip (values.map some) := by
        rw [← List.mem_reverse, hsplit]
        simp
      obtain ⟨value, -, rfl⟩ := List.mem_map.mp (List.of_mem_zip hmem).2
      rfl

/-- One step of a walk: the name of the stage, and its values. -/
def step (stage : Stage) (values : List Value) : String × Arguments :=
  (stage.name, stage.arguments values)

end Stage

/-! ### Walks -/

/-- The key that a walk by hand makes, if it gets there. Each step has
arguments of its own: a gate is opened with them, and a key built. -/
def Tree.keyAlong : Tree → List (String × Arguments) → Option String
  | _, [] => none
  | tree, (name, args) :: rest =>
    match tree.find? name with
    | none => none
    | some (.key maker) => if rest.isEmpty then (maker.build args).toOption else none
    | some (.branch below) => below.keyAlong rest
    | some (.gate opener) =>
      match opener.apply args with
      | .error _ => none
      | .ok opened => opened.result.keyAlong rest

namespace Tree

variable {tree : Tree} {name : String} {args : Arguments} {rest : List (String × Arguments)}

/-- A walk goes on in the tree below a branch. -/
theorem keyAlong_branch {below : Tree} (h : tree.find? name = some (.branch below)) :
    tree.keyAlong ((name, args) :: rest) = below.keyAlong rest := by
  rw [keyAlong, h]

/-- A walk goes on in the tree behind a gate that its arguments open. -/
theorem keyAlong_gate {opener : Opener} {opened : Logged Tree}
    (h : tree.find? name = some (.gate opener)) (happly : opener.apply args = .ok opened) :
    tree.keyAlong ((name, args) :: rest) = opened.result.keyAlong rest := by
  rw [keyAlong, h]
  simp only [happly]

/-- A walk ends with the key that its last arguments build. -/
theorem keyAlong_key {maker : KeyMaker} (h : tree.find? name = some (.key maker)) :
    tree.keyAlong [(name, args)] = (maker.build args).toOption := by
  rw [keyAlong, h]
  rfl

end Tree

/-- What a stage of a gate adds: the name of the gate and the values of its
slots. -/
theorem Stage.segments_gate (name : String) (slots : Slots) (behind : Level)
    (values : List Value) :
    ((Level.Entry.gate slots behind).stage name).segments values
      = name :: slots.toList.map fun slot =>
          Piece.filled (((Level.Entry.gate slots behind).stage name).arguments values)
            (.slot slot) := by
  rw [Stage.segments]
  simp [Level.Entry.stage, gatePieces, Piece.filled]

/-- Along the stages that lead to a key, and with fitting values for each of
them, a walk makes the key of all their segments. -/
theorem keyAlong_compile {level : Level} (hordered : level.Ordered) {stages : List Stage}
    (hleads : level.Leads stages) {choices : List (List Value)}
    (hfits : List.Forall₂ Stage.Fits stages choices) (separator : String) (stem : List String) :
    (level.compile separator stem).result.keyAlong (List.zipWith Stage.step stages choices)
      = some (separator.intercalate
          (stem ++ (List.zipWith Stage.segments stages choices).flatten)) := by
  induction hleads generalizing choices stem with
  | @key level name pieces hentry =>
      obtain ⟨values, rest, hvalues, hrest, rfl⟩ := List.forall₂_cons_left_iff.mp hfits
      obtain rfl := List.forall₂_nil_left_iff.mp hrest
      have hfind := Level.find?_compile hordered separator stem name
      rw [hentry] at hfind
      have hfills : ∀ slot ∈ slotsOf pieces, Arguments.Fills _ slot := fun _ => hvalues.fills
      simp only [List.zipWith_cons_cons, List.zipWith_nil_right, Stage.step, Level.Entry.name_stage]
      rw [Tree.keyAlong_key hfind, KeyMaker.build_make_eq_ok_iff.mpr ⟨hfills, rfl⟩]
      simp [Except.toOption, Stage.segments, Level.Entry.stage]
  | @deeper level name entry inner stages hentry hbelow hleads ih =>
      obtain ⟨values, rest, hvalues, hrest, rfl⟩ := List.forall₂_cons_left_iff.mp hfits
      have hinner := Level.ordered_of_below? hordered hentry hbelow
      have hfind := Level.find?_compile hordered separator stem name
      rw [hentry] at hfind
      simp only [List.zipWith_cons_cons, Stage.step, Level.Entry.name_stage]
      cases entry with
      | key pieces => cases hbelow
      | branch below =>
          cases hbelow
          rw [Tree.keyAlong_branch hfind, ih hinner hrest]
          simp [Stage.segments, Level.Entry.stage, Piece.filled]
      | gate slots behind =>
          cases hbelow
          -- The values open the gate, and its level lies below them now.
          have hfills : ∀ slot ∈ slots.toList, Arguments.Fills _ slot := fun slot hslot =>
            hvalues.fills (Level.Entry.slots_stage_gate name slots inner ▸ hslot)
          rw [Tree.keyAlong_gate hfind (Opener.apply_of_fills hfills), Opener.opened,
            Logged.result_bind, ih hinner hrest, List.flatten_cons, Stage.segments_gate]
          simp [Opener.openedStem, Opener.path]

end KeyTree
