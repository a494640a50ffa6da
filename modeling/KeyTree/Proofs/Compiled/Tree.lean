import KeyTree.Compiled.Tree
import KeyTree.Proofs.Schema.Templates

/-!
# `KeyTree.Proofs.Compiled.Tree`: what a compiled tree holds

Two facts that everything about compiled trees starts from:

* `fillPieces_eq`: pieces can be filled exactly when every slot among them
  has a value, and then literals stand as they are and slots give the
  segments of their values (`Piece.filled`). `KeyMaker.build_make` and
  `Opener.apply_eq` say the same of keys and gates.
* `find?_compile`: the tree of a level in name order holds under each name
  the compiled form of the level's present entry (`Level.Entry.compiled`),
  and nothing under any other name.
-/

set_option autoImplicit false

namespace KeyTree

/-! ### Filled pieces -/

/-- The text a piece puts into a key. A slot whose name has no value gives
none, so the text means something only where all slots have values. -/
def Piece.filled (args : Arguments) : Piece → String
  | .literal text => text
  | .slot s => (args.segment? s).getD ""

/-- The name of a slot has a value. -/
def Arguments.Fills (args : Arguments) (slot : Slot) : Prop := (args.value? slot.name).isSome

theorem fillPieces_literal (args : Arguments) (text : String) (rest : List Piece) :
    fillPieces args (.literal text :: rest) = (fillPieces args rest).map (text :: ·) := by
  rw [fillPieces]
  cases fillPieces args rest <;> rfl

theorem fillPieces_slot (args : Arguments) (slot : Slot) (rest : List Piece) :
    fillPieces args (.slot slot :: rest)
      = match args.segment? slot with
        | some segment => (fillPieces args rest).map (segment :: ·)
        | none => .error slot.name := by
  rw [fillPieces]
  cases args.segment? slot with
  | none => rfl
  | some segment => cases fillPieces args rest <;> rfl

/-- The first of some slots whose name has no value. -/
def Arguments.firstMissing? (args : Arguments) (slots : List Slot) : Option Slot :=
  slots.find? fun slot => (args.value? slot.name).isNone

/-- No slot is missing exactly when every slot's name has a value. -/
theorem Arguments.firstMissing?_eq_none_iff {args : Arguments} {slots : List Slot} :
    args.firstMissing? slots = none ↔ ∀ slot ∈ slots, args.Fills slot := by
  simp [firstMissing?, Fills, List.find?_eq_none, Option.isSome_iff_ne_none]

/-- Where a slot is missing, not every slot's name has a value. -/
theorem Arguments.not_fills_of_firstMissing? {args : Arguments} {slots : List Slot} {slot : Slot}
    (h : args.firstMissing? slots = some slot) : ¬ ∀ slot ∈ slots, args.Fills slot := by
  rw [← firstMissing?_eq_none_iff, h]
  exact Option.some_ne_none slot

/-- What filling pieces gives: the text of each piece, or the name of the
first slot without a value. -/
theorem fillPieces_eq (args : Arguments) (pieces : List Piece) :
    fillPieces args pieces
      = match args.firstMissing? (slotsOf pieces) with
        | some slot => .error slot.name
        | none => .ok (pieces.map (Piece.filled args)) := by
  induction pieces with
  | nil => rfl
  | cons piece rest ih =>
      cases piece with
      | literal text =>
          rw [fillPieces_literal, ih, slotsOf_literal]
          cases args.firstMissing? (slotsOf rest) <;> rfl
      | slot s =>
          rw [fillPieces_slot, ih, slotsOf_slot]
          -- The slot in front is the first one missing, or it has a segment.
          cases hvalue : args.value? s.name with
          | none => simp [Arguments.segment?, Arguments.firstMissing?, hvalue]
          | some value =>
              simp only [Arguments.segment?, Arguments.firstMissing?, hvalue, Option.map_some,
                List.find?_cons, Option.isNone_some]
              cases (slotsOf rest).find? fun slot => (args.value? slot.name).isNone
              · simp [Except.map, Piece.filled, Arguments.segment?, hvalue]
              · rfl

/-! ### Key makers and openers -/

theorem slotsOf_stem_append (stem : List String) (pieces : List Piece) :
    slotsOf (stem.map .literal ++ pieces) = slotsOf pieces := by
  induction stem with
  | nil => rfl
  | cons text rest ih => rw [List.map_cons, List.cons_append, slotsOf_literal, ih]

theorem filled_stem (args : Arguments) (stem : List String) :
    (stem.map Piece.literal).map (Piece.filled args) = stem := by
  rw [List.map_map]
  exact List.map_id stem

/-- What a key maker builds: the texts of its pieces, joined, or the first slot
among them that has no value. -/
theorem KeyMaker.build_eq (maker : KeyMaker) (args : Arguments) :
    maker.build args
      = match args.firstMissing? (slotsOf maker.template) with
        | some slot => .error ⟨slot.name, maker.hint⟩
        | none => .ok (maker.separator.intercalate (maker.template.map (Piece.filled args))) := by
  rw [build, fillPieces_eq]
  cases args.firstMissing? (slotsOf maker.template) <;> rfl

/-- The key made of some pieces below a path. -/
theorem KeyMaker.build_make (separator : String) (stem : List String) (pieces : List Piece)
    (args : Arguments) :
    (KeyMaker.make separator stem pieces).build args
      = match args.firstMissing? (slotsOf pieces) with
        | some slot => .error ⟨slot.name, (KeyMaker.make separator stem pieces).hint⟩
        | none => .ok (separator.intercalate (stem ++ pieces.map (Piece.filled args))) := by
  rw [build_eq, show (make separator stem pieces).template = stem.map .literal ++ pieces from rfl,
    slotsOf_stem_append, List.map_append, filled_stem]
  rfl

/-- A key is built exactly when all its slots have values. -/
theorem KeyMaker.build_make_eq_ok_iff {separator : String} {stem : List String}
    {pieces : List Piece} {args : Arguments} {key : String} :
    (KeyMaker.make separator stem pieces).build args = .ok key
      ↔ (∀ slot ∈ slotsOf pieces, args.Fills slot)
          ∧ key = separator.intercalate (stem ++ pieces.map (Piece.filled args)) := by
  rw [build_make]
  cases hmissing : args.firstMissing? (slotsOf pieces) with
  | none =>
      rw [and_iff_right (Arguments.firstMissing?_eq_none_iff.mp hmissing)]
      exact ⟨fun heq => (Except.ok.inj heq).symm, fun heq => heq ▸ rfl⟩
  | some slot =>
      have hnot := Arguments.not_fills_of_firstMissing? hmissing
      simp only [reduceCtorEq, hnot, false_and]

/-- The texts that the level behind a gate lies below, once the gate is open. -/
def Opener.openedStem (opener : Opener) (args : Arguments) : List String :=
  opener.path ++ opener.slots.toList.map fun slot => Piece.filled args (.slot slot)

/-- The tree behind an open gate, with what is reported on the way to it. -/
def Opener.opened (opener : Opener) (args : Arguments) : Logged Tree := do
  Logged.note (.compilingGate opener.key (opener.separator.intercalate (opener.openedStem args)))
  opener.behind.compile opener.separator (opener.openedStem args)

/-- What opening a gate gives: the level behind it, compiled below the
gate's path and the values of its slots, or the first slot without one. -/
theorem Opener.apply_eq (opener : Opener) (args : Arguments) :
    opener.apply args
      = match args.firstMissing? opener.slots.toList with
        | some slot => .error ⟨slot.name, opener.separator.intercalate opener.path⟩
        | none => .ok (opener.opened args) := by
  rw [apply, fillSlots, fillPieces_eq, slotsOf_map_slot, List.map_map]
  cases args.firstMissing? opener.slots.toList <;> rfl

/-- A gate whose slots all have values opens. -/
theorem Opener.apply_of_fills {opener : Opener} {args : Arguments}
    (h : ∀ slot ∈ opener.slots.toList, args.Fills slot) :
    opener.apply args = .ok (opener.opened args) := by
  rw [apply_eq, Arguments.firstMissing?_eq_none_iff.mpr h]

/-! ### Entries under a name -/

namespace Tree

variable {tree : Tree} {name : String}

theorem key?_eq_some_iff {maker : KeyMaker} :
    tree.key? name = some maker ↔ tree.find? name = some (.key maker) := by
  rw [key?]
  split <;> simp_all

theorem branch?_eq_some_iff {below : Tree} :
    tree.branch? name = some below ↔ tree.find? name = some (.branch below) := by
  rw [branch?]
  split <;> simp_all

theorem gate?_eq_some_iff {opener : Opener} :
    tree.gate? name = some opener ↔ tree.find? name = some (.gate opener) := by
  rw [gate?]
  split <;> simp_all

end Tree

/-! ### Compiled entries -/

/-- The compiled form of an entry that stands under `name` in a level below
the texts `stem`. -/
def Level.Entry.compiled (separator : String) (stem : List String) (name : String) :
    Level.Entry → Tree.Entry
  | .key pieces => .key (.make separator stem pieces)
  | .branch below => .branch (below.compile separator (stem ++ [name])).result
  | .gate slots behind => .gate ⟨name, stem, slots, behind, separator⟩

namespace Level

/-- A level as it is listed in its compiled form: the absent entries are
left out. -/
theorem entries_compile (separator : String) (stem : List String) (level : Level) :
    (level.compile separator stem).result.entries
      = level.present.map fun listed =>
          (listed.1, listed.2.compiled separator stem listed.1) := by
  induction level with
  | nil => rfl
  | absent name rest ih => exact ih
  | key name pieces rest ih => exact congrArg (_ :: ·) ih
  | branch name below rest _ ih => exact congrArg (_ :: ·) ih
  | gate name slots behind rest _ ih => exact congrArg (_ :: ·) ih

/-- The tree of a level in name order holds under each name the compiled
form of the level's present entry. -/
theorem find?_compile {level : Level} (h : level.Ordered) (separator : String)
    (stem : List String) (name : String) :
    (level.compile separator stem).result.find? name
      = (level.presentAt? name).map (Entry.compiled separator stem name) := by
  rw [Tree.find?, entries_compile, lookup_map_entries (Entry.compiled separator stem),
    lookup_present h]

end Level

end KeyTree
