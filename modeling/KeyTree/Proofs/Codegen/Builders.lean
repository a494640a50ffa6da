import Mathlib.Data.List.Forall2
import KeyTree.Codegen.Builders
import KeyTree.Proofs.Except
import KeyTree.Proofs.Schema.Stages

/-!
# `KeyTree.Proofs.Codegen.Builders`: what generation answers

`Level.buildersFrom` generates or fails; everything about generated builders
is read off its runs that do not fail. `Level.Builds` says what such a run
is, entry by entry and without errors (`builds_of_buildersFrom`), and facts
about builders are inductions on it:

* `Builds.methods`: a struct has one method for each present entry of its
  level, in order. It takes and adds what the entry's stage does
  (`Stage.Method`) and answers the key or the struct of the level below.
* `Builds.newNames_methods`, `Builds.newNames_structs`: no two methods of a
  struct and no two structs share a name, so a name means one thing.
* `Builds.structs`: there is one struct for each level, in depth-first order.
-/

set_option autoImplicit false

namespace KeyTree

/-! ### Identifiers -/

/-- An identifier is found where the conversion gives one. -/
theorem identifierFor_eq_ok_iff {convert : String → Option String} {name identifier : String} :
    identifierFor convert name = .ok identifier ↔ convert name = some identifier := by
  rw [identifierFor]
  cases convert name <;> simp

/-! ### New names -/

/-- Names that are new when they come one after another: none is taken, and
no two are the same. -/
def NewNames (taken names : List String) : Prop :=
  names.Nodup ∧ ∀ name ∈ names, name ∉ taken

theorem newNames_nil (taken : List String) : NewNames taken [] := ⟨List.nodup_nil, nofun⟩

/-- The first name is new, and those behind it are where it is taken too. -/
theorem newNames_cons_iff {taken names : List String} {name : String} :
    NewNames taken (name :: names) ↔ name ∉ taken ∧ NewNames (name :: taken) names := by
  simp only [NewNames, List.nodup_cons, List.mem_cons, not_or, forall_eq_or_imp]
  constructor
  · rintro ⟨⟨hname, hnames⟩, htaken, hrest⟩
    exact ⟨htaken, hnames, fun other hother => ⟨fun heq => hname (heq ▸ hother), hrest _ hother⟩⟩
  · rintro ⟨htaken, hnames, hrest⟩
    exact ⟨⟨fun hmem => (hrest name hmem).1 rfl, hnames⟩, htaken, fun _ h => (hrest _ h).2⟩

/-- Names are new behind others if they are where the others are taken. -/
theorem newNames_append {taken taken' first second : List String} (hfirst : NewNames taken first)
    (hsecond : NewNames taken' second) (h : ∀ name, name ∈ taken' ↔ name ∈ taken ∨ name ∈ first) :
    NewNames taken (first ++ second) := by
  refine ⟨List.nodup_append.mpr ⟨hfirst.1, hsecond.1, ?_⟩, fun name hmem => ?_⟩
  · rintro name hname other hother rfl
    exact hsecond.2 name hother ((h name).mpr (.inr hname))
  · rcases List.mem_append.mp hmem with hmem | hmem
    · exact hfirst.2 name hmem
    · exact fun htaken => hsecond.2 name hmem ((h name).mpr (.inl htaken))

section

variable {rules : LetterRules}

/-! ### Parameters and segments -/

/-- The parameter that stands for a slot. -/
def Slot.Becomes (rules : LetterRules) (slot : Slot) (parameter : Parameter) : Prop :=
  rules.snakeCase slot.name = some parameter.name ∧ parameter.kind = slot.kind

/-- The expression that stands for a piece. -/
def Piece.Becomes (rules : LetterRules) : Piece → SegmentExpr → Prop
  | .literal text, expression => expression = .literal text
  | .slot s, expression =>
    ∃ parameter, s.Becomes rules parameter ∧ expression = .parameter parameter

theorem Slot.parameter_eq_ok_iff {slot : Slot} {parameter : Parameter} :
    slot.parameter rules = .ok parameter ↔ slot.Becomes rules parameter := by
  simp only [Slot.parameter, bind_eq_ok_iff, identifierFor_eq_ok_iff, Becomes,
    Except.ok.injEq]
  constructor
  · rintro ⟨name, hname, rfl⟩
    exact ⟨hname, rfl⟩
  · rintro ⟨hname, hkind⟩
    exact ⟨parameter.name, hname, by rw [← hkind]⟩

theorem Piece.segmentExpr_eq_ok_iff {piece : Piece} {expression : SegmentExpr} :
    piece.segmentExpr rules = .ok expression ↔ piece.Becomes rules expression := by
  cases piece with
  | literal text =>
      rw [Piece.segmentExpr, Becomes, Except.ok.injEq]
      exact eq_comm
  | slot s =>
      rw [Piece.segmentExpr, Becomes, bind_eq_ok_iff]
      simp only [Slot.parameter_eq_ok_iff, Except.ok.injEq]
      exact exists_congr fun _ => and_congr_right fun _ => eq_comm

/-- Parameters are found if every slot becomes one and their names are new. -/
theorem parametersFrom_eq_ok_iff {path taken : List String} {slots : List Slot}
    {parameters : List Parameter} :
    parametersFrom rules path taken slots = .ok parameters
      ↔ List.Forall₂ (Slot.Becomes rules) slots parameters
          ∧ NewNames taken (parameters.map Parameter.name) := by
  induction slots generalizing taken parameters with
  | nil =>
      rw [parametersFrom, List.forall₂_nil_left_iff, Except.ok.injEq]
      constructor
      · rintro rfl
        exact ⟨rfl, newNames_nil taken⟩
      · rintro ⟨rfl, -⟩
        rfl
  | cons slot rest ih =>
      rw [parametersFrom, bind_eq_ok_iff, List.forall₂_cons_left_iff]
      simp only [Slot.parameter_eq_ok_iff]
      constructor
      · rintro ⟨first, hfirst, hrest⟩
        split at hrest
        · cases hrest
        · rename_i hfree
          obtain ⟨others, hothers, hparameters⟩ := bind_eq_ok_iff.mp hrest
          obtain ⟨hslots, hnames⟩ := ih.mp hothers
          obtain rfl := Except.ok.inj hparameters
          exact ⟨⟨first, others, hfirst, hslots, rfl⟩, newNames_cons_iff.mpr ⟨hfree, hnames⟩⟩
      · rintro ⟨⟨first, others, hfirst, hslots, rfl⟩, hnames⟩
        obtain ⟨hfree, hothers⟩ := newNames_cons_iff.mp hnames
        refine ⟨first, hfirst, ?_⟩
        rw [if_neg hfree, bind_eq_ok_iff]
        exact ⟨others, ih.mpr ⟨hslots, hothers⟩, rfl⟩

/-! ### Methods and structs -/

/-- The method that stands for a stage: it takes the slots of the stage, in
order and under different names, and puts the pieces of the stage behind the
prefix. -/
structure Stage.Method (rules : LetterRules) (stage : Stage) (method : KeyTree.Method) : Prop where
  name : rules.snakeCase stage.name = some method.name
  parameters : List.Forall₂ (Slot.Becomes rules) stage.slots method.parameters
  nodup : (method.parameters.map Parameter.name).Nodup
  segments : List.Forall₂ (Piece.Becomes rules) stage.pieces method.segments

/-- A method with the parameters and segments found for a stage is the method
of the stage. -/
theorem Stage.Method.of_found {stage : Stage} {path : List String} {name : String}
    {parameters : List Parameter} {segments : List SegmentExpr} {answer : MethodAnswer}
    (hname : rules.snakeCase stage.name = some name)
    (hparameters : parametersFrom rules path [] stage.slots = .ok parameters)
    (hsegments : stage.pieces.mapM (Piece.segmentExpr rules) = .ok segments) :
    stage.Method rules ⟨name, parameters, segments, answer⟩ := by
  obtain ⟨hslots, hnames⟩ := parametersFrom_eq_ok_iff.mp hparameters
  have hpieces := mapM_eq_ok_iff.mp hsegments
  simp only [Piece.segmentExpr_eq_ok_iff] at hpieces
  exact ⟨hname, hslots, hnames.1, hpieces⟩

/-- A member gets the name that its entry's name makes, if it is free. -/
theorem memberName_eq_ok_iff {place : LevelPlace} {members : List String} {key name : String} :
    memberName rules place members key = .ok name
      ↔ rules.snakeCase key = some name ∧ name ∉ members := by
  rw [memberName, bind_eq_ok_iff]
  simp only [identifierFor_eq_ok_iff]
  constructor
  · rintro ⟨found, hfound, hfree⟩
    split at hfree
    · cases hfree
    · rename_i hnot
      obtain rfl := Except.ok.inj hfree
      exact ⟨hfound, hnot⟩
  · rintro ⟨hname, hnot⟩
    exact ⟨name, hname, if_neg hnot⟩

/-- The name of the struct below an entry of another struct, if the entry's
name makes one. -/
def childName? (rules : LetterRules) (parent key : String) : Option String :=
  (rules.pascalCase key).map fun suffix => parent ++ trimUnderscores suffix

theorem childStructName_eq_ok_iff {parent key child : String} :
    childStructName rules parent key = .ok child ↔ childName? rules parent key = some child := by
  rw [childStructName, bind_eq_ok_iff, childName?, Option.map_eq_some_iff]
  simp only [identifierFor_eq_ok_iff, Except.ok.injEq]

/-- The place of the level below a stage, where `child` is the name of its
struct. -/
def LevelPlace.below (place : LevelPlace) (stage : Stage) (child : String) : LevelPlace :=
  ⟨child, place.path ++ [stage.name], place.stem ++ stage.pieces⟩

namespace Level

/-- A run of `buildersFrom` that does not fail. The last argument is what it
answers. -/
inductive Builds (rules : LetterRules) :
    LevelPlace → List String → List String → Level → LevelBuilders → Prop
  | nil {place : LevelPlace} {members taken : List String} :
      Builds rules place members taken .nil ⟨[], [], taken⟩
  | absent {place : LevelPlace} {members taken : List String} {name : String} {rest : Level}
      {out : LevelBuilders} (hrest : Builds rules place members taken rest out) :
      Builds rules place members taken (.absent name rest) out
  | key {place : LevelPlace} {members taken : List String} {name : String} {pieces : List Piece}
      {rest : Level} {method : KeyTree.Method} {others : LevelBuilders}
      (hmethod : ((Entry.key pieces).stage name).Method rules method)
      (hfree : method.name ∉ members) (hanswer : method.answer = .key (place.stem ++ pieces))
      (hrest : Builds rules place (method.name :: members) taken rest others) :
      Builds rules place members taken (.key name pieces rest)
        ⟨method :: others.methods, others.below, others.taken⟩
  | deeper {place : LevelPlace} {members taken : List String} {name child : String}
      {entry : Entry} {below rest : Level} {method : KeyTree.Method} {inner others : LevelBuilders}
      (hbelow : entry.below? = some below) (hmethod : (entry.stage name).Method rules method)
      (hfree : method.name ∉ members) (hanswer : method.answer = .level child)
      (hchild : childName? rules place.structName name = some child) (hnew : child ∉ taken)
      (hinner : Builds rules (place.below (entry.stage name) child) [] (child :: taken) below
        inner)
      (hrest : Builds rules place (method.name :: members) inner.taken rest others) :
      Builds rules place members taken (.cons name (some entry) rest)
        ⟨method :: others.methods,
          ⟨child, place.path ++ [name], inner.methods⟩ :: inner.below ++ others.below,
          others.taken⟩

/-- A run that does not fail is a run of `Builds`. -/
theorem builds_of_buildersFrom {level : Level} {place : LevelPlace} {members taken : List String}
    {out : LevelBuilders} (h : level.buildersFrom rules place members taken = .ok out) :
    Builds rules place members taken level out := by
  induction level generalizing place members taken out with
  | nil =>
      obtain rfl := Except.ok.inj h
      exact .nil
  | absent name rest ih => exact .absent (ih h)
  | key name pieces rest ih =>
      -- Every part of the run succeeded; they are taken in its order.
      obtain ⟨method, hname, h⟩ := bind_eq_ok_iff.mp h
      obtain ⟨parameters, hparameters, h⟩ := bind_eq_ok_iff.mp h
      obtain ⟨segments, hsegments, h⟩ := bind_eq_ok_iff.mp h
      obtain ⟨others, hrest, h⟩ := bind_eq_ok_iff.mp h
      obtain rfl := Except.ok.inj h
      obtain ⟨hname, hfree⟩ := memberName_eq_ok_iff.mp hname
      exact .key (.of_found hname hparameters hsegments) hfree rfl (ih hrest)
  | branch name below rest ihb ihr =>
      obtain ⟨method, hname, h⟩ := bind_eq_ok_iff.mp h
      obtain ⟨child, hchild, h⟩ := bind_eq_ok_iff.mp h
      split at h
      · cases h
      · rename_i hnew
        obtain ⟨inner, hinner, h⟩ := bind_eq_ok_iff.mp h
        obtain ⟨others, hrest, h⟩ := bind_eq_ok_iff.mp h
        obtain rfl := Except.ok.inj h
        obtain ⟨hname, hfree⟩ := memberName_eq_ok_iff.mp hname
        -- A branch asks for no parameters, so that part is no run of its own.
        have hparameters : parametersFrom rules (place.path ++ [name]) [] [] = .ok [] := rfl
        have hmethod : ((Entry.branch below).stage name).Method rules
            ⟨method, [], [.literal name], .level child⟩ := .of_found hname hparameters rfl
        exact .deeper rfl hmethod hfree rfl (childStructName_eq_ok_iff.mp hchild) hnew
          (ihb hinner) (ihr hrest)
  | gate name slots behind rest ihb ihr =>
      obtain ⟨method, hname, h⟩ := bind_eq_ok_iff.mp h
      obtain ⟨child, hchild, h⟩ := bind_eq_ok_iff.mp h
      obtain ⟨parameters, hparameters, h⟩ := bind_eq_ok_iff.mp h
      obtain ⟨segments, hsegments, h⟩ := bind_eq_ok_iff.mp h
      split at h
      · cases h
      · rename_i hnew
        obtain ⟨inner, hinner, h⟩ := bind_eq_ok_iff.mp h
        obtain ⟨others, hrest, h⟩ := bind_eq_ok_iff.mp h
        obtain rfl := Except.ok.inj h
        obtain ⟨hname, hfree⟩ := memberName_eq_ok_iff.mp hname
        rw [← Entry.slots_stage_gate name slots behind] at hparameters
        have hmethod : ((Entry.gate slots behind).stage name).Method rules
            ⟨method, parameters, segments, .level child⟩ := .of_found hname hparameters hsegments
        exact .deeper rfl hmethod hfree rfl (childStructName_eq_ok_iff.mp hchild) hnew
          (ihb hinner) (ihr hrest)

/-! ### One method for each entry -/

/-- The method of an entry in the struct at a place. It is the method of the
entry's stage. The method of a key answers the key, and that of any other
entry the struct of the level below, which is among `structs` together with
all structs below it. -/
structure Entry.Method (rules : LetterRules) (place : LevelPlace) (structs : List BuilderStruct)
    (listed : String × Entry) (method : KeyTree.Method) : Prop where
  stage : (listed.2.stage listed.1).Method rules method
  answer_key : listed.2.below? = none →
    method.answer = .key (place.stem ++ (listed.2.stage listed.1).pieces)
  answer_level : ∀ below, listed.2.below? = some below → ∃ child taken inner,
    method.answer = .level child
      ∧ Builds rules (place.below (listed.2.stage listed.1) child) [] taken below inner
      ∧ ⟨child, place.path ++ [listed.1], inner.methods⟩ ∈ structs
      ∧ inner.below ⊆ structs

/-- The struct of the level below stays where it is among more structs. -/
theorem Entry.Method.mono {place : LevelPlace} {structs more : List BuilderStruct}
    {listed : String × Entry} {method : KeyTree.Method}
    (h : Entry.Method rules place structs listed method) (hsub : structs ⊆ more) :
    Entry.Method rules place more listed method where
  stage := h.stage
  answer_key := h.answer_key
  answer_level := fun below hbelow => by
    obtain ⟨child, taken, inner, hanswer, hinner, hmem, hinners⟩ := h.answer_level below hbelow
    exact ⟨child, taken, inner, hanswer, hinner, hsub hmem, List.Subset.trans hinners hsub⟩

namespace Builds

variable {level : Level} {place : LevelPlace} {members taken : List String} {out : LevelBuilders}

/-- A struct has a method for each present entry of its level, in order. -/
theorem methods (h : Builds rules place members taken level out) :
    List.Forall₂ (Entry.Method rules place out.below) level.present out.methods := by
  induction h with
  | nil => exact .nil
  | absent hrest ih => exact ih
  | key hmethod hfree hanswer hrest ih =>
      exact .cons ⟨hmethod, fun _ => hanswer, nofun⟩ ih
  | deeper hbelow hmethod hfree hanswer hchild hnew hinner hrest ihi ihr =>
      rw [present_cons]
      -- The structs of the entry come first among those below, and the others
      -- keep their methods with more structs around.
      refine .cons ⟨hmethod, fun hnone => ?_, fun below hsome => ?_⟩ ?_
      · exact absurd (hbelow.symm.trans hnone) (Option.some_ne_none _)
      · obtain rfl := Option.some.inj (hbelow.symm.trans hsome)
        exact ⟨_, _, _, hanswer, hinner, List.mem_cons_self,
          fun _ hmem => List.mem_cons_of_mem _ (List.mem_append_left _ hmem)⟩
      · exact ihr.imp fun _ _ hother => hother.mono fun _ hmem =>
          List.mem_cons_of_mem _ (List.mem_append_right _ hmem)

/-! ### Names that mean one thing -/

/-- The methods of a struct have new names. -/
theorem newNames_methods (h : Builds rules place members taken level out) :
    NewNames members (out.methods.map KeyTree.Method.name) := by
  induction h with
  | nil => exact newNames_nil _
  | absent hrest ih => exact ih
  | key hmethod hfree hanswer hrest ih => exact newNames_cons_iff.mpr ⟨hfree, ih⟩
  | deeper hbelow hmethod hfree hanswer hchild hnew hinner hrest ihi ihr =>
      exact newNames_cons_iff.mpr ⟨hfree, ihr⟩

/-- The names of all structs below are taken in the end, and no others. -/
theorem mem_taken_iff (h : Builds rules place members taken level out) (name : String) :
    name ∈ out.taken ↔ name ∈ taken ∨ name ∈ out.below.map BuilderStruct.name := by
  induction h with
  | nil => simp
  | absent hrest ih => exact ih
  | key hmethod hfree hanswer hrest ih => exact ih
  | deeper hbelow hmethod hfree hanswer hchild hnew hinner hrest ihi ihr =>
      rw [ihr, ihi]
      simp only [List.map_append, List.map_cons, List.mem_cons, List.mem_append, or_assoc,
        or_left_comm]

/-- The structs below have new names. -/
theorem newNames_structs (h : Builds rules place members taken level out) :
    NewNames taken (out.below.map BuilderStruct.name) := by
  induction h with
  | nil => exact newNames_nil _
  | absent hrest ih => exact ih
  | key hmethod hfree hanswer hrest ih => exact ih
  | deeper hbelow hmethod hfree hanswer hchild hnew hinner hrest ihi ihr =>
      rw [List.map_append, List.map_cons]
      -- What the inner run has taken is what the entries behind find taken.
      refine newNames_append (newNames_cons_iff.mpr ⟨hnew, ihi⟩) ihr fun name => ?_
      rw [hinner.mem_taken_iff, List.mem_cons, List.mem_cons, or_assoc, or_left_comm]

end Builds

/-! ### One struct for each level -/

/-- The levels below a level, depth first and in order, each with the names
that lead to it. -/
def inner (path : List String) : Level → List (List String × Level)
  | .nil => []
  | .absent _ rest => rest.inner path
  | .key _ _ rest => rest.inner path
  | .branch name below rest =>
    (path ++ [name], below) :: below.inner (path ++ [name]) ++ rest.inner path
  | .gate name _ behind rest =>
    (path ++ [name], behind) :: behind.inner (path ++ [name]) ++ rest.inner path

/-- The levels below an entry come first. -/
theorem inner_cons {path : List String} {name : String} {entry : Entry} {below : Level}
    (h : entry.below? = some below) (rest : Level) :
    (cons name (some entry) rest).inner path
      = (path ++ [name], below) :: below.inner (path ++ [name]) ++ rest.inner path := by
  cases entry with
  | key pieces => cases h
  | branch inner =>
      cases h
      rfl
  | gate slots behind =>
      cases h
      rfl

/-- The struct of a level: its methods are those of the stages of the level's
present entries, in order, and have different names. -/
structure Struct (rules : LetterRules) (listed : List String × Level) (builder : BuilderStruct) :
    Prop where
  path : builder.path = listed.1
  methods : List.Forall₂ (fun entry method => (entry.2.stage entry.1).Method rules method)
    listed.2.present builder.methods
  nodup : (builder.methods.map KeyTree.Method.name).Nodup

/-- The methods of a run make the struct of its level. -/
theorem Builds.struct {level : Level} {place : LevelPlace} {members taken : List String}
    {out : LevelBuilders} (h : Builds rules place members taken level out) (name : String)
    (path : List String) : Struct rules (path, level) ⟨name, path, out.methods⟩ where
  path := rfl
  methods := h.methods.imp fun _ _ hentry => hentry.stage
  nodup := h.newNames_methods.1

/-- The structs below are those of the levels below, in the same order. -/
theorem Builds.structs {level : Level} {place : LevelPlace} {members taken : List String}
    {out : LevelBuilders} (h : Builds rules place members taken level out) :
    List.Forall₂ (Struct rules) (level.inner place.path) out.below := by
  induction h with
  | nil => exact .nil
  | absent hrest ih => exact ih
  | key hmethod hfree hanswer hrest ih => exact ih
  | deeper hbelow hmethod hfree hanswer hchild hnew hinner hrest ihi ihr =>
      rw [inner_cons hbelow]
      rw [LevelPlace.below, Entry.name_stage] at ihi
      exact List.rel_append (.cons (hinner.struct _ _) ihi) ihr

end Level

/-! ### The structs of a schema -/

/-- The levels of a schema, the root first and then depth first, each with
the names that lead to it. -/
def Schema.levels (schema : Schema) : List (List String × Level) :=
  ([], schema.level) :: schema.level.inner []

/-- Where generation succeeds, the root struct and all structs below it come
from one run over the schema's level. -/
theorem Schema.exists_builds {schema : Schema} {rootName : String} {builders : List BuilderStruct}
    (h : schema.builders rules rootName = .ok builders) :
    ∃ root out, rules.pascalCase rootName = some root
      ∧ schema.level.Builds rules ⟨root, [], []⟩ ["new"] [root] out
      ∧ builders = ⟨root, [], out.methods⟩ :: out.below := by
  obtain ⟨root, hroot, h⟩ := bind_eq_ok_iff.mp h
  obtain ⟨out, hout, h⟩ := bind_eq_ok_iff.mp h
  exact ⟨root, out, identifierFor_eq_ok_iff.mp hroot, Level.builds_of_buildersFrom hout,
    (Except.ok.inj h).symm⟩

/-- The structs of a schema are those of its levels, in the same order. -/
theorem Schema.structs_of_builders {schema : Schema} {rootName : String}
    {builders : List BuilderStruct} (h : schema.builders rules rootName = .ok builders) :
    List.Forall₂ (Level.Struct rules) schema.levels builders := by
  obtain ⟨root, out, -, hbuilds, rfl⟩ := exists_builds h
  exact .cons (hbuilds.struct _ _) hbuilds.structs

/-- No two structs of a schema have one name. -/
theorem Schema.nodup_structNames {schema : Schema} {rootName : String}
    {builders : List BuilderStruct} (h : schema.builders rules rootName = .ok builders) :
    (builders.map BuilderStruct.name).Nodup := by
  obtain ⟨root, out, -, hbuilds, rfl⟩ := exists_builds h
  -- The root's name is taken from the start, and all others are new.
  obtain ⟨hnodup, hfree⟩ := hbuilds.newNames_structs
  exact List.nodup_cons.mpr ⟨fun hmem => hfree root hmem (List.mem_singleton_self root), hnodup⟩

end

end KeyTree
