import KeyTree.Codegen.Source
import KeyTree.Proofs.Codegen.Builders
import KeyTree.Proofs.Schema.Placed
import KeyTree.Proofs.Text.Words

/-!
# `KeyTree.Proofs.Codegen.Accepted`: which schemas builders are generated for

Builders are generated unless a name makes no identifier or two names of one
scope make the same one. The scopes are the entries of a level, the slots of
an entry, and all levels of the schema, whose structs stand side by side.

* `structNameAt?`: the name of a level's struct, by the names that lead to the
  level.
* `Schema.Nameable`: every name makes an identifier, and no two of one scope
  make the same.
* `LevelsViolation`, `Schema.Violation`: what an error tells of the schema.

A run carries the method names and the struct names that are in use, so what
an error tells of the level at hand may involve these (`Level.Fault`).
`fault_of_error` is the induction over the run; at the root nothing is in use
but the root's own names. `Schema.source_accepts_iff` puts the two sides
together.
-/

set_option autoImplicit false

namespace KeyTree

/-! ### Clashes -/

/-- Two places of a list get the name. -/
def Clash {α : Type} (nameOf : α → Option String) (list : List α) (name : String) : Prop :=
  ∃ a b, [a, b].Sublist list ∧ nameOf a = some name ∧ nameOf b = some name

section

variable {α : Type} {nameOf : α → Option String} {list : List α} {name : String}

theorem Clash.mono {more : List α} (h : Clash nameOf list name) (hsub : list.Sublist more) :
    Clash nameOf more name := by
  obtain ⟨a, b, hab, ha, hb⟩ := h
  exact ⟨a, b, hab.trans hsub, ha, hb⟩

/-- The first place and a later one. -/
theorem Clash.of_first {a b : α} (ha : nameOf a = some name) (hb : nameOf b = some name)
    (hmem : b ∈ list) : Clash nameOf (a :: list) name :=
  ⟨a, b, .cons_cons a (List.singleton_sublist.mpr hmem), ha, hb⟩

theorem clash_cons_iff {a : α} :
    Clash nameOf (a :: list) name
      ↔ (nameOf a = some name ∧ ∃ b ∈ list, nameOf b = some name) ∨ Clash nameOf list name := by
  constructor
  · rintro ⟨first, second, hsub, hfirst, hsecond⟩
    cases hsub with
    | cons _ hsub => exact .inr ⟨first, second, hsub, hfirst, hsecond⟩
    | cons_cons _ hsub =>
        exact .inl ⟨hfirst, second, List.singleton_sublist.mp hsub, hsecond⟩
  · rintro (⟨ha, b, hmem, hb⟩ | h)
    · exact .of_first ha hb hmem
    · exact h.mono (List.sublist_cons_self a list)

/-- Where all names differ none is given twice. -/
theorem not_clash_of_pairwise (h : list.Pairwise fun a b => nameOf a ≠ nameOf b) :
    ¬ Clash nameOf list name := by
  rintro ⟨a, b, hsub, ha, hb⟩
  have hne := (List.pairwise_pair.mp (h.sublist hsub))
  exact hne (ha.trans hb.symm)

/-- Names differ if they are those of a list of different names. -/
theorem pairwise_ne_of_nodup {β : Type} {name : β → String} {others : List β}
    (h : List.Forall₂ (fun a b => nameOf a = some (name b)) list others)
    (hnodup : (others.map name).Nodup) : list.Pairwise fun a b => nameOf a ≠ nameOf b := by
  induction h with
  | nil => exact .nil
  | @cons a b list others hfirst hrest ih =>
      obtain ⟨hnot, hothers⟩ := List.nodup_cons.mp hnodup
      refine List.pairwise_cons.mpr ⟨fun other hmem heq => hnot ?_, ih hothers⟩
      obtain ⟨found, hfound, hname⟩ := exists_mem_of_forall₂ hrest hmem
      have hsame : some (name b) = some (name found) := by
        rw [← hfirst, ← hname, heq]
      rw [Option.some.inj hsame]
      exact List.mem_map_of_mem hfound

end

/-! ### Names of structs -/

section

variable {rules : LetterRules} {rootName : String}

/-- The name of the struct of the level that some names lead to: the name of
the root struct, and then what each name adds to it. -/
def structNameAt? (rules : LetterRules) (rootName : String) (path : List String) :
    Option String :=
  (rules.pascalCase rootName).bind fun root => path.foldlM (childName? rules) root

@[simp] theorem structNameAt?_nil :
    structNameAt? rules rootName [] = rules.pascalCase rootName := by
  rw [structNameAt?]
  cases rules.pascalCase rootName <;> rfl

/-- One more name adds to the name of the struct above. -/
theorem structNameAt?_append {path : List String} {structName : String}
    (h : structNameAt? rules rootName path = some structName) (name : String) :
    structNameAt? rules rootName (path ++ [name]) = childName? rules structName name := by
  rw [structNameAt?] at h ⊢
  obtain ⟨root, hroot, hpath⟩ := Option.bind_eq_some_iff.mp h
  rw [hroot, Option.bind_some, List.foldlM_append, hpath]
  simp

/-! ### Schemas whose names can be used -/

/-- The names of a level's present entries and of their slots make
identifiers, all different where they meet. -/
structure Level.Nameable (rules : LetterRules) (level : Level) : Prop where
  entries : ∀ listed ∈ level.present, rules.HasLetter listed.1
  slots : ∀ listed ∈ level.present, ∀ slot ∈ listed.2.slots, rules.HasLetter slot.name
  members : level.present.Pairwise fun listed other =>
    rules.snakeCase listed.1 ≠ rules.snakeCase other.1
  arguments : ∀ listed ∈ level.present, listed.2.slots.Pairwise fun slot other =>
    rules.snakeCase slot.name ≠ rules.snakeCase other.name

/-- All names make identifiers: the name of the root, and those of each level.
No entry of the root is called like the method that makes the root struct, and
no two levels have structs of one name. -/
structure Schema.Nameable (rules : LetterRules) (rootName : String) (schema : Schema) : Prop where
  root : rules.HasLetter rootName
  levels : ∀ listed ∈ schema.levels, listed.2.Nameable rules
  notNew : ∀ listed ∈ schema.level.present, rules.snakeCase listed.1 ≠ some "new"
  structs : schema.levels.Pairwise fun listed other =>
    structNameAt? rules rootName listed.1 ≠ structNameAt? rules rootName other.1

/-- What is wrong with some levels, each given with the names that lead to it,
if an error is about them. -/
inductive LevelsViolation (rules : LetterRules) (rootName : String)
    (levels : List (List String × Level)) : CodegenError → Prop
  /-- The name of an entry makes no identifier. -/
  | entry {path : List String} {level : Level} {name : String} {entry : Level.Entry}
      (hlevel : (path, level) ∈ levels) (hentry : (name, entry) ∈ level.present)
      (hname : ¬ rules.HasLetter name) :
      LevelsViolation rules rootName levels (.invalidIdentifier name)
  /-- The name of a slot makes no identifier. -/
  | slot {path : List String} {level : Level} {name : String} {entry : Level.Entry} {slot : Slot}
      (hlevel : (path, level) ∈ levels) (hentry : (name, entry) ∈ level.present)
      (hslot : slot ∈ entry.slots) (hname : ¬ rules.HasLetter slot.name) :
      LevelsViolation rules rootName levels (.invalidIdentifier slot.name)
  /-- Two slots of an entry make one identifier. -/
  | argument {path : List String} {level : Level} {name identifier : String} {entry : Level.Entry}
      (hlevel : (path, level) ∈ levels) (hentry : (name, entry) ∈ level.present)
      (hclash : Clash (fun slot => rules.snakeCase slot.name) entry.slots identifier) :
      LevelsViolation rules rootName levels
        (.duplicateArgument (dotted (path ++ [name])) identifier)
  /-- Two entries of a level make one identifier. -/
  | member {path : List String} {level : Level} {structName identifier : String}
      (hlevel : (path, level) ∈ levels)
      (hstruct : structNameAt? rules rootName path = some structName)
      (hclash : Clash (fun listed => rules.snakeCase listed.1) level.present identifier) :
      LevelsViolation rules rootName levels (.duplicateMember structName identifier)
  /-- Two levels have structs of one name. -/
  | struct {identifier : String}
      (hclash : Clash (fun listed => structNameAt? rules rootName listed.1) levels identifier) :
      LevelsViolation rules rootName levels (.duplicateStruct identifier)

/-- What is wrong with a schema, if generation ends with an error. -/
inductive Schema.Violation (rules : LetterRules) (rootName : String) (schema : Schema) :
    CodegenError → Prop
  /-- The name of the root makes no identifier. -/
  | root (hname : ¬ rules.HasLetter rootName) :
      Violation rules rootName schema (.invalidIdentifier rootName)
  /-- An entry of the root is called like the method that makes its struct. -/
  | new {name root : String} {entry : Level.Entry} (hroot : rules.pascalCase rootName = some root)
      (hentry : (name, entry) ∈ schema.level.present) (hname : rules.snakeCase name = some "new") :
      Violation rules rootName schema (.duplicateMember root "new")
  /-- Something is wrong inside the levels. -/
  | inside {error : CodegenError}
      (hlevels : LevelsViolation rules rootName schema.levels error) :
      Violation rules rootName schema error

/-- Nothing is wrong with a schema whose names can be used. -/
theorem Schema.Nameable.not_violation {schema : Schema} (h : schema.Nameable rules rootName)
    (error : CodegenError) : ¬ schema.Violation rules rootName error := by
  intro hviolation
  cases hviolation with
  | root hname => exact hname h.root
  | new hroot hentry hname => exact h.notNew _ hentry hname
  | inside hlevels =>
      cases hlevels with
      | entry hlevel hentry hname => exact hname ((h.levels _ hlevel).entries _ hentry)
      | slot hlevel hentry hslot hname => exact hname ((h.levels _ hlevel).slots _ hentry _ hslot)
      | argument hlevel hentry hclash =>
          exact not_clash_of_pairwise ((h.levels _ hlevel).arguments _ hentry) hclash
      | member hlevel hstruct hclash =>
          exact not_clash_of_pairwise (h.levels _ hlevel).members hclash
      | struct hclash => exact not_clash_of_pairwise h.structs hclash

/-! ### What success tells -/

/-- The structs below have the names that lead to their levels. -/
theorem Level.Builds.structNames {level : Level} {place : LevelPlace}
    {members taken : List String} {out : LevelBuilders}
    (h : Builds rules place members taken level out)
    (hplace : structNameAt? rules rootName place.path = some place.structName) :
    List.Forall₂ (fun listed builder =>
        structNameAt? rules rootName listed.1 = some (BuilderStruct.name builder))
      (level.inner place.path) out.below := by
  induction h with
  | nil => exact .nil
  | absent hrest ih => exact ih hplace
  | key hmethod hfree hanswer hrest ih => exact ih hplace
  | deeper hbelow hmethod hfree hanswer hchild hnew hinner hrest ihi ihr =>
      have hname := (structNameAt?_append hplace _).trans hchild
      rw [inner_cons hbelow]
      rw [LevelPlace.below, Entry.name_stage] at ihi
      refine List.rel_append (.cons ?_ (ihi hname)) (ihr hplace)
      exact hname

/-- The structs of a schema have the names that lead to its levels. -/
theorem Schema.structNames_of_builders {schema : Schema} {builders : List BuilderStruct}
    (h : schema.builders rules rootName = .ok builders) :
    List.Forall₂ (fun listed builder =>
        structNameAt? rules rootName listed.1 = some (BuilderStruct.name builder))
      schema.levels builders := by
  obtain ⟨root, out, hroot, hbuilds, rfl⟩ := exists_builds h
  have hplace : structNameAt? rules rootName [] = some root := structNameAt?_nil.trans hroot
  exact .cons hplace (hbuilds.structNames hplace)

/-- The names of a level that has a struct can be used. -/
theorem Level.Struct.nameable (hlower : rules.Lowers) {listed : List String × Level}
    {builder : BuilderStruct} (h : Level.Struct rules listed builder) :
    listed.2.Nameable rules := by
  have hnames : List.Forall₂ (fun entry method =>
      rules.snakeCase entry.1 = some (Method.name method)) listed.2.present builder.methods :=
    h.methods.imp fun entry method hmethod => by
      rw [← hmethod.name, Level.Entry.name_stage]
  -- Each entry has a method, whose parameters are the entry's slots.
  have hmethod : ∀ entry ∈ listed.2.present, ∃ method : Method,
      rules.snakeCase entry.1 = some method.name
        ∧ List.Forall₂ (Slot.Becomes rules) entry.2.slots method.parameters
        ∧ (method.parameters.map Parameter.name).Nodup := by
    intro entry hentry
    obtain ⟨method, -, hstage⟩ := exists_mem_of_forall₂ h.methods hentry
    have hparameters := hstage.parameters
    rw [Level.Entry.slots_stage] at hparameters
    exact ⟨method, by rw [← hstage.name, Level.Entry.name_stage], hparameters, hstage.nodup⟩
  constructor
  · intro entry hentry
    obtain ⟨method, hname, -⟩ := hmethod entry hentry
    exact (LetterRules.exists_snakeCase_iff hlower).mp ⟨_, hname⟩
  · intro entry hentry slot hslot
    obtain ⟨method, -, hparameters, -⟩ := hmethod entry hentry
    obtain ⟨parameter, -, hbecomes⟩ := exists_mem_of_forall₂ hparameters hslot
    exact (LetterRules.exists_snakeCase_iff hlower).mp ⟨_, hbecomes.1⟩
  · exact pairwise_ne_of_nodup hnames h.nodup
  · intro entry hentry
    obtain ⟨method, -, hparameters, hnodup⟩ := hmethod entry hentry
    exact pairwise_ne_of_nodup (hparameters.imp fun slot parameter hbecomes => hbecomes.1) hnodup

/-- Where builders are generated, all names can be used. -/
theorem Schema.nameable_of_builders (hlower : rules.Lowers) {schema : Schema}
    {builders : List BuilderStruct} (h : schema.builders rules rootName = .ok builders) :
    schema.Nameable rules rootName := by
  have hnodup := nodup_structNames h
  have hnames := structNames_of_builders h
  have hstructs := structs_of_builders h
  obtain ⟨root, out, hroot, hbuilds, rfl⟩ := exists_builds h
  have hmethods := hbuilds.newNames_methods
  constructor
  · exact (LetterRules.exists_pascalCase_iff hlower).mp ⟨root, hroot⟩
  · intro listed hlisted
    obtain ⟨builder, -, hbuilder⟩ := exists_mem_of_forall₂ hstructs hlisted
    exact hbuilder.nameable hlower
  · intro listed hlisted hnew
    obtain ⟨method, hmem, hmethod⟩ := exists_mem_of_forall₂ hbuilds.methods hlisted
    have hname := hmethod.stage.name
    rw [Level.Entry.name_stage, hnew] at hname
    refine hmethods.2 _ (List.mem_map_of_mem hmem) ?_
    rw [← Option.some.inj hname]
    exact List.mem_singleton_self _
  · exact pairwise_ne_of_nodup hnames hnodup

/-! ### What errors tell -/

theorem identifierFor_eq_error_iff {convert : String → Option String} {name : String}
    {error : CodegenError} :
    identifierFor convert name = .error error
      ↔ convert name = none ∧ error = .invalidIdentifier name := by
  rw [identifierFor]
  cases convert name with
  | none => simp [eq_comm]
  | some identifier => simp

section

variable (hlower : rules.Lowers)

include hlower

theorem not_hasLetter_of_snakeCase {name : String} (h : rules.snakeCase name = none) :
    ¬ rules.HasLetter name := by
  intro hname
  obtain ⟨identifier, hsome⟩ := (LetterRules.exists_snakeCase_iff hlower).mpr hname
  rw [h] at hsome
  cases hsome

theorem not_hasLetter_of_pascalCase {name : String} (h : rules.pascalCase name = none) :
    ¬ rules.HasLetter name := by
  intro hname
  obtain ⟨identifier, hsome⟩ := (LetterRules.exists_pascalCase_iff hlower).mpr hname
  rw [h] at hsome
  cases hsome

/-- A slot becomes no parameter only if its name makes no identifier. -/
theorem of_parameter_eq_error {slot : Slot} {error : CodegenError}
    (h : slot.parameter rules = .error error) :
    ¬ rules.HasLetter slot.name ∧ error = .invalidIdentifier slot.name := by
  rw [Slot.parameter, bind_eq_error_iff] at h
  rcases h with h | ⟨identifier, -, h⟩
  · obtain ⟨hnone, herror⟩ := identifierFor_eq_error_iff.mp h
    exact ⟨not_hasLetter_of_snakeCase hlower hnone, herror⟩
  · cases h

/-- Parameters are not found only if the name of a slot makes no identifier,
or if an identifier is made twice or is taken. -/
theorem of_parametersFrom_eq_error {path taken : List String} {slots : List Slot}
    {error : CodegenError} (h : parametersFrom rules path taken slots = .error error) :
    (∃ slot ∈ slots, ¬ rules.HasLetter slot.name ∧ error = .invalidIdentifier slot.name)
      ∨ ∃ identifier, error = .duplicateArgument (dotted path) identifier
        ∧ (Clash (fun slot => rules.snakeCase slot.name) slots identifier
          ∨ identifier ∈ taken ∧ ∃ slot ∈ slots, rules.snakeCase slot.name = some identifier) := by
  induction slots generalizing taken with
  | nil => cases h
  | cons slot rest ih =>
      rw [parametersFrom, bind_eq_error_iff] at h
      rcases h with h | ⟨parameter, hparameter, h⟩
      · obtain ⟨hname, herror⟩ := of_parameter_eq_error hlower h
        exact .inl ⟨slot, List.mem_cons_self, hname, herror⟩
      obtain ⟨hslot, -⟩ := Slot.parameter_eq_ok_iff.mp hparameter
      split at h
      · rename_i htaken
        cases h
        exact .inr ⟨parameter.name, rfl, .inr ⟨htaken, slot, List.mem_cons_self, hslot⟩⟩
      rcases bind_eq_error_iff.mp h with h | ⟨others, -, h⟩
      · rcases ih h with ⟨other, hmem, hother⟩ | ⟨identifier, herror, hclash⟩
        · exact .inl ⟨other, List.mem_cons_of_mem slot hmem, hother⟩
        refine .inr ⟨identifier, herror, ?_⟩
        rcases hclash with hclash | ⟨hmem, other, hother, hname⟩
        · exact .inl (hclash.mono (List.sublist_cons_self slot rest))
        -- A name that the rest finds taken is taken before, or by this slot.
        rcases List.mem_cons.mp hmem with rfl | hmem
        · exact .inl (.of_first hslot hname hother)
        · exact .inr ⟨hmem, other, List.mem_cons_of_mem slot hother, hname⟩
      · cases h

/-- Pieces have no expressions only if the name of a slot makes no identifier. -/
theorem of_segments_eq_error {pieces : List Piece} {error : CodegenError}
    (h : pieces.mapM (Piece.segmentExpr rules) = .error error) :
    ∃ slot ∈ slotsOf pieces, ¬ rules.HasLetter slot.name
      ∧ error = .invalidIdentifier slot.name := by
  obtain ⟨piece, hmem, hpiece⟩ := exists_eq_error_of_mapM h
  cases piece with
  | literal text => cases hpiece
  | slot slot =>
      rw [Piece.segmentExpr, bind_eq_error_iff] at hpiece
      rcases hpiece with hslot | ⟨parameter, -, hpiece⟩
      · exact ⟨slot, List.mem_filterMap.mpr ⟨_, hmem, rfl⟩, of_parameter_eq_error hlower hslot⟩
      · cases hpiece

end

/-- What is wrong with some of the levels is wrong with all of them. -/
theorem LevelsViolation.mono {levels more : List (List String × Level)} {error : CodegenError}
    (h : LevelsViolation rules rootName levels error) (hsub : levels.Sublist more) :
    LevelsViolation rules rootName more error := by
  cases h with
  | entry hlevel hentry hname => exact .entry (hsub.subset hlevel) hentry hname
  | slot hlevel hentry hslot hname => exact .slot (hsub.subset hlevel) hentry hslot hname
  | argument hlevel hentry hclash => exact .argument (hsub.subset hlevel) hentry hclash
  | member hlevel hstruct hclash => exact .member (hsub.subset hlevel) hstruct hclash
  | struct hclash => exact .struct (hclash.mono hsub)

/-- What is wrong with the last entries of a level is wrong with the level. -/
theorem LevelsViolation.of_rest {path : List String} {rest level : Level}
    {below more : List (List String × Level)} {error : CodegenError}
    (h : LevelsViolation rules rootName ((path, rest) :: below) error)
    (hpresent : rest.present.Sublist level.present) (hbelow : below.Sublist more) :
    LevelsViolation rules rootName ((path, level) :: more) error := by
  have hlevels : ∀ {place : List String} {held : Level}, (place, held) ∈ (path, rest) :: below →
      ∃ found, (place, found) ∈ (path, level) :: more ∧ held.present.Sublist found.present := by
    intro place held hheld
    rcases List.mem_cons.mp hheld with heq | hheld
    · cases heq
      exact ⟨level, List.mem_cons_self, hpresent⟩
    · exact ⟨held, List.mem_cons_of_mem _ (hbelow.subset hheld), .refl _⟩
  cases h with
  | entry hlevel hentry hname =>
      obtain ⟨found, hfound, hsub⟩ := hlevels hlevel
      exact .entry hfound (hsub.subset hentry) hname
  | slot hlevel hentry hslot hname =>
      obtain ⟨found, hfound, hsub⟩ := hlevels hlevel
      exact .slot hfound (hsub.subset hentry) hslot hname
  | argument hlevel hentry hclash =>
      obtain ⟨found, hfound, hsub⟩ := hlevels hlevel
      exact .argument hfound (hsub.subset hentry) hclash
  | member hlevel hstruct hclash =>
      obtain ⟨found, hfound, hsub⟩ := hlevels hlevel
      exact .member hfound hstruct (hclash.mono hsub)
  | struct hclash =>
      -- The name of a struct hangs on the names that lead to it only.
      rcases clash_cons_iff.mp hclash with ⟨hfirst, other, hother, hname⟩ | hclash
      · exact .struct (.of_first hfirst hname (hbelow.subset hother))
      · exact .struct ((hclash.mono hbelow).mono (List.sublist_cons_self _ _))

namespace Level

/-! ### What is wrong when a run fails -/

/-- What is wrong if a run over a level fails: something inside the level and
those below it, or a name that was in use before the run. -/
inductive Fault (rules : LetterRules) (rootName : String) (place : LevelPlace)
    (members taken : List String) (level : Level) : CodegenError → Prop
  | inside {error : CodegenError}
      (hlevels : LevelsViolation rules rootName ((place.path, level) :: level.inner place.path)
        error) : Fault rules rootName place members taken level error
  | member {name identifier : String} {entry : Entry} (hused : identifier ∈ members)
      (hentry : (name, entry) ∈ level.present) (hname : rules.snakeCase name = some identifier) :
      Fault rules rootName place members taken level
        (.duplicateMember place.structName identifier)
  | struct {identifier : String} {listed : List String × Level} (hused : identifier ∈ taken)
      (hlisted : listed ∈ level.inner place.path)
      (hname : structNameAt? rules rootName listed.1 = some identifier) :
      Fault rules rootName place members taken level (.duplicateStruct identifier)

/-- The level below an entry, and those below that. -/
def Entry.inner (path : List String) (name : String) (entry : Entry) :
    List (List String × Level) :=
  match entry.below? with
  | none => []
  | some below => (path ++ [name], below) :: below.inner (path ++ [name])

/-- The levels below the first entry of a level come first. -/
theorem inner_cons_eq_append (path : List String) (name : String) (entry : Entry) (rest : Level) :
    (cons name (some entry) rest).inner path = entry.inner path name ++ rest.inner path := by
  cases entry with
  | key pieces => rfl
  | branch below => rfl
  | gate slots behind => rfl

section

variable {place : LevelPlace} {members taken : List String} {name : String} {entry : Entry}
  {rest : Level} {error : CodegenError}

theorem mem_present_cons : (name, entry) ∈ (cons name (some entry) rest).present := by
  rw [present_cons]
  exact List.mem_cons_self

/-- A run over the entries behind the first one fails for a reason that is
one for the whole level too. What the first entry has added to the names in
use is the name of its method, and the names of the structs below it. -/
theorem Fault.of_rest {method : String} {taken' : List String}
    (hplace : structNameAt? rules rootName place.path = some place.structName)
    (hmethod : rules.snakeCase name = some method)
    (htaken : ∀ identifier ∈ taken', identifier ∈ taken
      ∨ ∃ listed ∈ entry.inner place.path name,
          structNameAt? rules rootName listed.1 = some identifier)
    (h : rest.Fault rules rootName place (method :: members) taken' error) :
    (cons name (some entry) rest).Fault rules rootName place members taken error := by
  have hpresent : rest.present.Sublist (cons name (some entry) rest).present := by
    rw [present_cons]
    exact List.sublist_cons_self _ _
  have hinner : (rest.inner place.path).Sublist
      ((cons name (some entry) rest).inner place.path) := by
    rw [inner_cons_eq_append]
    exact List.sublist_append_right _ _
  cases h with
  | inside hlevels => exact .inside (hlevels.of_rest hpresent hinner)
  | @member other identifier found hused hentry hname =>
      rcases List.mem_cons.mp hused with rfl | hused
      · -- The name is that of the first entry's method: the two entries clash.
        refine .inside (.member List.mem_cons_self hplace ?_)
        rw [present_cons]
        exact .of_first hmethod hname hentry
      · exact .member hused (hpresent.subset hentry) hname
  | @struct identifier listed hused hlisted hname =>
      rcases htaken identifier hused with hused | ⟨other, hother, hsame⟩
      · exact .struct hused (hinner.subset hlisted) hname
      · -- The name is that of a struct below the first entry: the two levels clash.
        refine .inside (.struct ?_)
        rw [inner_cons_eq_append]
        have hsub : [other, listed].Sublist
            (entry.inner place.path name ++ rest.inner place.path) :=
          List.Sublist.append (List.singleton_sublist.mpr hother)
            (List.singleton_sublist.mpr hlisted)
        exact Clash.mono ⟨other, listed, hsub, hsame, hname⟩ (List.sublist_cons_self _ _)

/-- A run over the level below the first entry fails for a reason that is one
for the whole level too. -/
theorem Fault.of_inner {below : Level} {child : String} (hbelow : entry.below? = some below)
    (hchild : structNameAt? rules rootName (place.path ++ [name]) = some child)
    (h : below.Fault rules rootName (place.below (entry.stage name) child) [] (child :: taken)
      error) :
    (cons name (some entry) rest).Fault rules rootName place members taken error := by
  have hpath : (place.below (entry.stage name) child).path = place.path ++ [name] := by
    rw [LevelPlace.below, Entry.name_stage]
  have hinner : ((place.path ++ [name], below) :: below.inner (place.path ++ [name])).Sublist
      ((cons name (some entry) rest).inner place.path) := by
    rw [inner_cons hbelow, List.cons_append]
    exact .cons_cons _ (List.sublist_append_left _ _)
  cases h with
  | inside hlevels =>
      rw [hpath] at hlevels
      exact .inside (hlevels.mono (hinner.trans (List.sublist_cons_self _ _)))
  | member hused => cases hused
  | @struct identifier listed hused hlisted hname =>
      rw [hpath] at hlisted
      rcases List.mem_cons.mp hused with rfl | hused
      · -- The name is that of the level below itself.
        have hclash : Clash (fun listed => structNameAt? rules rootName listed.1)
            ((place.path ++ [name], below) :: below.inner (place.path ++ [name])) identifier :=
          .of_first hchild hname hlisted
        exact .inside (.struct ((hclash.mono hinner).mono (List.sublist_cons_self _ _)))
      · exact .struct hused (hinner.subset (List.mem_cons_of_mem _ hlisted)) hname

/-! ### The run -/

/-- Branches and gates are run alike, with the slots and pieces of their
stages. A branch has no slots to find parameters for. -/
theorem buildersFrom_cons {below : Level} (hbelow : entry.below? = some below) :
    (cons name (some entry) rest).buildersFrom rules place members taken = (do
      let method ← memberName rules place members name
      let child ← childStructName rules place.structName name
      let parameters ← parametersFrom rules (place.path ++ [name]) [] entry.slots
      let segments ← (entry.stage name).pieces.mapM (Piece.segmentExpr rules)
      if child ∈ taken then .error (.duplicateStruct child)
      else do
        let inner ← below.buildersFrom rules (place.below (entry.stage name) child) []
          (child :: taken)
        let others ← rest.buildersFrom rules place (method :: members) inner.taken
        .ok
          { methods := ⟨method, parameters, segments, .level child⟩ :: others.methods
            below := ⟨child, place.path ++ [name], inner.methods⟩ :: inner.below ++ others.below
            taken := others.taken }) := by
  cases entry with
  | key pieces => cases hbelow
  | branch inner =>
      cases hbelow
      rfl
  | gate slots behind =>
      cases hbelow
      rfl

section

variable {level : Level} (hlower : rules.Lowers)

include hlower

/-- The name of a method is not found because the entry's name makes no
identifier, or because the name is in use. -/
theorem fault_of_memberName (hentry : (name, entry) ∈ level.present)
    (h : memberName rules place members name = .error error) :
    level.Fault rules rootName place members taken error := by
  rw [memberName, bind_eq_error_iff] at h
  rcases h with h | ⟨identifier, hidentifier, h⟩
  · obtain ⟨hnone, rfl⟩ := identifierFor_eq_error_iff.mp h
    exact .inside (.entry List.mem_cons_self hentry (not_hasLetter_of_snakeCase hlower hnone))
  · split at h
    · rename_i hused
      cases h
      exact .member hused hentry (identifierFor_eq_ok_iff.mp hidentifier)
    · cases h

/-- The name of the struct below is not found because the entry's name makes
no identifier. -/
theorem fault_of_childStructName (hentry : (name, entry) ∈ level.present) {parent : String}
    (h : childStructName rules parent name = .error error) :
    level.Fault rules rootName place members taken error := by
  rw [childStructName, bind_eq_error_iff] at h
  rcases h with h | ⟨suffix, -, h⟩
  · obtain ⟨hnone, rfl⟩ := identifierFor_eq_error_iff.mp h
    exact .inside (.entry List.mem_cons_self hentry (not_hasLetter_of_pascalCase hlower hnone))
  · cases h

/-- Parameters are not found because of one of the entry's slots, or of two. -/
theorem fault_of_parametersFrom (hentry : (name, entry) ∈ level.present)
    (h : parametersFrom rules (place.path ++ [name]) [] entry.slots = .error error) :
    level.Fault rules rootName place members taken error := by
  rcases of_parametersFrom_eq_error hlower h with
    ⟨slot, hslot, hname, rfl⟩ | ⟨identifier, rfl, hclash | ⟨hused, -⟩⟩
  · exact .inside (.slot List.mem_cons_self hentry hslot hname)
  · exact .inside (.argument List.mem_cons_self hentry hclash)
  · cases hused

/-- Segments are not found because of one of the entry's slots. -/
theorem fault_of_segments (hentry : (name, entry) ∈ level.present)
    (h : (entry.stage name).pieces.mapM (Piece.segmentExpr rules) = .error error) :
    level.Fault rules rootName place members taken error := by
  obtain ⟨slot, hslot, hname, rfl⟩ := of_segments_eq_error hlower h
  have hslots : slotsOf (entry.stage name).pieces = entry.slots := Entry.slots_stage name entry
  rw [hslots] at hslot
  exact .inside (.slot List.mem_cons_self hentry hslot hname)

/-- A run over an entry with a level below it fails in one of its parts. -/
private theorem fault_of_error_cons (entry : Entry) {below : Level}
    (hbelow : entry.below? = some below)
    (ihbelow : ∀ {place : LevelPlace} {members taken : List String},
      structNameAt? rules rootName place.path = some place.structName →
      below.buildersFrom rules place members taken = .error error →
      below.Fault rules rootName place members taken error)
    (ihrest : ∀ {place : LevelPlace} {members taken : List String},
      structNameAt? rules rootName place.path = some place.structName →
      rest.buildersFrom rules place members taken = .error error →
      rest.Fault rules rootName place members taken error)
    (hplace : structNameAt? rules rootName place.path = some place.structName)
    (h : (cons name (some entry) rest).buildersFrom rules place members taken = .error error) :
    (cons name (some entry) rest).Fault rules rootName place members taken error := by
  have hentry : (name, entry) ∈ (cons name (some entry) rest).present := mem_present_cons
  rw [buildersFrom_cons hbelow] at h
  rcases bind_eq_error_iff.mp h with h | ⟨method, hmethod, h⟩
  · exact fault_of_memberName hlower hentry h
  rcases bind_eq_error_iff.mp h with h | ⟨child, hchild, h⟩
  · exact fault_of_childStructName hlower hentry h
  rcases bind_eq_error_iff.mp h with h | ⟨parameters, -, h⟩
  · exact fault_of_parametersFrom hlower hentry h
  rcases bind_eq_error_iff.mp h with h | ⟨segments, -, h⟩
  · exact fault_of_segments hlower hentry h
  -- From here on the struct below has its name.
  have hname : structNameAt? rules rootName (place.path ++ [name]) = some child :=
    (structNameAt?_append hplace name).trans (childStructName_eq_ok_iff.mp hchild)
  have hinner : entry.inner place.path name
      = (place.path ++ [name], below) :: below.inner (place.path ++ [name]) := by
    rw [Entry.inner, hbelow]
  have hpath : (place.below (entry.stage name) child).path = place.path ++ [name] := by
    rw [LevelPlace.below, Entry.name_stage]
  have hplace' : structNameAt? rules rootName (place.below (entry.stage name) child).path
      = some (place.below (entry.stage name) child).structName := by
    rw [hpath]
    exact hname
  split at h
  · rename_i hused
    cases h
    have hlisted : (place.path ++ [name], below)
        ∈ (cons name (some entry) rest).inner place.path := by
      rw [inner_cons hbelow]
      exact List.mem_cons_self
    exact .struct hused hlisted hname
  rcases bind_eq_error_iff.mp h with h | ⟨out, hout, h⟩
  · exact .of_inner hbelow hname (ihbelow hplace' h)
  rcases bind_eq_error_iff.mp h with h | ⟨others, -, h⟩
  · refine .of_rest hplace (memberName_eq_ok_iff.mp hmethod).1 (fun identifier hused => ?_)
      (ihrest hplace h)
    -- The inner run has taken the names of its structs, and no others.
    have hbuilds := builds_of_buildersFrom hout
    have hnames := hbuilds.structNames hplace'
    rw [hpath] at hnames
    rw [hinner]
    rcases (hbuilds.mem_taken_iff identifier).mp hused with hused | hused
    · rcases List.mem_cons.mp hused with rfl | hused
      · exact .inr ⟨_, List.mem_cons_self, hname⟩
      · exact .inl hused
    · obtain ⟨builder, hbuilder, rfl⟩ := List.mem_map.mp hused
      obtain ⟨listed, hlisted, hsame⟩ := exists_mem_of_forall₂ hnames.flip hbuilder
      exact .inr ⟨listed, List.mem_cons_of_mem _ hlisted, hsame⟩
  · cases h

/-- What a failed run tells. The error comes from one of the parts of the run
over the first entry that has one; what that entry has added to the names in
use is known from the parts before it. -/
theorem fault_of_error {level : Level}
    (hplace : structNameAt? rules rootName place.path = some place.structName)
    (h : level.buildersFrom rules place members taken = .error error) :
    level.Fault rules rootName place members taken error := by
  induction level generalizing place members taken with
  | nil => cases h
  | absent name rest ih =>
      cases ih hplace h with
      | inside hlevels => exact .inside (hlevels.of_rest (.refl _) (.refl _))
      | member hused hentry hname => exact .member hused hentry hname
      | struct hused hlisted hname => exact .struct hused hlisted hname
  | key name pieces rest ih =>
      have hentry : (name, Entry.key pieces) ∈ (Level.key name pieces rest).present :=
        mem_present_cons
      rcases bind_eq_error_iff.mp h with h | ⟨method, hmethod, h⟩
      · exact fault_of_memberName hlower hentry h
      rcases bind_eq_error_iff.mp h with h | ⟨parameters, -, h⟩
      · exact fault_of_parametersFrom hlower hentry h
      rcases bind_eq_error_iff.mp h with h | ⟨segments, -, h⟩
      · exact fault_of_segments hlower hentry h
      rcases bind_eq_error_iff.mp h with h | ⟨others, -, h⟩
      · show (cons name (some (.key pieces)) rest).Fault rules rootName place members taken error
        exact .of_rest hplace (memberName_eq_ok_iff.mp hmethod).1
          (fun identifier hused => .inl hused) (ih hplace h)
      · cases h
  | branch name below rest ihb ihr =>
      exact fault_of_error_cons hlower (.branch below) rfl ihb ihr hplace h
  | gate name slots behind rest ihb ihr =>
      exact fault_of_error_cons hlower (.gate slots behind) rfl ihb ihr hplace h

end

end

end Level

/-! ### Generation -/

/-- Generated source is the source of a module of structs. -/
theorem Schema.exists_builders_of_source {schema : Schema} {rootName separator text : String}
    {print : PrintRules} (h : (schema.source rules rootName separator print).result = .ok text) :
    ∃ builders, schema.builders rules rootName = .ok builders
      ∧ text = linesText (moduleLines separator builders print) := by
  rw [Schema.source] at h
  cases hbuilders : schema.builders rules rootName with
  | error error => simp [hbuilders] at h
  | ok builders =>
      simp only [hbuilders, Logged.result_bind, Logged.result_pure, Except.ok.injEq] at h
      exact ⟨builders, rfl, h.symm⟩

/-- Where there are structs there is source. -/
theorem Schema.exists_source_of_isSome {schema : Schema} {rootName : String}
    (h : (schema.builders rules rootName).toOption.isSome) (separator : String)
    (print : PrintRules) :
    ∃ text, (schema.source rules rootName separator print).result = .ok text := by
  rw [Schema.source]
  cases hbuilders : schema.builders rules rootName with
  | error error => simp [hbuilders, Except.toOption] at h
  | ok builders => exact ⟨_, rfl⟩

/-- What a failed generation tells. -/
theorem Schema.violation_of_builders (hlower : rules.Lowers) {schema : Schema}
    {error : CodegenError} (h : schema.builders rules rootName = .error error) :
    schema.Violation rules rootName error := by
  rcases bind_eq_error_iff.mp h with h | ⟨root, hroot, h⟩
  · obtain ⟨hnone, rfl⟩ := identifierFor_eq_error_iff.mp h
    exact .root (not_hasLetter_of_pascalCase hlower hnone)
  rcases bind_eq_error_iff.mp h with h | ⟨out, -, h⟩
  · have hname := identifierFor_eq_ok_iff.mp hroot
    have hplace : structNameAt? rules rootName [] = some root := structNameAt?_nil.trans hname
    cases Level.fault_of_error hlower hplace h with
    | inside hlevels => exact .inside hlevels
    | member hused hentry hnew =>
        obtain rfl := List.mem_singleton.mp hused
        exact .new hname hentry hnew
    | struct hused hlisted hsame =>
        -- The only name in use is that of the root struct.
        obtain rfl := List.mem_singleton.mp hused
        exact .inside (.struct (.of_first hplace hsame hlisted))
  · cases h

end

/-- Source is generated exactly for schemas whose names can be used. These are
the schemas whose root, present entries and slots have names with a letter or a
numeral, where the method names of a level's present entries differ and none at
the root is `new`, the parameter names of each entry's slots differ, and all
levels have structs of different names. The separator does not matter. Where
generation fails, the error names something that is wrong with the schema: a
name without letters and numerals, or an identifier that two slots of an entry,
two entries of a level or two levels share. -/
theorem Schema.source_accepts_iff (schema : Schema) (rootName separator : String) :
    ((∃ text, (schema.source .unicode rootName separator).result = .ok text)
        ↔ schema.Nameable .unicode rootName)
      ∧ ∀ error, (schema.source .unicode rootName separator).result = .error error →
          schema.Violation .unicode rootName error := by
  have hlower := LetterRules.lowers_unicode
  rw [Schema.source]
  cases hbuilders : schema.builders .unicode rootName with
  | ok builders =>
      refine ⟨⟨fun _ => nameable_of_builders hlower hbuilders, fun _ => ⟨_, rfl⟩⟩, ?_⟩
      intro error herror
      cases herror
  | error found =>
      have hviolation := violation_of_builders hlower hbuilders
      refine ⟨⟨?_, fun hnames => absurd hviolation (hnames.not_violation found)⟩, ?_⟩
      · rintro ⟨text, htext⟩
        cases htext
      · intro error herror
        cases herror
        exact hviolation

end KeyTree
