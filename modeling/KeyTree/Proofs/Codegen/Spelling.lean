import KeyTree.Proofs.Codegen.StructNames
import KeyTree.Proofs.Text.Spelling

/-!
# `KeyTree.Proofs.Codegen.Spelling`: the identifiers of generated source

Generation rejects a name if it has no letter and no numeral, and for nothing
else that is wrong with the name alone. So what it makes of a name may hold
characters that no identifier may have (`Schema.superscript_generated`).

`Schema.identifiers_of_source` says when this happens, and that it happens
only then: all identifiers of a module can be used if and only if the names
that they are made of are well spelled (`Schema.WellSpelled`).

* `Stage.Method.isIdentifier_iff`: a method has the names that its entry and
  the entry's slots make.
* `Level.Builds.spelled`: the name of a struct is put together of several
  names. Each is that of an entry further up, so it makes a method too, and
  that asks more of it than to go on with the name of a struct.
* `Schema.struct_not_mem_reserved`: put together, names make no keyword.
-/

set_option autoImplicit false

namespace KeyTree

/-! ### What has names -/

/-- The names that a method declares: its own and those of its parameters. -/
def Method.identifiers (method : Method) : List String :=
  method.name :: method.parameters.map Parameter.name

/-- The names that a struct declares: its own, that of the method that makes
the root struct, and those of its methods. -/
def BuilderStruct.identifiers (builder : BuilderStruct) : List String :=
  builder.name :: (if builder.path.isEmpty then ["new"] else [])
    ++ builder.methods.flatMap Method.identifiers

theorem BuilderStruct.forall_identifiers_iff {P : String → Prop} (hnew : P "new")
    (builder : BuilderStruct) :
    (∀ identifier ∈ builder.identifiers, P identifier)
      ↔ P builder.name
        ∧ ∀ method ∈ builder.methods, ∀ identifier ∈ method.identifiers, P identifier := by
  rw [identifiers, List.forall_mem_append, List.forall_mem_cons, List.forall_mem_flatMap]
  split
  · simp [hnew]
  · simp

/-- The names of a level's present entries and of their slots are well
spelled. -/
structure Level.WellSpelled (level : Level) : Prop where
  entries : ∀ listed ∈ level.present, LetterRules.WellSpelled XidStart listed.1
  slots : ∀ listed ∈ level.present, ∀ slot ∈ listed.2.slots,
    LetterRules.WellSpelled XidStart slot.name

/-- All names that identifiers are made of are well spelled: the name of the
root, which may start with the iota below a letter since it is put in upper
case, and those of each level. -/
structure Schema.WellSpelled (rootName : String) (schema : Schema) : Prop where
  root : LetterRules.WellSpelled (fun c => XidStart c ∨ c = LetterRules.iotaBelow) rootName
  levels : ∀ listed ∈ schema.levels, listed.2.WellSpelled

instance : DecidablePred Level.WellSpelled := fun level =>
  decidable_of_iff
    ((∀ listed ∈ level.present, LetterRules.WellSpelled XidStart listed.1)
      ∧ ∀ listed ∈ level.present, ∀ slot ∈ listed.2.slots,
          LetterRules.WellSpelled XidStart slot.name)
    ⟨fun h => ⟨h.1, h.2⟩, fun h => ⟨h.1, h.2⟩⟩

instance (rootName : String) : DecidablePred (Schema.WellSpelled rootName) := fun schema =>
  decidable_of_iff
    (LetterRules.WellSpelled (fun c => XidStart c ∨ c = LetterRules.iotaBelow) rootName
      ∧ ∀ listed ∈ schema.levels, listed.2.WellSpelled)
    ⟨fun h => ⟨h.1, h.2⟩, fun h => ⟨h.1, h.2⟩⟩

theorem Level.WellSpelled.head {name : String} {entry : Entry} {rest : Level}
    (h : (cons name (some entry) rest).WellSpelled) : LetterRules.WellSpelled XidStart name :=
  h.entries (name, entry) mem_present_cons

theorem Level.WellSpelled.tail {name : String} {entry : Entry} {rest : Level}
    (h : (cons name (some entry) rest).WellSpelled) : rest.WellSpelled := by
  have hmem : ∀ listed ∈ rest.present, listed ∈ (cons name (some entry) rest).present := by
    intro listed hlisted
    rw [present_cons]
    exact List.mem_cons_of_mem _ hlisted
  exact ⟨fun listed hlisted => h.entries listed (hmem listed hlisted),
    fun listed hlisted => h.slots listed (hmem listed hlisted)⟩

/-! ### Methods -/

/-- What holds of all members of one list, and what holds of all members of
another, are the same if they are for members at the same place. -/
theorem forall_mem_iff_of_forall₂ {α β : Type} {P : α → Prop} {Q : β → Prop} {as : List α}
    {bs : List β} (h : List.Forall₂ (fun a b => P a ↔ Q b) as bs) :
    (∀ a ∈ as, P a) ↔ ∀ b ∈ bs, Q b := by
  induction h with
  | nil => simp
  | cons hfirst _ ih => rw [List.forall_mem_cons, List.forall_mem_cons, hfirst, ih]

/-- The names of a stage's method are identifiers if and only if the names of
the stage and of its slots are well spelled. -/
theorem Stage.Method.isIdentifier_iff {stage : Stage} {method : KeyTree.Method}
    (h : stage.Method .unicode method) :
    (∀ identifier ∈ method.identifiers, IsIdentifier identifier)
      ↔ LetterRules.WellSpelled XidStart stage.name
        ∧ ∀ slot ∈ stage.slots, LetterRules.WellSpelled XidStart slot.name := by
  have hslots : List.Forall₂
      (fun slot parameter =>
        LetterRules.WellSpelled XidStart slot.name ↔ IsIdentifier parameter.name)
      stage.slots method.parameters :=
    h.parameters.imp fun slot parameter hbecomes =>
      (LetterRules.isIdentifier_snakeCase_iff hbecomes.1).symm
  rw [KeyTree.Method.identifiers, List.forall_mem_cons,
    LetterRules.isIdentifier_snakeCase_iff h.name, List.forall_mem_map,
    forall_mem_iff_of_forall₂ hslots]

/-- No name of a stage's method is a text that is no identifier. -/
theorem Stage.Method.not_mem_reserved {stage : Stage} {method : KeyTree.Method}
    (h : stage.Method .unicode method) :
    ∀ identifier ∈ method.identifiers, identifier ∉ reservedTexts := by
  rw [KeyTree.Method.identifiers, List.forall_mem_cons, List.forall_mem_map]
  refine ⟨LetterRules.not_mem_reserved_of_snakeCase h.name, ?_⟩
  intro parameter hparameter
  obtain ⟨slot, -, hslot⟩ := exists_mem_of_forall₂ h.parameters.flip hparameter
  exact LetterRules.not_mem_reserved_of_snakeCase hslot.1

section

variable {listed : List String × Level} {builder : BuilderStruct}

/-- The names of a struct's methods are identifiers if and only if the names of
its level are well spelled. -/
theorem Level.Struct.isIdentifier_iff (h : Struct .unicode listed builder) :
    (∀ method ∈ builder.methods, ∀ identifier ∈ method.identifiers, IsIdentifier identifier)
      ↔ listed.2.WellSpelled := by
  have hmethods := h.methods.imp fun entry method hmethod => hmethod.isIdentifier_iff.symm
  rw [← forall_mem_iff_of_forall₂ hmethods]
  simp only [Entry.name_stage, Entry.slots_stage]
  constructor
  · intro hall
    exact ⟨fun entry hentry => (hall entry hentry).1, fun entry hentry => (hall entry hentry).2⟩
  · intro hspelled entry hentry
    exact ⟨hspelled.entries entry hentry, hspelled.slots entry hentry⟩

/-- No name of a struct's method is a text that is no identifier. -/
theorem Level.Struct.not_mem_reserved (h : Struct .unicode listed builder) :
    ∀ method ∈ builder.methods, ∀ identifier ∈ method.identifiers,
      identifier ∉ reservedTexts := by
  intro method hmethod
  obtain ⟨entry, -, hstage⟩ := exists_mem_of_forall₂ h.methods.flip hmethod
  exact hstage.not_mem_reserved

end

/-! ### Structs -/

/-- The name of a struct below another is spelled like an identifier if that
one's name is, and the letters and numerals of the entry between them can go on
with an identifier. -/
theorem spelled_childName {parent key child : String} (hparent : Spelled parent.toList)
    (h : childName? .unicode parent key = some child)
    (hletters : ∀ c ∈ LetterRules.lettersOf key, XidContinue c) : Spelled child.toList := by
  obtain ⟨suffix, hsuffix, rfl⟩ := Option.map_eq_some_iff.mp h
  have hne : parent.toList ≠ [] := by
    intro hnil
    rw [hnil] at hparent
    exact hparent
  rw [String.toList_append, spelled_append_iff hne]
  exact ⟨hparent, LetterRules.xidContinue_trimUnderscores hsuffix hletters⟩

/-- The names of all structs of a run are spelled like identifiers if that of
the struct at hand is, and the names of all levels are well spelled. -/
theorem Level.Builds.spelled {level : Level} {place : LevelPlace} {members taken : List String}
    {out : LevelBuilders} (h : Builds .unicode place members taken level out)
    (hplace : Spelled place.structName.toList) (hlevel : level.WellSpelled)
    (hinner : ∀ listed ∈ level.inner place.path, listed.2.WellSpelled) :
    ∀ builder ∈ out.below, Spelled builder.name.toList := by
  induction h with
  | nil => nofun
  | absent hrest ih => exact ih hplace ⟨hlevel.entries, hlevel.slots⟩ hinner
  | @key place members taken name pieces rest method others hmethod hfree hanswer hrest ih =>
      have hcons : (cons name (some (.key pieces)) rest).WellSpelled := hlevel
      exact ih hplace hcons.tail hinner
  | @deeper place members taken name child entry below rest method inner others hbelow hmethod
      hfree hanswer hchild hnew hbuilt hrest ihi ihr =>
      -- The entry's name makes a method too, so the name of the struct can go on with it.
      have hspelled := spelled_childName hplace hchild hlevel.head.1
      rw [inner_cons hbelow, List.forall_mem_append, List.forall_mem_cons] at hinner
      obtain ⟨⟨hfirst, hdeeper⟩, hothers⟩ := hinner
      rw [LevelPlace.below, Entry.name_stage] at ihi
      rw [List.forall_mem_append, List.forall_mem_cons]
      exact ⟨⟨hspelled, ihi hspelled hfirst hdeeper⟩, ihr hplace hlevel.tail hothers⟩

section

variable {schema : Schema} {rootName : String} {builders : List BuilderStruct}

/-- No name of a struct is a text that is no identifier. Such a text has one
word at most, so it would be the name of the root struct. -/
theorem Schema.struct_not_mem_reserved (h : schema.builders .unicode rootName = .ok builders) :
    ∀ builder ∈ builders, builder.name ∉ reservedTexts := by
  have hwords : ∀ text ∈ reservedTexts, OneWord text := by decide
  intro builder hbuilder hreserved
  -- The names of the structs are those that lead to the levels.
  obtain ⟨listed, -, hname⟩ := (mem_structNames_iff h).mp (List.mem_map_of_mem hbuilder)
  have hroot := eq_nil_of_oneWord (hwords _ hreserved) hname
  rw [hroot, structNameAt?_nil] at hname
  exact LetterRules.not_mem_reserved_of_pascalCase hname hreserved

/-- No identifier of a struct is a text that is no identifier. -/
theorem Schema.not_mem_reserved (h : schema.builders .unicode rootName = .ok builders) :
    ∀ builder ∈ builders, ∀ identifier ∈ builder.identifiers, identifier ∉ reservedTexts := by
  have hnew : "new" ∉ reservedTexts := by decide
  intro builder hbuilder
  obtain ⟨listed, -, hstruct⟩ := exists_mem_of_forall₂ (structs_of_builders h).flip hbuilder
  rw [BuilderStruct.forall_identifiers_iff hnew]
  exact ⟨struct_not_mem_reserved h builder hbuilder, hstruct.not_mem_reserved⟩

/-- All identifiers of the structs can be used if and only if the names that
they are made of are well spelled. -/
theorem Schema.isIdentifier_iff_wellSpelled
    (h : schema.builders .unicode rootName = .ok builders) :
    (∀ builder ∈ builders, ∀ identifier ∈ builder.identifiers, IsIdentifier identifier)
      ↔ schema.WellSpelled rootName := by
  have hnew : IsIdentifier "new" := by decide
  have hstructs := structs_of_builders h
  have hreserved := struct_not_mem_reserved h
  obtain ⟨root, out, hroot, hbuilds, rfl⟩ := exists_builds h
  simp only [BuilderStruct.forall_identifiers_iff hnew]
  constructor
  · intro hall
    have hfirst := (List.forall_mem_cons.mp hall).1.1
    refine ⟨(LetterRules.isIdentifier_pascalCase_iff hroot).mp hfirst, fun listed hlisted => ?_⟩
    obtain ⟨builder, hbuilder, hstruct⟩ := exists_mem_of_forall₂ hstructs hlisted
    exact hstruct.isIdentifier_iff.mp (hall builder hbuilder).2
  · intro hspelled
    obtain ⟨hlevel, hinner⟩ := List.forall_mem_cons.mp hspelled.levels
    -- The name of the root struct is spelled like an identifier, so those below are.
    have hfirst := ((LetterRules.isIdentifier_pascalCase_iff hroot).mpr hspelled.root).spelled
    have hnames : ∀ builder ∈ ⟨root, [], out.methods⟩ :: out.below,
        Spelled builder.name.toList :=
      List.forall_mem_cons.mpr ⟨hfirst, hbuilds.spelled hfirst hlevel hinner⟩
    intro builder hbuilder
    obtain ⟨listed, hlisted, hstruct⟩ := exists_mem_of_forall₂ hstructs.flip hbuilder
    exact ⟨(hnames builder hbuilder).isIdentifier (hreserved builder hbuilder),
      hstruct.isIdentifier_iff.mpr (hspelled.levels listed hlisted)⟩

/-- A name is said to make no identifier if it has no letter and no numeral. -/
theorem Schema.lettersOf_eq_nil_of_builders {name : String}
    (h : schema.builders .unicode rootName = .error (.invalidIdentifier name)) :
    LetterRules.lettersOf name = [] := by
  have hnone : ¬ LetterRules.unicode.HasLetter name := by
    cases violation_of_builders LetterRules.lowers_unicode h with
    | root hname => exact hname
    | inside hlevels =>
        cases hlevels with
        | entry _ _ hname => exact hname
        | slot _ _ _ hname => exact hname
  rw [LetterRules.lettersOf, List.filter_eq_nil_iff]
  intro c hc hletter
  exact hnone ⟨c, hc, hletter⟩

end

/-- The identifiers of a generated module can all be used if and only if the
names that they are made of are well spelled: all letters and numerals of a
name can be part of an identifier, and the first is a numeral or can start one.
Generation does not ask for that: a name is only said to make no identifier if
it has no letter and no numeral. Whatever the names, no identifier is empty, a
single underscore or a keyword. -/
theorem Schema.identifiers_of_source (schema : Schema) (rootName separator : String)
    (print : PrintRules) :
    (∀ text, (schema.source .unicode rootName separator print).result = .ok text →
        ∃ builders, schema.builders .unicode rootName = .ok builders
          ∧ text = linesText (moduleLines separator builders print)
          ∧ (∀ builder ∈ builders, ∀ identifier ∈ builder.identifiers,
              identifier ∉ reservedTexts)
          ∧ ((∀ builder ∈ builders, ∀ identifier ∈ builder.identifiers, IsIdentifier identifier)
              ↔ schema.WellSpelled rootName))
      ∧ ∀ name, (schema.source .unicode rootName separator print).result
            = .error (.invalidIdentifier name) →
          LetterRules.lettersOf name = [] := by
  constructor
  · intro text haccepted
    obtain ⟨builders, hbuilders, htext⟩ := exists_builders_of_source haccepted
    exact ⟨builders, hbuilders, htext, not_mem_reserved hbuilders,
      isIdentifier_iff_wellSpelled hbuilders⟩
  · intro name hrejected
    rw [source] at hrejected
    cases hbuilders : schema.builders .unicode rootName with
    | ok builders => simp [hbuilders] at hrejected
    | error error =>
        simp only [hbuilders, Logged.result_pure, Except.error.injEq] at hrejected
        exact lettersOf_eq_nil_of_builders (hrejected ▸ hbuilders)

/-- Names that start with a numeral, are a keyword, or have letters outside of
ASCII. -/
def Schema.unusualNames : Schema :=
  Schema.empty.insert "2fa" (some (.gate ⟨⟨"self", .text⟩, []⟩
    (Schema.empty.insert "naïveName" (some (.key [.literal "v", .slot ⟨"3d", .number⟩])))))

/-- All of them make identifiers that can be used. -/
theorem Schema.unusualNames_identifiers :
    ∃ text builders, (unusualNames.source .unicode "größe" ":").result = .ok text
      ∧ text = linesText (moduleLines ":" builders)
      ∧ ∀ builder ∈ builders, ∀ identifier ∈ builder.identifiers, IsIdentifier identifier := by
  have hsome : (unusualNames.builders .unicode "größe").toOption.isSome := by decide +kernel
  have hspelled : unusualNames.WellSpelled "größe" := by decide +kernel
  obtain ⟨text, haccepted⟩ := exists_source_of_isSome hsome ":" .unicode
  obtain ⟨builders, -, htext, -, hidentifiers⟩ :=
    (identifiers_of_source unusualNames "größe" ":" .unicode).1 text haccepted
  exact ⟨text, builders, haccepted, htext, hidentifiers.mpr hspelled⟩

/-- A key whose name is a superscript. -/
def Schema.superscript : Schema :=
  Schema.empty.insert "²" (some (.key [.literal "v"]))

/-- No character of the name can be part of an identifier, but a method is
generated for it. -/
theorem Schema.superscript_generated :
    (superscript.source .unicode "Keys" ":").result
        = .ok (linesText (moduleLines ":"
            [⟨"Keys", [], [⟨"_²", [], [.literal "v"], .key [.literal "v"]⟩]⟩]))
      ∧ "    pub fn _²(&self) -> String \x7b" ∈ moduleLines ":"
          [⟨"Keys", [], [⟨"_²", [], [.literal "v"], .key [.literal "v"]⟩]⟩]
      ∧ ¬ IsIdentifier "_²"
      ∧ ¬ XidContinue '²' := by
  have hbuilders : superscript.builders .unicode "Keys"
      = .ok [⟨"Keys", [], [⟨"_²", [], [.literal "v"], .key [.literal "v"]⟩]⟩] := by
    decide +kernel
  refine ⟨by simp [source, hbuilders], ?_, ?_, ?_⟩
  · decide +kernel
  · decide +kernel
  · decide +kernel

end KeyTree
