import KeyTree.Proofs.Codegen.Calls

/-!
# `KeyTree.Proofs.Codegen.Parity`: generated builders make the same keys

Generation hands each key of a schema out over several structs: one method
for each stage of the key's template, each with the slots of its stage only.
A tree compiled from the schema opens one gate after another instead.
`Schema.generated_keys_eq_compiled_keys` says that both make the same key of
every template, whatever values are given at each stage. The source is taken
for what it says: its methods are those that are read from its text, and what
they do is what the lines of their bodies say.

The invariant of the descent is that the struct in hand is generated from
the level in hand (`Level.Builds`), and that it is among the structs of the
module with all those below it (`exists_methodsFollow`).
-/

set_option autoImplicit false

namespace KeyTree

/-! ### Methods found by name -/

/-- What is listed with a name of its own is found by it. -/
theorem find?_eq_some_of_nodup {α : Type} {nameOf : α → String} {list : List α}
    (hnodup : (list.map nameOf).Nodup) {a : α} (hmem : a ∈ list) :
    list.find? (nameOf · = nameOf a) = some a := by
  induction list with
  | nil => cases hmem
  | cons head rest ih =>
      obtain ⟨hhead, hrest⟩ := List.nodup_cons.mp hnodup
      rcases List.mem_cons.mp hmem with rfl | hmem
      · simp
      · have hne : nameOf head ≠ nameOf a := fun heq => hhead (heq ▸ List.mem_map_of_mem hmem)
        rw [List.find?_cons_of_neg (by simpa using hne)]
        exact ih hrest hmem

section

variable (separator : String) (print : PrintRules)

/-- The module that is read from the source of some structs. -/
def shownModule (builders : List BuilderStruct) : SourceModule :=
  ⟨separator, builders.map (BuilderStruct.shown separator print)⟩

theorem map_name_shown (builders : List BuilderStruct) :
    (shownModule separator print builders).structs.map SourceStruct.name
      = builders.map BuilderStruct.name := by
  rw [shownModule, List.map_map]
  rfl

/-- A struct of a module is found by its name. -/
theorem find?_shown {builders : List BuilderStruct}
    (hnodup : (builders.map BuilderStruct.name).Nodup) {builder : BuilderStruct}
    (hbuilder : builder ∈ builders) :
    (shownModule separator print builders).structs.find? (·.name = builder.name)
      = some (builder.shown separator print) := by
  rw [← map_name_shown separator print] at hnodup
  exact find?_eq_some_of_nodup hnodup (List.mem_map_of_mem hbuilder)

/-- A struct of a module, and a method of the struct, are found by their
names. -/
theorem method?_shown {builders : List BuilderStruct}
    (hnodup : (builders.map BuilderStruct.name).Nodup) {builder : BuilderStruct}
    (hbuilder : builder ∈ builders) (hmethods : (builder.methods.map Method.name).Nodup)
    {method : Method} (hmethod : method ∈ builder.methods) :
    (shownModule separator print builders).method? builder.name method.name
      = some (method.shown separator print) := by
  have hnames : ((builder.shown separator print).methods.map SourceMethod.name).Nodup := by
    rw [BuilderStruct.shown, List.map_map]
    exact hmethods
  rw [SourceModule.method?, find?_shown separator print hnodup hbuilder, Option.bind_eq_bind,
    Option.bind_some]
  exact find?_eq_some_of_nodup hnames (List.mem_map_of_mem hmethod)

end

section

variable {rules : LetterRules}

/-- Methods that follow stages through the structs of a module, from a struct
whose keys start with `stem`: one for each stage, found one after another,
and the last one has a comment with the key of all their pieces. -/
structure MethodsFollow (rules : LetterRules) (print : PrintRules) (module : SourceModule)
    (structName : String) (stem : List Piece) (stages : List Stage)
    (methods : List SourceMethod) : Prop where
  each : List.Forall₂ (Stage.ShownBy rules) stages methods
  found : module.methodsAlong? structName (methods.map SourceMethod.name) = some methods
  leaf : ∃ leaf ∈ methods.getLast?,
    leaf.comment = some (keyComment module.separator (stem ++ stages.flatMap Stage.pieces) print)

/-- A method in front of others that follow stages, where it makes the struct in
which they are found. -/
theorem MethodsFollow.cons {print : PrintRules} {module : SourceModule}
    {structName child : String} {stem : List Piece} {stage : Stage} {stages : List Stage}
    {method : SourceMethod} {methods : List SourceMethod} (hmethod : stage.ShownBy rules method)
    (hfound : module.method? structName method.name = some method)
    {segments : List SourceExpr} (hbody : method.body = .extend child segments)
    (h : MethodsFollow rules print module child (stem ++ stage.pieces) stages methods) :
    MethodsFollow rules print module structName stem (stage :: stages) (method :: methods) where
  each := .cons hmethod h.each
  found := by
    rw [List.map_cons, SourceModule.methodsAlong?, hfound, Option.bind_eq_bind, Option.bind_some]
    simp only [hbody, h.found, Option.map_some]
  leaf := by
    obtain ⟨leaf, hleaf, hkey⟩ := h.leaf
    refine ⟨leaf, ?_, by rw [hkey, List.flatMap_cons, List.append_assoc]⟩
    rw [List.getLast?_cons, hleaf]
    rfl

/-- Wherever stages lead from a level, methods follow them from the struct of
the level. -/
theorem exists_methodsFollow (separator : String) (print : PrintRules)
    {builders : List BuilderStruct} (hnodup : (builders.map BuilderStruct.name).Nodup)
    {level : Level} (hordered : level.Ordered) {stages : List Stage}
    (hleads : level.Leads stages) {place : LevelPlace} {members taken : List String}
    {out : LevelBuilders} (hbuilds : level.Builds rules place members taken out)
    (hstruct : ⟨place.structName, place.path, out.methods⟩ ∈ builders)
    (hbelow : out.below ⊆ builders) :
    ∃ methods, MethodsFollow rules print (shownModule separator print builders)
      place.structName place.stem stages methods := by
  induction hleads generalizing place members taken out with
  | @key level name pieces hentry =>
      have hpresent := (Level.presentAt?_eq_some_iff hordered name _).mp hentry
      obtain ⟨method, hmem, hmethod⟩ := exists_mem_of_forall₂ hbuilds.methods hpresent
      have hfound := method?_shown separator print hnodup hstruct hbuilds.newNames_methods.1 hmem
      have hanswer := hmethod.answer_key rfl
      have hbody := method.body_shown_of_key separator print hanswer
      refine ⟨[method.shown separator print], .cons (hmethod.stage.shownBy _ _) .nil, ?_,
        method.shown separator print, rfl, ?_⟩
      · rw [List.map_singleton, SourceModule.methodsAlong?]
        exact Option.bind_eq_some_iff.mpr ⟨_, hfound, by simp only [hbody]; rfl⟩
      · rw [method.comment_shown_of_key separator print hanswer, List.flatMap_singleton]
        rfl
  | @deeper level name entry inner stages hentry hinner hleads ih =>
      have hpresent := (Level.presentAt?_eq_some_iff hordered name _).mp hentry
      obtain ⟨method, hmem, hmethod⟩ := exists_mem_of_forall₂ hbuilds.methods hpresent
      have hfound := method?_shown separator print hnodup hstruct hbuilds.newNames_methods.1 hmem
      obtain ⟨child, taken, deeper, hanswer, hbuilt, hchild, hchildren⟩ :=
        hmethod.answer_level inner hinner
      have hbody := method.body_shown_of_level separator print hanswer
      -- The struct of the level below is at its own place again, so the
      -- hypothesis applies to it.
      rw [← Level.Entry.name_stage name entry] at hchild
      obtain ⟨methods, hmethods⟩ := ih (Level.ordered_of_below? hordered hentry hinner) hbuilt
        (hbelow hchild) (List.Subset.trans hchildren hbelow)
      exact ⟨_, .cons (hmethod.stage.shownBy separator print) hfound hbody hmethods⟩

end

/-! ### The methods of a level -/

section

variable {rules : LetterRules} {rootName : String} {templates : List Template}
  (separator : String) (print : PrintRules)

/-- What the method of an entry of the level at `path` makes. The method of a
key joins, below a comment that says what the key's template is, and that of any
other entry builds the struct of the level below. -/
inductive Level.Entry.MadeBy (rules : LetterRules) (rootName separator : String)
    (print : PrintRules) (templates : List Template) (path : List String) :
    String × Entry → SourceMethod → Prop
  | key {name : String} {pieces : List Piece} {template : Template} {method : SourceMethod}
      {segments : List SourceExpr} (hlisted : template ∈ templates)
      (hpath : template.path = path ++ [name])
      (hcomment : method.comment
        = some ("/// `" ++ rustEscaped (template.render separator) print ++ "`"))
      (hbody : method.body = .join segments) :
      MadeBy rules rootName separator print templates path (name, .key pieces) method
  | level {name child : String} {entry : Entry} {below : Level} {method : SourceMethod}
      {segments : List SourceExpr} (hbelow : entry.below? = some below)
      (hname : structNameAt? rules rootName (path ++ [name]) = some child)
      (hcomment : method.comment = none) (hbody : method.body = .extend child segments) :
      MadeBy rules rootName separator print templates path (name, entry) method

/-- The struct of a level, as it is read: it is called after the path to the
level, the root and no other starts with an empty prefix, and it has one method
for each present entry of the level, in order. The method shows the stage of the
entry and makes what the entry asks for. -/
structure Level.ShownBy (rules : LetterRules) (rootName separator : String)
    (print : PrintRules) (templates : List Template) (listed : List String × Level)
    (struct : SourceStruct) : Prop where
  name : structNameAt? rules rootName listed.1 = some struct.name
  startsEmpty : struct.startsEmpty = listed.1.isEmpty
  methods : List.Forall₂ (fun entry method => (entry.2.stage entry.1).ShownBy rules method
      ∧ Entry.MadeBy rules rootName separator print templates listed.1 entry method)
    listed.2.present struct.methods

/-- What a method that answers what its entry asks for shows is what it makes. -/
theorem Level.Entry.Answers.madeBy {path : List String} {listed : String × Level.Entry}
    {method : KeyTree.Method}
    (h : Level.Entry.Answers rules rootName templates path listed method.answer) :
    Level.Entry.MadeBy rules rootName separator print templates path listed
      (method.shown separator print) := by
  cases hanswer : method.answer with
  | key pieces =>
      rw [hanswer] at h
      cases h with
      | key hlisted hpath =>
          exact .key hlisted hpath (method.comment_shown_of_key separator print hanswer)
            (method.body_shown_of_key separator print hanswer)
  | level child =>
      rw [hanswer] at h
      cases h with
      | level hbelow hname =>
          exact .level hbelow hname (method.comment_shown_of_level separator print hanswer)
            (method.body_shown_of_level separator print hanswer)

/-- What is generated for a level shows the level. -/
theorem Level.Generates.shownBy {listed : List String × Level} {builder : BuilderStruct}
    (h : Level.Generates rules rootName templates listed builder) :
    Level.ShownBy rules rootName separator print templates listed
      (builder.shown separator print) where
  name := h.name
  startsEmpty := by rw [BuilderStruct.shown, h.struct.path]
  methods := by
    refine List.forall₂_map_right_iff.mpr ((forall₂_and h.struct.methods h.answers).imp ?_)
    rintro entry method ⟨hmethod, hanswer⟩
    exact ⟨hmethod.shownBy separator print, hanswer.madeBy separator print⟩

end

/-! ### Parity -/

/-- Generated builders make the keys that compiled trees make. Where generation
succeeds, a module is read from the text. It has the separator, a constructor of
the root struct, and one struct for each level of the schema, with one method
for each present entry. The method takes the slots of its entry and no others,
with the types of their kinds (`Level.ShownBy`). For every template there are
methods that follow its stages from the root struct, the last one under a comment
that says what the template is. Each called with values that fit its stage, they
make a key, and a walk down the compiled tree with the same values at the same
stages makes the same key. -/
theorem Schema.generated_keys_eq_compiled_keys {schema : Schema} {rootName separator text : String}
    {print : PrintRules}
    (haccepted : (schema.source .unicode rootName separator print).result = .ok text) :
    ∃ root module, LetterRules.unicode.pascalCase rootName = some root
      ∧ SourceModule.read? text = some module
      ∧ module.separator = separator
      ∧ module.new? root = some ⟨root, []⟩
      ∧ (module.structs.map SourceStruct.name).Nodup
      ∧ List.Forall₂ (Level.ShownBy .unicode rootName separator print schema.templates)
          schema.levels module.structs
      ∧ ∀ template ∈ schema.templates, ∃ stages methods,
          schema.level.Leads stages
          ∧ template.path = stages.map Stage.name ∧ template.slots = stages.flatMap Stage.slots
          ∧ List.Forall₂ (Stage.ShownBy .unicode) stages methods
          ∧ module.methodsAlong? root (methods.map SourceMethod.name) = some methods
          ∧ (∃ leaf ∈ methods.getLast?, leaf.comment
              = some ("/// `" ++ rustEscaped (template.render separator) print ++ "`"))
          ∧ ∀ choices, List.Forall₂ Stage.Fits stages choices → ∃ key,
              module.keyOfCalls ⟨root, []⟩
                  (List.zipWith SourceMethod.withValues methods choices) = some key
              ∧ (schema.compile separator).result.keyAlong
                  (List.zipWith Stage.step stages choices) = some key := by
  obtain ⟨builders, hbuilders, rfl⟩ := exists_builders_of_source haccepted
  have hread := SourceModule.read?_moduleLines separator print (worded_of_builders hbuilders)
  have hnodup := nodup_structNames hbuilders
  have hshown := (generates_of_builders hbuilders).imp fun _ _ hlevel =>
    hlevel.shownBy separator print
  obtain ⟨root, out, hroot, hbuilds, rfl⟩ := exists_builds hbuilders
  have hnew := find?_shown separator print hnodup (List.mem_cons_self)
  have hnames := map_name_shown separator print (⟨root, [], out.methods⟩ :: out.below)
  refine ⟨root, _, hroot, hread, rfl, ?_, hnames ▸ hnodup,
    List.forall₂_map_right_iff.mpr hshown, ?_⟩
  · -- The path to the root is empty, so it has the constructor.
    exact Option.bind_eq_some_iff.mpr ⟨_, hnew, rfl⟩
  intro template htemplate
  obtain ⟨stages, hleads, rfl⟩ :=
    (Level.mem_templates_iff_leads schema.ordered template).mp htemplate
  obtain ⟨methods, hmethods⟩ := exists_methodsFollow separator print hnodup schema.ordered hleads
    hbuilds List.mem_cons_self (List.subset_cons_self _ _)
  refine ⟨stages, methods, hleads, Template.path_ofStages stages, Template.slots_ofStages stages,
    hmethods.each, hmethods.found, ?_, ?_⟩
  · obtain ⟨leaf, hleaf, hkey⟩ := hmethods.leaf
    refine ⟨leaf, hleaf, ?_⟩
    rw [hkey, Template.render, Template.pieces_ofStages]
    rfl
  · intro choices hfits
    exact ⟨_, SourceModule.keyOfCalls_eq hmethods.each hfits hmethods.found [],
      keyAlong_compile schema.ordered hleads hfits separator []⟩

/-- A gate with one slot, and behind it a key with another. -/
def Schema.gatedComments : Schema :=
  Schema.empty.insert "posts" (some (.gate ⟨⟨"postId", .text⟩, []⟩
    (Schema.empty.insert "comments"
      (some (.key [.literal "comments", .slot ⟨"page", .number⟩])))))

/-- Builders of the gate and the key are generated. What is read from their text
makes the keys that the compiled tree makes. -/
theorem Schema.gatedComments_generated :
    ∃ text, (gatedComments.source .unicode "Keys" ":").result = .ok text
      ∧ ∃ root module, LetterRules.unicode.pascalCase "Keys" = some root
        ∧ SourceModule.read? text = some module
        ∧ ∀ template ∈ gatedComments.templates, ∃ stages methods,
            module.methodsAlong? root (methods.map SourceMethod.name) = some methods
            ∧ ∀ choices, List.Forall₂ Stage.Fits stages choices → ∃ key,
                module.keyOfCalls ⟨root, []⟩
                    (List.zipWith SourceMethod.withValues methods choices) = some key
                ∧ (gatedComments.compile ":").result.keyAlong
                    (List.zipWith Stage.step stages choices) = some key := by
  have hsome : (gatedComments.builders .unicode "Keys").toOption.isSome := by decide +kernel
  obtain ⟨text, haccepted⟩ := Schema.exists_source_of_isSome hsome ":" .unicode
  obtain ⟨root, module, hroot, hread, -, -, -, -, hkeys⟩ :=
    Schema.generated_keys_eq_compiled_keys haccepted
  refine ⟨text, haccepted, root, module, hroot, hread, fun template htemplate => ?_⟩
  obtain ⟨stages, methods, -, -, -, -, hfound, -, hparity⟩ := hkeys template htemplate
  exact ⟨stages, methods, hfound, hparity⟩

end KeyTree
