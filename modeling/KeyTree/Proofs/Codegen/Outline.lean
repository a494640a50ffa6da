import KeyTree.Proofs.Codegen.Declarations

/-!
# `KeyTree.Proofs.Codegen.Outline`: the outline of generated source

What the lines of generated source declare is the outline of the module.
`Level.Declares` says what it should be for a level: a struct, its
implementation, and one method for each present entry, which returns `String`
for a key and the struct of the level below for any other entry. Names come
from the schema alone: those of structs from the path to their level.

`Schema.outline_of_source` says that generated source has such a block for each
level of the schema, in the order of the levels, and nothing else. What a run
generates for a level (`Level.Generates`) joins what is known of its struct,
of its name and of what its methods answer.
-/

set_option autoImplicit false

namespace KeyTree

/-! ### What is generated for a level -/

section

variable {rules : LetterRules} {rootName separator text : String} {print : PrintRules}
  {schema : Schema} {builders : List BuilderStruct}

/-- What is generated for a level: the methods of its stages, a struct named
after the path to the level, and methods that answer what its entries ask
for. -/
structure Level.Generates (rules : LetterRules) (rootName : String) (templates : List Template)
    (listed : List String × Level) (builder : BuilderStruct) : Prop where
  struct : Level.Struct rules listed builder
  name : structNameAt? rules rootName listed.1 = some builder.name
  answers : Level.Answers rules rootName templates listed builder

theorem Schema.generates_of_builders (h : schema.builders rules rootName = .ok builders) :
    List.Forall₂ (Level.Generates rules rootName schema.templates) schema.levels builders := by
  have hboth := forall₂_and (structs_of_builders h) (structNames_of_builders h)
  refine (forall₂_and hboth (answers_of_builders h)).imp ?_
  rintro listed builder ⟨⟨hstruct, hname⟩, hanswers⟩
  exact ⟨hstruct, hname, hanswers⟩

/-- The type that a method returns for an entry of the level at `path`. -/
def Level.Entry.answerType? (rules : LetterRules) (rootName : String) (path : List String)
    (listed : String × Entry) : Option String :=
  match listed.2.below? with
  | none => some "String"
  | some _ => structNameAt? rules rootName (path ++ [listed.1])

/-- A method for an entry returns what the entry asks for. -/
theorem Level.Entry.Answers.answerType? {templates : List Template} {path : List String}
    {listed : String × Level.Entry} {answer : MethodAnswer}
    (h : Level.Entry.Answers rules rootName templates path listed answer) :
    Level.Entry.answerType? rules rootName path listed = some answer.rustType := by
  cases h with
  | key hlisted hpath => rfl
  | level hbelow hname => rw [Level.Entry.answerType?, hbelow]; exact hname

/-- The names in the struct of a level are single words. -/
theorem Level.Generates.worded {templates : List Template} {listed : List String × Level}
    {builder : BuilderStruct} (h : Level.Generates .unicode rootName templates listed builder) :
    builder.Worded where
  name := unbroken_of_structNameAt? h.name
  methods := by
    intro method hmem
    obtain ⟨entry, -, hmethod, hanswer⟩ :=
      exists_mem_of_forall₂ (forall₂_and h.struct.methods h.answers).flip hmem
    refine hmethod.worded ?_
    have htype := hanswer.answerType?
    rw [Level.Entry.answerType?] at htype
    split at htype
    · rw [← Option.some.inj htype]
      decide
    · exact unbroken_of_structNameAt? htype

/-- The names in generated structs are single words. -/
theorem Schema.worded_of_builders (h : schema.builders .unicode rootName = .ok builders) :
    ∀ builder ∈ builders, builder.Worded := by
  intro builder hmem
  obtain ⟨listed, -, hlisted⟩ := exists_mem_of_forall₂ (generates_of_builders h).flip hmem
  exact hlisted.worded

/-- What the block of a level declares: its struct, the implementation of the
struct, the constructor if it is the root, and then one method for each present
entry, in order. -/
def Level.Declares (rules : LetterRules) (rootName : String) (listed : List String × Level)
    (declared : List Declaration) : Prop :=
  ∃ structName methods, structNameAt? rules rootName listed.1 = some structName
    ∧ declared = .struct structName :: .implementation structName
        :: (if listed.1.isEmpty then [.constructor "new"] else []) ++ methods
    ∧ List.Forall₂ (fun entry method => ∃ name answer,
          rules.snakeCase entry.1 = some name
          ∧ Entry.answerType? rules rootName listed.1 entry = some answer
          ∧ method = .method name answer)
        listed.2.present methods

theorem Level.Generates.declares {templates : List Template} {listed : List String × Level}
    {builder : BuilderStruct} (h : Level.Generates rules rootName templates listed builder) :
    Level.Declares rules rootName listed builder.outline := by
  refine ⟨builder.name, _, h.name, by rw [BuilderStruct.outline, h.struct.path], ?_⟩
  rw [List.forall₂_map_right_iff]
  refine (forall₂_and h.struct.methods h.answers).imp ?_
  rintro entry method ⟨hmethod, hanswer⟩
  have hname := hmethod.name
  rw [Level.Entry.name_stage] at hname
  exact ⟨method.name, method.answer.rustType, hname, hanswer.answerType?, rfl⟩

/-- The structs that are declared are those of the module. -/
theorem count_struct_outlines (builders : List BuilderStruct) (name : String) :
    (builders.flatMap BuilderStruct.outline).count (.struct name)
      = (builders.map BuilderStruct.name).count name := by
  induction builders with
  | nil => rfl
  | cons builder rest ih =>
      have hmethods : (builder.methods.map fun method =>
          Declaration.method method.name method.answer.rustType).count (.struct name) = 0 := by
        rw [List.count_eq_zero]
        intro hmem
        obtain ⟨method, -, hmethod⟩ := List.mem_map.mp hmem
        cases hmethod
      have hconstructor : (if builder.path.isEmpty then
          [Declaration.constructor "new"] else []).count (.struct name) = 0 := by
        cases builder.path.isEmpty <;> rfl
      rw [List.flatMap_cons, List.count_append, ih, BuilderStruct.outline, List.map_cons]
      simp only [List.count_cons, List.count_append, List.cons_append, hmethods, hconstructor,
        beq_iff_eq, Declaration.struct.injEq, reduceCtorEq, if_false]
      omega

/-! ### The whole text -/

/-- Generated source follows the levels of the schema. Behind the lines that
every module starts with it has one block for each level. Read line by line, a
block declares the struct of its level with one method for each present entry,
in order. The method of a key returns `String`, and that of any other entry the
struct of the level below. That level is listed too, and the struct of a listed
level is declared once in the whole text. The levels are that of the schema and
those below its entries. They are listed in the order of the names that lead to
them, so a level comes before those below it, and these before all that is
behind later entries. The report counts the levels. -/
theorem Schema.outline_of_source
    (haccepted : (schema.source .unicode rootName separator print).result = .ok text) :
    ∃ root blocks, LetterRules.unicode.pascalCase rootName = some root
      ∧ text.splitOn "\n" = headerLines separator print ++ blocks.flatten ++ [""]
      ∧ declarations text = blocks.flatMap (List.filterMap declared?)
      ∧ List.Forall₂ (fun listed block =>
          Level.Declares .unicode rootName listed (block.filterMap declared?))
        schema.levels blocks
      ∧ (∀ path level, (path, level) ∈ schema.levels
          ↔ (path = [] ∧ level = schema.level)
            ∨ ∃ placed, schema.level.Reaches placed ∧ placed.path = path
                ∧ placed.entry.below? = some level)
      ∧ schema.levels.Pairwise (fun listed next => listed.1.map utf8 < next.1.map utf8)
      ∧ (∀ listed ∈ schema.levels, ∀ entry ∈ listed.2.present, ∀ below,
          entry.2.below? = some below → (listed.1 ++ [entry.1], below) ∈ schema.levels)
      ∧ (∀ listed ∈ schema.levels, ∃ structName,
          structNameAt? .unicode rootName listed.1 = some structName
          ∧ (declarations text).count (.struct structName) = 1)
      ∧ ∀ mode, (schema.source .unicode rootName separator print).events mode
          = [.generatedBuilders root schema.levels.length] := by
  obtain ⟨builders, hbuilders, rfl⟩ := exists_builders_of_source haccepted
  have hgenerates := generates_of_builders hbuilders
  have hworded := worded_of_builders hbuilders
  have hlines := splitOn_moduleLines separator print hworded
  -- A block is the lines of a struct behind an empty one, which declares nothing.
  have hblock : ∀ builder : BuilderStruct, builder.Worded →
      ("" :: builder.lines separator print).filterMap declared? = builder.outline := by
    intro builder hword
    rw [List.filterMap_cons_none declared?_empty]
    exact BuilderStruct.declared_lines separator print hword
  have hdeclared : declarations (linesText (moduleLines separator builders print))
      = (builders.map fun builder => "" :: builder.lines separator print).flatMap
          (List.filterMap declared?) := by
    -- Neither does any line of the header, whatever the separator is.
    have hheader : (headerLines separator print).filterMap declared? = [] :=
      List.filterMap_eq_nil_iff.mpr fun line hmem => (headerLines_plain separator print line hmem).2
    rw [declarations, hlines, List.filterMap_append, List.filterMap_append, hheader,
      List.filterMap_flatten, List.filterMap_cons_none declared?_empty, List.filterMap_nil,
      List.append_nil, List.nil_append, List.flatMap_def]
  have houtlines : declarations (linesText (moduleLines separator builders print))
      = builders.flatMap BuilderStruct.outline := by
    rw [hdeclared, List.flatMap_map]
    exact List.flatMap_congr fun builder hmem => hblock builder (hworded builder hmem)
  obtain ⟨root, out, hroot, -, hbuilt⟩ := exists_builds hbuilders
  refine ⟨root, _, hroot, hlines, hdeclared, ?_, fun path level => mem_levels_iff, ?_,
    ?_, ?_, fun mode => ?_⟩
  · rw [List.forall₂_map_right_iff]
    refine hgenerates.imp fun listed builder hgenerated => ?_
    rw [hblock builder hgenerated.worded]
    exact hgenerated.declares
  · exact (pairwise_path_levels schema).imp fun {listed next} hlt =>
      (path_lt_iff_utf8_lt listed.1 next.1).mp hlt
  · rintro ⟨path, level⟩ hlisted ⟨name, entry⟩ hentry below hbelow
    exact below_mem_levels hlisted hentry hbelow
  · intro listed hlisted
    obtain ⟨builder, hbuilder, hgenerated⟩ := exists_mem_of_forall₂ hgenerates hlisted
    refine ⟨builder.name, hgenerated.name, ?_⟩
    -- The names of structs are all different, so one that is there is there once.
    rw [houtlines, count_struct_outlines, (nodup_structNames hbuilders).count,
      if_pos (List.mem_map_of_mem hbuilder)]
  · rw [source, hbuilders, hgenerates.length_eq, hbuilt]
    rfl

end

/-- A key, an entry that is absent, a gate with a key behind it, and a branch
with one below. -/
def Schema.blogKeys : Schema :=
  let named (name : String) : Schema := Schema.empty.insert name (some (.key [.literal name]))
  ((((named "about").insert "drafts" none).insert "posts"
    (some (.gate ⟨⟨"postId", .text⟩, []⟩ (named "comments")))).insert "users"
    (some (.branch (named "all"))))

/-- Its source has three blocks, one of them for the gate, also where the
separator has a line break and text that looks like code. -/
theorem Schema.blogKeys_outline :
    ∃ text, (blogKeys.source .unicode "keys" "\npub struct ").result = .ok text
      ∧ (declarations text).count (.struct "KeysPosts") = 1
      ∧ ∀ mode, (blogKeys.source .unicode "keys" "\npub struct ").events mode
          = [.generatedBuilders "Keys" 3] := by
  have hsome : (blogKeys.builders .unicode "keys").toOption.isSome := by decide +kernel
  obtain ⟨text, haccepted⟩ := Schema.exists_source_of_isSome hsome "\npub struct " .unicode
  obtain ⟨root, blocks, hroot, -, -, -, -, -, -, hstructs, hevents⟩ :=
    Schema.outline_of_source haccepted
  refine ⟨text, haccepted, ?_, fun mode => ?_⟩
  · have hposts : ∃ listed ∈ blogKeys.levels, listed.1 = ["posts"] := by decide +kernel
    obtain ⟨listed, hlisted, hpath⟩ := hposts
    obtain ⟨structName, hname, hcount⟩ := hstructs listed hlisted
    have hsame : structNameAt? .unicode "keys" ["posts"] = some "KeysPosts" := by decide +kernel
    rw [hpath, hsame] at hname
    rw [Option.some.inj hname, hcount]
  · have hkeys : LetterRules.unicode.pascalCase "keys" = some "Keys" := by decide +kernel
    rw [hevents, ← Option.some.inj (hkeys.symm.trans hroot)]
    rfl

end KeyTree
