import KeyTree.Proofs.Codegen.Accepted
import KeyTree.Proofs.Text.ByteOrder

/-!
# `KeyTree.Proofs.Codegen.Levels`: the levels that structs are generated for

`Schema.levels` lists the levels of a schema with the names that lead to them.
A level is listed for the root, and for each placed entry that has a level
below it (`Schema.mem_levels_iff`). The names that lead to the levels strictly
increase (`Schema.pairwise_path_levels`): no level is listed twice, each comes
before those below it, and these come before the levels behind later entries.

The methods of a struct answer what its level holds. `Level.Entry.Answers`
says what that is without a run of the generator: the pieces of the key's
template, or the struct whose name the path of the entry makes.
`Schema.answers_of_builders` is the induction over the run.
-/

set_option autoImplicit false

namespace KeyTree

namespace Level

/-! ### The levels below a level -/

/-- The level below a placed entry, with the names that lead to it. -/
def Placed.level? (placed : Placed) : Option (List String × Level) :=
  placed.entry.below?.map (placed.path, ·)

theorem Placed.level?_eq_some_iff {placed : Placed} {path : List String} {level : Level} :
    placed.level? = some (path, level) ↔ placed.path = path ∧ placed.entry.below? = some level := by
  rw [level?, Option.map_eq_some_iff]
  constructor
  · rintro ⟨below, hbelow, heq⟩
    cases heq
    exact ⟨rfl, hbelow⟩
  · rintro ⟨rfl, hbelow⟩
    exact ⟨level, hbelow, rfl⟩

/-- The levels below a level are those of its placed entries, in their order. -/
theorem inner_eq_filterMap (level : Level) (path : List String) (inherited : List Slot) :
    level.inner path = (level.placedFrom path inherited).filterMap Placed.level? := by
  induction level generalizing path inherited with
  | nil => rfl
  | absent name rest ih => exact ih path inherited
  | key name pieces rest ih => exact ih path inherited
  | branch name below rest ihb ihr =>
      rw [inner, placedFrom, List.filterMap_append, List.filterMap_cons, ← ihb, ← ihr]
      rfl
  | gate name slots behind rest ihb ihr =>
      rw [inner, placedFrom, List.filterMap_append, List.filterMap_cons, ← ihb, ← ihr]
      rfl

/-- What a level leads to, it also leads through to what is placed below. -/
theorem Reaches.to_below {level inner : Level} {placed : Placed} (h : level.Reaches placed)
    (hbelow : placed.entry.below? = some inner) {name : String} {entry : Entry}
    (hentry : (name, entry) ∈ inner.present) :
    level.Reaches ⟨placed.path ++ [name], placed.inherited ++ placed.entry.slots, entry⟩ := by
  induction h with
  | here hfirst =>
      have hreach := Reaches.deeper hfirst hbelow (.here hentry)
      simpa [Placed.under] using hreach
  | deeper hfirst hnext hreach ih =>
      have hdeeper := Reaches.deeper hfirst hnext (ih hbelow)
      simpa [Placed.under] using hdeeper

end Level

/-! ### The levels of a schema -/

namespace Schema

variable {schema : Schema}

/-- A schema's levels are its own and those below the entries that it leads
to. -/
theorem mem_levels_iff {path : List String} {level : Level} :
    (path, level) ∈ schema.levels
      ↔ (path = [] ∧ level = schema.level)
        ∨ ∃ placed, schema.level.Reaches placed ∧ placed.path = path
            ∧ placed.entry.below? = some level := by
  rw [levels, List.mem_cons, Prod.mk.injEq, Level.inner_eq_filterMap _ _ [], List.mem_filterMap]
  simp only [Level.mem_placedFrom_iff, Level.Placed.under_nil, exists_eq_right',
    Level.Placed.level?_eq_some_iff]

/-- The level below an entry of a level is a level of the schema. -/
theorem below_mem_levels {path : List String} {level below : Level} {name : String}
    {entry : Level.Entry} (h : (path, level) ∈ schema.levels)
    (hentry : (name, entry) ∈ level.present) (hbelow : entry.below? = some below) :
    (path ++ [name], below) ∈ schema.levels := by
  rw [mem_levels_iff] at h ⊢
  rcases h with ⟨rfl, rfl⟩ | ⟨placed, hreach, rfl, hlevel⟩
  · exact .inr ⟨_, .here hentry, rfl, hbelow⟩
  · exact .inr ⟨_, hreach.to_below hlevel hentry, rfl, hbelow⟩

/-- The names that lead to the levels strictly increase. -/
theorem pairwise_path_levels (schema : Schema) :
    schema.levels.Pairwise fun listed next => listed.1 < next.1 := by
  rw [levels, Level.inner_eq_filterMap _ _ [], List.pairwise_cons, List.pairwise_filterMap]
  constructor
  · rintro ⟨path, level⟩ hlisted
    obtain ⟨placed, hplaced, hlevel⟩ := List.mem_filterMap.mp hlisted
    obtain ⟨rfl, -⟩ := Level.Placed.level?_eq_some_iff.mp hlevel
    obtain ⟨found, hfound, rfl⟩ := (Level.mem_placedFrom_iff _ _ _ _).mp hplaced
    obtain ⟨name, -, more, hpath⟩ := hfound.exists_path
    rw [Level.Placed.under_nil, hpath]
    exact List.nil_lt_cons name more
  · refine (Level.pairwise_path_placedFrom schema.ordered [] []).imp ?_
    rintro placed next hlt ⟨path, level⟩ hplaced ⟨path', level'⟩ hnext
    obtain ⟨rfl, -⟩ := Level.Placed.level?_eq_some_iff.mp hplaced
    obtain ⟨rfl, -⟩ := Level.Placed.level?_eq_some_iff.mp hnext
    exact hlt

end Schema

/-! ### What methods answer -/

namespace Level

/-- What a method answers for an entry of the level at `path`. For a key these
are the pieces of a template that the path of the key leads to, and for any
other entry the struct of the level below. -/
inductive Entry.Answers (rules : LetterRules) (rootName : String) (templates : List Template)
    (path : List String) : String × Entry → MethodAnswer → Prop
  | key {name : String} {pieces : List Piece} {template : Template}
      (hlisted : template ∈ templates) (hpath : template.path = path ++ [name]) :
      Answers rules rootName templates path (name, .key pieces) (.key template.pieces)
  | level {name child : String} {entry : Entry} {below : Level}
      (hbelow : entry.below? = some below)
      (hname : structNameAt? rules rootName (path ++ [name]) = some child) :
      Answers rules rootName templates path (name, entry) (.level child)

/-- The templates of a level, seen from further up, are among those given. -/
def ListedIn (templates : List Template) (path : List String) (stem : List Piece)
    (level : Level) : Prop :=
  ∃ inherited, ∀ template ∈ level.templates, template.under path stem inherited ∈ templates

section

variable {templates : List Template} {path : List String} {stem : List Piece} {name : String}
  {entry : Entry} {below rest : Level}

/-- The templates of the entries behind the first one are those of the level. -/
theorem ListedIn.behind_first (first : Option Entry)
    (h : (cons name first rest).ListedIn templates path stem) :
    rest.ListedIn templates path stem := by
  obtain ⟨inherited, h⟩ := h
  refine ⟨inherited, fun template hmem => h template ?_⟩
  obtain ⟨other, found, hfound, htemplate⟩ := mem_templates_iff.mp hmem
  refine mem_templates_iff.mpr ⟨other, found, ?_, htemplate⟩
  cases first with
  | none => exact hfound
  | some entry =>
      rw [present_cons]
      exact List.mem_cons_of_mem _ hfound

/-- The templates of the level below an entry go on behind the entry's stage. -/
theorem ListedIn.deeper (h : (cons name (some entry) rest).ListedIn templates path stem)
    (hbelow : entry.below? = some below) :
    below.ListedIn templates (path ++ [name]) (stem ++ (entry.stage name).pieces) := by
  obtain ⟨inherited, h⟩ := h
  refine ⟨inherited ++ (entry.stage name).slots, fun template hmem => ?_⟩
  rw [← Template.under_under]
  refine h _ (mem_templates_iff.mpr ⟨name, entry, mem_present_cons, ?_⟩)
  rw [Entry.templates_of_below? hbelow]
  exact List.mem_map_of_mem hmem

/-- A key in front has its template. -/
theorem ListedIn.exists_template {pieces : List Piece}
    (h : (cons name (some (.key pieces)) rest).ListedIn templates path stem) :
    ∃ template ∈ templates, template.path = path ++ [name] ∧ template.pieces = stem ++ pieces := by
  obtain ⟨inherited, h⟩ := h
  refine ⟨_, h ⟨[name], [], slotsOf pieces, pieces⟩ ?_, rfl, rfl⟩
  exact mem_templates_iff.mpr ⟨name, .key pieces, mem_present_cons, List.mem_singleton_self _⟩

end

section

variable {rules : LetterRules} {rootName : String} {templates : List Template}

/-- The methods of a struct answer what the entries of its level ask for. -/
def Answers (rules : LetterRules) (rootName : String) (templates : List Template)
    (listed : List String × Level) (builder : BuilderStruct) : Prop :=
  List.Forall₂ (fun entry method =>
      Entry.Answers rules rootName templates listed.1 entry (KeyTree.Method.answer method))
    listed.2.present builder.methods

/-- A run makes structs whose methods answer what their levels ask for. -/
theorem Builds.answers {level : Level} {place : LevelPlace} {members taken : List String}
    {out : LevelBuilders} (h : Builds rules place members taken level out)
    (hplace : structNameAt? rules rootName place.path = some place.structName)
    (hlisted : level.ListedIn templates place.path place.stem) :
    Answers rules rootName templates (place.path, level)
        ⟨place.structName, place.path, out.methods⟩
      ∧ List.Forall₂ (Answers rules rootName templates) (level.inner place.path) out.below := by
  induction h with
  | nil => exact ⟨.nil, .nil⟩
  | absent hrest ih => exact ih hplace (.behind_first none hlisted)
  | key hmethod hfree hanswer hrest ih =>
      obtain ⟨hothers, hbelow⟩ := ih hplace (.behind_first (some (.key _)) hlisted)
      obtain ⟨template, htemplate, hpath, hpieces⟩ := ListedIn.exists_template hlisted
      refine ⟨.cons ?_ hothers, hbelow⟩
      rw [hanswer, ← hpieces]
      exact .key htemplate hpath
  | deeper hbelow hmethod hfree hanswer hchild hnew hinner hrest ihi ihr =>
      have hname := (structNameAt?_append hplace _).trans hchild
      rw [LevelPlace.below, Entry.name_stage] at ihi
      obtain ⟨hfirst, hinners⟩ := ihi hname (hlisted.deeper hbelow)
      obtain ⟨hothers, hdeeper⟩ := ihr hplace (.behind_first (some _) hlisted)
      rw [inner_cons hbelow, Answers, present_cons]
      refine ⟨.cons ?_ hothers, List.rel_append (.cons hfirst hinners) hdeeper⟩
      rw [hanswer]
      exact .level hbelow hname

end

end Level

/-- The methods of each generated struct answer what the entries of its level
ask for. -/
theorem Schema.answers_of_builders {rules : LetterRules} {schema : Schema} {rootName : String}
    {builders : List BuilderStruct} (h : schema.builders rules rootName = .ok builders) :
    List.Forall₂ (Level.Answers rules rootName schema.templates) schema.levels builders := by
  obtain ⟨root, out, hroot, hbuilds, rfl⟩ := exists_builds h
  have hplace : structNameAt? rules rootName [] = some root := structNameAt?_nil.trans hroot
  have hlisted : schema.level.ListedIn schema.templates [] [] :=
    ⟨[], fun template hmem => hmem⟩
  obtain ⟨hmethods, hbelow⟩ := hbuilds.answers hplace hlisted
  exact .cons hmethods hbelow

end KeyTree
