import KeyTree.Codegen.Source
import KeyTree.Compiled.Resolve
import KeyTree.Layout.Basic
import KeyTree.Proofs.Schema.Templates
import KeyTree.Schema.Lint

/-!
# `KeyTree.Proofs.Schema.Absent`: absent entries make no difference

An absent entry keeps its name and stands for nothing. `Level.dropAbsent`
takes all of them away, at every depth, and `Schema.dropAbsent_inert` says that
nothing shows it but the warnings about absent entries: listing, layout,
lint, generation and the way from a path to a key all give what they gave.

Listing, lint and generation walk the level itself, so each is one induction.
A compiled tree keeps the levels behind its gates as they are, to compile them
again. So the tree of the smaller schema is not the same tree, but the tree
with the absent entries dropped behind all gates (`Tree.dropAbsent`), and
`resolveFrom_dropAbsent` walks both at once.
-/

set_option autoImplicit false

namespace KeyTree

/-! ### Levels without absent entries -/

namespace Level

/-- The level without its absent entries, and without those of all levels
below. -/
def dropAbsent : Level → Level
  | .nil => .nil
  | .absent _ rest => rest.dropAbsent
  | .key name pieces rest => .key name pieces rest.dropAbsent
  | .branch name below rest => .branch name below.dropAbsent rest.dropAbsent
  | .gate name slots behind rest => .gate name slots behind.dropAbsent rest.dropAbsent

/-- The entry, without the absent entries of the levels below it. -/
def Entry.dropAbsent : Entry → Entry
  | .key pieces => .key pieces
  | .branch below => .branch below.dropAbsent
  | .gate slots behind => .gate slots behind.dropAbsent

/-- What is left are the present entries, and all of them. -/
theorem entries_dropAbsent (level : Level) :
    level.dropAbsent.entries
      = level.present.map fun listed => (listed.1, some listed.2.dropAbsent) := by
  induction level with
  | nil => rfl
  | absent name rest ih => exact ih
  | key name pieces rest ih => exact congrArg (_ :: ·) ih
  | branch name below rest _ ih => exact congrArg (_ :: ·) ih
  | gate name slots behind rest _ ih => exact congrArg (_ :: ·) ih

theorem names_dropAbsent (level : Level) :
    level.dropAbsent.names = level.present.map Prod.fst := by
  rw [names, entries_dropAbsent, List.map_map]
  rfl

/-- Names are only taken away. -/
theorem mem_names_of_dropAbsent {level : Level} {name : String}
    (h : name ∈ level.dropAbsent.names) : name ∈ level.names := by
  rw [names_dropAbsent] at h
  exact level.sublist_names_present.subset h

theorem ordered_dropAbsent {level : Level} (h : level.Ordered) : level.dropAbsent.Ordered := by
  induction level with
  | nil => trivial
  | absent name rest ih => exact ih h.2
  | key name pieces rest ih =>
      exact ⟨fun other hother => h.1 other (mem_names_of_dropAbsent hother), ih h.2⟩
  | branch name below rest ihb ihr =>
      exact ⟨fun other hother => h.1 other (mem_names_of_dropAbsent hother), ihb h.2.1,
        ihr h.2.2⟩
  | gate name slots behind rest ihb ihr =>
      exact ⟨fun other hother => h.1 other (mem_names_of_dropAbsent hother), ihb h.2.1,
        ihr h.2.2⟩

/-! ### Listing, lint and generation -/

theorem templatesFrom_dropAbsent (level : Level) (path : List String) (stem : List Piece)
    (inherited : List Slot) :
    level.dropAbsent.templatesFrom path stem inherited
      = level.templatesFrom path stem inherited := by
  induction level generalizing path stem inherited with
  | nil => rfl
  | absent name rest ih => exact ih path stem inherited
  | key name pieces rest ih => simp only [dropAbsent, templatesFrom, ih]
  | branch name below rest ihb ihr => simp only [dropAbsent, templatesFrom, ihb, ihr]
  | gate name slots behind rest ihb ihr => simp only [dropAbsent, templatesFrom, ihb, ihr]

theorem lintFrom_dropAbsent (level : Level) (path scope : List String) :
    level.dropAbsent.lintFrom path scope = level.lintFrom path scope := by
  induction level generalizing path scope with
  | nil => rfl
  | absent name rest ih => exact ih path scope
  | key name pieces rest ih => simp only [dropAbsent, lintFrom, ih]
  | branch name below rest ihb ihr => simp only [dropAbsent, lintFrom, ihb, ihr]
  | gate name slots behind rest ihb ihr => simp only [dropAbsent, lintFrom, ihb, ihr]

theorem buildersFrom_dropAbsent (rules : LetterRules) (level : Level) (place : LevelPlace)
    (members taken : List String) :
    level.dropAbsent.buildersFrom rules place members taken
      = level.buildersFrom rules place members taken := by
  induction level generalizing place members taken with
  | nil => rfl
  | absent name rest ih => exact ih place members taken
  | key name pieces rest ih => simp only [dropAbsent, buildersFrom, ih]
  | branch name below rest ihb ihr => simp only [dropAbsent, buildersFrom, ihb, ihr]
  | gate name slots behind rest ihb ihr => simp only [dropAbsent, buildersFrom, ihb, ihr]

end Level

/-! ### Runs without warnings about absent entries -/

/-- The event is a warning about an absent entry. -/
def Event.aboutAbsent : Event → Bool
  | .skippedAbsent _ _ => true
  | _ => false

namespace Logged

/-- The result, and the events but for the warnings about absent entries. -/
def quiet {α : Type} (x : Logged α) : Logged α :=
  ⟨fun mode => (x.events mode).filter (! ·.aboutAbsent), x.result⟩

@[simp] theorem quiet_pure {α : Type} (a : α) : (pure a : Logged α).quiet = pure a := rfl

@[simp] theorem quiet_bind {α β : Type} (x : Logged α) (f : α → Logged β) :
    (x >>= f).quiet = x.quiet >>= fun a => (f a).quiet := by
  simp [quiet, bind]

@[simp] theorem quiet_noteInDevelopment_absent (name stem : String) :
    (noteInDevelopment (.skippedAbsent name stem)).quiet = pure () := by
  ext mode
  cases mode <;> rfl

@[simp] theorem quiet_note_gate (name stem : String) :
    (note (.compilingGate name stem)).quiet = note (.compilingGate name stem) := rfl

end Logged

/-! ### Compiled trees -/

/-- The opener, with the level behind the gate without absent entries. -/
def Opener.dropAbsent (opener : Opener) : Opener :=
  { opener with behind := opener.behind.dropAbsent }

namespace Tree

/-- The tree, with the levels behind all gates without absent entries. -/
def dropAbsent : Tree → Tree
  | .nil => .nil
  | .key name maker rest => .key name maker rest.dropAbsent
  | .branch name below rest => .branch name below.dropAbsent rest.dropAbsent
  | .gate name opener rest => .gate name opener.dropAbsent rest.dropAbsent

/-- The compiled entry, with the levels behind all gates without absent
entries. -/
def Entry.dropAbsent : Entry → Entry
  | .key maker => .key maker
  | .branch below => .branch below.dropAbsent
  | .gate opener => .gate opener.dropAbsent

theorem entries_dropAbsent (tree : Tree) :
    tree.dropAbsent.entries = tree.entries.map fun listed => (listed.1, listed.2.dropAbsent) := by
  induction tree with
  | nil => rfl
  | key name maker rest ih => exact congrArg (_ :: ·) ih
  | branch name below rest _ ih => exact congrArg (_ :: ·) ih
  | gate name opener rest ih => exact congrArg (_ :: ·) ih

theorem find?_dropAbsent (tree : Tree) (name : String) :
    tree.dropAbsent.find? name = (tree.find? name).map Entry.dropAbsent := by
  rw [find?, find?, entries_dropAbsent, lookup_map_entries fun _ => Entry.dropAbsent]

end Tree

/-- Absent entries make warnings when a level is compiled, and nothing else. -/
theorem Level.compile_dropAbsent (separator : String) (stem : List String) (level : Level) :
    level.dropAbsent.compile separator stem
      = Tree.dropAbsent <$> (level.compile separator stem).quiet := by
  induction level generalizing stem with
  | nil => rfl
  | absent name rest ih =>
      rw [dropAbsent, ih]
      simp [compile]
  | key name pieces rest ih =>
      simp only [dropAbsent, compile, ih, Logged.quiet_bind, Logged.quiet_pure, map_bind,
        bind_map_left, map_pure]
      rfl
  | branch name below rest ihb ihr =>
      simp only [dropAbsent, compile, ihb, ihr, Logged.quiet_bind, Logged.quiet_pure, map_bind,
        bind_map_left, map_pure]
      rfl
  | gate name slots behind rest _ ih =>
      simp only [dropAbsent, compile, ih, Logged.quiet_bind, Logged.quiet_pure, map_bind,
        bind_map_left, map_pure]
      rfl

/-- A gate opens for the same arguments, and fails for the same slot. -/
theorem Opener.apply_dropAbsent (opener : Opener) (args : Arguments) :
    opener.dropAbsent.apply args
      = (opener.apply args).map fun opened => Tree.dropAbsent <$> opened.quiet := by
  have hslots : opener.dropAbsent.slots = opener.slots := rfl
  rw [apply, apply, hslots]
  cases fillSlots args opener.slots.toList with
  | error slot => rfl
  | ok segments =>
      show Except.ok _ = Except.ok _
      simp only [Logged.quiet_bind, Logged.quiet_note_gate, map_bind,
        ← Level.compile_dropAbsent]
      rfl

/-- A path leads to the same key, or fails alike, and gates report that they
are opened; only the warnings of the levels behind them are missing. -/
theorem Tree.resolveFrom_dropAbsent (args : Arguments) (walked path : List String) (tree : Tree) :
    resolveFrom args walked tree.dropAbsent path
      = (resolveFrom args walked tree path).quiet := by
  induction path generalizing walked tree with
  | nil => rfl
  | cons name rest ih =>
      rw [resolveFrom, resolveFrom, find?_dropAbsent]
      cases tree.find? name with
      | none => rfl
      | some entry =>
          cases entry with
          | key maker =>
              simp only [Option.map_some, Entry.dropAbsent]
              split <;> rfl
          | branch below =>
              simp only [Option.map_some, Entry.dropAbsent, ih]
              split <;> rfl
          | gate opener =>
              simp only [Option.map_some, Entry.dropAbsent, Opener.apply_dropAbsent]
              split
              · rfl
              · cases opener.apply args with
                | error missing => rfl
                | ok opened =>
                    simp only [Except.map, bind_map_left, ih, Logged.quiet_bind]

/-! ### Schemas -/

namespace Schema

/-- The schema without absent entries, at every depth. -/
def dropAbsent (schema : Schema) : Schema :=
  ⟨schema.level.dropAbsent, Level.ordered_dropAbsent schema.ordered⟩

theorem templates_dropAbsent (schema : Schema) : schema.dropAbsent.templates = schema.templates :=
  schema.level.templatesFrom_dropAbsent [] [] []

/-- The path of names, from compiling the schema to the key. -/
def keyAt (schema : Schema) (separator : String) (path : List String) (args : Arguments) :
    Logged (Except ResolveError String) := do
  (← schema.compile separator).resolve path args

theorem keyAt_dropAbsent (schema : Schema) (separator : String) (path : List String)
    (args : Arguments) :
    schema.dropAbsent.keyAt separator path args = (schema.keyAt separator path args).quiet := by
  rw [keyAt, keyAt, Logged.quiet_bind]
  show (schema.level.dropAbsent.compile separator []) >>= _ = _
  rw [Level.compile_dropAbsent, bind_map_left]
  exact congrArg _ (funext fun tree => Tree.resolveFrom_dropAbsent args [] path tree)

/-- Absent entries make no difference. With all of them dropped, at every
depth, a schema has the same templates, the same layout with the same
fingerprint and the same findings. The same source is generated, or generation
fails alike. Every path leads to the same key or fails alike, for all
arguments; what a build reports on the way differs only in the warnings about
absent entries, which are then missing. -/
theorem dropAbsent_inert (schema : Schema) :
    schema.dropAbsent.templates = schema.templates
      ∧ (∀ separator, Layout.ofSchema schema.dropAbsent separator
          = Layout.ofSchema schema separator)
      ∧ schema.dropAbsent.lint = schema.lint
      ∧ (∀ rules rootName separator print, schema.dropAbsent.source rules rootName separator print
          = schema.source rules rootName separator print)
      ∧ ∀ separator path args,
          (schema.dropAbsent.keyAt separator path args).result
              = (schema.keyAt separator path args).result
            ∧ ∀ mode, (schema.dropAbsent.keyAt separator path args).events mode
              = ((schema.keyAt separator path args).events mode).filter (! ·.aboutAbsent) := by
  refine ⟨schema.templates_dropAbsent, fun separator => ?_, ?_,
    fun rules rootName separator print => ?_, fun separator path args => ?_⟩
  · rw [Layout.ofSchema, Layout.ofSchema, templates_dropAbsent]
  · exact schema.level.lintFrom_dropAbsent [] []
  · have hbuilders :
        schema.dropAbsent.builders rules rootName = schema.builders rules rootName := by
      rw [builders, builders]
      exact congrArg _ (funext fun root => by rw [dropAbsent, Level.buildersFrom_dropAbsent])
    rw [source, source, hbuilders]
  · rw [keyAt_dropAbsent]
    exact ⟨rfl, fun mode => rfl⟩

end Schema

end KeyTree
