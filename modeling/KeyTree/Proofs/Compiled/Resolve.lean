import KeyTree.Compiled.Resolve
import KeyTree.Proofs.Compiled.Tree
import KeyTree.Proofs.Except

/-!
# `KeyTree.Proofs.Compiled.Resolve`: resolved keys are the listed templates

`Tree.resolve` walks a compiled tree, fills the slots of gates on the way
and compiles the level behind each gate again. `Schema.templates` lists
every key without arguments. `resolve_compile_eq_ok_iff` ties the two: a
path resolves to a key exactly when a template has the path and all its
slots have values, and the key is the template, filled and joined.

The invariant of the walk is that the tree in hand is a level compiled
below some texts; those texts are the stem of the template, filled
(`resolveFrom_compile_eq_ok_iff`).
-/

set_option autoImplicit false

namespace KeyTree

/-! ### Keys of templates -/

namespace Template

/-- The key that a template makes for some arguments below the texts
`stem`: all slots of the template have values, and its pieces are filled
with them. -/
def Makes (template : Template) (args : Arguments) (separator : String) (stem : List String)
    (key : String) : Prop :=
  (∀ slot ∈ template.slots, args.Fills slot)
    ∧ key = separator.intercalate (stem ++ template.pieces.map (Piece.filled args))

/-- What stands in front of a template has to be filled as well, and then
its pieces are texts of the stem. -/
theorem makes_under_iff (template : Template) (args : Arguments) (separator : String)
    (stem path : List String) (pieces : List Piece) (inherited : List Slot) (key : String) :
    (template.under path pieces inherited).Makes args separator stem key
      ↔ (∀ slot ∈ inherited, args.Fills slot)
          ∧ template.Makes args separator (stem ++ pieces.map (Piece.filled args)) key := by
  simp [Makes, slots, under, or_imp, forall_and, and_assoc]

/-- The same for a template that is looked for. -/
theorem exists_makes_under_iff (found : Option Template) (args : Arguments) (separator : String)
    (stem path : List String) (pieces : List Piece) (inherited : List Slot) (key : String) :
    (∃ template, found.map (Template.under path pieces inherited) = some template
        ∧ template.Makes args separator stem key)
      ↔ (∀ slot ∈ inherited, args.Fills slot)
          ∧ ∃ template, found = some template
              ∧ template.Makes args separator (stem ++ pieces.map (Piece.filled args)) key := by
  cases found with
  | none => simp
  | some inner => simp [makes_under_iff]

end Template

/-! ### The walk -/

/-- The stem behind an open gate is the stem in front of it, followed by
what fills the pieces of the gate. -/
theorem Opener.openedStem_eq (name separator : String) (stem : List String) (slots : Slots)
    (behind : Level) (args : Arguments) :
    openedStem ⟨name, stem, slots, behind, separator⟩ args
      = stem ++ (gatePieces name slots).map (Piece.filled args) := by
  simp [openedStem, path, gatePieces, Piece.filled]

namespace Tree

/-- The walk through a level that is compiled below the texts `stem`. It
ends in a key exactly when the path has a template that makes this key. -/
theorem resolveFrom_compile_eq_ok_iff (args : Arguments) (separator : String)
    {level : Level} (h : level.Ordered) (stem walked path : List String) (key : String) :
    (resolveFrom args walked (level.compile separator stem).result path).result = .ok key
      ↔ ∃ template, level.templateAt? path = some template
          ∧ template.Makes args separator stem key := by
  induction path generalizing level stem walked with
  | nil => simp [resolveFrom, Level.templateAt?]
  | cons name rest ih =>
      rw [resolveFrom, Level.find?_compile h]
      cases hfound : level.presentAt? name with
      | none => simp [Level.templateAt?, hfound]
      | some entry =>
          have hbelow : entry.Ordered := Level.ordered_of_presentAt? h hfound
          cases entry with
          | key pieces =>
              simp only [Option.map_some, Level.Entry.compiled, Level.templateAt?, hfound]
              cases rest with
              | nil =>
                  simp only [List.isEmpty_nil, if_true, Option.some.injEq, exists_eq_left',
                    Logged.result_pure]
                  rw [mapError_eq_ok_iff, KeyMaker.build_make_eq_ok_iff]
                  exact Iff.rfl
              | cons next others => simp
          | branch below =>
              -- Below a branch the stem is longer by the name, on both sides.
              simp only [Option.map_some, Level.Entry.compiled, Level.templateAt?, hfound,
                Template.exists_makes_under_iff]
              cases rest with
              | nil => simp [Level.templateAt?]
              | cons next others =>
                  simp [ih hbelow, Piece.filled]
          | gate slots behind =>
              simp only [Option.map_some, Level.Entry.compiled, Level.templateAt?, hfound,
                Template.exists_makes_under_iff]
              cases rest with
              | nil => simp [Level.templateAt?]
              | cons next others =>
                  simp only [List.isEmpty_cons, Bool.false_eq_true, if_false]
                  -- The gate opens just if its own slots have values; what is
                  -- compiled then lies below the pieces of the gate, filled.
                  rw [Opener.apply_eq]
                  cases hmissing : args.firstMissing? slots.toList with
                  | none =>
                      have hfills := Arguments.firstMissing?_eq_none_iff.mp hmissing
                      simp only [Opener.opened, Opener.openedStem_eq, Logged.result_bind,
                        ih hbelow, and_iff_right hfills]
                  | some slot =>
                      have hnot := Arguments.not_fills_of_firstMissing? hmissing
                      simp only [Logged.result_pure, reduceCtorEq, hnot, false_and]

end Tree

/-! ### Resolving a schema's paths -/

/-- A path resolves to a key exactly when a template of the schema has this
path and all its slots have values. The key is then the template's pieces
joined by the separator: literals as they are, and for each slot the
segment of its value. -/
theorem Schema.resolve_compile_eq_ok_iff (schema : Schema) (separator : String)
    (path : List String) (args : Arguments) (key : String) :
    ((schema.compile separator).result.resolve path args).result = .ok key
      ↔ ∃ template ∈ schema.templates, template.path = path
          ∧ (∀ slot ∈ template.slots, (args.value? slot.name).isSome)
          ∧ key = separator.intercalate (template.pieces.map (Piece.filled args)) := by
  unfold compile Tree.resolve
  rw [Tree.resolveFrom_compile_eq_ok_iff args separator schema.ordered]
  simp only [← Level.mem_templates_iff_templateAt? schema.ordered]
  constructor
  · rintro ⟨template, ⟨hmem, hpath⟩, hfills, hkey⟩
    exact ⟨template, hmem, hpath, hfills, hkey⟩
  · rintro ⟨template, hmem, hpath, hfills, hkey⟩
    exact ⟨template, ⟨hmem, hpath⟩, hfills, hkey⟩

end KeyTree
