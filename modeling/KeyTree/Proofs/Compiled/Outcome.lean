import KeyTree.Proofs.Compiled.Resolve

/-!
# `KeyTree.Proofs.Compiled.Outcome`: what becomes of a template's path

Resolving the path of a template never fails for the path's sake. Either all
slots of the template have values, and its key is made, or some have none,
and the first of these is named (`Template.ResolvesTo`). First means first in
the order of the template: gates from the outermost in, then the key itself.

`Tree.resolvesTo_of_templateAt?` is the walk, with the invariant that the tree
in hand is compiled below the pieces so far, filled.
-/

set_option autoImplicit false

namespace KeyTree

/-! ### The first missing slot -/

namespace Arguments

/-- What is missing among some slots and further ones. -/
theorem firstMissing?_append (args : Arguments) (slots others : List Slot) :
    args.firstMissing? (slots ++ others)
      = (args.firstMissing? slots).or (args.firstMissing? others) := by
  rw [firstMissing?, List.find?_append]
  rfl

/-- The name of the first missing slot depends on the names of the slots only. -/
theorem firstMissing?_map_name (args : Arguments) (slots : List Slot) :
    (args.firstMissing? slots).map Slot.name
      = (slots.map Slot.name).find? fun name => (args.value? name).isNone := by
  rw [List.find?_map]
  rfl

end Arguments

/-! ### Outcomes -/

namespace Template

/-- What becomes of a template's path below the texts `stem`: the template's
key, or an error that names the first of its slots without a value. -/
def ResolvesTo (template : Template) (args : Arguments) (separator : String) (stem : List String) :
    Except ResolveError String → Prop
  | .ok key => template.Makes args separator stem key
  | .error (.missing argument) =>
    (args.firstMissing? template.slots).map Slot.name = some argument.slot
  | .error _ => False

/-- The outcomes there are: a key, and then no slot is missing, or the first
slot that is. -/
theorem ResolvesTo.cases {template : Template} {args : Arguments} {separator : String}
    {stem : List String} {outcome : Except ResolveError String}
    (h : template.ResolvesTo args separator stem outcome) :
    (args.firstMissing? template.slots = none ∧ outcome
        = .ok (separator.intercalate (stem ++ template.pieces.map (Piece.filled args))))
      ∨ ∃ slot place, args.firstMissing? template.slots = some slot
          ∧ outcome = .error (.missing ⟨slot.name, place⟩) := by
  cases outcome with
  | ok key =>
      obtain ⟨hfills, hkey⟩ := h
      exact .inl ⟨Arguments.firstMissing?_eq_none_iff.mpr hfills, congrArg _ hkey⟩
  | error error =>
      cases error with
      | missing argument =>
          obtain ⟨slot, hslot, hname⟩ := Option.map_eq_some_iff.mp h
          exact .inr ⟨slot, argument.path, hslot, by rw [hname]⟩
      | emptyPath => exact h.elim
      | unknownEntry place => exact h.elim
      | notAKey place => exact h.elim
      | notATree place => exact h.elim

/-- What stands in front of a template, once its slots are filled, is part of
the stem. -/
theorem resolvesTo_under {template : Template} {args : Arguments} {separator : String}
    {stem path : List String} {pieces : List Piece} {inherited : List Slot}
    {outcome : Except ResolveError String} (hfills : args.firstMissing? inherited = none)
    (h : template.ResolvesTo args separator (stem ++ pieces.map (Piece.filled args)) outcome) :
    (template.under path pieces inherited).ResolvesTo args separator stem outcome := by
  have hslots : (template.under path pieces inherited).slots = inherited ++ template.slots := by
    simp [slots, under]
  cases outcome with
  | ok key =>
      have hinherited := Arguments.firstMissing?_eq_none_iff.mp hfills
      exact (makes_under_iff template args separator stem path pieces inherited key).mpr
        ⟨hinherited, h⟩
  | error error =>
      cases error with
      | missing argument =>
          rw [ResolvesTo, hslots, Arguments.firstMissing?_append, hfills, Option.none_or]
          exact h
      | emptyPath => exact h
      | unknownEntry place => exact h
      | notAKey place => exact h
      | notATree place => exact h

/-- A slot that is missing in front of a template is missing first. -/
theorem resolvesTo_under_of_missing {args : Arguments} {inherited : List Slot} {slot : Slot}
    (hmissing : args.firstMissing? inherited = some slot) (template : Template)
    (separator : String) (stem path : List String) (pieces : List Piece) (place : String) :
    (template.under path pieces inherited).ResolvesTo args separator stem
      (.error (.missing ⟨slot.name, place⟩)) := by
  have hslots : (template.under path pieces inherited).slots = inherited ++ template.slots := by
    simp [slots, under]
  rw [ResolvesTo, hslots, Arguments.firstMissing?_append, hmissing]
  rfl

end Template

namespace Tree

/-- The walk along the path of a template, through a level that is compiled
below the texts `stem`. -/
theorem resolvesTo_of_templateAt? (args : Arguments) (separator : String) {level : Level}
    (h : level.Ordered) (stem walked : List String) {path : List String} {template : Template}
    (hfound : level.templateAt? path = some template) :
    template.ResolvesTo args separator stem
      (resolveFrom args walked (level.compile separator stem).result path).result := by
  induction path generalizing level stem walked template with
  | nil => cases hfound
  | cons name rest ih =>
      rw [resolveFrom, Level.find?_compile h]
      rw [Level.templateAt?] at hfound
      cases hentry : level.presentAt? name with
      | none => simp [hentry] at hfound
      | some entry =>
          have hbelow : entry.Ordered := Level.ordered_of_presentAt? h hentry
          cases entry with
          | key pieces =>
              simp only [hentry, Option.ite_none_right_eq_some, Option.some.injEq] at hfound
              obtain ⟨hrest, rfl⟩ := hfound
              simp only [Option.map_some, Level.Entry.compiled, hrest, if_true,
                Logged.result_pure]
              rw [KeyMaker.build_make]
              -- The gates on the way are open, so only the key's own slots can be missing.
              cases hmissing : args.firstMissing? (slotsOf pieces) with
              | none => exact ⟨Arguments.firstMissing?_eq_none_iff.mp hmissing, rfl⟩
              | some slot => exact congrArg _ hmissing
          | branch below =>
              simp only [hentry, Option.map_eq_some_iff] at hfound
              obtain ⟨inner, hinner, rfl⟩ := hfound
              cases rest with
              | nil => cases hinner
              | cons next others =>
                  have hstep := ih hbelow (stem ++ [name]) (walked ++ [name]) hinner
                  exact Template.resolvesTo_under rfl hstep
          | gate slots behind =>
              simp only [hentry, Option.map_eq_some_iff] at hfound
              obtain ⟨inner, hinner, rfl⟩ := hfound
              cases rest with
              | nil => cases hinner
              | cons next others =>
                  simp only [Option.map_some, Level.Entry.compiled, List.isEmpty_cons,
                    Bool.false_eq_true, if_false]
                  rw [Opener.apply_eq]
                  -- A gate that stays closed ends the walk, wherever the path goes on.
                  cases hmissing : args.firstMissing? slots.toList with
                  | some slot =>
                      exact Template.resolvesTo_under_of_missing hmissing inner separator stem _ _ _
                  | none =>
                      have hstep := ih hbelow
                        (stem ++ (gatePieces name slots).map (Piece.filled args))
                        (walked ++ [name]) hinner
                      simp only [Opener.opened, Opener.openedStem_eq, Logged.result_bind]
                      exact Template.resolvesTo_under hmissing hstep

end Tree

/-- The path of a listed template resolves to the template's key, or fails for
the first of its slots without a value. -/
theorem Schema.resolvesTo_of_mem_templates {schema : Schema} {template : Template}
    (h : template ∈ schema.templates) (separator : String) (args : Arguments) :
    template.ResolvesTo args separator []
      ((schema.compile separator).result.resolve template.path args).result := by
  have hfound : schema.level.templateAt? template.path = some template :=
    (Level.mem_templates_iff_templateAt? schema.ordered _ template).mp ⟨h, rfl⟩
  exact Tree.resolvesTo_of_templateAt? args separator schema.ordered [] [] hfound

end KeyTree
