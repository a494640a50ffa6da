import KeyTree.Proofs.Compiled.Resolve
import KeyTree.Proofs.Text.Split

/-!
# `KeyTree.Proofs.Compiled.Resolution`: what becomes of a path, before texts are joined

`Tree.resolveFrom` joins texts in two places: the key at the end of a path,
and the place that a missing argument is reported at. Nothing it does depends
on what the texts are joined by. `Level.resolution` is the same walk over the
schema's own levels, without compiling them, and it leaves the texts apart.

* `Tree.resolveFrom_compile_eq_joined`: the walk over a compiled level is the
  walk over the level, with its texts joined in the end (`Resolution.joined`).
* `Schema.resolve_independent_of_separator`: so there is one outcome for all
  separators. A separator of one character that no text of the key has can be
  found again in the key.
-/

set_option autoImplicit false

namespace KeyTree

/-! ### Outcomes with their texts apart -/

/-- Why a path does not lead to a key, whatever the arguments. -/
inductive PathFault where
  | emptyPath
  /-- Nothing stands under the last of the names. -/
  | unknownEntry (names : List String)
  /-- The names end on a branch or a gate. -/
  | notAKey (names : List String)
  /-- The names lead to a key, and the path goes on. -/
  | notATree (names : List String)
  deriving DecidableEq, Repr

/-- The error that a path's fault is reported as. -/
def PathFault.error : PathFault → ResolveError
  | emptyPath => .emptyPath
  | unknownEntry names => .unknownEntry (dotted names)
  | notAKey names => .notAKey (dotted names)
  | notATree names => .notATree (dotted names)

/-- What becomes of a path, with the texts of keys and places still apart. -/
inductive Resolution where
  /-- The path leads to a key made of some texts. -/
  | key (tokens : List String)
  /-- A slot has no value; it was needed at the given place. -/
  | missing (slot : Slot) (place : List String)
  /-- The path does not lead to a key. -/
  | fault (fault : PathFault)
  deriving DecidableEq, Repr

/-- The outcome with its texts joined. -/
def Resolution.joined (separator : String) : Resolution → Except ResolveError String
  | key tokens => .ok (separator.intercalate tokens)
  | missing slot place => .error (.missing ⟨slot.name, separator.intercalate place⟩)
  | fault reason => .error reason.error

/-- What becomes of a key's pieces below the texts `stem`. A missing slot is
reported at the whole key, with the key's own slots shown by name. -/
def Resolution.ofPieces (args : Arguments) (stem : List String) (pieces : List Piece) :
    Resolution :=
  match args.firstMissing? (slotsOf pieces) with
  | some slot => missing slot (stem ++ pieces.map Piece.hint)
  | none => key (stem ++ pieces.map (Piece.filled args))

/-- What becomes of a path through a level below the texts `stem`, which the
names `walked` have led to. A gate that lacks a value is reported at its own
name. -/
def Level.resolution (args : Arguments) (stem walked : List String) :
    Level → List String → Resolution
  | _, [] => .fault .emptyPath
  | level, name :: rest =>
    let here := walked ++ [name]
    match level.presentAt? name with
    | none => .fault (.unknownEntry here)
    | some (.key pieces) =>
      if rest.isEmpty then .ofPieces args stem pieces else .fault (.notATree here)
    | some (.branch below) =>
      if rest.isEmpty then .fault (.notAKey here)
      else below.resolution args (stem ++ [name]) here rest
    | some (.gate slots behind) =>
      if rest.isEmpty then .fault (.notAKey here)
      else match args.firstMissing? slots.toList with
        | some slot => .missing slot (stem ++ [name])
        | none =>
          behind.resolution args (stem ++ (gatePieces name slots).map (Piece.filled args)) here rest

/-! ### The walk over a compiled tree -/

/-- A key maker joins what becomes of its pieces. -/
theorem KeyMaker.build_make_eq_joined (separator : String) (stem : List String)
    (pieces : List Piece) (args : Arguments) :
    ((make separator stem pieces).build args).mapError ResolveError.missing
      = (Resolution.ofPieces args stem pieces).joined separator := by
  have hstem : (stem.map Piece.literal).map Piece.hint = stem := by
    rw [List.map_map]
    exact List.map_id stem
  have hhint : (make separator stem pieces).hint
      = separator.intercalate (stem ++ pieces.map Piece.hint) := by
    show separator.intercalate ((stem.map Piece.literal ++ pieces).map Piece.hint) = _
    rw [List.map_append, hstem]
  rw [build_make, hhint, Resolution.ofPieces]
  cases args.firstMissing? (slotsOf pieces) <;> rfl

/-- The walk over a compiled level is the walk over the level itself, with the
texts joined by the separator that the level is compiled for. -/
theorem Tree.resolveFrom_compile_eq_joined (args : Arguments) (separator : String)
    {level : Level} (h : level.Ordered) (stem walked path : List String) :
    (resolveFrom args walked (level.compile separator stem).result path).result
      = (level.resolution args stem walked path).joined separator := by
  induction path generalizing level stem walked with
  | nil => rfl
  | cons name rest ih =>
      rw [resolveFrom, Level.find?_compile h, Level.resolution]
      cases hentry : level.presentAt? name with
      | none => rfl
      | some entry =>
          have hbelow : entry.Ordered := Level.ordered_of_presentAt? h hentry
          cases entry with
          | key pieces =>
              simp only [Option.map_some, Level.Entry.compiled]
              split
              · exact KeyMaker.build_make_eq_joined separator stem pieces args
              · rfl
          | branch below =>
              simp only [Option.map_some, Level.Entry.compiled]
              split
              · rfl
              · exact ih hbelow (stem ++ [name]) (walked ++ [name])
          | gate slots behind =>
              simp only [Option.map_some, Level.Entry.compiled]
              split
              · rfl
              · -- A closed gate is reported at its own path, an open one is walked through.
                rw [Opener.apply_eq]
                cases args.firstMissing? slots.toList with
                | some slot => rfl
                | none =>
                    simp only [Opener.opened, Opener.openedStem_eq, Logged.result_bind]
                    exact ih hbelow _ (walked ++ [name])

/-- Resolving a path of a schema, for any separator. -/
theorem Schema.resolve_compile_eq_joined (schema : Schema) (separator : String)
    (path : List String) (args : Arguments) :
    ((schema.compile separator).result.resolve path args).result
      = (schema.level.resolution args [] [] path).joined separator :=
  Tree.resolveFrom_compile_eq_joined args separator schema.ordered [] [] path

/-! ### Any separator -/

/-- A path of a schema has one outcome for all separators. Either it leads to
a key, and then to the same texts joined by the separator at hand, or it fails
in the same way: for the path's sake, with the very same error, or for a slot
without a value, which is reported at the same texts joined by the separator.
A separator that is one character can be found again in a key, if none of the
key's texts has the character: splitting the key there gives the texts. -/
theorem Schema.resolve_independent_of_separator (schema : Schema) (path : List String)
    (args : Arguments) :
    let resolved := fun separator =>
      ((schema.compile separator).result.resolve path args).result
    (∃ tokens : List String,
        (∀ separator, resolved separator = .ok (separator.intercalate tokens))
          ∧ ∀ c key, resolved (String.singleton c) = .ok key → tokens ≠ [] →
            (∀ token ∈ tokens, c ∉ token.toList) →
            (key.toList.splitOn c).map String.ofList = tokens)
      ∨ (∃ fault : PathFault, ∀ separator, resolved separator = .error fault.error)
      ∨ ∃ (slot : Slot) (place : List String), ∀ separator,
          resolved separator = .error (.missing ⟨slot.name, separator.intercalate place⟩) := by
  intro resolved
  have hresolved : ∀ separator,
      resolved separator = (schema.level.resolution args [] [] path).joined separator := by
    intro separator
    exact resolve_compile_eq_joined schema separator path args
  cases hresolution : schema.level.resolution args [] [] path with
  | key tokens =>
      simp only [hresolution, Resolution.joined] at hresolved
      refine .inl ⟨tokens, hresolved, fun c key hkey hne hfree => ?_⟩
      rw [hresolved, Except.ok.injEq] at hkey
      subst hkey
      exact splitOn_intercalate_singleton hne hfree
  | missing slot place =>
      simp only [hresolution, Resolution.joined] at hresolved
      exact .inr (.inr ⟨slot, place, hresolved⟩)
  | fault reason =>
      simp only [hresolution, Resolution.joined] at hresolved
      exact .inr (.inl ⟨reason, hresolved⟩)

end KeyTree
