import KeyTree.Proofs.Compiled.Tree
import KeyTree.Proofs.Schema.Entries

/-!
# `KeyTree.Proofs.Compiled.Chain`: walks, and the chains they amount to

A walk goes down a compiled tree step by step, through branches and through
gates, and gives each gate arguments of its own. Every step puts some texts
in front of the keys further down: a branch its name, a gate its name and
the segments of its slots. Nothing else of the way is left in the tree that
is reached. It is the tree that branches named after these texts lead to,
one inside the other, with the same schema below the last one.

* `Schema.follow?` follows a walk through the schema, without compiling
  anything: the texts of the walk, and the schema it ends at.
* `Schema.take?_compile` is one step, `Schema.walk?_compile` a whole walk.
  The invariant is that the tree in hand is the schema in hand, compiled
  below the texts so far.
* `Schema.walk?_eq_descend?_nested` compares with the chain of branches, and
  with many walks that go on side by side (`Tree.holdNext`).
-/

set_option autoImplicit false

namespace KeyTree

/-! ### Steps -/

/-- A step of a walk: into a branch, or through a gate with arguments. -/
inductive Step where
  | branch (name : String)
  | gate (name : String) (args : Arguments)

/-- The tree that a step leads to. -/
def Tree.take? (tree : Tree) : Step → Option Tree
  | .branch name => tree.branch? name
  | .gate name args =>
    match tree.gate? name with
    | none => none
    | some opener => (opener.apply args).toOption.map Logged.result

/-- The tree that steps lead to. -/
def Tree.walk? (tree : Tree) : List Step → Option Tree
  | [] => some tree
  | step :: rest => (tree.take? step).bind fun reached => reached.walk? rest

/-- The texts that a step puts in front, and the schema it leads to. A gate
puts its name in front and the segments of its slots, in declared order. -/
def Schema.enter? (schema : Schema) : Step → Option (List String × Schema)
  | .branch name =>
    match schema.find? name with
    | some (some (.branch below)) => some ([name], below)
    | _ => none
  | .gate name args =>
    match schema.find? name with
    | some (some (.gate slots behind)) =>
      (slots.toList.mapM args.segment?).map fun segments => (name :: segments, behind)
    | _ => none

/-- The texts that steps put in front, and the schema they lead to. -/
def Schema.follow? (schema : Schema) : List Step → Option (List String × Schema)
  | [] => some ([], schema)
  | step :: rest =>
    (schema.enter? step).bind fun entered =>
      (entered.2.follow? rest).map fun followed => (entered.1 ++ followed.1, followed.2)

/-- A schema below branches of the given names, one inside the other. -/
def Schema.nested (schema : Schema) : List String → Schema
  | [] => schema
  | name :: rest => empty.insert name (some (.branch (schema.nested rest)))

/-! ### The segments of a gate -/

/-- All slots have segments exactly when none is missing, and then the
segments are what fills the slots. -/
theorem Arguments.mapM_segment?_eq (args : Arguments) (slots : List Slot) :
    slots.mapM args.segment?
      = match args.firstMissing? slots with
        | some _ => none
        | none => some (slots.map fun slot => Piece.filled args (.slot slot)) := by
  induction slots with
  | nil => rfl
  | cons slot rest ih =>
      rw [List.mapM_cons, ih]
      cases hvalue : args.value? slot.name with
      | none =>
          have hmissing : args.firstMissing? (slot :: rest) = some slot := by
            simp [firstMissing?, hvalue]
          simp [segment?, hvalue, hmissing]
      | some value =>
          have hmissing : args.firstMissing? (slot :: rest) = args.firstMissing? rest := by
            simp [firstMissing?, hvalue]
          rw [hmissing]
          cases args.firstMissing? rest with
          | none => simp [segment?, Piece.filled, hvalue]
          | some missing => simp [segment?, hvalue]

/-- What opening a gate leads to: the schema behind it, compiled below its
name and its segments. -/
theorem Opener.result_apply (name separator : String) (stem : List String) (slots : Slots)
    (behind : Level) (args : Arguments) :
    ((Opener.mk name stem slots behind separator).apply args).toOption.map Logged.result
      = (slots.toList.mapM args.segment?).map fun segments =>
          (behind.compile separator (stem ++ name :: segments)).result := by
  rw [Opener.apply_eq, Arguments.mapM_segment?_eq]
  cases args.firstMissing? slots.toList with
  | some slot => rfl
  | none => simp [Except.toOption, Opener.opened, Opener.openedStem, Opener.path]

/-! ### Walks through compiled schemas -/

namespace Schema

/-- A step from a compiled schema leads to the schema that it enters,
compiled below the texts that the step puts in front. -/
theorem take?_compile (schema : Schema) (separator : String) (stem : List String) (step : Step) :
    (schema.level.compile separator stem).result.take? step
      = (schema.enter? step).map fun entered =>
          (entered.2.level.compile separator (stem ++ entered.1)).result := by
  cases step with
  | branch name =>
      have hfind := Level.find?_compile schema.ordered separator stem name
      rw [presentAt?_level] at hfind
      rw [Tree.take?, Tree.branch?, hfind, enter?]
      rcases schema.find? name with _ | _ | node
      · rfl
      · rfl
      · cases node <;> rfl
  | gate name args =>
      have hfind := Level.find?_compile schema.ordered separator stem name
      rw [presentAt?_level] at hfind
      rw [Tree.take?, Tree.gate?, hfind, enter?]
      rcases schema.find? name with _ | _ | node
      · rfl
      · rfl
      · cases node with
        | key pieces => rfl
        | branch below => rfl
        | gate slots behind =>
            show ((Opener.mk name stem slots behind.level separator).apply args).toOption.map
              Logged.result = _
            rw [Opener.result_apply, Option.map_map]
            rfl

/-- A walk from a compiled schema leads to the schema that it ends at,
compiled below the texts of the walk. -/
theorem walk?_compile (schema : Schema) (separator : String) (stem : List String)
    (steps : List Step) :
    (schema.level.compile separator stem).result.walk? steps
      = (schema.follow? steps).map fun followed =>
          (followed.2.level.compile separator (stem ++ followed.1)).result := by
  induction steps generalizing schema stem with
  | nil => simp [Tree.walk?, follow?]
  | cons step rest ih =>
      rw [Tree.walk?, follow?, take?_compile]
      cases schema.enter? step with
      | none => rfl
      | some entered =>
          -- What the step puts in front belongs to the stem from here on.
          show (entered.2.level.compile separator (stem ++ entered.1)).result.walk? rest = _
          rw [ih entered.2 (stem ++ entered.1), Option.bind_some, Option.map_map]
          simp [Function.comp_def]

end Schema

/-! ### Chains of branches -/

/-- A descent along names is a walk through branches. -/
theorem Tree.descend?_eq_walk? (tree : Tree) (names : List String) :
    tree.descend? names = tree.walk? (names.map .branch) := by
  induction names generalizing tree with
  | nil => rfl
  | cons name rest ih =>
      show (tree.branch? name).bind (fun below => below.descend? rest)
        = (tree.branch? name).bind fun below => below.walk? (rest.map .branch)
      exact congrArg _ (funext ih)

namespace Schema

/-- The branches of a chain lead to the schema at its end, and their names
are all that they put in front. -/
theorem follow?_nested (schema : Schema) (names : List String) :
    (schema.nested names).follow? (names.map .branch) = some (names, schema) := by
  induction names with
  | nil => rfl
  | cons name rest ih =>
      have hfind : (schema.nested (name :: rest)).find? name
          = some (some (.branch (schema.nested rest))) := by
        rw [nested, find?_insert, if_pos rfl]
      rw [List.map_cons, follow?, enter?, hfind]
      simp only [Option.bind_some, ih, Option.map_some, List.singleton_append]

/-- At the end of a compiled chain is the schema, compiled below the names of
the chain. -/
theorem descend?_compile_nested (schema : Schema) (separator : String) (names : List String) :
    ((schema.nested names).compile separator).result.descend? names
      = some (schema.level.compile separator names).result := by
  rw [Tree.descend?_eq_walk?, compile, walk?_compile, follow?_nested]
  rfl

end Schema

/-! ### Walks side by side -/

namespace Tree

/-- Trees that are held at once, each with the steps that led to it. A move
takes a step from one of them, by its place, and holds what is reached as
well; a move that leads nowhere changes nothing. -/
def holdNext (held : List (List Step × Tree)) (move : Nat × Step) : List (List Step × Tree) :=
  match held[move.1]? with
  | none => held
  | some (steps, tree) =>
    match tree.take? move.2 with
    | none => held
    | some reached => held ++ [(steps ++ [move.2], reached)]

/-- What is held after some moves, when one tree is held at first. -/
def holdAll (tree : Tree) (moves : List (Nat × Step)) : List (List Step × Tree) :=
  moves.foldl holdNext [([], tree)]

theorem walk?_append (tree : Tree) (steps others : List Step) :
    tree.walk? (steps ++ others) = (tree.walk? steps).bind fun reached => reached.walk? others := by
  induction steps generalizing tree with
  | nil => rfl
  | cons step rest ih =>
      simp only [List.cons_append, walk?, ih, Option.bind_assoc]

/-- A held tree is where its own steps lead, and a move keeps it so. -/
theorem walk?_of_mem_holdNext {tree : Tree} {held : List (List Step × Tree)}
    (h : ∀ listed ∈ held, tree.walk? listed.1 = some listed.2) (move : Nat × Step) :
    ∀ listed ∈ holdNext held move, tree.walk? listed.1 = some listed.2 := by
  unfold holdNext
  cases hat : held[move.1]? with
  | none => exact h
  | some found =>
      obtain ⟨steps, reached⟩ := found
      have hreached : tree.walk? steps = some reached := h _ (List.mem_of_getElem? hat)
      cases hstep : reached.take? move.2 with
      | none => simpa only [hstep] using h
      | some next =>
          simp only [hstep]
          intro listed hlisted
          rcases List.mem_append.mp hlisted with hold | hnew
          · exact h listed hold
          · rw [List.mem_singleton.mp hnew, walk?_append, hreached]
            simp [walk?, hstep]

/-- Whatever moves are made, each tree that is held is where its own steps
lead, as if no other step had been taken. -/
theorem walk?_of_mem_holdAll (tree : Tree) (moves : List (Nat × Step)) :
    ∀ listed ∈ tree.holdAll moves, tree.walk? listed.1 = some listed.2 := by
  have hrun : ∀ held : List (List Step × Tree),
      (∀ listed ∈ held, tree.walk? listed.1 = some listed.2) →
        ∀ listed ∈ moves.foldl holdNext held, tree.walk? listed.1 = some listed.2 := by
    induction moves with
    | nil => exact fun held h => h
    | cons move rest ih => exact fun held h => ih _ (walk?_of_mem_holdNext h move)
  refine hrun _ fun listed hlisted => ?_
  rw [List.mem_singleton.mp hlisted, walk?]

end Tree

/-- A walk through a compiled schema, with arguments of its own for each gate,
fails where the schema cannot be followed. Otherwise it reaches the very tree
that is reached in a chain of branches, named after the texts of the walk
around the schema that the walk ends at. The same holds of every tree that is
reached by its own steps while other walks go on. -/
theorem Schema.walk?_eq_descend?_nested (schema : Schema) (separator : String) :
    let tree := (schema.compile separator).result
    (∀ steps, match schema.follow? steps with
      | none => tree.walk? steps = none
      | some (texts, below) => ∃ reached, tree.walk? steps = some reached
          ∧ ((below.nested texts).compile separator).result.descend? texts = some reached)
    ∧ ∀ moves, ∀ listed ∈ tree.holdAll moves,
        ∃ texts below, schema.follow? listed.1 = some (texts, below)
          ∧ ((below.nested texts).compile separator).result.descend? texts = some listed.2 := by
  intro tree
  have hwalk : ∀ steps, tree.walk? steps = (schema.follow? steps).map fun followed =>
      (followed.2.level.compile separator followed.1).result :=
    fun steps => schema.walk?_compile separator [] steps
  constructor
  · intro steps
    rw [hwalk]
    cases schema.follow? steps with
    | none => rfl
    | some followed => exact ⟨_, rfl, descend?_compile_nested followed.2 separator followed.1⟩
  · intro moves listed hlisted
    have hreached := tree.walk?_of_mem_holdAll moves listed hlisted
    rw [hwalk, Option.map_eq_some_iff] at hreached
    obtain ⟨followed, hfollowed, htree⟩ := hreached
    refine ⟨followed.1, followed.2, hfollowed, ?_⟩
    rw [descend?_compile_nested, htree]

end KeyTree
