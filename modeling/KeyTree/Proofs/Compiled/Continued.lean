import KeyTree.Compiled.Resolve
import KeyTree.Proofs.Compiled.Chain
import KeyTree.Proofs.Except

/-!
# `KeyTree.Proofs.Compiled.Continued`: resolving in two parts

A path can be resolved at once, or its first names can be walked by hand, with
the same arguments for each gate, and the rest resolved from the tree that is
reached. Both give the same.

* `Tree.resolveFrom_take?` is one step and `Tree.resolveFrom_walk?` all steps:
  the walk goes on from the tree reached, with the names of the steps behind it.
* `Tree.resolveFrom_eq_mapError`: what the names behind a walk are good for is
  to be put in front of the place that an error names (`ResolveError.below`).
* `Tree.resolve_append_of_walk?` puts the two together.

All of it holds of any tree, compiled or not.
-/

set_option autoImplicit false

namespace KeyTree

/-! ### Names in front of a place -/

theorem dotted_cons (name : String) {rest : List String} (hne : rest ≠ []) :
    dotted (name :: rest) = name ++ "." ++ dotted rest := by
  obtain ⟨next, others, rfl⟩ := List.exists_cons_of_ne_nil hne
  exact String.intercalate_cons_cons

/-- Names that are joined already may be joined with further ones in front. -/
theorem dotted_append_dotted (front : List String) {names : List String} (hne : names ≠ []) :
    dotted (front ++ [dotted names]) = dotted (front ++ names) := by
  induction front with
  | nil => exact String.intercalate_singleton
  | cons name rest ih =>
      rw [List.cons_append, List.cons_append, dotted_cons name (by simp),
        dotted_cons name (by simp [hne]), ih]

/-- An error as it is reported from further up, where the names `front` lead
to the tree that it is found in. Missing arguments are reported as they are. -/
def ResolveError.below (front : List String) : ResolveError → ResolveError
  | .emptyPath => .emptyPath
  | .unknownEntry place => .unknownEntry (dotted (front ++ [place]))
  | .notAKey place => .notAKey (dotted (front ++ [place]))
  | .notATree place => .notATree (dotted (front ++ [place]))
  | .missing argument => .missing argument

/-- Names are put in front one after another. -/
theorem ResolveError.below_below (front more : List String) (error : ResolveError) :
    (error.below more).below front = error.below (front ++ more) := by
  have hplace : ∀ place : String,
      dotted (front ++ [dotted (more ++ [place])]) = dotted (front ++ more ++ [place]) := by
    intro place
    rw [dotted_append_dotted front (by simp), List.append_assoc]
  cases error <;> simp [below, hplace]

/-! ### The names behind a walk -/

namespace Tree

/-- The names behind a walk change nothing but the place that an error names. -/
theorem resolveFrom_eq_mapError (args : Arguments) (tree : Tree) (walked path : List String) :
    (tree.resolveFrom args walked path).result
      = (tree.resolveFrom args [] path).result.mapError (ResolveError.below walked) := by
  have hbelow : ∀ walked more : List String,
      (fun error => ResolveError.below walked (ResolveError.below more error))
        = ResolveError.below (walked ++ more) :=
    fun walked more => funext (ResolveError.below_below walked more)
  have hname : ∀ name, dotted [name] = name := fun name => String.intercalate_singleton
  -- The case for a step is used twice, with the names behind it and without.
  induction path generalizing tree walked with
  | nil => rfl
  | cons name rest ih =>
      rw [resolveFrom, resolveFrom, List.nil_append, hname]
      cases tree.find? name with
      | none => rfl
      | some entry =>
          cases entry with
          | key maker =>
              dsimp only
              split
              · show (maker.build args).mapError ResolveError.missing
                  = ((maker.build args).mapError ResolveError.missing).mapError _
                rw [mapError_mapError]
                rfl
              · rfl
          | branch below =>
              dsimp only
              split
              · rfl
              · rw [ih below (walked ++ [name]), ih below [name], mapError_mapError, hbelow]
          | gate opener =>
              dsimp only
              split
              · rfl
              · cases opener.apply args with
                | error missing => rfl
                | ok opened =>
                    simp only [Logged.result_bind]
                    rw [ih opened.result (walked ++ [name]), ih opened.result [name],
                      mapError_mapError, hbelow]

end Tree

/-! ### Steps with the same arguments -/

/-- The name of the entry that a step goes through. -/
def Step.name : Step → String
  | .branch name => name
  | .gate name _ => name

/-- A step that gives nothing but the arguments `args`. -/
def Step.Gives (args : Arguments) : Step → Prop
  | .branch _ => True
  | .gate _ given => given = args

namespace Tree

variable {tree reached : Tree} {args : Arguments} {rest : List String}

/-- Where a step leads, resolving goes on. -/
theorem resolveFrom_take? {step : Step} (hgives : step.Gives args)
    (hstep : tree.take? step = some reached) (hne : rest ≠ []) (walked : List String) :
    (tree.resolveFrom args walked (step.name :: rest)).result
      = (reached.resolveFrom args (walked ++ [step.name]) rest).result := by
  have hrest : rest.isEmpty = false := by simp [hne]
  cases step with
  | branch name =>
      have hfind : tree.find? name = some (.branch reached) := branch?_eq_some_iff.mp hstep
      rw [Step.name, resolveFrom, hfind]
      simp only [hrest, Bool.false_eq_true, if_false]
  | gate name given =>
      cases hgives
      rw [take?] at hstep
      cases hgate : tree.gate? name with
      | none => simp [hgate] at hstep
      | some opener =>
          have hfind : tree.find? name = some (.gate opener) := gate?_eq_some_iff.mp hgate
          rw [Step.name, resolveFrom, hfind]
          simp only [hgate] at hstep
          cases happly : opener.apply args with
          | error missing => simp [happly, Except.toOption] at hstep
          | ok opened =>
              simp only [happly, Except.toOption, Option.map_some, Option.some.injEq] at hstep
              subst hstep
              simp only [hrest, Bool.false_eq_true, if_false, happly, Logged.result_bind]

/-- Where a walk leads, resolving goes on. -/
theorem resolveFrom_walk? {steps : List Step} (hgives : ∀ step ∈ steps, step.Gives args)
    (hwalk : tree.walk? steps = some reached) (hne : rest ≠ []) (walked : List String) :
    (tree.resolveFrom args walked (steps.map Step.name ++ rest)).result
      = (reached.resolveFrom args (walked ++ steps.map Step.name) rest).result := by
  induction steps generalizing tree walked with
  | nil =>
      cases hwalk
      simp
  | cons step others ih =>
      obtain ⟨hfirst, hothers⟩ := List.forall_mem_cons.mp hgives
      rw [walk?, Option.bind_eq_some_iff] at hwalk
      obtain ⟨next, hstep, hwalk⟩ := hwalk
      have hmore : others.map Step.name ++ rest ≠ [] := by simp [hne]
      rw [List.map_cons, List.cons_append, resolveFrom_take? hfirst hstep hmore,
        ih hothers hwalk, List.append_assoc, List.singleton_append]

/-- Let steps lead from a tree to another, each gate being opened with the same
arguments. Then the names of the steps and a further path resolve to the key
that the path resolves to from the tree reached. Errors are the same too: a
missing argument as it is, and the place that any other error names with the
names of the steps in front. -/
theorem resolve_append_of_walk? {steps : List Step} (hgives : ∀ step ∈ steps, step.Gives args)
    (hwalk : tree.walk? steps = some reached) (hne : rest ≠ []) :
    (tree.resolve (steps.map Step.name ++ rest) args).result
      = (reached.resolve rest args).result.mapError
          (ResolveError.below (steps.map Step.name)) := by
  rw [resolve, resolve, resolveFrom_walk? hgives hwalk hne, resolveFrom_eq_mapError,
    List.nil_append]

end Tree

/-- Comments on the posts of a blog. -/
def Schema.blog : Schema :=
  Schema.empty.insert "blog" (some (.branch
    (Schema.empty.insert "post" (some (.gate ⟨⟨"post", .text⟩, []⟩
      (Schema.empty.insert "comment" (some (.key [.literal "c", .slot ⟨"n", .number⟩]))))))))

/-- Nothing is lost behind a post. The names that lead to the post stand in
front of the place where that is found out. -/
theorem Tree.blog_post_lost :
    let args : Arguments := NameMap.ofList [("post", some (.text "a.b"))]
    let tree := (Schema.blog.compile ":").result
    ∃ reached, tree.walk? [.branch "blog", .gate "post" args] = some reached
      ∧ (reached.resolve ["lost"] args).result = .error (.unknownEntry "lost")
      ∧ (tree.resolve ["blog", "post", "lost"] args).result
        = .error (.unknownEntry "blog.post.lost") := by
  intro args tree
  let steps : List Step := [.branch "blog", .gate "post" args]
  obtain ⟨reached, hwalk⟩ : ∃ reached, tree.walk? steps = some reached :=
    Option.isSome_iff_exists.mp (by decide)
  have hlost : (reached.resolve ["lost"] args).result = .error (.unknownEntry "lost") := by
    have hfound : (tree.walk? steps).map (fun reached => (reached.resolve ["lost"] args).result)
        = some (.error (.unknownEntry "lost")) := by decide
    rw [hwalk] at hfound
    exact Option.some.inj hfound
  have hgives : ∀ step ∈ steps, step.Gives args := by
    simp [steps, Step.Gives]
  have happend := resolve_append_of_walk? hgives hwalk (List.cons_ne_nil "lost" [])
  refine ⟨reached, hwalk, hlost, happend.trans ?_⟩
  rw [hlost]
  decide

end KeyTree
