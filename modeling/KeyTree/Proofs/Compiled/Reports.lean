import KeyTree.Proofs.Compiled.Chain
import KeyTree.Proofs.Text.ByteOrder

/-!
# `KeyTree.Proofs.Compiled.Reports`: what compiling reports

Compiling leaves absent entries out and warns of them in development. It goes
through branches at once, but what stands behind a gate is compiled when the gate is
opened, and again each time it is opened. So what is reported, and under which texts,
depends on the order in which gates are opened.

* `Level.LeavesOut`: the absent entries that branches lead to. `Schema.Reports`
  says that the events of a build are the warnings about just these, by their names,
  or none in a release.
* `Schema.session`: compiling, and then steps from any tree that is held, as one
  run. Its result is what `Tree.holdAll` gives.
* `Schema.StepReports`: what one step reports, told from the schema alone.
* `Level.dropSkipped`: the level without the entries that are left out. It is
  compiled to the same tree without a warning.

`Schema.session_reports` puts these together. Each tree that is held is the schema
that its steps lead to, compiled below their texts (`walk?_of_mem_holdAll`,
`walk?_compile`); so what a step reports does not depend on the steps before.
-/

set_option autoImplicit false

namespace KeyTree

/-! ### Absent entries that are left out -/

/-- An absent entry of a level or of one that branches lead to. -/
structure Absence where
  /-- The names of the branches. -/
  path : List String
  name : String
  deriving DecidableEq

namespace Absence

/-- The names of the branches and of the entry. -/
def fullPath (absence : Absence) : List String := absence.path ++ [absence.name]

/-- The absent entry as it stands seen from further up. -/
def under (name : String) (absence : Absence) : Absence := ⟨name :: absence.path, absence.name⟩

@[simp] theorem fullPath_under (name : String) (absence : Absence) :
    (absence.under name).fullPath = name :: absence.fullPath := rfl

/-- The warning about the entry where the level is compiled below some texts. -/
def warning (separator : String) (texts : List String) (absence : Absence) : Event :=
  .skippedAbsent absence.name (separator.intercalate (texts ++ absence.path))

end Absence

namespace Level

/-- The absent entries that branches lead to. What stands behind gates is not
among them. -/
inductive LeavesOut : Level → Absence → Prop
  | here {level : Level} {name : String} (hentry : (name, none) ∈ level.entries) :
      LeavesOut level ⟨[], name⟩
  | inside {level below : Level} {name : String} {absence : Absence}
      (hentry : (name, some (.branch below)) ∈ level.entries) (hleaves : LeavesOut below absence) :
      LeavesOut level (absence.under name)

/-- The same in a list, in the order in which they are come upon. -/
def absences : Level → List Absence
  | .nil => []
  | .absent name rest => ⟨[], name⟩ :: rest.absences
  | .key _ _ rest => rest.absences
  | .branch name below rest => below.absences.map (.under name) ++ rest.absences
  | .gate _ _ _ rest => rest.absences

/-- An absent entry is the first one, or is in the first one if that is a branch,
or is further on. -/
theorem leavesOut_cons_iff (name : String) (entry : Option Entry) (rest : Level)
    (absence : Absence) : (cons name entry rest).LeavesOut absence
      ↔ (entry = none ∧ absence = ⟨[], name⟩)
        ∨ (∃ below found, entry = some (.branch below) ∧ below.LeavesOut found
            ∧ absence = found.under name)
        ∨ rest.LeavesOut absence := by
  constructor
  · intro h
    cases h with
    | here hentry =>
        rw [entries_cons, List.mem_cons] at hentry
        rcases hentry with heq | hentry
        · cases heq
          exact .inl ⟨rfl, rfl⟩
        · exact .inr (.inr (.here hentry))
    | inside hentry hleaves =>
        rw [entries_cons, List.mem_cons] at hentry
        rcases hentry with heq | hentry
        · cases heq
          exact .inr (.inl ⟨_, _, rfl, hleaves, rfl⟩)
        · exact .inr (.inr (.inside hentry hleaves))
  · have hfirst : (name, entry) ∈ (cons name entry rest).entries := by
      rw [entries_cons]
      exact List.mem_cons_self
    have hlater : ∀ listed ∈ rest.entries, listed ∈ (cons name entry rest).entries := by
      intro listed hlisted
      rw [entries_cons]
      exact List.mem_cons_of_mem _ hlisted
    rintro (⟨rfl, rfl⟩ | ⟨below, found, rfl, hleaves, rfl⟩ | hrest)
    · exact .here hfirst
    · exact .inside hfirst hleaves
    · cases hrest with
      | here hentry => exact .here (hlater _ hentry)
      | inside hentry hleaves => exact .inside (hlater _ hentry) hleaves

theorem mem_absences_iff (level : Level) (absence : Absence) :
    absence ∈ level.absences ↔ level.LeavesOut absence := by
  induction level generalizing absence with
  | nil =>
      constructor
      · intro h
        cases h
      · intro h
        cases h with
        | here hentry => cases hentry
        | inside hentry => cases hentry
  | absent name rest ih =>
      have hcons := leavesOut_cons_iff name none rest absence
      rw [absences, List.mem_cons, ih]
      simpa [cons] using hcons.symm
  | key name pieces rest ih =>
      have hcons := leavesOut_cons_iff name (some (.key pieces)) rest absence
      rw [absences, ih]
      simpa [cons] using hcons.symm
  | branch name below rest ihbelow ih =>
      have hcons := leavesOut_cons_iff name (some (.branch below)) rest absence
      rw [absences, List.mem_append, List.mem_map, ih]
      simp only [ihbelow]
      simpa [cons, eq_comm] using hcons.symm
  | gate name slots behind rest _ ih =>
      have hcons := leavesOut_cons_iff name (some (.gate slots behind)) rest absence
      rw [absences, ih]
      simpa [cons] using hcons.symm

/-- The full path of an absent entry starts with a name of the level. -/
theorem exists_fullPath_of_mem_absences {level : Level} {absence : Absence}
    (h : absence ∈ level.absences) :
    ∃ name ∈ level.names, ∃ more, absence.fullPath = name :: more := by
  cases (level.mem_absences_iff absence).mp h with
  | here hentry => exact ⟨_, List.mem_map_of_mem hentry, [], rfl⟩
  | inside hentry hleaves =>
      exact ⟨_, List.mem_map_of_mem hentry, _, Absence.fullPath_under _ _⟩

/-- What starts with a lesser name comes first. -/
theorem fullPath_lt_of_mem_absences {name : String} {rest : Level} {absence : Absence}
    (hlt : ∀ other ∈ rest.names, name < other) (h : absence ∈ rest.absences)
    (more : List String) : name :: more < absence.fullPath := by
  obtain ⟨other, hother, others, hpath⟩ := exists_fullPath_of_mem_absences h
  rw [hpath]
  exact List.Lex.rel (hlt other hother)

/-- In a level in name order the absent entries come by their full paths. -/
theorem pairwise_fullPath_absences {level : Level} (h : level.Ordered) :
    level.absences.Pairwise fun absence next => absence.fullPath < next.fullPath := by
  induction level with
  | nil => exact .nil
  | absent name rest ih =>
      exact .cons (fun next hnext => fullPath_lt_of_mem_absences h.1 hnext []) (ih h.2)
  | key name pieces rest ih => exact ih h.2
  | branch name below rest ihbelow ih =>
      obtain ⟨hlt, hbelow, hrest⟩ := h
      -- In the branch the paths go on from one name, and after it the names are greater.
      refine List.pairwise_append.mpr ⟨?_, ih hrest, fun absence habsence next hnext => ?_⟩
      · refine List.pairwise_map.mpr ((ihbelow hbelow).imp fun hpath => ?_)
        exact List.Lex.cons hpath
      · obtain ⟨found, -, rfl⟩ := List.mem_map.mp habsence
        exact fullPath_lt_of_mem_absences hlt hnext found.fullPath
  | gate name slots behind rest _ ih => exact ih h.2.2

/-! ### What compiling a level reports -/

/-- Compiling warns of the absent entries that are left out, if the build reports
what is skipped, and reports nothing else. -/
theorem events_compile (separator : String) (mode : BuildMode) (stem : List String)
    (level : Level) : (level.compile separator stem).events mode
      = mode.diagnostics (level.absences.map (Absence.warning separator stem)) := by
  induction level generalizing stem with
  | nil => exact mode.diagnostics_nil.symm
  | absent name rest ih =>
      simp [compile, absences, ih, Absence.warning, ← BuildMode.diagnostics_append]
  | key name pieces rest ih => simp [compile, absences, ih]
  | branch name below rest ihbelow ih =>
      -- The names of branches go from the stem of what is below into the paths.
      have hbelow : below.absences.map (Absence.warning separator (stem ++ [name]))
          = (below.absences.map (.under name)).map (Absence.warning separator stem) := by
        simp [Absence.warning, Absence.under]
      simp [compile, absences, ih, ihbelow, hbelow, ← BuildMode.diagnostics_append]
  | gate name slots behind rest _ ih => simp [compile, absences, ih]

/-- The level without the absent entries that branches lead to. What stands behind
gates is as it was. -/
def dropSkipped : Level → Level
  | .nil => .nil
  | .absent _ rest => rest.dropSkipped
  | .key name pieces rest => .key name pieces rest.dropSkipped
  | .branch name below rest => .branch name below.dropSkipped rest.dropSkipped
  | .gate name slots behind rest => .gate name slots behind rest.dropSkipped

/-- Without them the same is compiled, and nothing is reported. -/
theorem compile_dropSkipped (separator : String) (stem : List String) (level : Level) :
    level.dropSkipped.compile separator stem = pure (level.compile separator stem).result := by
  induction level generalizing stem with
  | nil => rfl
  | absent name rest ih => exact ih stem
  | key name pieces rest ih =>
      simp only [dropSkipped, compile, ih, pure_bind, Logged.result_bind]
      rfl
  | branch name below rest ihbelow ih =>
      simp only [dropSkipped, compile, ih, ihbelow, pure_bind, Logged.result_bind]
      rfl
  | gate name slots behind rest _ ih =>
      simp only [dropSkipped, compile, ih, pure_bind, Logged.result_bind]
      rfl

end Level

/-- The events in development are the warnings about the absent entries that branches
of the schema lead to, one for each, in the order of the names. In a release there
are none. -/
def Schema.Reports (schema : Schema) (separator : String) (mode : BuildMode)
    (texts : List String) (events : List Event) : Prop :=
  ∃ absences : List Absence,
    absences.Pairwise (fun absence next => absence.fullPath.map utf8 < next.fullPath.map utf8)
      ∧ (∀ absence, absence ∈ absences ↔ schema.level.LeavesOut absence)
      ∧ events = match mode with
        | .development => absences.map (Absence.warning separator texts)
        | .release => []

theorem Schema.reports_compile (schema : Schema) (separator : String) (mode : BuildMode)
    (texts : List String) : schema.Reports separator mode texts
      ((schema.level.compile separator texts).events mode) := by
  refine ⟨schema.level.absences, ?_, schema.level.mem_absences_iff, ?_⟩
  · refine (Level.pairwise_fullPath_absences schema.ordered).imp fun hpath => ?_
    exact (path_lt_iff_utf8_lt _ _).mp hpath
  · rw [Level.events_compile]
    cases mode <;> rfl

/-! ### Steps as runs -/

namespace Tree

/-- A step as a run. A branch is there already. Opening a gate reports what is
compiled for it, and nothing if it fails. -/
def takeLogged (tree : Tree) : Step → Logged (Option Tree)
  | .branch name => pure (tree.branch? name)
  | .gate name args =>
    match tree.gate? name with
    | none => pure none
    | some opener =>
      match opener.apply args with
      | .error _ => pure none
      | .ok opened => some <$> opened

theorem result_takeLogged (tree : Tree) (step : Step) :
    (tree.takeLogged step).result = tree.take? step := by
  cases step with
  | branch name => rfl
  | gate name args =>
      rw [takeLogged, take?]
      cases tree.gate? name with
      | none => rfl
      | some opener =>
          dsimp only
          cases opener.apply args with
          | error missing => rfl
          | ok opened => rfl

/-- A move as a run. -/
def holdNextLogged (held : List (List Step × Tree)) (move : Nat × Step) :
    Logged (List (List Step × Tree)) :=
  match held[move.1]? with
  | none => pure held
  | some (steps, tree) => do
    match ← tree.takeLogged move.2 with
    | none => pure held
    | some reached => pure (held ++ [(steps ++ [move.2], reached)])

/-- A move reports what its step reports. -/
theorem events_holdNextLogged (mode : BuildMode) (held : List (List Step × Tree))
    (move : Nat × Step) : (holdNextLogged held move).events mode = match held[move.1]? with
      | none => []
      | some (_, tree) => (tree.takeLogged move.2).events mode := by
  unfold holdNextLogged
  cases held[move.1]? with
  | none => rfl
  | some found =>
      obtain ⟨steps, tree⟩ := found
      dsimp only
      rw [Logged.events_bind]
      cases (tree.takeLogged move.2).result with
      | none => exact List.append_nil _
      | some reached => exact List.append_nil _

theorem result_holdNextLogged (held : List (List Step × Tree)) (move : Nat × Step) :
    (holdNextLogged held move).result = holdNext held move := by
  unfold holdNextLogged holdNext
  cases held[move.1]? with
  | none => rfl
  | some found =>
      obtain ⟨steps, tree⟩ := found
      simp only [Logged.result_bind, result_takeLogged]
      cases tree.take? move.2 with
      | none => rfl
      | some reached => rfl

end Tree

namespace Schema

/-- Compiling a schema, and then moves among the trees that are held. -/
def session (schema : Schema) (separator : String) (moves : List (Nat × Step)) :
    Logged (List (List Step × Tree)) := do
  let tree ← schema.compile separator
  moves.foldlM Tree.holdNextLogged [([], tree)]

theorem session_snoc (schema : Schema) (separator : String) (moves : List (Nat × Step))
    (move : Nat × Step) : schema.session separator (moves ++ [move])
      = schema.session separator moves >>= fun held => Tree.holdNextLogged held move := by
  simp only [session, List.foldlM_append, List.foldlM_cons, List.foldlM_nil, bind_pure, bind_assoc]

/-- What is held in the end does not depend on what is reported. -/
theorem result_session (schema : Schema) (separator : String) (moves : List (Nat × Step)) :
    (schema.session separator moves).result = (schema.compile separator).result.holdAll moves := by
  -- The induction is on the moves, so it is over whatever is held before them.
  have hrun : ∀ held : List (List Step × Tree),
      (moves.foldlM Tree.holdNextLogged held).result = moves.foldl Tree.holdNext held := by
    induction moves with
    | nil => exact fun held => rfl
    | cons move rest ih =>
        intro held
        rw [List.foldlM_cons, Logged.result_bind, Tree.result_holdNextLogged, ih]
        rfl
  exact hrun _

/-! ### What steps report -/

/-- What a step from the schema reports in a build, where its level is compiled below
some texts. Only opening a gate reports: first the gate, with all texts in front of
the schema behind it, and then the warnings of that schema. -/
inductive StepReports (schema : Schema) (separator : String) (mode : BuildMode)
    (texts : List String) : Step → List Event → Prop
  | branch (name : String) : StepReports schema separator mode texts (.branch name) []
  | noGate {name : String} {args : Arguments}
      (hnone : ∀ slots behind, schema.find? name ≠ some (some (.gate slots behind))) :
      StepReports schema separator mode texts (.gate name args) []
  | missing {name : String} {args : Arguments} {slots : Slots} {behind : Schema}
      (hgate : schema.find? name = some (some (.gate slots behind)))
      (hvalues : slots.toList.mapM args.segment? = none) :
      StepReports schema separator mode texts (.gate name args) []
  | opened {name : String} {args : Arguments} {slots : Slots} {behind : Schema}
      {segments : List String} {warnings : List Event}
      (hgate : schema.find? name = some (some (.gate slots behind)))
      (hvalues : slots.toList.mapM args.segment? = some segments)
      (hwarnings : behind.Reports separator mode (texts ++ name :: segments) warnings) :
      StepReports schema separator mode texts (.gate name args)
        (.compilingGate name (separator.intercalate (texts ++ name :: segments)) :: warnings)

/-- A compiled schema has an opener where the schema has a gate. -/
theorem gate?_compile (schema : Schema) (separator : String) (texts : List String)
    (name : String) : (schema.level.compile separator texts).result.gate? name
      = match schema.find? name with
        | some (some (.gate slots behind)) => some ⟨name, texts, slots, behind.level, separator⟩
        | _ => none := by
  rw [Tree.gate?, Level.find?_compile schema.ordered, presentAt?_level]
  rcases schema.find? name with _ | _ | node
  · rfl
  · rfl
  · cases node <;> rfl

/-- Opening a gate gives something exactly if all slots have segments. Then the
gate is reported, and what compiling the schema behind it reports. -/
theorem apply_compiled_gate (name separator : String) (texts : List String) (slots : Slots)
    (behind : Level) (args : Arguments) :
    match slots.toList.mapM args.segment? with
    | none => ∃ missing, (Opener.mk name texts slots behind separator).apply args = .error missing
    | some segments => ∃ opened,
        (Opener.mk name texts slots behind separator).apply args = .ok opened
          ∧ ∀ mode, opened.events mode
            = .compilingGate name (separator.intercalate (texts ++ name :: segments))
              :: (behind.compile separator (texts ++ name :: segments)).events mode := by
  rw [Arguments.mapM_segment?_eq, Opener.apply_eq]
  cases args.firstMissing? slots.toList with
  | some slot => exact ⟨_, rfl⟩
  | none =>
      refine ⟨_, rfl, fun mode => ?_⟩
      simp [Opener.opened, Opener.openedStem, Opener.path]

/-- A step from a compiled schema reports what the schema tells. -/
theorem stepReports_takeLogged (schema : Schema) (separator : String) (mode : BuildMode)
    (texts : List String) (step : Step) : schema.StepReports separator mode texts step
      (((schema.level.compile separator texts).result.takeLogged step).events mode) := by
  cases step with
  | branch name => exact .branch name
  | gate name args =>
      have hopener := schema.gate?_compile separator texts name
      rw [Tree.takeLogged]
      by_cases hgate : ∃ slots behind, schema.find? name = some (some (.gate slots behind))
      · obtain ⟨slots, behind, hfind⟩ := hgate
        have happly := apply_compiled_gate name separator texts slots behind.level args
        rw [hfind] at hopener
        cases hvalues : slots.toList.mapM args.segment? with
        | none =>
            rw [hvalues] at happly
            obtain ⟨missing, herror⟩ := happly
            simp only [hopener, herror]
            exact .missing hfind hvalues
        | some segments =>
            rw [hvalues] at happly
            obtain ⟨opened, hopened, hevents⟩ := happly
            simp only [hopener, hopened, Logged.events_map, hevents]
            exact .opened hfind hvalues (behind.reports_compile separator mode _)
      · have hnone : ∀ slots behind, schema.find? name ≠ some (some (.gate slots behind)) :=
          fun slots behind heq => hgate ⟨slots, behind, heq⟩
        have hclosed : (schema.level.compile separator texts).result.gate? name = none := by
          rw [hopener]
          split
          · rename_i slots behind hfind
            exact absurd hfind (hnone slots behind)
          · rfl
        rw [hclosed]
        exact .noGate hnone

/-- A held tree is the schema that its steps lead to, compiled below their
texts. -/
theorem exists_follow?_of_session {schema : Schema} {separator : String}
    {moves : List (Nat × Step)} {steps : List Step} {tree : Tree}
    (h : (steps, tree) ∈ (schema.session separator moves).result) :
    ∃ texts reached, schema.follow? steps = some (texts, reached)
      ∧ tree = (reached.level.compile separator texts).result := by
  rw [result_session] at h
  have hwalk := Tree.walk?_of_mem_holdAll _ moves _ h
  rw [compile, walk?_compile, Option.map_eq_some_iff] at hwalk
  obtain ⟨⟨texts, reached⟩, hfollow, htree⟩ := hwalk
  exact ⟨texts, reached, hfollow, htree.symm⟩

/-- The reports of a session are exact. In development compiling a schema warns of
the absent entries that branches lead to, once of each, and in a release it reports
nothing. After that each move adds what the schema tells of its step, whatever has
been opened before: nothing if the step fails or enters a branch, and for a gate that
opens the gate and then the warnings of the schema behind it. The warnings are all
that is due to the entries that are left out. -/
theorem session_reports (schema : Schema) (separator : String) (mode : BuildMode) :
    schema.Reports separator mode [] ((schema.compile separator).events mode)
      ∧ (schema.session separator []).events mode = (schema.compile separator).events mode
      ∧ (∀ moves move, ∃ report,
          (schema.session separator (moves ++ [move])).events mode
              = (schema.session separator moves).events mode ++ report
            ∧ match (schema.session separator moves).result[move.1]? with
              | none => report = []
              | some (steps, _) => ∃ texts reached, schema.follow? steps = some (texts, reached)
                  ∧ reached.StepReports separator mode texts move.2 report)
      ∧ ∀ texts, schema.level.dropSkipped.compile separator texts
          = pure (schema.level.compile separator texts).result := by
  refine ⟨schema.reports_compile separator mode [], ?_, fun moves move => ?_,
    fun texts => Level.compile_dropSkipped separator texts schema.level⟩
  · simp [session]
  · rw [session_snoc, Logged.events_bind]
    refine ⟨_, rfl, ?_⟩
    rw [Tree.events_holdNextLogged]
    cases hheld : (schema.session separator moves).result[move.1]? with
    | none => rfl
    | some found =>
        obtain ⟨steps, tree⟩ := found
        obtain ⟨texts, reached, hfollow, rfl⟩ :=
          exists_follow?_of_session (List.mem_of_getElem? hheld)
        exact ⟨texts, reached, hfollow,
          reached.stepReports_takeLogged separator mode texts move.2⟩

end Schema

end KeyTree
