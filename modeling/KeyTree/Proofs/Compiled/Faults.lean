import KeyTree.Proofs.Compiled.Missing
import KeyTree.Proofs.Schema.Paths

/-!
# `KeyTree.Proofs.Compiled.Faults`: paths that lead to no key

A path can miss all keys in three ways: it goes on behind a key, it ends at a
branch or a gate, or nothing stands where it leads (`Level.FaultAt`). Which of
them it is depends on the schema alone, and so does the part of the path that
is reported: `Level.FaultAt.unique`.

Before the walk gets there, gates on the way may lack values. The first of them
is reported instead (`Level.ClosedAt`). A gate at the end of a path is not
opened, so it is never asked for values.

* `Level.exists_fault`: with all values that the path needs, the walk ends at
  the fault.
* `Level.exists_closed`: without one of them, it ends at the first closed gate.
* `Schema.closed_gate_or_fault`: so a path that is not that of a template never
  resolves, and the error is one or the other.

The walk is `Level.resolution`, with texts and names still apart; both
inductions are on the path, with what is in front of it generalised.
-/

set_option autoImplicit false

namespace KeyTree

/-! ### Faults -/

namespace PathFault

/-- The part of the path that is reported. -/
def names : PathFault → List String
  | emptyPath => []
  | unknownEntry names | notAKey names | notATree names => names

/-- The fault as it is reported from further up. -/
def under (front : List String) : PathFault → PathFault
  | emptyPath => emptyPath
  | unknownEntry names => unknownEntry (front ++ names)
  | notAKey names => notAKey (front ++ names)
  | notATree names => notATree (front ++ names)

@[simp] theorem under_nil (fault : PathFault) : fault.under [] = fault := by
  cases fault <;> rfl

theorem under_under (front more : List String) (fault : PathFault) :
    (fault.under more).under front = fault.under (front ++ more) := by
  cases fault <;> simp [under]

end PathFault

namespace Level

/-- Why a path of names leads to no key, whatever the arguments. -/
inductive FaultAt (level : Level) (path : List String) : PathFault → Prop
  /-- A part of the path leads to a key, and the path goes on. -/
  | notATree {names : List String} {stages : List Stage} {pieces : List Piece}
      (hkey : level.entryAt? names = some (stages, .key pieces)) (hnames : names <+: path)
      (hmore : names ≠ path) : FaultAt level path (.notATree names)
  /-- The path leads to a branch or a gate. -/
  | notAKey {stages : List Stage} {entry : Entry} {inner : Level}
      (hentry : level.entryAt? path = some (stages, entry)) (hbelow : entry.below? = some inner) :
      FaultAt level path (.notAKey path)
  /-- A part of the path leads to no present entry. It is the shortest: what is
  shorter leads to branches and gates. -/
  | unknownEntry {names : List String} (hnone : level.entryAt? names = none) (hne : names ≠ [])
      (hnames : names <+: path)
      (hshorter : ∀ shorter, shorter <+: names → shorter ≠ [] → shorter ≠ names →
        ∃ stages entry inner, level.entryAt? shorter = some (stages, entry)
          ∧ entry.below? = some inner) :
      FaultAt level path (.unknownEntry names)

namespace FaultAt

variable {level inner : Level} {name : String} {entry : Entry} {path rest : List String}
  {fault other : PathFault}

/-- What is reported is a part of the path. -/
theorem names_prefix (h : level.FaultAt path fault) : fault.names <+: path := by
  cases h with
  | notATree hkey hnames hmore => exact hnames
  | notAKey hentry hbelow => exact List.prefix_rfl
  | unknownEntry hnone hne hnames hshorter => exact hnames

theorem names_ne_nil (h : level.FaultAt path fault) : fault.names ≠ [] := by
  cases h with
  | notATree hkey hnames hmore => exact ne_nil_of_entryAt? hkey
  | notAKey hentry hbelow => exact ne_nil_of_entryAt? hentry
  | unknownEntry hnone hne hnames hshorter => exact hne

/-- What is shorter than the reported part leads to branches and gates. -/
theorem exists_below (h : level.FaultAt path fault) {shorter : List String}
    (hshorter : shorter <+: fault.names) (hne : shorter ≠ []) (hmore : shorter ≠ fault.names) :
    ∃ stages entry inner, level.entryAt? shorter = some (stages, entry)
      ∧ entry.below? = some inner := by
  cases h with
  | notATree hkey hnames => exact exists_below_of_prefix hkey hshorter hne hmore
  | notAKey hentry hbelow => exact exists_below_of_prefix hentry hshorter hne hmore
  | unknownEntry hnone _ hnames hbelow => exact hbelow shorter hshorter hne hmore

/-- Two faults of a path are reported at the same part of it: at the shorter
of two parts there would be a branch or a gate, where the path goes on. -/
theorem names_unique (h : level.FaultAt path fault) (h' : level.FaultAt path other) :
    fault.names = other.names := by
  have hshorter : ∀ {fault other : PathFault}, level.FaultAt path fault →
      level.FaultAt path other → fault.names <+: other.names → fault.names = other.names := by
    intro fault other h h' hpart
    by_contra hne
    obtain ⟨stages, entry, inner, hentry, hbelow⟩ := h'.exists_below hpart h.names_ne_nil hne
    cases h with
    | @notATree names _ _ hkey hnames hmore =>
        rw [show entryAt? level names = _ from hentry] at hkey
        cases hkey
        cases hbelow
    | notAKey _ _ =>
        have hpath : other.names <+: path := h'.names_prefix
        exact hne (hpart.eq_of_length_le hpath.length_le)
    | @unknownEntry names hnone _ _ _ =>
        rw [show entryAt? level names = _ from hentry] at hnone
        cases hnone
  rcases List.prefix_or_prefix_of_prefix h.names_prefix h'.names_prefix with hle | hle
  · exact hshorter h h' hle
  · exact (hshorter h' h hle).symm

/-- What stands at the reported part tells the fault. -/
theorem eq_ite (h : level.FaultAt path fault) :
    fault = if level.entryAt? fault.names = none then .unknownEntry fault.names
      else if fault.names = path then .notAKey fault.names else .notATree fault.names := by
  cases h with
  | notATree hkey hnames hmore => simp [PathFault.names, hkey, hmore]
  | notAKey hentry hbelow => simp [PathFault.names, hentry]
  | unknownEntry hnone hne hnames hshorter => simp [PathFault.names, hnone]

/-- A path has one fault. -/
theorem unique (h : level.FaultAt path fault) (h' : level.FaultAt path other) : fault = other := by
  rw [h.eq_ite, h'.eq_ite, names_unique h h']

/-- Nothing stands under the first name. -/
theorem of_none (hentry : level.presentAt? name = none) (rest : List String) :
    level.FaultAt (name :: rest) (.unknownEntry [name]) := by
  refine .unknownEntry (entryAt?_cons_of_none hentry []) (List.cons_ne_nil name [])
    (List.prefix_append [name] rest) fun shorter hpart hne hmore => ?_
  -- A single name has no shorter part but the empty one.
  obtain ⟨others, rfl, hothers⟩ := exists_cons_of_prefix hpart hne
  exact absurd (congrArg _ (List.prefix_nil.mp hothers)) hmore

/-- The path goes on behind a key. -/
theorem of_key {pieces : List Piece} (hentry : level.presentAt? name = some (.key pieces))
    (hne : rest ≠ []) : level.FaultAt (name :: rest) (.notATree [name]) := by
  have hkey : level.entryAt? [name] = some ([], .key pieces) :=
    entryAt?_cons_eq_some_iff.mpr (.inl ⟨rfl, rfl, hentry⟩)
  exact .notATree hkey (List.prefix_append [name] rest) fun heq => hne (List.cons.inj heq).2.symm

/-- The path ends at an entry with a level below it. -/
theorem of_end (hentry : level.presentAt? name = some entry) (hbelow : entry.below? = some inner) :
    level.FaultAt [name] (.notAKey [name]) :=
  .notAKey (entryAt?_cons_eq_some_iff.mpr (.inl ⟨rfl, rfl, hentry⟩)) hbelow

/-- A fault below an entry is one of the path through the entry. -/
theorem behind (hentry : level.presentAt? name = some entry) (hbelow : entry.below? = some inner)
    (h : inner.FaultAt rest fault) : level.FaultAt (name :: rest) (fault.under [name]) := by
  have hthrough : ∀ {names stages found}, inner.entryAt? names = some (stages, found) →
      level.entryAt? (name :: names) = some (entry.stage name :: stages, found) :=
    fun hfound => entryAt?_cons_eq_some_iff.mpr
      (.inr ⟨entry, inner, _, hentry, hbelow, hfound, rfl⟩)
  cases h with
  | notATree hkey hnames hmore =>
      exact .notATree (hthrough hkey) (List.cons_prefix_cons.mpr ⟨rfl, hnames⟩)
        fun heq => hmore (List.cons.inj heq).2
  | notAKey hfound hdeeper => exact .notAKey (hthrough hfound) hdeeper
  | @unknownEntry names hnone hne hnames hshorter =>
      have hnone' : level.entryAt? (name :: names) = none := by
        rw [entryAt?_cons hentry hbelow hne, hnone]
        rfl
      refine .unknownEntry hnone' (List.cons_ne_nil _ _) (List.cons_prefix_cons.mpr ⟨rfl, hnames⟩)
        fun shorter hpart hshort hmore => ?_
      obtain ⟨others, rfl, hothers⟩ := exists_cons_of_prefix hpart hshort
      by_cases hend : others = []
      · subst hend
        exact ⟨[], entry, inner, entryAt?_cons_eq_some_iff.mpr (.inl ⟨rfl, rfl, hentry⟩), hbelow⟩
      · obtain ⟨stages, further, deeper, hfurther, hdeeper⟩ :=
          hshorter others hothers hend fun heq => hmore (congrArg _ heq)
        exact ⟨_, further, deeper, hthrough hfurther, hdeeper⟩

end FaultAt

/-! ### Closed gates -/

/-- The first gate that a path goes on behind and that lacks a value, with the
first slot it lacks and the place where that is reported: the texts of what
stands in front of the gate, and the gate's name. -/
inductive ClosedAt (args : Arguments) (level : Level) (path : List String) (slot : Slot) :
    List String → Prop
  | gate {front : List String} {name : String} {stages : List Stage} {slots : Slots}
      {behind : Level}
      (hgate : level.entryAt? (front ++ [name]) = some (stages, .gate slots behind))
      (hthrough : front ++ [name] <+: path) (hmore : front ++ [name] ≠ path)
      (hfront : ∀ outer ∈ stages.flatMap Stage.slots, args.Fills outer)
      (hslot : args.firstMissing? slots.toList = some slot) :
      ClosedAt args level path slot (Stage.texts args stages ++ [name])

variable {args : Arguments} {level inner : Level} {name : String} {entry : Entry}
  {path rest place : List String} {slot : Slot}

/-- A closed gate below an entry is one of the path through the entry, if the
entry lacks nothing itself. -/
theorem ClosedAt.behind (hentry : level.presentAt? name = some entry)
    (hbelow : entry.below? = some inner)
    (hfills : ∀ outer ∈ (entry.stage name).slots, args.Fills outer)
    (h : ClosedAt args inner rest slot place) :
    ClosedAt args level (name :: rest) slot
      ((entry.stage name).pieces.map (Piece.filled args) ++ place) := by
  cases h with
  | @gate front last stages slots behind hgate hthrough hmore hfront hslot =>
      have hfound : level.entryAt? ((name :: front) ++ [last])
          = some (entry.stage name :: stages, .gate slots behind) :=
        entryAt?_cons_eq_some_iff.mpr (.inr ⟨entry, inner, _, hentry, hbelow, hgate, rfl⟩)
      have htexts : (entry.stage name).pieces.map (Piece.filled args)
            ++ (Stage.texts args stages ++ [last])
          = Stage.texts args (entry.stage name :: stages) ++ [last] := by
        simp [Stage.texts]
      rw [htexts]
      refine .gate hfound (List.cons_prefix_cons.mpr ⟨rfl, hthrough⟩)
        (fun heq => hmore (List.cons.inj heq).2) (fun outer hmem => ?_) hslot
      rw [List.flatMap_cons, List.mem_append] at hmem
      exact hmem.elim (hfills outer) (hfront outer)

/-- A path that starts at a closed gate goes no further. -/
theorem ClosedAt.of_gate {slots : Slots} {behind : Level}
    (hentry : level.presentAt? name = some (.gate slots behind)) (hne : rest ≠ [])
    (hslot : args.firstMissing? slots.toList = some slot) :
    ClosedAt args level (name :: rest) slot [name] := by
  have hgate : level.entryAt? ([] ++ [name]) = some ([], .gate slots behind) :=
    entryAt?_cons_eq_some_iff.mpr (.inl ⟨rfl, rfl, hentry⟩)
  exact .gate hgate (List.prefix_append [name] rest) (fun heq => hne (List.cons.inj heq).2.symm)
    (List.forall_mem_nil _) hslot

/-! ### The walk -/

/-- The walk goes on below an entry that lacks nothing, and puts the texts of
the entry in front. -/
theorem resolution_behind (hentry : level.presentAt? name = some entry)
    (hbelow : entry.below? = some inner) (hne : rest ≠ [])
    (hfills : args.firstMissing? entry.slots = none) (stem walked : List String) :
    level.resolution args stem walked (name :: rest)
      = inner.resolution args (stem ++ (entry.stage name).pieces.map (Piece.filled args))
          (walked ++ [name]) rest := by
  cases entry with
  | key pieces => cases hbelow
  | branch below =>
      cases hbelow
      simp [resolution, hentry, hne, Entry.stage, Piece.filled]
  | gate slots behind =>
      cases hbelow
      rw [Entry.slots] at hfills
      simp [resolution, hentry, hne, hfills, Entry.stage]

/-- A path that leads to no key has a fault, and the walk ends there if it
finds every value that the path needs. -/
theorem exists_fault (hne : path ≠ []) (hkey : ¬ level.HasKeyAt path) :
    ∃ fault, level.FaultAt path fault
      ∧ ∀ args stem walked, (∀ slot, level.Needs path slot → args.Fills slot) →
          level.resolution args stem walked path = .fault (fault.under walked) := by
  -- The fault is found before the arguments are given: it is the same for all.
  induction path generalizing level with
  | nil => exact absurd rfl hne
  | cons name rest ih =>
      cases hentry : level.presentAt? name with
      | none =>
          refine ⟨_, .of_none hentry rest, fun args stem walked _ => ?_⟩
          simp [resolution, hentry, PathFault.under]
      | some entry =>
          cases hbelow : entry.below? with
          | none =>
              obtain ⟨pieces, rfl⟩ := Entry.below?_eq_none_iff.mp hbelow
              have hmore : rest ≠ [] := by
                rintro rfl
                exact hkey (.of_key hentry)
              refine ⟨_, .of_key hentry hmore, fun args stem walked _ => ?_⟩
              simp [resolution, hentry, hmore, PathFault.under]
          | some inner =>
              by_cases hend : rest = []
              · subst hend
                refine ⟨_, .of_end hentry hbelow, fun args stem walked _ => ?_⟩
                cases entry with
                | key pieces => cases hbelow
                | branch below => simp [resolution, hentry, PathFault.under]
                | gate slots behind => simp [resolution, hentry, PathFault.under]
              · obtain ⟨fault, hfault, hwalk⟩ := ih hend fun h => hkey (h.behind hentry hbelow)
                refine ⟨_, hfault.behind hentry hbelow, fun args stem walked hfills => ?_⟩
                have hopen : args.firstMissing? entry.slots = none := by
                  rw [Arguments.firstMissing?_eq_none_iff]
                  intro slot hslot
                  refine hfills slot ((needs_cons_iff hentry).mpr (.inl ⟨hslot, ?_⟩))
                  simp [hend, hbelow]
                rw [resolution_behind hentry hbelow hend hopen, PathFault.under_under]
                refine hwalk args _ _ fun slot hneeds => ?_
                exact hfills slot ((needs_cons_iff hentry).mpr (.inr ⟨inner, hbelow, hneeds⟩))

/-- Where a path that leads to no key needs a value that is not given, the walk
ends at the first gate that lacks one. -/
theorem exists_closed (hkey : ¬ level.HasKeyAt path)
    (hlacks : ∃ slot, level.Needs path slot ∧ ¬ args.Fills slot) (stem walked : List String) :
    ∃ slot place, ClosedAt args level path slot place
      ∧ level.resolution args stem walked path = .missing slot (stem ++ place) := by
  obtain ⟨lacking, hneeds, hlacks⟩ := hlacks
  induction path generalizing level stem walked with
  | nil => exact absurd hneeds (not_needs_nil level lacking)
  | cons name rest ih =>
      cases hentry : level.presentAt? name with
      | none => exact absurd hneeds (not_needs_cons_of_none hentry)
      | some entry =>
          cases hbelow : entry.below? with
          | none =>
              -- Only a key at the end of a path needs anything.
              obtain ⟨pieces, rfl⟩ := Entry.below?_eq_none_iff.mp hbelow
              rcases (needs_cons_iff hentry).mp hneeds with ⟨-, hend⟩ | ⟨inner, hinner, -⟩
              · obtain rfl := hend.mpr hbelow
                exact absurd (.of_key hentry) hkey
              · cases hinner
          | some inner =>
              have hend : rest ≠ [] := by
                rintro rfl
                simp [needs_cons_iff hentry, hbelow, not_needs_nil] at hneeds
              cases hmissing : args.firstMissing? entry.slots with
              | some slot =>
                  cases entry with
                  | key pieces => cases hbelow
                  | branch below => cases hmissing
                  | gate slots behind =>
                      rw [Entry.slots] at hmissing
                      refine ⟨slot, _, .of_gate hentry hend hmissing, ?_⟩
                      simp [resolution, hentry, hend, hmissing]
              | none =>
                  have hfills := Arguments.firstMissing?_eq_none_iff.mp hmissing
                  have hdeeper : inner.Needs rest lacking := by
                    rcases (needs_cons_iff hentry).mp hneeds with ⟨hslot, -⟩ | ⟨_, hinner, hneeds⟩
                    · exact absurd (hfills lacking hslot) hlacks
                    · obtain rfl := Option.some.inj (hbelow.symm.trans hinner)
                      exact hneeds
                  obtain ⟨slot, place, hclosed, hwalk⟩ :=
                    ih (fun h => hkey (h.behind hentry hbelow))
                      (stem ++ (entry.stage name).pieces.map (Piece.filled args))
                      (walked ++ [name]) hdeeper
                  refine ⟨slot, _, hclosed.behind hentry hbelow ?_, ?_⟩
                  · rwa [Entry.slots_stage]
                  · rw [resolution_behind hentry hbelow hend hmissing, hwalk, List.append_assoc]

end Level

/-- A path of names that is not the path of a template has exactly one fault,
and resolving it never gives a key. If every gate that the path goes on behind
has its values, the fault is the error: a part of the path that is a key, the
whole path if it ends at a branch or a gate, or else the shortest part at which
no present entry stands, with the names joined by dots. Otherwise the error is
the first missing slot of the first gate that lacks one. -/
theorem Schema.closed_gate_or_fault {schema : Schema} {path : List String} (hne : path ≠ [])
    (hkey : ∀ template ∈ schema.templates, template.path ≠ path) (separator : String)
    (args : Arguments) :
    let resolved := ((schema.compile separator).result.resolve path args).result
    ∃ fault, (∀ other, schema.level.FaultAt path other ↔ other = fault)
      ∧ (((∀ slot, schema.level.Needs path slot → args.Fills slot)
            ∧ resolved = .error fault.error)
        ∨ ∃ slot place, Level.ClosedAt args schema.level path slot place
            ∧ resolved = .error (.missing ⟨slot.name, separator.intercalate place⟩)) := by
  intro resolved
  have hnot : ¬ schema.level.HasKeyAt path := by
    intro h
    obtain ⟨template, hmem, hpath⟩ := h.exists_template schema.ordered
    exact hkey template hmem hpath
  have hresolved : resolved = (schema.level.resolution args [] [] path).joined separator :=
    resolve_compile_eq_joined schema separator path args
  obtain ⟨fault, hfault, hwalk⟩ := Level.exists_fault hne hnot
  refine ⟨fault, fun other => ⟨fun hother => hother.unique hfault, fun heq => heq ▸ hfault⟩, ?_⟩
  by_cases hfills : ∀ slot, schema.level.Needs path slot → args.Fills slot
  · refine .inl ⟨hfills, ?_⟩
    rw [hresolved, hwalk args [] [] hfills, PathFault.under_nil]
    rfl
  · push Not at hfills
    obtain ⟨slot, place, hclosed, hwalk⟩ := Level.exists_closed hnot hfills [] []
    refine .inr ⟨slot, place, hclosed, ?_⟩
    rw [hresolved, hwalk]
    rfl

/-- A badge has no color of its own to go on to. The path to one is at fault
where the badge stands. -/
theorem Schema.teams_behind_badge :
    let args : Arguments := NameMap.ofList [("id", some (.text "a/b")), ("size", some (.signed 3))]
    let path := ["org", "team", "badge", "color"]
    teams.level.FaultAt path (.notATree ["org", "team", "badge"])
      ∧ ((teams.compile "/").result.resolve path args).result
        = .error (.notATree "org.team.badge") := by
  intro args path
  have hfault : teams.level.FaultAt path (.notATree ["org", "team", "badge"]) :=
    .notATree rfl (by decide) (by decide)
  obtain ⟨fault, hunique, ⟨-, hresolved⟩ | ⟨slot, place, -, hresolved⟩⟩ :=
    @closed_gate_or_fault teams path (by decide) (by decide) "/" args
  · obtain rfl := (hunique _).mp hfault
    exact ⟨hfault, hresolved⟩
  · -- The arguments leave no gate closed.
    have hopen : ((teams.compile "/").result.resolve path args).result
        = .error (.notATree "org.team.badge") := by decide
    rw [hopen] at hresolved
    cases hresolved

-- A gate is asked for its values only where the path goes on behind it.
example :
    let resolved := fun path =>
      ((Schema.teams.compile "/").result.resolve path NameMap.empty).result
    resolved ["org"] = .error (.notAKey "org")
      ∧ resolved ["org", "x"] = .error (.missing ⟨"id", "org"⟩)
      ∧ resolved ["x", "org"] = .error (.unknownEntry "x") := by
  decide

end KeyTree
