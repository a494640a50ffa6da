import KeyTree.Proofs.Schema.Stages

/-!
# `KeyTree.Proofs.Schema.Placed`: the entries of a schema in their places

What has to hold of an entry often hangs on where it stands: on the names
that lead to it, and on the slots of the gates around it. `Level.Placed` is
a present entry with both.

* `Level.Reaches`: the placed entries that a level leads to, step by step.
* `Level.placedFrom`: the same entries in a list, each before those below it.
* `mem_placedFrom_iff`: the list holds what is reached and nothing else.
* `pairwise_path_placedFrom`: in a level in name order the paths of the list
  strictly increase, so no entry is listed twice and the order is no choice.
-/

set_option autoImplicit false

namespace KeyTree.Level

/-- The slots that an entry has itself, in order. -/
def Entry.slots : Entry → List Slot
  | .key pieces => slotsOf pieces
  | .branch _ => []
  | .gate slots _ => slots.toList

/-- The slots of an entry are those that have to be filled at its stage. -/
theorem Entry.slots_stage (name : String) (entry : Entry) :
    (entry.stage name).slots = entry.slots := by
  cases entry with
  | key pieces => rfl
  | branch below => rfl
  | gate slots behind => exact slots_stage_gate name slots behind

/-- A present entry in its place. -/
structure Placed where
  /-- The names that lead to the entry, its own last. -/
  path : List String
  /-- The slots of the gates around the entry, outermost first. -/
  inherited : List Slot
  entry : Entry

namespace Placed

/-- All slots that apply to the entry. -/
def scope (placed : Placed) : List Slot := placed.inherited ++ placed.entry.slots

/-- The entry as it is placed seen from further up: below the names `path`
and behind gates with the slots `inherited`. -/
def under (path : List String) (inherited : List Slot) (placed : Placed) : Placed :=
  ⟨path ++ placed.path, inherited ++ placed.inherited, placed.entry⟩

@[simp] theorem under_nil (placed : Placed) : placed.under [] [] = placed := rfl

theorem under_under (path path' : List String) (inherited inherited' : List Slot)
    (placed : Placed) :
    (placed.under path' inherited').under path inherited
      = placed.under (path ++ path') (inherited ++ inherited') := by
  simp [under]

end Placed

/-! ### What a level leads to -/

/-- The present entries that a level leads to: its own, and those of the
levels below them, which stand behind the slots of the entries above. -/
inductive Reaches : Level → Placed → Prop
  | here {level : Level} {name : String} {entry : Entry} (hentry : (name, entry) ∈ level.present) :
      Reaches level ⟨[name], [], entry⟩
  | deeper {level inner : Level} {name : String} {entry : Entry} {placed : Placed}
      (hentry : (name, entry) ∈ level.present) (hbelow : entry.below? = some inner)
      (hreach : Reaches inner placed) : Reaches level (placed.under [name] entry.slots)

/-- An absent entry leads nowhere. -/
theorem reaches_absent_iff {name : String} {rest : Level} {placed : Placed} :
    (Level.absent name rest).Reaches placed ↔ rest.Reaches placed := by
  constructor
  · intro h
    cases h with
    | here hentry => exact .here hentry
    | deeper hentry hbelow hreach => exact .deeper hentry hbelow hreach
  · intro h
    cases h with
    | here hentry => exact .here hentry
    | deeper hentry hbelow hreach => exact .deeper hentry hbelow hreach

/-- A level leads to its first entry, to what is below that, and to what its
other entries lead to. -/
theorem reaches_cons_iff (name : String) (entry : Entry) (rest : Level) (placed : Placed) :
    (cons name (some entry) rest).Reaches placed
      ↔ placed = ⟨[name], [], entry⟩
        ∨ (∃ inner below, entry.below? = some inner ∧ inner.Reaches below
            ∧ placed = below.under [name] entry.slots)
        ∨ rest.Reaches placed := by
  have hpresent := present_cons name entry rest
  constructor
  · intro h
    generalize hlevel : cons name (some entry) rest = level at h
    cases h with
    | here hentry =>
        rw [← hlevel, hpresent] at hentry
        rcases List.mem_cons.mp hentry with heq | hentry
        · cases heq
          exact .inl rfl
        · exact .inr (.inr (.here hentry))
    | deeper hentry hbelow hreach =>
        rw [← hlevel, hpresent] at hentry
        rcases List.mem_cons.mp hentry with heq | hentry
        · cases heq
          exact .inr (.inl ⟨_, _, hbelow, hreach, rfl⟩)
        · exact .inr (.inr (.deeper hentry hbelow hreach))
  · have hmem : ∀ listed, listed ∈ rest.present →
        listed ∈ (cons name (some entry) rest).present := by
      intro listed hlisted
      rw [hpresent]
      exact List.mem_cons_of_mem _ hlisted
    have hfirst : (name, entry) ∈ (cons name (some entry) rest).present := by
      rw [hpresent]
      exact List.mem_cons_self
    rintro (rfl | ⟨inner, below, hbelow, hreach, rfl⟩ | h)
    · exact .here hfirst
    · exact .deeper hfirst hbelow hreach
    · cases h with
      | here hentry => exact .here (hmem _ hentry)
      | deeper hentry hbelow hreach => exact .deeper (hmem _ hentry) hbelow hreach

/-! ### The list of them -/

/-- The present entries of a level at `path`, behind gates with the slots
`inherited`, and of all levels below: depth first, each entry before those
below it. -/
def placedFrom (path : List String) (inherited : List Slot) : Level → List Placed
  | .nil => []
  | .absent _ rest => rest.placedFrom path inherited
  | .key name pieces rest =>
    ⟨path ++ [name], inherited, .key pieces⟩ :: rest.placedFrom path inherited
  | .branch name below rest =>
    ⟨path ++ [name], inherited, .branch below⟩ :: below.placedFrom (path ++ [name]) inherited
      ++ rest.placedFrom path inherited
  | .gate name slots behind rest =>
    ⟨path ++ [name], inherited, .gate slots behind⟩
      :: behind.placedFrom (path ++ [name]) (inherited ++ slots.toList)
      ++ rest.placedFrom path inherited

/-- An entry with a level below it is listed before the entries of that level,
and these before all other entries. -/
theorem placedFrom_cons {path : List String} {inherited : List Slot} {name : String}
    {entry : Entry} {inner : Level} (hbelow : entry.below? = some inner) (rest : Level) :
    (cons name (some entry) rest).placedFrom path inherited
      = ⟨path ++ [name], inherited, entry⟩
        :: inner.placedFrom (path ++ [name]) (inherited ++ entry.slots)
        ++ rest.placedFrom path inherited := by
  cases entry with
  | key pieces => cases hbelow
  | branch below =>
      cases hbelow
      rw [show (Entry.branch inner).slots = [] from rfl, List.append_nil]
      rfl
  | gate slots behind =>
      cases hbelow
      rfl

/-- The entry with the level `inner` below it leads to what `inner` leads to. -/
private theorem mem_placedFrom_cons {path : List String} {inherited : List Slot} (name : String)
    (entry : Entry) {inner rest : Level} (hbelow : entry.below? = some inner)
    (ihinner : ∀ path inherited placed, placed ∈ inner.placedFrom path inherited
      ↔ ∃ found, inner.Reaches found ∧ placed = found.under path inherited)
    (ihrest : ∀ placed, placed ∈ rest.placedFrom path inherited
      ↔ ∃ found, rest.Reaches found ∧ placed = found.under path inherited)
    (placed : Placed) :
    placed ∈ (cons name (some entry) rest).placedFrom path inherited
      ↔ ∃ found, (cons name (some entry) rest).Reaches found
          ∧ placed = found.under path inherited := by
  rw [placedFrom_cons hbelow, List.cons_append, List.mem_cons, List.mem_append, ihinner, ihrest]
  constructor
  · rintro (rfl | ⟨found, hfound, rfl⟩ | ⟨found, hfound, rfl⟩)
    · refine ⟨⟨[name], [], entry⟩, ?_, by simp [Placed.under]⟩
      exact (reaches_cons_iff name entry rest _).mpr (.inl rfl)
    · refine ⟨found.under [name] entry.slots, ?_, (Placed.under_under ..).symm⟩
      exact (reaches_cons_iff name entry rest _).mpr
        (.inr (.inl ⟨inner, found, hbelow, hfound, rfl⟩))
    · exact ⟨found, (reaches_cons_iff name entry rest _).mpr (.inr (.inr hfound)), rfl⟩
  · rintro ⟨found, hfound, rfl⟩
    rcases (reaches_cons_iff name entry rest _).mp hfound with
      rfl | ⟨other, below, hother, hbelow', rfl⟩ | hrest
    · exact .inl (by simp [Placed.under])
    · obtain rfl : inner = other := Option.some.inj (hbelow.symm.trans hother)
      exact .inr (.inl ⟨below, hbelow', Placed.under_under ..⟩)
    · exact .inr (.inr ⟨found, hrest, rfl⟩)

/-- The list holds just the entries that the level leads to. -/
theorem mem_placedFrom_iff (level : Level) (path : List String) (inherited : List Slot)
    (placed : Placed) :
    placed ∈ level.placedFrom path inherited
      ↔ ∃ found, level.Reaches found ∧ placed = found.under path inherited := by
  induction level generalizing path inherited placed with
  | nil =>
      constructor
      · intro h
        cases h
      · rintro ⟨found, hfound, -⟩
        cases hfound with
        | here hentry => cases hentry
        | deeper hentry => cases hentry
  | absent name rest ih =>
      simp only [reaches_absent_iff]
      exact ih path inherited placed
  | key name pieces rest ih =>
      have hcons := reaches_cons_iff name (.key pieces) rest
      rw [placedFrom, List.mem_cons, ih]
      constructor
      · rintro (rfl | ⟨found, hfound, rfl⟩)
        · exact ⟨⟨[name], [], .key pieces⟩, (hcons _).mpr (.inl rfl), by simp [Placed.under]⟩
        · exact ⟨found, (hcons _).mpr (.inr (.inr hfound)), rfl⟩
      · rintro ⟨found, hfound, rfl⟩
        -- Nothing is below a key.
        rcases (hcons _).mp hfound with rfl | ⟨inner, below, hbelow, -⟩ | hrest
        · exact .inl (by simp [Placed.under])
        · cases hbelow
        · exact .inr ⟨found, hrest, rfl⟩
  | branch name below rest ihb ihr =>
      exact mem_placedFrom_cons name (.branch below) rfl ihb (ihr path inherited) placed
  | gate name slots behind rest ihb ihr =>
      exact mem_placedFrom_cons name (.gate slots behind) rfl ihb (ihr path inherited) placed

/-! ### The order of the list -/

/-- The path of a reached entry starts with a name of the level. -/
theorem Reaches.exists_path {level : Level} {placed : Placed} (h : level.Reaches placed) :
    ∃ name ∈ level.names, ∃ more, placed.path = name :: more := by
  have hname : ∀ {name : String} {entry : Entry}, (name, entry) ∈ level.present →
      name ∈ level.names := by
    intro name entry hentry
    exact level.sublist_names_present.subset (List.mem_map_of_mem hentry)
  cases h with
  | here hentry => exact ⟨_, hname hentry, [], rfl⟩
  | deeper hentry hbelow hreach => exact ⟨_, hname hentry, _, rfl⟩

/-- What a level below an entry lists comes behind the entry, and what other
entries of greater names list comes behind both. -/
private theorem pairwise_placedFrom_cons {path : List String} {inherited : List Slot}
    {name : String} (entry : Entry) {inner rest : Level} (hbelow : entry.below? = some inner)
    (hlt : ∀ other ∈ rest.names, name < other)
    (ihinner : ∀ path inherited,
      (inner.placedFrom path inherited).Pairwise fun placed next => placed.path < next.path)
    (ihrest : (rest.placedFrom path inherited).Pairwise
      fun placed next => placed.path < next.path) :
    ((cons name (some entry) rest).placedFrom path inherited).Pairwise
      fun placed next => placed.path < next.path := by
  -- Every path of the rest has a greater name where the entry's own name stands.
  have hrest : ∀ more, ∀ next ∈ rest.placedFrom path inherited,
      path ++ name :: more < next.path := by
    intro more next hnext
    obtain ⟨found, hfound, rfl⟩ := (mem_placedFrom_iff rest path inherited next).mp hnext
    obtain ⟨other, hother, others, hpath⟩ := hfound.exists_path
    show path ++ name :: more < path ++ found.path
    rw [hpath]
    exact List.append_left_lt (List.cons_lt_cons_iff.mpr (.inl (hlt other hother)))
  have hinner : ∀ next ∈ inner.placedFrom (path ++ [name]) (inherited ++ entry.slots),
      ∃ other more, next.path = path ++ name :: other :: more := by
    intro next hnext
    obtain ⟨found, hfound, rfl⟩ := (mem_placedFrom_iff inner _ _ next).mp hnext
    obtain ⟨other, -, more, hpath⟩ := hfound.exists_path
    exact ⟨other, more, by simp [Placed.under, hpath]⟩
  rw [placedFrom_cons hbelow, List.cons_append, List.pairwise_cons, List.pairwise_append]
  refine ⟨fun next hnext => ?_, ihinner _ _, ihrest, fun placed hplaced next hnext => ?_⟩
  · rcases List.mem_append.mp hnext with hnext | hnext
    · obtain ⟨other, more, hpath⟩ := hinner next hnext
      rw [hpath]
      exact List.append_left_lt (List.cons_lt_cons_iff.mpr (.inr ⟨rfl, List.nil_lt_cons _ _⟩))
    · exact hrest [] next hnext
  · obtain ⟨other, more, hpath⟩ := hinner placed hplaced
    rw [hpath]
    exact hrest (other :: more) next hnext

/-- In a level in name order the paths of the list strictly increase. -/
theorem pairwise_path_placedFrom {level : Level} (h : level.Ordered) (path : List String)
    (inherited : List Slot) :
    (level.placedFrom path inherited).Pairwise fun placed next => placed.path < next.path := by
  induction level generalizing path inherited with
  | nil => exact .nil
  | absent name rest ih => exact ih h.2 path inherited
  | key name pieces rest ih =>
      refine List.pairwise_cons.mpr ⟨fun next hnext => ?_, ih h.2 path inherited⟩
      obtain ⟨found, hfound, rfl⟩ := (mem_placedFrom_iff rest path inherited next).mp hnext
      obtain ⟨other, hother, others, hpath⟩ := hfound.exists_path
      show path ++ [name] < path ++ found.path
      rw [hpath]
      exact List.append_left_lt (List.cons_lt_cons_iff.mpr (.inl (h.1 other hother)))
  | branch name below rest ihb ihr =>
      obtain ⟨hlt, hbelow, hrest⟩ := h
      exact pairwise_placedFrom_cons (.branch below) rfl hlt (ihb hbelow)
        (ihr hrest path inherited)
  | gate name slots behind rest ihb ihr =>
      obtain ⟨hlt, hbehind, hrest⟩ := h
      exact pairwise_placedFrom_cons (.gate slots behind) rfl hlt (ihb hbehind)
        (ihr hrest path inherited)

end KeyTree.Level
