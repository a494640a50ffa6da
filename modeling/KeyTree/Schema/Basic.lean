import KeyTree.NameMap

/-!
# `KeyTree.Schema.Basic`: the schema a key tree is described by

A schema is a level of named entries. An entry is

- a *key*: a list of pieces, literal texts and slots, that are joined to
  one key text;
- a *branch*: a further level under the entry's own name;
- a *gate*: one or more slots that have to be filled before the level
  behind them can be reached;
- *absent*: a name that is kept but stands for nothing.

`Level` chains the entries of a level and nests the levels below them in
one inductive type without lists inside, so every walk over a schema is
one structural recursion and every proof about one a plain induction.
`Schema` is a level whose names strictly increase everywhere; insertion
(`Schema.insert`) keeps that order and replaces an entry of the same name.
-/

set_option autoImplicit false

namespace KeyTree

/-! ### Slots and pieces -/

/-- What kind of value a slot is declared for. -/
inductive SlotKind where
  | text
  | number
  | boolean
  deriving DecidableEq, Repr

namespace SlotKind

/-- The word a kind is written as. -/
def tag : SlotKind → String
  | text => "string"
  | number => "number"
  | boolean => "boolean"

/-- Reads the word of a kind; case matters. -/
def ofTag? (word : String) : Option SlotKind :=
  if word = "string" then some text
  else if word = "number" then some number
  else if word = "boolean" then some boolean
  else none

@[simp] theorem ofTag?_tag (kind : SlotKind) : ofTag? kind.tag = some kind := by
  cases kind <;> rfl

end SlotKind

/-- A named place in a key that an argument fills. The kind is only a
declaration: every value is turned into text in the same way. -/
structure Slot where
  name : String
  kind : SlotKind
  deriving DecidableEq, Repr

/-- One piece of a key. -/
inductive Piece where
  /-- Text that stands as it is. -/
  | literal (text : String)
  /-- A place for an argument. -/
  | slot (slot : Slot)
  deriving DecidableEq, Repr

namespace Piece

/-- The slot a piece is, if it is one. -/
def slot? : Piece → Option Slot
  | literal _ => none
  | slot s => some s

/-- A piece for human eyes: the text, or the slot's name. -/
def hint : Piece → String
  | literal text => text
  | slot s => s.name

end Piece

/-- The slots among some pieces, in order. -/
def slotsOf (pieces : List Piece) : List Slot :=
  pieces.filterMap Piece.slot?

/-- The slots of a gate: at least one, in declared order. -/
structure Slots where
  first : Slot
  others : List Slot
  deriving DecidableEq, Repr

namespace Slots

/-- All slots, in declared order. -/
def toList (slots : Slots) : List Slot := slots.first :: slots.others

/-- The slots of a list that is not empty. -/
def ofList? : List Slot → Option Slots
  | [] => none
  | first :: others => some ⟨first, others⟩

@[simp] theorem ofList?_toList (slots : Slots) : ofList? slots.toList = some slots := rfl

theorem toList_of_ofList? {list : List Slot} {slots : Slots}
    (h : ofList? list = some slots) : slots.toList = list := by
  cases list with
  | nil => simp [ofList?] at h
  | cons first others =>
    simp only [ofList?, Option.some.injEq] at h
    subst h
    rfl

end Slots

/-! ### Levels -/

/-- The entries of one level, chained by `rest`, with the levels below
them. -/
inductive Level where
  /-- No further entries. -/
  | nil
  /-- A name that stands for nothing. -/
  | absent (name : String) (rest : Level)
  /-- A key, made of its pieces alone: the entry's name is no part of it. -/
  | key (name : String) (pieces : List Piece) (rest : Level)
  /-- A level under the entry's name. -/
  | branch (name : String) (below : Level) (rest : Level)
  /-- A level under the entry's name and the values of its slots. -/
  | gate (name : String) (slots : Slots) (behind : Level) (rest : Level)
  deriving DecidableEq, Repr

/-- An entry that is present, as it stands in a level. -/
inductive Level.Entry where
  | key (pieces : List Piece)
  | branch (below : Level)
  | gate (slots : Slots) (behind : Level)
  deriving DecidableEq, Repr

namespace Level

/-- The level that starts with an entry under `name`; `none` stands for an
absent entry. -/
def cons (name : String) (entry : Option Entry) (rest : Level) : Level :=
  match entry with
  | none => .absent name rest
  | some (.key pieces) => .key name pieces rest
  | some (.branch below) => .branch name below rest
  | some (.gate slots behind) => .gate name slots behind rest

/-- The entries of the level itself, in order, absent ones included. -/
def entries : Level → List (String × Option Entry)
  | .nil => []
  | .absent name rest => (name, none) :: rest.entries
  | .key name pieces rest => (name, some (.key pieces)) :: rest.entries
  | .branch name below rest => (name, some (.branch below)) :: rest.entries
  | .gate name slots behind rest => (name, some (.gate slots behind)) :: rest.entries

/-- The names of the level itself, in order. -/
def names (level : Level) : List String := level.entries.map Prod.fst

/-- The level with the given entries. -/
def ofEntries (entries : List (String × Option Entry)) : Level :=
  entries.foldr (fun entry rest => cons entry.1 entry.2 rest) .nil

@[simp] theorem entries_cons (name : String) (entry : Option Entry) (rest : Level) :
    (cons name entry rest).entries = (name, entry) :: rest.entries := by
  rcases entry with _ | _ | _ | _ <;> rfl

@[simp] theorem entries_ofEntries (list : List (String × Option Entry)) :
    (ofEntries list).entries = list := by
  induction list with
  | nil => rfl
  | cons entry rest ih => simpa [ofEntries] using ih

@[simp] theorem ofEntries_entries (level : Level) : ofEntries level.entries = level := by
  induction level with
  | nil => rfl
  | absent name rest ih => simpa [ofEntries, entries, cons] using ih
  | key name pieces rest ih => simpa [ofEntries, entries, cons] using ih
  | branch name below rest _ ih => simpa [ofEntries, entries, cons] using ih
  | gate name slots behind rest _ ih => simpa [ofEntries, entries, cons] using ih

/-- What stands under `name` in the level itself; the inner `none` is an
absent entry. -/
def find? (level : Level) (name : String) : Option (Option Entry) :=
  level.entries.lookup name

/-! ### Levels in name order -/

/-- The names of the level strictly increase, and so do those of every
level below a branch or behind a gate. -/
def Ordered : Level → Prop
  | .nil => True
  | .absent name rest => (∀ other ∈ rest.names, name < other) ∧ rest.Ordered
  | .key name _ rest => (∀ other ∈ rest.names, name < other) ∧ rest.Ordered
  | .branch name below rest =>
    (∀ other ∈ rest.names, name < other) ∧ below.Ordered ∧ rest.Ordered
  | .gate name _ behind rest =>
    (∀ other ∈ rest.names, name < other) ∧ behind.Ordered ∧ rest.Ordered

/-- The levels an entry holds are in name order. -/
def Entry.Ordered : Entry → Prop
  | .key _ => True
  | .branch below => below.Ordered
  | .gate _ behind => behind.Ordered

/-- A level is in order exactly when its names increase and each entry's
own level is in order. -/
theorem ordered_iff (level : Level) :
    level.Ordered ↔ NamesOrdered level.entries ∧
      ∀ entry ∈ level.entries, ∀ node ∈ entry.2, Entry.Ordered node := by
  induction level with
  | nil => simp [Ordered, entries, NamesOrdered]
  | absent name rest ih =>
    simp [Ordered, entries, NamesOrdered, names, ih, and_assoc]
  | key name pieces rest ih =>
    simp [Ordered, entries, NamesOrdered, names, ih, Entry.Ordered, and_assoc]
  | branch name below rest _ ih =>
    simp [Ordered, entries, NamesOrdered, names, ih, Entry.Ordered, and_assoc, and_left_comm]
  | gate name slots behind rest _ ih =>
    simp [Ordered, entries, NamesOrdered, names, ih, Entry.Ordered, and_assoc, and_left_comm]

/-- Puts an entry under `name`, in the place of one of the same name. -/
def insert (level : Level) (name : String) (entry : Option Entry) : Level :=
  ofEntries (insertNamed name entry level.entries)

/-- Inserting an ordered entry into an ordered level gives an ordered level. -/
theorem ordered_insert {level : Level} (h : level.Ordered) (name : String)
    {entry : Option Entry} (hentry : ∀ node ∈ entry, Entry.Ordered node) :
    (level.insert name entry).Ordered := by
  rw [ordered_iff] at h ⊢
  simp only [insert, entries_ofEntries]
  refine ⟨ordered_insertNamed name entry h.1, fun held hheld node hnode => ?_⟩
  rcases mem_insertNamed hheld with rfl | hold
  · exact hentry node hnode
  · exact h.2 held hold node hnode

/-- After an insertion the inserted name holds the new entry and every
other name holds what it held. -/
theorem find?_insert (level : Level) (name other : String) (entry : Option Entry) :
    (level.insert name entry).find? other =
      if other = name then some entry else level.find? other := by
  simp only [find?, insert, entries_ofEntries]
  exact lookup_insertNamed name other entry level.entries

end Level

/-! ### Schemas -/

/-- A level whose names strictly increase, at every depth. -/
structure Schema where
  level : Level
  ordered : level.Ordered
  deriving DecidableEq

/-- An entry that is present in a schema. -/
inductive Node where
  | key (pieces : List Piece)
  | branch (below : Schema)
  | gate (slots : Slots) (behind : Schema)
  deriving DecidableEq

namespace Node

/-- The entry as it stands in a level. -/
def toEntry : Node → Level.Entry
  | key pieces => .key pieces
  | branch below => .branch below.level
  | gate slots behind => .gate slots behind.level

theorem ordered_toEntry (node : Node) : node.toEntry.Ordered := by
  cases node with
  | key _ => trivial
  | branch below => exact below.ordered
  | gate _ behind => exact behind.ordered

/-- What kind of entry it is, in words. -/
def description : Node → String
  | key _ => "key definition"
  | branch _ => "nested schema"
  | gate _ _ => "parameterized node"

end Node

namespace Schema

/-- The schema without entries. -/
def empty : Schema := ⟨.nil, trivial⟩

/-- Puts a node, or an absent entry, under `name`, in the place of an
entry of the same name. -/
def insert (schema : Schema) (name : String) (node : Option Node) : Schema where
  level := schema.level.insert name (node.map Node.toEntry)
  ordered := Level.ordered_insert schema.ordered name (by
    intro entry hentry
    obtain ⟨n, -, rfl⟩ := Option.map_eq_some_iff.1 hentry
    exact n.ordered_toEntry)

/-- The entries of the top level with the schemas below them, in name order. -/
def entries (schema : Schema) : List (String × Option Node) :=
  let held := ((Level.ordered_iff schema.level).1 schema.ordered).2
  schema.level.entries.attach.map fun ⟨(name, entry), hmem⟩ =>
    (name, match entry, held (name, entry) hmem with
      | none, _ => none
      | some (.key pieces), _ => some (.key pieces)
      | some (.branch below), h => some (.branch ⟨below, h _ rfl⟩)
      | some (.gate slots behind), h => some (.gate slots ⟨behind, h _ rfl⟩))

/-- What stands under `name`; the inner `none` is an absent entry. -/
def find? (schema : Schema) (name : String) : Option (Option Node) :=
  schema.entries.lookup name

end Schema

/-! ### Gates -/

/-- Why slots and a node do not make a gate. -/
inductive GateError where
  /-- No slot was given. -/
  | noSlots
  /-- What should stand behind the gate is not a level. -/
  | notALevel
  deriving DecidableEq, Repr

/-- The text of the error. -/
def GateError.message : GateError → String
  | noSlots => "parameterize: at least one placeholder required"
  | notALevel => "parameterize: valid nested schema object required"

/-- A gate with the given slots in front of a level. That slots are given
is checked first; their names and what the level holds are not looked at. -/
def Node.gateOver (slots : List Slot) (behind : Node) : Except GateError Node :=
  match Slots.ofList? slots with
  | none => .error .noSlots
  | some slots =>
    match behind with
    | .branch level => .ok (.gate slots level)
    | _ => .error .notALevel

end KeyTree
