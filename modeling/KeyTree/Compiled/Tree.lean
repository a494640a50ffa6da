import KeyTree.Arguments
import KeyTree.Event

/-!
# `KeyTree.Compiled.Tree`: schemas compiled for a separator

Compiling a level gives a tree of the same shape: a key becomes a key maker
that holds its pieces from the root on, a branch a tree, and a gate an
opener. An opener compiles the level behind it again each time it is
opened, below the values that opened it, so that those values are plain
text in every key behind the gate.

Compiling never fails; absent entries are left out, and reported in
development.
-/

set_option autoImplicit false

namespace KeyTree

/-- A slot without a value, and where it was needed. -/
structure MissingArgument where
  slot : String
  path : String
  deriving DecidableEq, Repr

/-- The text of the error. -/
def MissingArgument.message (missing : MissingArgument) : String :=
  "missing argument `" ++ missing.slot ++ "` for key path `" ++ missing.path ++ "`"

/-! ### Key makers -/

/-- Makes the text of one key. -/
structure KeyMaker where
  /-- The pieces of the whole key; those of the path are literals. -/
  template : List Piece
  /-- The slots of the key itself, in order. -/
  slots : List Slot
  separator : String
  deriving DecidableEq, Repr

/-- The segments of some pieces, or the name of the first slot that has no
value. -/
def fillPieces (args : Arguments) : List Piece → Except String (List String)
  | [] => .ok []
  | .literal text :: rest => do .ok (text :: (← fillPieces args rest))
  | .slot s :: rest =>
    match args.segment? s with
    | some segment => do .ok (segment :: (← fillPieces args rest))
    | none => .error s.name

namespace KeyMaker

/-- The maker of the key with these pieces below a path. -/
def make (separator : String) (stem : List String) (pieces : List Piece) : KeyMaker where
  template := stem.map .literal ++ pieces
  slots := slotsOf pieces
  separator := separator

/-- The whole key for human eyes, slots shown by name. -/
def hint (maker : KeyMaker) : String :=
  maker.separator.intercalate (maker.template.map Piece.hint)

/-- The key's text for some arguments. -/
def build (maker : KeyMaker) (args : Arguments) : Except MissingArgument String :=
  match fillPieces args maker.template with
  | .ok segments => .ok (maker.separator.intercalate segments)
  | .error slot => .error ⟨slot, maker.hint⟩

/-- The text of a key that needs no arguments. -/
def buildStatic (maker : KeyMaker) : Except MissingArgument String :=
  maker.build NameMap.empty

/-- Whether the key needs arguments. -/
def takesArguments (maker : KeyMaker) : Bool := ! maker.slots.isEmpty

end KeyMaker

/-! ### Trees -/

/-- Opens a gate. -/
structure Opener where
  /-- The name of the gate's entry. -/
  key : String
  /-- The texts that the gate's own level lies below. -/
  stem : List String
  slots : Slots
  behind : Level
  separator : String
  deriving DecidableEq, Repr

/-- A compiled level, chained like the level it comes from. -/
inductive Tree where
  | nil
  | key (name : String) (maker : KeyMaker) (rest : Tree)
  | branch (name : String) (below : Tree) (rest : Tree)
  | gate (name : String) (opener : Opener) (rest : Tree)
  deriving DecidableEq, Repr

/-- A compiled entry. -/
inductive Tree.Entry where
  | key (maker : KeyMaker)
  | branch (below : Tree)
  | gate (opener : Opener)
  deriving DecidableEq, Repr

namespace Tree

/-- The entries of the tree itself, in order. -/
def entries : Tree → List (String × Entry)
  | .nil => []
  | .key name maker rest => (name, .key maker) :: rest.entries
  | .branch name below rest => (name, .branch below) :: rest.entries
  | .gate name opener rest => (name, .gate opener) :: rest.entries

/-- The names of the tree itself, in order. -/
def names (tree : Tree) : List String := tree.entries.map Prod.fst

/-- The entry under a name. -/
def find? (tree : Tree) (name : String) : Option Entry := tree.entries.lookup name

/-- The key maker under a name. -/
def key? (tree : Tree) (name : String) : Option KeyMaker :=
  match tree.find? name with
  | some (.key maker) => some maker
  | _ => none

/-- The branch under a name. -/
def branch? (tree : Tree) (name : String) : Option Tree :=
  match tree.find? name with
  | some (.branch below) => some below
  | _ => none

/-- The gate under a name. -/
def gate? (tree : Tree) (name : String) : Option Opener :=
  match tree.find? name with
  | some (.gate opener) => some opener
  | _ => none

/-- The tree that branches of the given names lead to. -/
def descend? (tree : Tree) : List String → Option Tree
  | [] => some tree
  | name :: rest => do (← tree.branch? name).descend? rest

end Tree

/-! ### Compiling -/

/-- The separator where none is chosen. -/
def defaultSeparator : String := ":"

/-- Compiles a level that lies below the texts `stem`. -/
def Level.compile (separator : String) (stem : List String) : Level → Logged Tree
  | .nil => pure .nil
  | .absent name rest => do
    Logged.noteInDevelopment (.skippedAbsent name (separator.intercalate stem))
    rest.compile separator stem
  | .key name pieces rest => do
    let others ← rest.compile separator stem
    pure (.key name (.make separator stem pieces) others)
  | .branch name below rest => do
    let tree ← below.compile separator (stem ++ [name])
    let others ← rest.compile separator stem
    pure (.branch name tree others)
  | .gate name slots behind rest => do
    let others ← rest.compile separator stem
    pure (.gate name ⟨name, stem, slots, behind, separator⟩ others)

/-- Compiles a schema. -/
def Schema.compile (schema : Schema) (separator : String) : Logged Tree :=
  schema.level.compile separator []

/-- The segments that fill some slots, or the name of the first one that
has no value. -/
def fillSlots (args : Arguments) (slots : List Slot) : Except String (List String) :=
  fillPieces args (slots.map .slot)

namespace Opener

/-- The texts that the level behind the gate lies below, before its slots
are filled. -/
def path (opener : Opener) : List String := opener.stem ++ [opener.key]

/-- Opens the gate: compiles the level behind it below the gate's path and
the values of its slots. The first slot without a value, in declared order,
is an error, and nothing is reported then. -/
def apply (opener : Opener) (args : Arguments) : Except MissingArgument (Logged Tree) :=
  match fillSlots args opener.slots.toList with
  | .error slot => .error ⟨slot, opener.separator.intercalate opener.path⟩
  | .ok segments => .ok do
    let stem := opener.path ++ segments
    Logged.note (.compilingGate opener.key (opener.separator.intercalate stem))
    opener.behind.compile opener.separator stem

end Opener

end KeyTree
