import KeyTree.Schema.Template
import KeyTree.Text.Naming

/-!
# `KeyTree.Codegen.Builders`: key builders for generated source

For each level of a schema one struct is generated, and for each present
entry of the level one method. The method of a key joins the prefix of its
struct with the key's segments; the method of a branch or gate answers the
struct of the level below, with the prefix extended. Parameters are
exactly the slots of the key or gate, so missing arguments do not compile.

`Level.builders` is what is generated, before it is written as text.
Struct names are made of the name of the struct above and the entry's name,
and generation fails where a name makes no identifier or where two names
of one scope become the same.
-/

set_option autoImplicit false

namespace KeyTree

/-- The name of the root struct where none is chosen. -/
def defaultRootName : String := "Keys"

/-- Why builders cannot be generated. -/
inductive CodegenError where
  /-- A name has no letters or digits. -/
  | invalidIdentifier (name : String)
  /-- Two parameters of a method get one name; the method is given by its
  dotted path. -/
  | duplicateArgument (method name : String)
  /-- Two methods of a struct get one name. -/
  | duplicateMember (structName name : String)
  /-- Two structs get one name. -/
  | duplicateStruct (name : String)
  deriving DecidableEq, Repr

/-- The text of the error. -/
def CodegenError.message : CodegenError → String
  | invalidIdentifier name => "`" ++ name ++ "` does not produce a Rust identifier"
  | duplicateArgument method name =>
    "arguments of `" ++ method ++ "` collide on `" ++ name ++ "`"
  | duplicateMember structName name =>
    "members of `" ++ structName ++ "` collide on `" ++ name ++ "`"
  | duplicateStruct name => "struct `" ++ name ++ "` would be generated twice"

/-! ### What is generated -/

/-- A parameter of a method. -/
structure Parameter where
  name : String
  kind : SlotKind
  deriving DecidableEq, Repr

/-- An expression for one segment of a key. -/
inductive SegmentExpr where
  /-- A text that is known. -/
  | literal (text : String)
  /-- The text of a parameter. -/
  | parameter (parameter : Parameter)
  deriving DecidableEq, Repr

/-- What a method answers. -/
inductive MethodAnswer where
  /-- The key whose pieces from the root on are given. -/
  | key (pieces : List Piece)
  /-- The struct of the level below. -/
  | level (structName : String)
  deriving DecidableEq, Repr

/-- A method of a struct. -/
structure Method where
  name : String
  parameters : List Parameter
  /-- What is put behind the prefix. -/
  segments : List SegmentExpr
  answer : MethodAnswer
  deriving DecidableEq, Repr

/-- The struct of one level. -/
structure BuilderStruct where
  name : String
  /-- The names that lead to the level; none for the root. -/
  path : List String
  methods : List Method
  deriving DecidableEq, Repr

/-! ### Generation -/

/-- The name of an identifier made of a name, which has to exist. -/
def identifierFor (convert : String → Option String) (name : String) :
    Except CodegenError String :=
  match convert name with
  | some identifier => .ok identifier
  | none => .error (.invalidIdentifier name)

section

variable (rules : LetterRules)

/-- The parameter that a slot becomes. -/
def Slot.parameter (slot : Slot) : Except CodegenError Parameter := do
  .ok ⟨← identifierFor rules.snakeCase slot.name, slot.kind⟩

/-- The parameters that slots become, where `taken` names are in use. -/
def parametersFrom (path : List String) (taken : List String) :
    List Slot → Except CodegenError (List Parameter)
  | [] => .ok []
  | slot :: rest => do
    let parameter ← slot.parameter rules
    if parameter.name ∈ taken then .error (.duplicateArgument (dotted path) parameter.name)
    else .ok (parameter :: (← parametersFrom path (parameter.name :: taken) rest))

/-- The expression for a piece. -/
def Piece.segmentExpr : Piece → Except CodegenError SegmentExpr
  | .literal text => .ok (.literal text)
  | .slot s => do .ok (.parameter (← s.parameter rules))

/-- A name without the underscores at its end. -/
def trimUnderscores (name : String) : String :=
  String.ofList (name.toList.reverse.dropWhile (· = '_')).reverse

/-- The name of the struct below an entry of another struct. -/
def childStructName (parent key : String) : Except CodegenError String := do
  .ok (parent ++ trimUnderscores (← identifierFor rules.pascalCase key))

/-- Where a level stands: its struct, the names that lead to it, and the
pieces its keys start with. -/
structure LevelPlace where
  structName : String
  path : List String
  stem : List Piece

/-- What the entries of a level give: the methods of its struct, the
structs of the levels below, and all struct names in use after them. -/
structure LevelBuilders where
  methods : List Method
  below : List BuilderStruct
  taken : List String

/-- The name of the method of an entry, where `members` are in use. -/
def memberName (place : LevelPlace) (members : List String) (key : String) :
    Except CodegenError String := do
  let name ← identifierFor rules.snakeCase key
  if name ∈ members then .error (.duplicateMember place.structName name) else .ok name

namespace Level

/-- The builders of a level's entries, where the methods `members` and the
structs `taken` are in use. Entries are taken in order, and the levels
below an entry before the entries after it. -/
def buildersFrom (place : LevelPlace) (members taken : List String) :
    Level → Except CodegenError LevelBuilders
  | .nil => .ok ⟨[], [], taken⟩
  | .absent _ rest => rest.buildersFrom place members taken
  | .key name pieces rest => do
    let method ← memberName rules place members name
    let parameters ← parametersFrom rules (place.path ++ [name]) [] (slotsOf pieces)
    let segments ← pieces.mapM (Piece.segmentExpr rules)
    let others ← rest.buildersFrom place (method :: members) taken
    .ok { others with
      methods := ⟨method, parameters, segments, .key (place.stem ++ pieces)⟩ :: others.methods }
  | .branch name below rest => do
    let method ← memberName rules place members name
    let child ← childStructName rules place.structName name
    if child ∈ taken then .error (.duplicateStruct child)
    else do
      let inner ← below.buildersFrom
        ⟨child, place.path ++ [name], place.stem ++ [.literal name]⟩ [] (child :: taken)
      let others ← rest.buildersFrom place (method :: members) inner.taken
      .ok
        { methods := ⟨method, [], [.literal name], .level child⟩ :: others.methods
          below := ⟨child, place.path ++ [name], inner.methods⟩ :: inner.below ++ others.below
          taken := others.taken }
  | .gate name slots behind rest => do
    let method ← memberName rules place members name
    let child ← childStructName rules place.structName name
    let parameters ← parametersFrom rules (place.path ++ [name]) [] slots.toList
    let segments ← (gatePieces name slots).mapM (Piece.segmentExpr rules)
    if child ∈ taken then .error (.duplicateStruct child)
    else do
      let inner ← behind.buildersFrom
        ⟨child, place.path ++ [name], place.stem ++ gatePieces name slots⟩ [] (child :: taken)
      let others ← rest.buildersFrom place (method :: members) inner.taken
      .ok
        { methods := ⟨method, parameters, segments, .level child⟩ :: others.methods
          below := ⟨child, place.path ++ [name], inner.methods⟩ :: inner.below ++ others.below
          taken := others.taken }

end Level

/-- The builders of a schema, root first and then depth first. The root
struct has a method `new` of its own. -/
def Schema.builders (schema : Schema) (rootName : String) :
    Except CodegenError (List BuilderStruct) := do
  let root ← identifierFor rules.pascalCase rootName
  let inner ← schema.level.buildersFrom rules ⟨root, [], []⟩ ["new"] [root]
  .ok (⟨root, [], inner.methods⟩ :: inner.below)

end

end KeyTree
