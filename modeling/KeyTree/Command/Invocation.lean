import KeyTree.Command.Line
import KeyTree.Codegen.Builders

/-!
# `KeyTree.Command.Invocation`: what a command line asks for

The program has five commands, each of which works on one document:
`validate`, `templates`, `render`, `codegen` and `fingerprint`. With
`--separator`, given to the program or to the command, the keys are joined
by another text than the document says; the command's counts if both are
given.
-/

set_option autoImplicit false

namespace KeyTree.Command

/-- How templates are listed. -/
inductive Listing where
  | json
  | yaml
  | table
  deriving DecidableEq, Repr

/-- The listing of a name. -/
def Listing.ofName? (name : String) : Option Listing :=
  [("json", Listing.json), ("yaml", .yaml), ("table", .table)].lookup name

/-- What is to be done with a document. -/
inductive Task where
  /-- Check it and count its keys. -/
  | validate
  /-- List its templates. -/
  | templates (listing : Listing)
  /-- Build the key at a path from the values of its arguments. -/
  | render (path : List String) (assignments : List String)
  /-- Generate source code, to a file if one is named. -/
  | codegen (output : Option String) (rootName : String)
  /-- Print the fingerprint of its layout. -/
  | fingerprint
  deriving DecidableEq, Repr

/-- A task for the document in a file. -/
structure Invocation where
  file : String
  separator : Option String
  task : Task
  deriving DecidableEq, Repr

/-! ### The levels of the command line -/

/-- Any text. -/
def anyText (_ : String) : Bool := true

/-- A path of a file: any text but the empty one. -/
def isPath (word : String) : Bool := word ≠ ""

/-- An option of the program and of all commands. -/
def separatorOption : OptionShape := ⟨"separator", false, anyText⟩

/-- The level of the program. -/
def programLevel : LineLevel where
  options := [separatorOption]
  operands := []
  commands := ["validate", "templates", "render", "codegen", "fingerprint"]
  hasVersion := true

/-- The level of a command with options and operands of its own. -/
def commandLevel (options : List OptionShape) (operands : List (String → Bool)) : LineLevel where
  options := separatorOption :: options
  operands := isPath :: operands
  commands := []
  hasVersion := false

/-- The level of the command of a name. -/
def levelOf (command : String) : LineLevel :=
  match command with
  | "templates" =>
    commandLevel [⟨"format", false, fun name => (Listing.ofName? name).isSome⟩] []
  | "render" => commandLevel [⟨"segment", true, anyText⟩, ⟨"arg", true, anyText⟩] [anyText]
  | "codegen" => commandLevel [⟨"output", false, isPath⟩, ⟨"root", false, anyText⟩] []
  | _ => commandLevel [] []

/-! ### Reading -/

/-- The path of the key to render: the names in one word with dots between
them, or one by one, but not both. -/
def renderPath? (dotted : Option String) (segments : List String) : Option (List String) :=
  match dotted, segments with
  | some path, [] => some (path.splitOn ".")
  | none, _ :: _ => some segments
  | _, _ => none

/-- The task that a command is given. -/
def taskOf? (command : String) (given : Given) : Option Task :=
  match command with
  | "validate" => some .validate
  | "templates" =>
    match given.value? "format" with
    | some name => (Listing.ofName? name).map .templates
    | none => some (.templates .table)
  | "render" =>
    (renderPath? given.operands[1]? (given.values "segment")).map
      (.render · (given.values "arg"))
  | "codegen" =>
    some (.codegen (given.value? "output") ((given.value? "root").getD defaultRootName))
  | "fingerprint" => some .fingerprint
  | _ => none

/-- What the words of a command line ask for. -/
def Invocation.ofWords (words : List String) : Except Refusal Invocation := do
  let outer ← programLevel.read .nothing none words
  match outer.command with
  | none => .error .usage
  | some (command, rest) =>
    let inner ← (levelOf command).read .nothing none rest
    match inner.given.operands.head?, taskOf? command inner.given with
    | some file, some task =>
      let separator := (inner.given.value? "separator").orElse fun _ =>
        outer.given.value? "separator"
      .ok ⟨file, separator, task⟩
    | _, _ => .error .usage

end KeyTree.Command
