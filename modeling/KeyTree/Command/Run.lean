import KeyTree.Command.Invocation
import KeyTree.Compiled.Resolve
import KeyTree.Codegen.Source
import KeyTree.Document.File
import KeyTree.Exchange
import KeyTree.Schema.Lint

/-!
# `KeyTree.Command.Run`: what commands do

`Command.run` carries out a command line with access to files, and answers
with what the program writes and whether it succeeds. A command fails with a
`Failure`, whose text is the last line that is written.

`renderKey` is the heart of `render`: it looks the key up in the list of
templates, reads the value of each argument as the kind of its slot, and
builds the key from the compiled tree.
-/

set_option autoImplicit false

namespace KeyTree.Command

/-! ### Failures -/

/-- Why a command fails. -/
inductive Failure where
  | load (file : String) (error : DocumentError)
  /-- The document has findings. -/
  | findings (file : String) (count : Nat)
  | noKey (path : String)
  | notAnAssignment (text : String)
  | unknownArgument (name path : String) (known : List String)
  | notANumber (text : String)
  | notABoolean (text : String)
  | resolve (error : ResolveError)
  | codegen (error : CodegenError)
  | folder (path : String)
  | write (path : String)
  deriving Repr

/-- A text in single quotes. -/
def inQuotes (text : String) : String := "'" ++ text ++ "'"

/-- The text of a failure. -/
def Failure.message : Failure → String
  | load file error => "Failed to load " ++ inQuotes file ++ ": " ++ error.message
  | findings file count => inQuotes file ++ " has " ++ toString count ++ " problem(s)"
  | noKey path => "No key at " ++ inQuotes path
  | notAnAssignment text => "Expected NAME=VALUE, got " ++ inQuotes text
  | unknownArgument name path known =>
    "Unknown argument " ++ inQuotes name ++ " for " ++ inQuotes path ++ " (expected: "
      ++ (if known.isEmpty then "none" else ", ".intercalate known) ++ ")"
  | notANumber text => "Expected a number, got " ++ inQuotes text
  | notABoolean text => "Expected true or false, got " ++ inQuotes text
  | resolve error => error.message
  | codegen error => error.message
  | folder path =>
    "Failed to create output directory " ++ inQuotes path ++ ": the folder cannot be made"
  | write path => "Failed to write " ++ inQuotes path ++ ": the file cannot be written"

/-! ### Rendering a key -/

/-- The name and the value of an assignment, with the first equals sign
between them. -/
def splitAssignment (text : String) : Except Failure (String × String) :=
  match LineLevel.splitValue text with
  | (name, some value) => if name = "" then .error (.notAnAssignment text) else .ok (name, value)
  | (_, none) => .error (.notAnAssignment text)

/-- The value that a text gives to a slot of a kind. A whole number stays
exact as far as 64 bits reach. -/
def readValue (kind : SlotKind) (text : String) : Except Failure Value :=
  match kind with
  | .text => .ok (.text text)
  | .number =>
    match (readInteger? text.toList).bind Value.ofInt? with
    | some value => .ok value
    | none =>
      match readDouble? text.toList with
      | some x => .ok (.number x)
      | none => .error (.notANumber text)
  | .boolean =>
    if text = "true" then .ok (.boolean true)
    else if text = "false" then .ok (.boolean false)
    else .error (.notABoolean text)

/-- Adds the argument of an assignment. Its kind is that of the first slot
of its name. -/
def addAssignment (template : Template) (args : Arguments) (assignment : String) :
    Except Failure Arguments := do
  let (name, text) ← splitAssignment assignment
  match template.slots.find? (·.name = name) with
  | some slot => .ok (args.insert name (some (← readValue slot.kind text)))
  | none =>
    .error (.unknownArgument name template.dottedPath (template.slots.map (·.name)))

/-- The key of a document at a path, with the arguments of some
assignments. -/
def renderKey (document : Document) (path assignments : List String) :
    Except Failure String := do
  match document.schema.templates.find? (·.path = path) with
  | none => .error (.noKey (dotted path))
  | some template =>
    let args ← assignments.foldlM (addAssignment template) .empty
    ((document.compile.result.resolve path args).result).mapError .resolve

/-! ### Commands -/

/-- What a command writes, in lines, and how it ends. -/
structure Report where
  output : String
  /-- Lines in front of the failure's. -/
  remarks : List String
  failure : Option Failure

/-- The report of a success. -/
def Report.done (output : String) : Report := ⟨output, [], none⟩

/-- The report of a failure. -/
def Report.failed (failure : Failure) : Report := ⟨"", [], some failure⟩

/-- A text that ends with a line. -/
def withLineEnd (text : String) : String :=
  if text.toList.getLast? = some '\n' then text else text ++ "\n"

/-- Checks a document and counts its keys. -/
def validate (file : String) (document : Document) : Report :=
  match document.schema.lint with
  | [] =>
    .done ("Validated " ++ inQuotes file ++ ": " ++ toString document.schema.templates.length
      ++ " key(s).\n")
  | findings => ⟨"", findings.map (·.message), some (.findings file findings.length)⟩

/-- Lists the templates of a document. -/
def templates (document : Document) (listing : Listing) : Report :=
  .done <| withLineEnd <| match listing with
    | .json => document.layout.toJson.pretty
    | .yaml => document.layout.toJson.yaml
    | .table => document.layout.table

/-- Renders a key of a document. -/
def render (document : Document) (path assignments : List String) : Report :=
  match renderKey document path assignments with
  | .ok key => .done (key ++ "\n")
  | .error failure => .failed failure

/-- The folder that a file is in, empty if its path names none: all names
but the last. Dots at the end are no names, but for one that is all there
is. -/
def folderOf (path : String) : String :=
  let trim (names : List String) := names.dropWhile fun name => name = "" ∨ name = "."
  let around := (trim (path.splitOn "/").reverse).drop 1
  "/".intercalate (if (trim around).isEmpty then around.drop (around.length - 1)
    else (trim around).reverse)

/-- Writes source code to a file and makes the folder for it. -/
def writeSource {m : Type → Type} [Monad m] [Files m] (path source : String) : m Report := do
  let folder := folderOf path
  if ! (folder = "" || (← Files.makeFolders folder)) then pure (.failed (.folder folder))
  else if ← Files.write path source then
    pure (.done ("Generated key builders into " ++ inQuotes path ++ ".\n"))
  else pure (.failed (.write path))

/-- Generates the source code of a document's builders. -/
def codegen {m : Type → Type} [Monad m] [Files m] (document : Document) (output : Option String)
    (rootName : String) : m Report :=
  match (document.schema.source .unicode rootName document.separator).result with
  | .error error => pure (.failed (.codegen error))
  | .ok source =>
    match output with
    | none => pure (.done source)
    | some path => writeSource path source

/-- Does a task with a document. -/
def perform {m : Type → Type} [Monad m] [Files m] (file : String) (document : Document) :
    Task → m Report
  | .validate => pure (validate file document)
  | .templates listing => pure (templates document listing)
  | .render path assignments => pure (render document path assignments)
  | .codegen output rootName => codegen document output rootName
  | .fingerprint => pure (.done (document.layout.fingerprint ++ "\n"))

/-- Carries out an invocation. -/
def Invocation.perform {m : Type → Type} [Monad m] [Files m] (invocation : Invocation) :
    m Report := do
  match (← Document.load invocation.file).result with
  | .error error => pure (.failed (.load invocation.file error))
  | .ok document =>
    let separator := invocation.separator.getD document.separator
    Command.perform invocation.file { document with separator } invocation.task

/-! ### The program -/

/-- What the program writes and the code it ends with. -/
structure Outcome where
  code : UInt8
  output : String
  errors : String
  deriving DecidableEq, Repr

/-- The name and version of the program. -/
def versionLine : String := "keyschema 0.1.0\n"

/-- How the program is used. -/
def helpText : String :=
  "Validate, inspect and generate code for key schema documents\n\n"
    ++ "Usage: keyschema [OPTIONS] <COMMAND>\n"

/-- The outcome of a report. -/
def Report.outcome (report : Report) : Outcome :=
  let lines := report.remarks ++ (report.failure.map ("error: " ++ ·.message)).toList
  ⟨if report.failure.isSome then 1 else 0, report.output, String.join (lines.map (· ++ "\n"))⟩

/-- The outcome of a command line that runs no command. -/
def Refusal.outcome : Refusal → Outcome
  | .usage => ⟨2, "", ""⟩
  | .help => ⟨0, helpText, ""⟩
  | .version => ⟨0, versionLine, ""⟩

/-- Carries out a command line. -/
def run {m : Type → Type} [Monad m] [Files m] (words : List String) : m Outcome := do
  match Invocation.ofWords words with
  | .error refusal => pure refusal.outcome
  | .ok invocation => do pure (← invocation.perform).outcome

end KeyTree.Command
