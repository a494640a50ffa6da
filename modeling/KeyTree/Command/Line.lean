/-!
# `KeyTree.Command.Line`: words of a command line

A command line is read level by level: first the options of the program and
the name of a command, then the options and operands of that command. What
a level accepts is said by a `LineLevel`; `LineLevel.read` takes the words in turn
and stops at the first that does not fit, or that asks for help or for the
version.

- An option's value follows in the next word or behind an equals sign. Only
  there may it start with a dash, but for the dash alone.
- Behind a word of two dashes, all words are operands.
-/

set_option autoImplicit false

namespace KeyTree.Command

/-- An option with a value. -/
structure OptionShape where
  name : String
  /-- Whether it may be given more than once. -/
  repeats : Bool
  /-- Which values it may have. -/
  accepts : String → Bool

/-- What is accepted at one level of a command line. -/
structure LineLevel where
  options : List OptionShape
  /-- Which words the operands may be. -/
  operands : List (String → Bool)
  /-- The names of the commands that lead to a further level. -/
  commands : List String
  /-- Whether the version may be asked for. -/
  hasVersion : Bool

/-- What has been given at one level. -/
structure Given where
  /-- The options with their values, in order. -/
  options : List (String × String)
  operands : List String
  deriving Repr

namespace Given

/-- Nothing. -/
def nothing : Given := ⟨[], []⟩

/-- The values of an option, in order. -/
def values (given : Given) (name : String) : List String :=
  (given.options.filter (·.1 = name)).map (·.2)

/-- The value of an option that is given at most once. -/
def value? (given : Given) (name : String) : Option String := given.options.lookup name

end Given

/-- Why a command line does not run a command. -/
inductive Refusal where
  /-- It is wrong. -/
  | usage
  /-- It asks for help. -/
  | help
  /-- It asks for the version. -/
  | version
  deriving DecidableEq, Repr

/-- A command line read to the end of a level: what is given there, and the
name of the command that follows, with the words behind it. -/
structure Reading where
  given : Given
  command : Option (String × List String)
  deriving Repr

namespace LineLevel

/-- Adds an option with a value. -/
def addOption (level : LineLevel) (given : Given) (name value : String) : Except Refusal Given :=
  match level.options.find? (·.name = name) with
  | none => .error .usage
  | some shape =>
    if ! shape.accepts value || (! shape.repeats && (given.value? name).isSome) then
      .error .usage
    else .ok { given with options := given.options ++ [(name, value)] }

/-- Adds an operand. -/
def addOperand (level : LineLevel) (given : Given) (word : String) : Except Refusal Given :=
  match level.operands[given.operands.length]? with
  | some accepts =>
    if accepts word then .ok { given with operands := given.operands ++ [word] }
    else .error .usage
  | none => .error .usage

/-- Letters behind a single dash: the first that asks for something else
than more reports decides. -/
def readLetters (level : LineLevel) : List Char → Except Refusal Unit
  | [] => .ok ()
  | letter :: rest =>
    if letter = 'v' then level.readLetters rest
    else if letter = 'h' then .error .help
    else if letter = 'V' ∧ level.hasVersion then .error .version
    else .error .usage

/-- A name behind two dashes that stands alone. -/
def readFlag (level : LineLevel) (name : String) : Except Refusal Unit :=
  if name = "verbose" then .ok ()
  else if name = "help" then .error .help
  else if name = "version" ∧ level.hasVersion then .error .version
  else .error .usage

/-- Whether a word can be the value of the option before it. -/
def isPlainWord (word : String) : Bool := ! word.startsWith "-" || word = "-"

/-- A name and a value that an equals sign is between; the value is missing
if there is none. -/
def splitValue (text : String) : String × Option String :=
  let name := text.toList.takeWhile (· ≠ '=')
  match text.toList.drop name.length with
  | _ :: value => (String.ofList name, some (String.ofList value))
  | [] => (String.ofList name, none)

/-- What the words behind `help` ask for. -/
def readHelp (level : LineLevel) (words : List String) : Refusal :=
  match words with
  | [] => .help
  | [name] => if level.commands.contains name ∨ name = "help" then .help else .usage
  | _ => .usage

/-- Reads operands. -/
def readOperands (level : LineLevel) (given : Given) (words : List String) :
    Except Refusal Given :=
  words.foldlM level.addOperand given

/-- Reads words to the end of the level. `pending` is the option whose value
comes next, if there is one. -/
def read (level : LineLevel) (given : Given) (pending : Option String) :
    List String → Except Refusal Reading
  | [] => if pending.isSome then .error .usage else .ok ⟨given, none⟩
  | word :: rest =>
    match pending with
    | some name =>
      if isPlainWord word then do level.read (← level.addOption given name word) none rest
      else .error .usage
    | none =>
      if level.commands.contains word then .ok ⟨given, some (word, rest)⟩
      else if word = "help" ∧ ! level.commands.isEmpty then .error (level.readHelp rest)
      else if word = "--" then do .ok ⟨← level.readOperands given rest, none⟩
      else if word.startsWith "--" then
        let (name, attached) := splitValue (String.ofList (word.toList.drop 2))
        if level.options.any (·.name = name) then
          match attached with
          | some value => do level.read (← level.addOption given name value) none rest
          | none => level.read given (some name) rest
        else if attached.isSome then .error .usage
        else do
          level.readFlag name
          level.read given none rest
      else if isPlainWord word then do level.read (← level.addOperand given word) none rest
      else do
        level.readLetters (word.toList.drop 1)
        level.read given none rest

end LineLevel

end KeyTree.Command
