import KeyTree.Compiled.Tree
import KeyTree.Schema.Template

/-!
# `KeyTree.Compiled.Resolve`: from a path of names to a key

`Tree.resolve` walks a path of names down a compiled tree and builds the
key at its end. Gates on the way are opened with the same arguments, so one
set of arguments fills every slot along the path.
-/

set_option autoImplicit false

namespace KeyTree

/-- Why a path does not lead to a key. The paths are dotted and end where
the walk ended. -/
inductive ResolveError where
  | emptyPath
  /-- Nothing stands under the name. -/
  | unknownEntry (path : String)
  /-- The path ends on a branch or a gate. -/
  | notAKey (path : String)
  /-- The path goes on behind a key. -/
  | notATree (path : String)
  /-- A slot has no value. -/
  | missing (argument : MissingArgument)
  deriving DecidableEq, Repr

/-- The text of the error. -/
def ResolveError.message : ResolveError → String
  | emptyPath => "key path cannot be empty"
  | unknownEntry path => "no schema entry at `" ++ path ++ "`"
  | notAKey path => "`" ++ path ++ "` is not a key definition"
  | notATree path => "`" ++ path ++ "` is a key definition and has no children"
  | missing argument => argument.message

namespace Tree

/-- Walks on from a tree that the names `walked` have led to. -/
def resolveFrom (args : Arguments) (walked : List String) :
    Tree → List String → Logged (Except ResolveError String)
  | _, [] => pure (.error .emptyPath)
  | tree, name :: rest =>
    let here := walked ++ [name]
    match tree.find? name with
    | none => pure (.error (.unknownEntry (dotted here)))
    | some (.key maker) =>
      if rest.isEmpty then pure ((maker.build args).mapError .missing)
      else pure (.error (.notATree (dotted here)))
    | some (.branch below) =>
      if rest.isEmpty then pure (.error (.notAKey (dotted here)))
      else resolveFrom args here below rest
    | some (.gate opener) =>
      if rest.isEmpty then pure (.error (.notAKey (dotted here)))
      else match opener.apply args with
        | .error missing => pure (.error (.missing missing))
        | .ok opened => do resolveFrom args here (← opened) rest

/-- The key at the end of a path of names. -/
def resolve (tree : Tree) (path : List String) (args : Arguments) :
    Logged (Except ResolveError String) :=
  tree.resolveFrom args [] path

end Tree

end KeyTree
