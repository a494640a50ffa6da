import KeyTree.Command.Run

/-!
# `KeyTree.Main`: the program

The only place where real files are read and written.
-/

set_option autoImplicit false

namespace KeyTree

/-- The result of an action, or nothing if it fails. -/
def attempt {α : Type} (action : IO α) : IO (Option α) := do
  try pure (some (← action)) catch _ => pure none

instance : Files IO where
  read path := attempt (IO.FS.readFile path)
  write path text := do pure (← attempt (IO.FS.writeFile path text)).isSome
  makeFolders path := do pure (← attempt (IO.FS.createDirAll path)).isSome

end KeyTree

/-- Carries out the command line. -/
def main (words : List String) : IO UInt32 := do
  let outcome ← KeyTree.Command.run words
  IO.print outcome.output
  IO.eprint outcome.errors
  pure outcome.code.toUInt32
