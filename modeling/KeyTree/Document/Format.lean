import KeyTree.Event

/-!
# `KeyTree.Document.Format`: the format of a document by its file name

A document whose file name ends in `.json`, in any case of the letters, is
JSON; every other document is YAML.
-/

set_option autoImplicit false

namespace KeyTree

/-- The last component of a path: slashes at the end and components that
are a single dot do not count, and two dots are no name. -/
def fileName? (path : String) : Option String :=
  match ((path.splitOn "/").filter fun part => part ≠ "" ∧ part ≠ ".").getLast? with
  | some name => if name = ".." then none else some name
  | none => none

/-- What follows the last dot of a file name; a dot in front starts no
extension. -/
def extension? (name : String) : Option String :=
  let behind := name.toList.reverse.takeWhile (· ≠ '.')
  let before := name.toList.reverse.dropWhile (· ≠ '.') |>.drop 1
  if before.isEmpty then none else some (String.ofList behind.reverse)

/-- The format of the document at a path. -/
def DocumentFormat.ofPath (path : String) : DocumentFormat :=
  match (fileName? path).bind extension? with
  | some extension => if extension.toList.map Char.toLower = "json".toList then .json else .yaml
  | none => .yaml

end KeyTree
