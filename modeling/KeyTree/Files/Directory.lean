/-!
# `KeyTree.Files.Directory`: files by their paths

`Files` is what documents and commands need of a file system: to read and
write whole files and to make folders. `Directory` is a file system in
memory, as it is seen from one folder.

A path is a list of names with slashes between them, of a limited length.
One dot stands for the folder itself and two for the one around it. Around
the whole directory there are folders without names, in which nothing is at
first. Paths that start with a slash lead nowhere.
-/

set_option autoImplicit false

namespace KeyTree

/-- Access to files. -/
class Files (m : Type → Type) where
  /-- The text of a file, if there is one that can be read. -/
  read (path : String) : m (Option String)
  /-- Makes the text of a file, new or not; false if that fails. -/
  write (path text : String) : m Bool
  /-- Makes a folder and all folders around it, from the outermost on;
  false if that fails. -/
  makeFolders (path : String) : m Bool

/-- Folders and files, each by the names that lead to it; two dots in front
lead out of the directory. -/
structure Directory where
  folders : List (List String)
  files : List (List String × String)
  deriving Repr

namespace Directory

/-- A directory with nothing in it. -/
def empty : Directory := ⟨[], []⟩

/-- Whether names lead to a folder. -/
def isFolder (directory : Directory) (names : List String) : Bool :=
  names.all (· = "..") || directory.folders.contains names

/-- The folder around another. -/
def around (here : List String) : List String :=
  if here.all (· = "..") then ".." :: here else here.dropLast

/-- How many octets the name of a file or folder may have. -/
def nameLimit : Nat := 255

/-- How many octets a path may have. -/
def pathLimit : Nat := 4095

/-- Whether a file or folder can have the name. -/
def isName (name : String) : Bool := name.utf8ByteSize ≤ nameLimit

/-- Follows a path from a folder to another. -/
def enter? (directory : Directory) : List String → List String → Option (List String)
  | here, [] => some here
  | here, name :: rest =>
    if name = "" ∨ name = "." then directory.enter? here rest
    else if name = ".." then directory.enter? (around here) rest
    else if directory.isFolder (here ++ [name]) then directory.enter? (here ++ [name]) rest
    else none

/-- The parts of a path; none of one that leads elsewhere or is no path. -/
def parts? (path : String) : Option (List String) :=
  if path.startsWith "/" || path.toList.contains '\x00' || pathLimit < path.utf8ByteSize then none
  else some (path.splitOn "/")

/-- Where the file of a path is or would be. -/
def place? (directory : Directory) (path : String) : Option (List String) := do
  let parts ← parts? path
  let name ← parts.getLast?
  if name = "" ∨ name = "." ∨ name = ".." ∨ ! isName name then none
  else (directory.enter? [] parts.dropLast).map (· ++ [name])

/-- The text of a file. -/
def read? (directory : Directory) (path : String) : Option String := do
  directory.files.lookup (← directory.place? path)

/-- The directory after a file has been written. -/
def write? (directory : Directory) (path text : String) : Option Directory := do
  let place ← directory.place? path
  if directory.isFolder place then none
  else some { directory with files := (place, text) :: directory.files }

/-- Follows a path from a folder and makes the folders that are not there.
A file in the way is an obstacle, and so is what cannot be a name; the
folders made before that stay. -/
def makeFrom (directory : Directory) : List String → List String → Bool × Directory
  | _, [] => (true, directory)
  | here, name :: rest =>
    if name = "" ∨ name = "." then directory.makeFrom here rest
    else if name = ".." then directory.makeFrom (around here) rest
    else
      let place := here ++ [name]
      if ! isName name || (directory.files.lookup place).isSome then (false, directory)
      else if directory.isFolder place then directory.makeFrom place rest
      else makeFrom { directory with folders := place :: directory.folders } place rest

/-- The directory after the folders of a path have been made, as far as that
could be done, and whether all were. -/
def makeFolders (directory : Directory) (path : String) : Bool × Directory :=
  match parts? path with
  | some parts => directory.makeFrom [] parts
  | none => (false, directory)

end Directory

instance : Files (StateM Directory) where
  read path := do pure ((← get).read? path)
  write path text := do
    match (← get).write? path text with
    | some directory =>
      set directory
      pure true
    | none => pure false
  makeFolders path := do
    let (made, directory) := (← get).makeFolders path
    set directory
    pure made

end KeyTree
