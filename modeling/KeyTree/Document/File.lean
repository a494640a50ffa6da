import KeyTree.Document.Basic
import KeyTree.Document.Format
import KeyTree.Files.Directory

/-!
# `KeyTree.Document.File`: documents in files

A document is loaded from and saved to a file in the format that the name
of the file asks for.
-/

set_option autoImplicit false

namespace KeyTree.Document

/-- Loads a document. That it is there is reported before it is
understood. -/
def load {m : Type → Type} [Monad m] [Files m] (path : String) :
    m (Logged (Except DocumentError Document)) := do
  match ← Files.read path with
  | none => pure (pure (.error .file))
  | some text =>
    let format := DocumentFormat.ofPath path
    pure do
      Logged.note (.loadingDocument path format)
      ofText format text

/-- Saves a document; false if the file cannot be written. -/
def save {m : Type → Type} [Files m] (document : Document) (path : String) : m Bool :=
  Files.write path (document.toText (.ofPath path))

end KeyTree.Document
