import KeyTree.Schema.Template
import KeyTree.Text.Escape
import KeyTree.Decimal.Written
import KeyTree.Layout.Sha256

/-!
# `KeyTree.Layout.Basic`: the layout of a schema's keys

A layout lists every key of a schema with its dotted path, its rendered
template and its arguments, and has a fingerprint: the SHA-256 digest of a
text that is made of the separator and of the lines of path and template
in sorted order (`fingerprintText`). So the fingerprint follows the
templates and neither the order of the keys nor the kinds of their slots.
-/

set_option autoImplicit false

namespace KeyTree

/-- An argument that a key needs. -/
structure LayoutArgument where
  name : String
  kind : SlotKind
  /-- Whether a gate on the way needs it and not the key itself. -/
  inherited : Bool
  deriving DecidableEq, Repr

/-- One key of a layout. -/
structure LayoutEntry where
  /-- The names that lead to the key, joined by dots. -/
  path : String
  /-- The rendered template. -/
  template : String
  arguments : List LayoutArgument
  deriving DecidableEq, Repr

/-- The keys of a schema for a separator. -/
structure Layout where
  separator : String
  entries : List LayoutEntry
  fingerprint : String
  deriving DecidableEq, Repr

/-- The line that a key contributes to the fingerprint. -/
def LayoutEntry.line (entry : LayoutEntry) : String :=
  entry.path ++ "\t" ++ entry.template

/-- The text whose digest is the fingerprint: the separator and the sorted
lines, each on a line of its own. -/
def fingerprintText (separator : String) (entries : List LayoutEntry) : String :=
  let lines := (entries.map LayoutEntry.line).mergeSort (fun a b => decide (a ≤ b))
  String.join ((separator :: lines).map (· ++ "\n"))

/-- The digest of a text's UTF-8 bytes. -/
def textDigest (text : String) : String := Sha256.hex text.toUTF8.data.toList

/-- A template as an entry of a layout, outer arguments first. -/
def Template.toEntry (separator : String) (template : Template) : LayoutEntry where
  path := template.dottedPath
  template := template.render separator
  arguments :=
    template.inherited.map (fun slot => ⟨slot.name, slot.kind, true⟩)
      ++ template.own.map (fun slot => ⟨slot.name, slot.kind, false⟩)

namespace Layout

/-- The layout of a schema for a separator. -/
def ofSchema (schema : Schema) (separator : String) : Layout :=
  let entries := schema.templates.map (Template.toEntry separator)
  ⟨separator, entries, textDigest (fingerprintText separator entries)⟩

/-- The first key with a dotted path. Names are joined without escapes, so
a name with a dot may share its path with a key further down. -/
def find? (layout : Layout) (path : String) : Option LayoutEntry :=
  layout.entries.find? (·.path = path)

/-! ### The table -/

/-- A text filled up with blanks to a number of characters. -/
def padTo (width : Nat) (text : String) : String :=
  text ++ String.ofList (List.replicate (width - text.length) ' ')

/-- The width of the column of paths: the bytes of the longest path, and
enough for the heading. -/
def pathWidth (layout : Layout) : Nat :=
  layout.entries.foldl (fun width entry => max width entry.path.utf8ByteSize) 4

/-- The arguments of a key in words, or a dash if there are none. -/
def argumentsText (entry : LayoutEntry) : String :=
  let text := ", ".intercalate (entry.arguments.map fun a => a.name ++ ": " ++ a.kind.tag)
  if text = "" then "-" else text

/-- The layout as text: a heading, a line for each key, and the fingerprint. -/
def table (layout : Layout) : String :=
  let width := layout.pathWidth
  let row (entry : LayoutEntry) : String :=
    padTo width entry.path ++ "  " ++ entry.template ++ "  " ++ argumentsText entry ++ "\n"
  padTo width "PATH" ++ "  TEMPLATE  ARGUMENTS\n" ++ String.join (layout.entries.map row)
    ++ "\n" ++ integerText layout.entries.length ++ " keys  separator "
    ++ rustLiteral layout.separator ++ "  fingerprint " ++ layout.fingerprint ++ "\n"

end Layout

end KeyTree
