import KeyTree.Schema.Basic

/-!
# `KeyTree.Schema.Template`: every key of a schema, without arguments

A template describes one key of a schema: the names that lead to it, the
slots that stand on the way and in the key itself, and its pieces from the
root on. Slots of gates stay symbolic here, so a schema's templates can be
listed without any arguments (`Level.templates`).

Pieces are rendered with slots in braces. A brace in literal text is
doubled, so a literal never reads as a slot.
-/

set_option autoImplicit false

namespace KeyTree

/-! ### Rendering pieces -/

/-- A character of literal text: braces are doubled. -/
def renderedChar (c : Char) : List Char :=
  if c = '{' then ['{', '{'] else if c = '}' then ['}', '}'] else [c]

/-- A piece, with slots in braces. -/
def Piece.render : Piece → String
  | .literal text => String.ofList (text.toList.flatMap renderedChar)
  | .slot s => String.ofList ('{' :: s.name.toList ++ ['}'])

/-- Pieces, joined by the separator. -/
def renderPieces (separator : String) (pieces : List Piece) : String :=
  separator.intercalate (pieces.map Piece.render)

/-- Names joined by dots. -/
def dotted (path : List String) : String := ".".intercalate path

/-! ### Templates -/

/-- One key of a schema. -/
structure Template where
  /-- The names from the root down to the key. -/
  path : List String
  /-- The slots of the gates on the way, outermost first. -/
  inherited : List Slot
  /-- The slots of the key itself, in order. -/
  own : List Slot
  /-- The pieces of the whole key. -/
  pieces : List Piece
  deriving DecidableEq, Repr

namespace Template

/-- Every slot that has to be filled to reach and build the key. -/
def slots (template : Template) : List Slot := template.inherited ++ template.own

/-- The names that lead to the key, joined by dots. -/
def dottedPath (template : Template) : String := dotted template.path

/-- The whole key, with slots in braces. -/
def render (template : Template) (separator : String) : String :=
  renderPieces separator template.pieces

end Template

/-- The pieces that a gate puts in front of the keys behind it. -/
def gatePieces (name : String) (slots : Slots) : List Piece :=
  .literal name :: slots.toList.map .slot

namespace Level

/-- The templates of a level whose keys are reached by `path`, start with
`stem` and lie behind gates with the slots `inherited`. -/
def templatesFrom (path : List String) (stem : List Piece) (inherited : List Slot) :
    Level → List Template
  | .nil => []
  | .absent _ rest => rest.templatesFrom path stem inherited
  | .key name pieces rest =>
    ⟨path ++ [name], inherited, slotsOf pieces, stem ++ pieces⟩
      :: rest.templatesFrom path stem inherited
  | .branch name below rest =>
    below.templatesFrom (path ++ [name]) (stem ++ [.literal name]) inherited
      ++ rest.templatesFrom path stem inherited
  | .gate name slots behind rest =>
    behind.templatesFrom (path ++ [name]) (stem ++ gatePieces name slots)
        (inherited ++ slots.toList)
      ++ rest.templatesFrom path stem inherited

/-- One template for each key, depth first in name order; absent entries
have none. -/
def templates (level : Level) : List Template := level.templatesFrom [] [] []

end Level

/-- The templates of a schema. -/
def Schema.templates (schema : Schema) : List Template := schema.level.templates

end KeyTree
