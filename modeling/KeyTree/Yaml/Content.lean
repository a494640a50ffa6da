import KeyTree.Yaml.Node
import KeyTree.Yaml.Word
import KeyTree.Json.Basic

/-!
# `KeyTree.Yaml.Content`: what nodes hold

A node holds a JSON value (`Node.content`), a text (`Node.text`), or a text
or nothing (`Node.optionalText`), if its shape and its tag allow.

Aliases are followed to the nodes they stand for. A node may stand inside
itself that way, and few lines may write very much, so there are bounds on
how deep collections may nest (`nestingLimit`) and on how many aliases may
be followed (`followLimit`).
-/

set_option autoImplicit false

namespace KeyTree.Yaml

/-- How deep sequences and mappings may nest. -/
def nestingLimit : Nat := 128

/-- How many aliases may be followed for each event of a document. -/
def followLimit : Nat := 100

/-- Reading what nodes hold, with the nodes that have anchors and the number
of aliases that may still be followed. It fails at the first node that does
not hold what is wanted. -/
abbrev Content := ReaderT (List (Nat × Node)) (StateT Nat Option)

/-- What a document holds, given what its root does. -/
def Content.ofRoot {α : Type} (root : Node) (content : Node → Content α) : Option α :=
  ((content root).run root.anchored.reverse |>.run (followLimit * root.events)).map (·.1)

namespace Node

/-- The node itself, or the one that an alias stands for. -/
def follow : Node → Content Node
  | .alias anchor => do
    let left ← get
    if left = 0 then failure
    set (left - 1)
    let target : Option Node := (← read).lookup anchor
    target
  | node => pure node

/-- The JSON value of a word. What is no finite number is null. -/
def ofWord (text : String) : Word → Option Json
  | .null => some .null
  | .boolean b => some (.boolean b)
  | .integer n => some (.number (.integer n))
  | .wide => none
  | .decimal x => some (if x.isFinite then .number (.double x) else .null)
  | .text => some (.text text)

/-- The JSON value of a scalar. Tags of the standard types ask for a value
of that type, other tags for a text, and local tags mean nothing here. -/
def ofScalar (tag : Option Tag) (plain : Bool) (text : String) : Option Json :=
  match tag with
  | none => if plain then ofWord text (.ofText text) else some (.text text)
  | some tag =>
    if tag.isLocal then none
    else if tag = Tag.named "bool" then (Word.boolean? text).map .boolean
    else if tag = Tag.named "int" then (Word.whole? text.toList).bind (ofWord text)
    else if tag = Tag.named "float" then
      (Word.decimal? text.toList).bind fun x => ofWord text (.decimal x)
    else if tag = Tag.named "null" then if Word.isNull text then some .null else none
    else if plain && tag.take 1 = Tag.mark then ofWord text (.ofText text)
    else some (.text text)

/-- The text of a scalar, whatever its tag. -/
def text (node : Node) : Content String := do
  match ← node.follow with
  | .scalar _ _ text => pure text
  | _ => failure

/-- Nothing for a scalar that is null, or the text of another. -/
def optionalText (node : Node) : Content (Option String) := do
  match ← node.follow with
  | .scalar marks plain text =>
    if ! plain then pure (some text)
    else match marks.tag with
      | none => pure (if text = "" || Word.isNull text then none else some text)
      | some tag =>
        if tag = Tag.named "null" then if Word.isNull text then pure none else failure
        else pure (some text)
  | _ => failure

/-- The JSON value of a node, with room for so many levels of collections.
The names of fields are the texts of scalars; of several fields of one name
the last stands. -/
def content : Nat → Node → Content Json
  | room, node => do
    match ← node.follow, room with
    | .scalar marks plain text, _ =>
      let value : Option Json := ofScalar marks.tag plain text
      value
    | .sequence marks items, room + 1 =>
      if marks.tag.any Tag.isLocal then failure
      pure (.array (← items.mapM (content room)))
    | .mapping marks entries, room + 1 =>
      if marks.tag.any Tag.isLocal then failure
      let fields ← entries.mapM fun (key, value) => do
        pure (← key.text, ← value.content room)
      pure (.ofFields fields)
    | _, _ => failure
termination_by structural room => room

end Node

end KeyTree.Yaml
