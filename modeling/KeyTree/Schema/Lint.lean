import KeyTree.Schema.Template

/-!
# `KeyTree.Schema.Lint`: findings about slot names

A schema may name its slots freely, and nothing stops two slots of one key
from sharing a name, so that one argument fills both. `Level.lint` finds
such names, slots without a name, and keys without pieces. Every entry is
looked at in name order, and each finding has the dotted path of its entry.

The slots that apply to an entry are those of the gates around it and its
own; siblings never share slots.
-/

set_option autoImplicit false

namespace KeyTree

/-- Something a schema should not have; `path` is the dotted path of the
entry that has it. -/
inductive Finding where
  | emptySlotName (path : String)
  | duplicateSlot (name path : String)
  | emptyKey (path : String)
  deriving DecidableEq, Repr

/-- The text of a finding. -/
def Finding.message : Finding → String
  | emptySlotName path => "empty placeholder name at `" ++ path ++ "`"
  | duplicateSlot name path => "duplicate placeholder `" ++ name ++ "` at `" ++ path ++ "`"
  | emptyKey path => "key definition at `" ++ path ++ "` has no parts"

/-- The findings about an entry's own slots, when the names `seen` apply
already. A slot without a name is found as such and not remembered. -/
def slotFindings (path : String) (seen : List String) : List Slot → List Finding
  | [] => []
  | slot :: rest =>
    if slot.name = "" then .emptySlotName path :: slotFindings path seen rest
    else if slot.name ∈ seen then
      .duplicateSlot slot.name path :: slotFindings path seen rest
    else slotFindings path (slot.name :: seen) rest

namespace Level

/-- The findings of a level at `path` behind gates whose slots have the
names `scope`. -/
def lintFrom (path : List String) (scope : List String) : Level → List Finding
  | .nil => []
  | .absent _ rest => rest.lintFrom path scope
  | .key name pieces rest =>
    let here := dotted (path ++ [name])
    (if pieces.isEmpty then [.emptyKey here] else [])
      ++ slotFindings here scope (slotsOf pieces) ++ rest.lintFrom path scope
  | .branch name below rest =>
    below.lintFrom (path ++ [name]) scope ++ rest.lintFrom path scope
  | .gate name slots behind rest =>
    slotFindings (dotted (path ++ [name])) scope slots.toList
      ++ behind.lintFrom (path ++ [name]) (scope ++ slots.toList.map Slot.name)
      ++ rest.lintFrom path scope

end Level

/-- Every finding of a schema, depth first in name order. -/
def Schema.lint (schema : Schema) : List Finding := schema.level.lintFrom [] []

end KeyTree
