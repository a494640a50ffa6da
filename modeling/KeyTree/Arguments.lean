import KeyTree.Value

/-!
# `KeyTree.Arguments`: values by slot name

Arguments map slot names to values. A name may also be present without a
value; such a name counts as missing wherever a value is needed
(`Arguments.value?`). Names that nothing asks for do no harm.
-/

set_option autoImplicit false

namespace KeyTree

/-- Values by slot name; `none` is a name that is present without a value. -/
abbrev Arguments := NameMap (Option Value)

namespace Arguments

/-- The value of a slot name, if it has one. -/
def value? (args : Arguments) (name : String) : Option Value :=
  (args.find? name).join

/-- The text that fills a slot, if its name has a value. -/
def segment? (args : Arguments) (slot : Slot) : Option String :=
  (args.value? slot.name).map Value.segment

end Arguments

end KeyTree
