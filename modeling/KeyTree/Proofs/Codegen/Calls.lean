import Mathlib.Data.List.Nodup
import KeyTree.Proofs.Codegen.ReadBack
import KeyTree.Proofs.Compiled.Walk

/-!
# `KeyTree.Proofs.Codegen.Calls`: what methods in generated source do

A method that has been read from source (`SourceMethod`) is given a meaning
here. A builder value is a struct with a prefix. The body of a method joins the
prefix and its segments with the separator of the module, or builds a struct
from the prefix, extended by its segments (`SourceMethod.call?`). A literal
stands for its text, and a parameter for the segment of the value that it is
called with, which has to be of the type that the parameter is declared with.
Structs and methods are found by their names. All of this is about what was
read, and nothing about what it was written from.

* `Stage.ShownBy`: a method shows a stage, by its name, its parameters and
  types, and the expressions in its body.
* `Stage.ShownBy.call?_eq`: such a method adds the segments of the stage, for
  any values that fit it.
* `SourceModule.keyOfCalls_eq`: calls of one method after another, down to a
  key, make the key of all their segments.
-/

set_option autoImplicit false

namespace KeyTree

/-! ### Calls -/

/-- The types that parameters are declared with, and the kinds of values that
they take. -/
def parameterTypes : List (String × SlotKind) :=
  [("&str", .text), ("impl self::NumberArg", .number), ("bool", .boolean)]

/-- The kind of values that a parameter takes, if its type is known. -/
def SourceParameter.kind? (parameter : SourceParameter) : Option SlotKind :=
  parameterTypes.lookup parameter.type

/-- The text of an expression, where the parameters in scope have values. Only
numbers are turned into text by the trait of numbers, and all other values by
themselves. -/
def SourceExpr.text? (scope : List (String × Value)) : SourceExpr → Option String
  | .literal text => some text
  | .shown name => do
    let value ← scope.lookup name
    if value.kind = .number then none else some value.segment
  | .number name => do
    let value ← scope.lookup name
    if value.kind = .number then some value.segment else none

namespace SourceBody

/-- The segments that a body puts behind the prefix. -/
def segments : SourceBody → List SourceExpr
  | .join segments | .extend _ segments => segments

/-- The type of what a body makes. -/
def type : SourceBody → String
  | .join _ => "String"
  | .extend structName _ => structName

end SourceBody

/-- A value of a generated struct. -/
structure BuilderValue where
  structName : String
  /-- The segments so far. -/
  stem : List String
  deriving DecidableEq, Repr

/-- What a call gives. -/
inductive CallResult where
  | key (text : String)
  | level (value : BuilderValue)
  deriving DecidableEq, Repr

namespace SourceMethod

/-- The parameters with the values of a call. A call needs one value for each
parameter, of the kind that its type takes. -/
def scope? (method : SourceMethod) (values : List Value) : Option (List (String × Value)) :=
  if values.map (some ·.kind) = method.parameters.map SourceParameter.kind? then
    some ((method.parameters.map SourceParameter.name).zip values)
  else none

/-- A call of a method of a struct with the prefix `stem`. What the body makes
has to be of the type that the method returns. -/
def call? (method : SourceMethod) (separator : String) (stem : List String)
    (values : List Value) : Option CallResult := do
  let scope ← method.scope? values
  let texts ← method.body.segments.mapM (SourceExpr.text? scope)
  if method.answer = method.body.type then
    match method.body with
    | .join _ => some (.key (separator.intercalate (stem ++ texts)))
    | .extend structName _ => some (.level ⟨structName, stem ++ texts⟩)
  else none

/-- The call of a method with values. -/
def withValues (method : SourceMethod) (values : List Value) : String × List Value :=
  (method.name, values)

end SourceMethod

namespace SourceModule

/-- What the constructor of the struct of a name gives. -/
def new? (module : SourceModule) (structName : String) : Option BuilderValue := do
  let struct ← module.structs.find? (·.name = structName)
  if struct.startsEmpty then some ⟨structName, []⟩ else none

/-- The method of a name in the struct of a name. -/
def method? (module : SourceModule) (structName name : String) : Option SourceMethod := do
  let struct ← module.structs.find? (·.name = structName)
  struct.methods.find? (·.name = name)

/-- The methods that names call one after another, starting in a struct; the
last one has to make a key. -/
def methodsAlong? (module : SourceModule) (structName : String) :
    List String → Option (List SourceMethod)
  | [] => none
  | name :: rest => do
    let method ← module.method? structName name
    match method.body with
    | .join _ => if rest.isEmpty then some [method] else none
    | .extend child _ => (module.methodsAlong? child rest).map (method :: ·)

/-- The key that calls of methods make, each with values of its own. -/
def keyOfCalls (module : SourceModule) (value : BuilderValue) :
    List (String × List Value) → Option String
  | [] => none
  | (name, values) :: rest => do
    let method ← module.method? value.structName name
    match ← method.call? module.separator value.stem values with
    | .key text => if rest.isEmpty then some text else none
    | .level next => module.keyOfCalls next rest

end SourceModule

/-! ### The method of a stage -/

section

variable {rules : LetterRules}

/-- A slot is shown by a parameter with the name that its own name makes, and
with the type of its kind. -/
def Slot.ShownBy (rules : LetterRules) (slot : Slot) (parameter : SourceParameter) : Prop :=
  rules.snakeCase slot.name = some parameter.name ∧ (parameter.type, slot.kind) ∈ parameterTypes

/-- A literal is shown by itself, and a slot by its parameter, which the trait
of numbers turns into text if it is a number. -/
def Piece.ShownBy (rules : LetterRules) : Piece → SourceExpr → Prop
  | .literal text, expression => expression = .literal text
  | .slot s, expression => ∃ name, rules.snakeCase s.name = some name
      ∧ expression = if s.kind = .number then .number name else .shown name

/-- A method shows a stage: it takes the slots of the stage and no others, in
order and under different names, puts the pieces of the stage behind the prefix,
and returns what its body makes. -/
structure Stage.ShownBy (rules : LetterRules) (stage : Stage) (method : SourceMethod) : Prop where
  name : rules.snakeCase stage.name = some method.name
  parameters : List.Forall₂ (Slot.ShownBy rules) stage.slots method.parameters
  nodup : (method.parameters.map SourceParameter.name).Nodup
  segments : List.Forall₂ (Piece.ShownBy rules) stage.pieces method.body.segments
  answer : method.answer = method.body.type

/-- What the method that stands for a stage shows is the stage. -/
theorem Stage.Method.shownBy {stage : Stage} {method : KeyTree.Method}
    (h : stage.Method rules method) (separator : String) (print : PrintRules) :
    stage.ShownBy rules (method.shown separator print) where
  name := h.name
  parameters := by
    have htypes : ∀ kind : SlotKind, (kind.rustType, kind) ∈ parameterTypes := by
      intro kind
      cases kind <;> decide
    refine List.forall₂_map_right_iff.mpr (h.parameters.imp fun slot parameter hslot => ?_)
    obtain ⟨hname, hkind⟩ := hslot
    exact ⟨hname, hkind ▸ htypes parameter.kind⟩
  nodup := by
    rw [KeyTree.Method.shown, List.map_map]
    exact h.nodup
  segments := by
    have hsegments : (method.shown separator print).body.segments
        = method.segments.map SegmentExpr.shown := by
      rw [KeyTree.Method.shown, KeyTree.Method.shownBody]
      cases method.answer <;> rfl
    rw [hsegments]
    refine List.forall₂_map_right_iff.mpr (h.segments.imp fun piece expression hpiece => ?_)
    cases piece with
    | literal text =>
        obtain rfl := hpiece
        rfl
    | slot s =>
        obtain ⟨⟨name, kind⟩, ⟨hname, rfl⟩, rfl⟩ := hpiece
        refine ⟨name, hname, ?_⟩
        cases s.kind <;> rfl
  answer := by
    rw [KeyTree.Method.shown, KeyTree.Method.shownBody]
    cases method.answer <;> rfl

/-- The parameters take values of the kinds of the slots. -/
theorem kinds_of_shownBy {slots : List Slot} {parameters : List SourceParameter}
    (h : List.Forall₂ (Slot.ShownBy rules) slots parameters) :
    parameters.map SourceParameter.kind? = slots.map (some ·.kind) := by
  have hkinds : ∀ pair ∈ parameterTypes, parameterTypes.lookup pair.1 = some pair.2 :=
    List.all_iff_forall_prop.mp (by decide)
  induction h with
  | nil => rfl
  | cons hslot hrest ih =>
      rw [List.map_cons, List.map_cons, ih, SourceParameter.kind?, hkinds _ hslot.2]

/-- Slots whose parameters have different names have different names. -/
theorem nodup_of_shownBy {slots : List Slot} {parameters : List SourceParameter}
    (h : List.Forall₂ (Slot.ShownBy rules) slots parameters)
    (hnodup : (parameters.map SourceParameter.name).Nodup) : (slots.map Slot.name).Nodup := by
  have hnames : (slots.map Slot.name).map rules.snakeCase
      = (parameters.map SourceParameter.name).map some := by
    induction h with
    | nil => rfl
    | cons hslot hrest ih =>
        rw [List.map_cons, List.nodup_cons] at hnodup
        simp only [List.map_cons, hslot.1, ih hnodup.2]
  -- Equal slot names would make equal parameter names.
  refine List.Nodup.of_map rules.snakeCase ?_
  rw [hnames]
  exact hnodup.map fun _ _ => Option.some.inj

/-- A slot has a parameter, and both are listed with one value, which is of the
slot's kind. -/
theorem exists_value_of_shownBy {slots : List Slot} {parameters : List SourceParameter}
    (h : List.Forall₂ (Slot.ShownBy rules) slots parameters) {values : List Value}
    (hkinds : values.map Value.kind = slots.map Slot.kind) {slot : Slot} (hslot : slot ∈ slots) :
    ∃ name value, rules.snakeCase slot.name = some name ∧ value.kind = slot.kind
      ∧ (name, value) ∈ (parameters.map SourceParameter.name).zip values
      ∧ (slot.name, some value) ∈ (slots.map Slot.name).zip (values.map some) := by
  induction h generalizing values with
  | nil => cases hslot
  | @cons head parameter slots parameters hhead hrest ih =>
      cases values with
      | nil => cases hkinds
      | cons value others =>
          obtain ⟨hkind, hothers⟩ := List.cons.inj hkinds
          rcases List.mem_cons.mp hslot with rfl | hslot
          · exact ⟨parameter.name, value, hhead.1, hkind, List.mem_cons_self, List.mem_cons_self⟩
          · obtain ⟨name, held, hname, hheld, hfound, hvalue⟩ := ih hothers hslot
            exact ⟨name, held, hname, hheld, List.mem_cons_of_mem _ hfound,
              List.mem_cons_of_mem _ hvalue⟩

namespace Stage.ShownBy

variable {stage : Stage} {method : SourceMethod} {values : List Value}

/-- Fitting values are of the types of the method's parameters. -/
theorem scope?_eq (hmethod : stage.ShownBy rules method) (hfits : stage.Fits values) :
    method.scope? values
      = some ((method.parameters.map SourceParameter.name).zip values) := by
  have hkinds : values.map (some ·.kind) = method.parameters.map SourceParameter.kind? := by
    have hsome := congrArg (List.map some) hfits
    rw [List.map_map, List.map_map] at hsome
    rw [kinds_of_shownBy hmethod.parameters]
    exact hsome
  rw [SourceMethod.scope?, if_pos hkinds]

/-- For a slot the method and the arguments of the stage have the same value,
one under the name of the parameter and one under that of the slot. -/
theorem exists_lookup (hmethod : stage.ShownBy rules method) (hfits : stage.Fits values)
    {slot : Slot} (hslot : slot ∈ stage.slots) :
    ∃ name value, rules.snakeCase slot.name = some name ∧ value.kind = slot.kind
      ∧ ((method.parameters.map SourceParameter.name).zip values).lookup name = some value
      ∧ (stage.arguments values).value? slot.name = some value := by
  have hlength := hfits.length_eq
  have hslots := hmethod.parameters.length_eq
  obtain ⟨name, value, hname, hkind, hscope, hargs⟩ :=
    exists_value_of_shownBy hmethod.parameters hfits hslot
  refine ⟨name, value, hname, hkind, ?_, ?_⟩
  · -- Names that differ make the look-up find what is listed.
    have hscopes : (((method.parameters.map SourceParameter.name).zip values).map
        Prod.fst).Nodup := by
      rw [List.map_fst_zip (by simp [hlength, hslots])]
      exact hmethod.nodup
    exact (lookup_eq_some_iff_mem hscopes _ _).mpr hscope
  · have hnames :
        (((stage.slots.map Slot.name).zip (values.map some)).reverse.map Prod.fst).Nodup := by
      rw [List.map_reverse, List.map_fst_zip (by simp [hlength]), List.nodup_reverse]
      exact nodup_of_shownBy hmethod.parameters hmethod.nodup
    rw [Arguments.value?, arguments, NameMap.find?_ofList,
      (lookup_eq_some_iff_mem hnames _ _).mpr (List.mem_reverse.mpr hargs)]
    rfl

/-- The segments of the method of a stage are those of the stage. -/
theorem segments_eq (hmethod : stage.ShownBy rules method) (hfits : stage.Fits values) :
    method.body.segments.mapM
        (SourceExpr.text? ((method.parameters.map SourceParameter.name).zip values))
      = some (stage.segments values) := by
  have hslots : ∀ slot, .slot slot ∈ stage.pieces → slot ∈ stage.slots := fun slot hmem =>
    List.mem_filterMap.mpr ⟨_, hmem, rfl⟩
  rw [Stage.segments]
  have hpieces := hmethod.segments
  -- The scope stays while the induction takes the pieces one by one.
  generalize method.body.segments = expressions at hpieces
  generalize stage.pieces = pieces at hpieces hslots
  induction hpieces with
  | nil => rfl
  | @cons piece expression pieces expressions hpiece hrest ih =>
      have hothers := ih fun slot hmem => hslots slot (List.mem_cons_of_mem _ hmem)
      rw [List.mapM_cons, hothers]
      cases piece with
      | literal text =>
          obtain rfl := hpiece
          rfl
      | slot s =>
          obtain ⟨name, hname, rfl⟩ := hpiece
          obtain ⟨found, value, hfound, hkind, hlookup, hvalue⟩ :=
            hmethod.exists_lookup hfits (hslots s List.mem_cons_self)
          obtain rfl := Option.some.inj (hname.symm.trans hfound)
          -- Only numbers are read through the trait, and only they may be.
          by_cases hnumber : s.kind = .number
          · simp [SourceExpr.text?, hnumber, hlookup, hkind, hvalue, Piece.filled,
              Arguments.segment?]
          · simp [SourceExpr.text?, hnumber, hlookup, hkind, hvalue, Piece.filled,
              Arguments.segment?]

/-- The method of a stage adds the segments of the stage to the prefix. -/
theorem call?_eq (hmethod : stage.ShownBy rules method) (hfits : stage.Fits values)
    (separator : String) (stem : List String) :
    method.call? separator stem values
      = match method.body with
        | .join _ => some (.key (separator.intercalate (stem ++ stage.segments values)))
        | .extend structName _ => some (.level ⟨structName, stem ++ stage.segments values⟩) := by
  rw [SourceMethod.call?, hmethod.scope?_eq hfits, Option.bind_eq_bind, Option.bind_some,
    hmethod.segments_eq hfits, Option.bind_eq_bind, Option.bind_some, if_pos hmethod.answer]

end Stage.ShownBy

/-! ### Calls along stages -/

namespace SourceModule

variable {module : SourceModule}

/-- The first method that names lead to makes the key and is the last one, or
makes the struct in which the others are found. -/
theorem methodsAlong?_cons {structName name : String} {names : List String}
    {methods : List SourceMethod}
    (h : module.methodsAlong? structName (name :: names) = some methods) :
    ∃ method others, methods = method :: others
      ∧ module.method? structName name = some method
      ∧ ((∃ segments, method.body = .join segments) ∧ names = [] ∧ others = []
          ∨ ∃ child segments, method.body = .extend child segments
              ∧ module.methodsAlong? child names = some others) := by
  rw [methodsAlong?] at h
  obtain ⟨method, hmethod, h⟩ := Option.bind_eq_some_iff.mp h
  cases hbody : method.body with
  | join segments =>
      simp only [hbody, Option.ite_none_right_eq_some, List.isEmpty_iff, Option.some.injEq] at h
      exact ⟨method, [], h.2.symm, hmethod, .inl ⟨⟨segments, hbody⟩, h.1, rfl⟩⟩
  | extend child segments =>
      simp only [hbody, Option.map_eq_some_iff] at h
      obtain ⟨others, hothers, rfl⟩ := h
      exact ⟨method, others, rfl, hmethod, .inr ⟨child, segments, hbody, hothers⟩⟩

/-- Calls of the methods of some stages make the key of all their segments,
where the methods are found one after another and the last makes a key. -/
theorem keyOfCalls_eq {stages : List Stage} {methods : List SourceMethod}
    (hmethods : List.Forall₂ (Stage.ShownBy rules) stages methods)
    {choices : List (List Value)} (hfits : List.Forall₂ Stage.Fits stages choices)
    {structName : String}
    (hfound : module.methodsAlong? structName (methods.map SourceMethod.name) = some methods)
    (stem : List String) :
    module.keyOfCalls ⟨structName, stem⟩
        (List.zipWith SourceMethod.withValues methods choices)
      = some (module.separator.intercalate
          (stem ++ (List.zipWith Stage.segments stages choices).flatten)) := by
  induction hmethods generalizing choices structName stem with
  | nil => cases hfound
  | @cons stage method stages methods hmethod hrest ih =>
      obtain ⟨values, others, hvalues, hothers, rfl⟩ := List.forall₂_cons_left_iff.mp hfits
      -- The method found first is the one in hand; its body says whether the
      -- calls end with it.
      obtain ⟨_, _, hcons, hmethodOf, hbody⟩ := methodsAlong?_cons hfound
      obtain ⟨rfl, rfl⟩ := List.cons.inj hcons
      rw [List.zipWith_cons_cons, SourceMethod.withValues, keyOfCalls, hmethodOf,
        Option.bind_eq_bind, Option.bind_some, hmethod.call?_eq hvalues]
      rcases hbody with ⟨⟨segments, hjoin⟩, hnames, rfl⟩ | ⟨child, segments, hextend, hfound⟩
      · obtain rfl := List.forall₂_nil_right_iff.mp hrest
        simp [hjoin]
      · simp [hextend, ih hothers hfound]

end SourceModule

end

end KeyTree
