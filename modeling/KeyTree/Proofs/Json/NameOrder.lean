import KeyTree.Proofs.Json.Reading

/-!
# `KeyTree.Proofs.Json.NameOrder`: objects as maps

An object maps names to values. Here its fields are a list, so a value that stands
for a map has them in the order of their names, and no name twice
(`Json.InNameOrder`). Every value that is read is one (`Reader.inNameOrder_of_any`),
since a field that is complete is put in its place among those before it. The
invariant is that all open arrays and objects hold such values (`Shift.InNameOrder`).
-/

set_option autoImplicit false

namespace KeyTree.Json

/-- The fields of each object in a value are in the order of their names and no
name comes twice. -/
inductive InNameOrder : Json → Prop
  | null : InNameOrder .null
  | boolean (b : Bool) : InNameOrder (.boolean b)
  | number (n : JsonNumber) : InNameOrder (.number n)
  | text (s : String) : InNameOrder (.text s)
  | array {items : List Json} (hitems : ∀ item ∈ items, InNameOrder item) :
      InNameOrder (.array items)
  | object {fields : List (String × Json)} (hordered : NamesOrdered fields)
      (hfields : ∀ field ∈ fields, InNameOrder field.2) : InNameOrder (.object fields)

@[simp] theorem inNameOrder_array_iff {items : List Json} :
    InNameOrder (.array items) ↔ ∀ item ∈ items, item.InNameOrder := by
  refine ⟨fun h => ?_, .array⟩
  cases h with
  | array hitems => exact hitems

@[simp] theorem inNameOrder_object_iff {fields : List (String × Json)} :
    InNameOrder (.object fields) ↔ NamesOrdered fields ∧ ∀ field ∈ fields, field.2.InNameOrder := by
  refine ⟨fun h => ?_, fun h => .object h.1 h.2⟩
  cases h with
  | object hordered hfields => exact ⟨hordered, hfields⟩

theorem InNameOrder.ordered {fields : List (String × Json)}
    (h : InNameOrder (.object fields)) : NamesOrdered fields :=
  (inNameOrder_object_iff.mp h).1

theorem InNameOrder.of_mem {fields : List (String × Json)} (h : InNameOrder (.object fields))
    {name : String} {value : Json} (hmem : (name, value) ∈ fields) : value.InNameOrder :=
  (inNameOrder_object_iff.mp h).2 _ hmem

/-- A field that is put in its place keeps the order. -/
theorem InNameOrder.insertNamed {fields : List (String × Json)}
    (h : InNameOrder (.object fields)) (name : String) {value : Json} (hvalue : value.InNameOrder) :
    InNameOrder (.object (insertNamed name value fields)) := by
  refine .object (ordered_insertNamed name value h.ordered) fun field hfield => ?_
  rcases mem_insertNamed hfield with rfl | hold
  · exact hvalue
  · exact h.of_mem hold

/-! ### Values that are read -/

/-- What an open array or object holds so far. -/
def Frame.InNameOrder : Frame → Prop
  | .array items => Json.InNameOrder (.array items)
  | .object fields _ => Json.InNameOrder (.object fields)

namespace Shift

/-- What has been read so far. -/
def InNameOrder : Shift → Prop
  | .done v => v.InNameOrder
  | .value stack | .items stack | .fields stack => ∀ frame ∈ stack, frame.InNameOrder
  | .field held stack | .colon held _ stack =>
    Json.InNameOrder (.object held) ∧ ∀ frame ∈ stack, frame.InNameOrder
  | .more frame stack => ∀ held ∈ frame :: stack, held.InNameOrder

variable {room : Nat} {stack : List Frame}

theorem inNameOrder_settle {value : Json} (h : ∀ frame ∈ stack, frame.InNameOrder)
    (hvalue : value.InNameOrder) : (settle value stack).InNameOrder := by
  cases stack with
  | nil => exact hvalue
  | cons frame stack =>
      obtain ⟨hframe, hstack⟩ := List.forall_mem_cons.mp h
      cases frame with
      | array held =>
          have hitems := inNameOrder_array_iff.mp hframe
          have hmore := List.forall_mem_cons.mpr ⟨hvalue, hitems⟩
          exact List.forall_mem_cons.mpr ⟨.array hmore, hstack⟩
      | object held name =>
          exact List.forall_mem_cons.mpr
            ⟨Json.InNameOrder.insertNamed hframe name hvalue, hstack⟩

/-- A value of a single token holds no objects. -/
theorem inNameOrder_of_scalar {token : Token} {value : Json} (h : token.scalar = .ok value) :
    value.InNameOrder := by
  cases token with
  | null => cases h; exact .null
  | boolean b => cases h; exact .boolean b
  | number parts =>
      obtain ⟨n, -, rfl⟩ := map_eq_ok_iff.mp h
      exact .number n
  | text s =>
      cases s with
      | none => cases h
      | some s => cases h; exact .text s
  | _ => cases h

theorem inNameOrder_startValue {token : Token} {next : Shift}
    (h : ∀ frame ∈ stack, frame.InNameOrder)
    (hstep : startValue (.wanted room) stack token = .ok next) : next.InNameOrder := by
  have hscalar : ((Reading.wanted room).scalar token).map (settle · stack) = .ok next →
      next.InNameOrder := by
    intro hstep
    obtain ⟨value, hvalue, rfl⟩ := map_eq_ok_iff.mp hstep
    exact inNameOrder_settle h (inNameOrder_of_scalar hvalue)
  -- A bracket opens an array or object that holds nothing yet.
  have hopened : ∀ opened : Shift, (if hasRoom (.wanted room) stack then .ok opened
      else .error Fault.malformed) = Except.ok next → opened = next := by
    intro opened hopen
    split at hopen
    · exact Except.ok.inj hopen
    · cases hopen
  cases token with
  | openArray =>
      obtain rfl := hopened _ hstep
      exact h
  | openObject =>
      obtain rfl := hopened _ hstep
      exact h
  | _ => exact hscalar hstep

/-- A step keeps the order. -/
theorem inNameOrder_step {token : Token} {shift next : Shift} (h : shift.InNameOrder)
    (hstep : step (.wanted room) token shift = .ok next) : next.InNameOrder := by
  have hnoFields : Json.InNameOrder (.object []) := .object trivial (List.forall_mem_nil _)
  cases shift with
  | done v =>
      cases hstep
      exact h
  | value stack => exact inNameOrder_startValue h hstep
  | items stack =>
      have hnoItems : Json.InNameOrder (.array []) := .array (List.forall_mem_nil _)
      have hfirst : startValue (.wanted room) (.array [] :: stack) token = .ok next →
          next.InNameOrder := inNameOrder_startValue (List.forall_mem_cons.mpr ⟨hnoItems, h⟩)
      cases token with
      | closeArray =>
          cases hstep
          exact inNameOrder_settle h hnoItems
      | _ => exact hfirst hstep
  | fields stack =>
      have hname : ((Reading.wanted room).name token).map (colon [] · stack) = .ok next →
          next.InNameOrder := by
        intro hstep
        obtain ⟨name, -, rfl⟩ := map_eq_ok_iff.mp hstep
        exact ⟨hnoFields, h⟩
      cases token with
      | closeObject =>
          cases hstep
          exact inNameOrder_settle h hnoFields
      | _ => exact hname hstep
  | field held stack =>
      obtain ⟨name, -, rfl⟩ := map_eq_ok_iff.mp hstep
      exact h
  | colon held name stack =>
      cases token with
      | colon =>
          cases hstep
          exact List.forall_mem_cons.mpr h
      | _ => cases hstep
  | more frame stack =>
      obtain ⟨hframe, hstack⟩ := List.forall_mem_cons.mp h
      cases frame with
      | array held =>
          cases token with
          | comma =>
              cases hstep
              exact h
          | closeArray =>
              cases hstep
              refine inNameOrder_settle hstack (.array fun item hitem => ?_)
              exact inNameOrder_array_iff.mp hframe item (List.mem_reverse.mp hitem)
          | _ => cases hstep
      | object held name =>
          cases token with
          | comma =>
              cases hstep
              exact ⟨hframe, hstack⟩
          | closeObject =>
              cases hstep
              exact inNameOrder_settle hstack hframe
          | _ => cases hstep

end Shift

/-- Every value that is read has its fields in the order of their names. -/
theorem Reader.inNameOrder_of_any {room : Nat} {tokens rest : List Token} {value : Json}
    (h : Reader.any room tokens = .ok (value, rest)) : value.InNameOrder := by
  have hstart : (Shift.value []).InNameOrder := List.forall_mem_nil _
  exact Shift.done_of_run Shift.inNameOrder_step hstart h

end KeyTree.Json
