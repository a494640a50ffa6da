import KeyTree.Proofs.Document.Accepted
import KeyTree.Proofs.Json.NameOrder
import KeyTree.Proofs.Text.ByteOrder

/-!
# `KeyTree.Proofs.Document.Remarks`: what reading comes upon

Reading the keys of a document passes over what it does not know and stops at
what is wrong. Both are remarks about some entry (`Remark`): the one is reported,
the other is the error.

* `Json.ReachesAt`: the entries that reading comes to, by the names that lead there.
  `Json.Warrants` is what there is to say about one of them, and `Json.FieldsDraw`
  the remarks that the fields of a document draw.
* `Remark.place`: where a remark stands, as a list of marks. Places are compared
  mark by mark. Entries come in the order of their names; of one gate come first
  the fields that mean nothing, then the values that are no slots, then all that
  is about the entries behind it, and last that it has no slots or no level.
* `Json.remarksFrom`: all remarks in a list. `mem_remarksFrom_iff` says that it
  holds those that are drawn and no others, `byPlace_remarksFrom` that they come
  by their places if the fields come by their names.
-/

set_option autoImplicit false

namespace KeyTree

/-! ### Marks and places -/

/-- A mark of a place in the keys of a document. -/
inductive Waymark where
  /-- A field of a gate that means nothing. -/
  | field (name : String)
  /-- A value among the slots of a gate. -/
  | slot (index : Nat)
  /-- An entry. -/
  | entry (name : String)
  /-- That a gate has no slots. -/
  | noSlots
  /-- That there is no level behind a gate. -/
  | noLevel
  deriving DecidableEq

namespace Waymark

/-- The marks of different kinds are in this order. -/
def rank : Waymark → Nat
  | field _ => 0
  | slot _ => 1
  | entry _ => 2
  | noSlots => 3
  | noLevel => 4

/-- The order of marks. Names are compared by their bytes. -/
inductive Before : Waymark → Waymark → Prop
  | fields {name other : String} (h : utf8 name < utf8 other) : Before (field name) (field other)
  | slots {index other : Nat} (h : index < other) : Before (slot index) (slot other)
  | entries {name other : String} (h : utf8 name < utf8 other) : Before (entry name) (entry other)
  | kinds {mark other : Waymark} (h : mark.rank < other.rank) : Before mark other

instance : LT Waymark := ⟨Before⟩

theorem Before.asymm {mark other : Waymark} (h : mark.Before other) : ¬ other.Before mark := by
  intro h'
  -- Marks of one kind are of one rank, so no pair is in order both ways.
  cases h with
  | fields hlt =>
      cases h' with
      | fields hgt => exact List.lt_asymm hlt hgt
      | kinds hgt => exact Nat.lt_irrefl _ hgt
  | slots hlt =>
      cases h' with
      | slots hgt => exact Nat.lt_asymm hlt hgt
      | kinds hgt => exact Nat.lt_irrefl _ hgt
  | entries hlt =>
      cases h' with
      | entries hgt => exact List.lt_asymm hlt hgt
      | kinds hgt => exact Nat.lt_irrefl _ hgt
  | kinds hlt =>
      cases h' with
      | fields => exact Nat.lt_irrefl _ hlt
      | slots => exact Nat.lt_irrefl _ hlt
      | entries => exact Nat.lt_irrefl _ hlt
      | kinds hgt => exact Nat.lt_asymm hlt hgt

instance : Std.Asymm (fun mark other : Waymark => mark < other) := ⟨fun _ _ h => Before.asymm h⟩

end Waymark

/-! ### Remarks -/

/-- What a remark about an entry says. -/
inductive Matter where
  /-- The entry is of no known shape. -/
  | unrecognized (found : String)
  /-- The gate has a field that means nothing. -/
  | ignored (field : String)
  /-- The value at this index among the slots of the gate is no slot. -/
  | badSlot (index : Nat) (found : Json)
  /-- The gate has no slots. -/
  | noSlots
  /-- No object stands behind the gate. -/
  | noLevel

/-- The marks of what is said, inside the entry that it is about. -/
def Matter.marks : Matter → List Waymark
  | .unrecognized _ => []
  | .ignored field => [.field field]
  | .badSlot index _ => [.slot index]
  | .noSlots => [.noSlots]
  | .noLevel => [.noLevel]

/-- Something that is not right about the entry at the end of a path of names. -/
structure Remark where
  path : List String
  matter : Matter

namespace Remark

/-- The remark as it reads from further up. -/
def under (front : List String) (remark : Remark) : Remark :=
  ⟨front ++ remark.path, remark.matter⟩

theorem under_under (front more : List String) (remark : Remark) :
    (remark.under more).under front = remark.under (front ++ more) := by
  simp [under]

/-- What reading makes of a remark. What is passed over is reported, all else is
an error. -/
def outcome : Remark → Event ⊕ KeysError
  | ⟨path, .unrecognized found⟩ => .inl (.skippedUnrecognized (dotted path) found)
  | ⟨path, .ignored field⟩ => .inl (.ignoredField (dotted path) field)
  | ⟨path, .badSlot _ found⟩ => .inr (.invalidSlot (dotted path) found)
  | ⟨path, .noSlots⟩ => .inr (.gate (dotted path) .noSlots)
  | ⟨path, .noLevel⟩ => .inr (.gate (dotted path) .notALevel)

/-- The remark is about a field of a gate that means nothing. -/
def aboutField : Remark → Bool
  | ⟨_, .ignored _⟩ => true
  | _ => false

/-- Reading stops here. -/
def IsFault (remark : Remark) : Prop := remark.outcome.isRight

/-- Where the remark stands. -/
def place (remark : Remark) : List Waymark := remark.path.map .entry ++ remark.matter.marks

theorem place_under (front : List String) (remark : Remark) :
    (remark.under front).place = front.map .entry ++ remark.place := by
  simp [under, place]

end Remark

namespace Json

/-! ### Remarks of a value -/

/-- The shape of a value that is no entry. -/
def unknown? : Json → Option String
  | .boolean _ => some "boolean"
  | .number _ => some "number"
  | .text _ => some "string"
  | .array items =>
    if (items.mapM piece?).isSome then none else some "array with a non-segment element"
  | .null | .object _ => none

/-- The values that a gate's field holds as slots: the items of an array, none for
null, or a single value. -/
def slotItems : Json → List Json
  | .array items => items
  | .null => []
  | single => [single]

/-- The names of the fields of a gate that mean nothing. -/
def ignoredNames (fields : List (String × Json)) : List String :=
  (fields.map Prod.fst).filter fun name => name ≠ gateSlotsField ∧ name ≠ gateLevelField

/-- The fields of the object that stands behind a gate. -/
def behind? (fields : List (String × Json)) : Option (List (String × Json)) :=
  match fields.lookup gateLevelField with
  | some (.object inner) => some inner
  | _ => none

/-- The fields that hold the entries in an entry: all of an object, or those of
the object behind a gate. -/
def inside? : Json → Option (List (String × Json))
  | .object fields =>
    if (fields.lookup gateSlotsField).isSome then behind? fields else some fields
  | _ => none

/-- The entries that reading comes to, with the names that lead there. -/
inductive ReachesAt : List (String × Json) → List String → Json → Prop
  | here {fields : List (String × Json)} {name : String} {value : Json}
      (hmem : (name, value) ∈ fields) : ReachesAt fields [name] value
  | inside {fields inner : List (String × Json)} {name : String} {value found : Json}
      {path : List String} (hmem : (name, value) ∈ fields) (hinside : value.inside? = some inner)
      (hreaches : ReachesAt inner path found) : ReachesAt fields (name :: path) found

/-- What there is to say about a value as an entry. -/
inductive Warrants : Json → Matter → Prop
  | unrecognized {value : Json} {found : String} (hvalue : value.unknown? = some found) :
      Warrants value (.unrecognized found)
  | ignored {fields : List (String × Json)} {field : String}
      (hgate : (fields.lookup gateSlotsField).isSome) (hfield : field ∈ ignoredNames fields) :
      Warrants (.object fields) (.ignored field)
  | badSlot {fields : List (String × Json)} {given item : Json} {index : Nat}
      (hgate : fields.lookup gateSlotsField = some given)
      (hitem : given.slotItems[index]? = some item) (hslot : item.slot? = none) :
      Warrants (.object fields) (.badSlot index item)
  | noSlots {fields : List (String × Json)} {given : Json}
      (hgate : fields.lookup gateSlotsField = some given) (hitems : given.slotItems = []) :
      Warrants (.object fields) .noSlots
  | noLevel {fields : List (String × Json)} (hgate : (fields.lookup gateSlotsField).isSome)
      (hbehind : behind? fields = none) : Warrants (.object fields) .noLevel

/-- The remarks about the entries that reading some fields comes to. -/
def FieldsDraw (fields : List (String × Json)) (remark : Remark) : Prop :=
  ∃ value, ReachesAt fields remark.path value ∧ value.Warrants remark.matter

/-! ### The list of them -/

/-- The remarks about the fields of a gate. -/
def ignoredRemarks (fields : List (String × Json)) : List Remark :=
  (ignoredNames fields).map fun field => ⟨[], .ignored field⟩

/-- The remarks about values that are no slots, for values from an index on. -/
def badSlotRemarks (index : Nat) (items : List Json) : List Remark :=
  ((items.zipIdx index).filter fun listed => listed.1.slot?.isNone).map fun listed =>
    ⟨[], .badSlot listed.2 listed.1⟩

/-- The remarks about what a gate lacks. -/
def lackRemarks (noSlots noLevel : Bool) : List Remark :=
  (if noSlots then [⟨[], .noSlots⟩] else []) ++ if noLevel then [⟨[], .noLevel⟩] else []

mutual

/-- The remarks about the entries that some fields hold, in the order of the
fields. -/
def remarksFrom : List (String × Json) → List Remark
  | [] => []
  | (name, value) :: rest => (remarksAt value).map (.under [name]) ++ remarksFrom rest
termination_by structural fields => fields

/-- The remarks about a value as an entry. Of a gate come first those about its
fields and slots, then those about the entries behind it, and last what it
lacks. -/
def remarksAt : Json → List Remark
  | .object fields =>
    match fields.lookup gateSlotsField with
    | none => remarksFrom fields
    | some given =>
      -- A gate is put together last, so what it lacks comes after all behind it.
      ignoredRemarks fields ++ badSlotRemarks 0 given.slotItems ++ remarksBehind fields
        ++ lackRemarks given.slotItems.isEmpty (behind? fields).isNone
  | value => value.unknown?.toList.map fun found => ⟨[], .unrecognized found⟩
termination_by structural value => value

/-- The remarks about the entries behind a gate. -/
def remarksBehind : List (String × Json) → List Remark
  | [] => []
  | (name, value) :: rest =>
    if name = gateLevelField then
      match value with
      | .object fields => remarksFrom fields
      | _ => []
    else remarksBehind rest
termination_by structural fields => fields

end

theorem remarksFrom_eq_flatMap (fields : List (String × Json)) :
    remarksFrom fields
      = fields.flatMap fun field => (remarksAt field.2).map (.under [field.1]) := by
  induction fields with
  | nil => rfl
  | cons field rest ih =>
      rw [remarksFrom, ih]
      rfl

theorem behind?_cons_of_ne {name : String} (h : name ≠ gateLevelField) (value : Json)
    (rest : List (String × Json)) : behind? ((name, value) :: rest) = behind? rest := by
  rw [behind?, List.lookup_cons, beq_eq_false_iff_ne.mpr (Ne.symm h)]
  rfl

theorem remarksBehind_eq (fields : List (String × Json)) :
    remarksBehind fields = ((behind? fields).map remarksFrom).getD [] := by
  induction fields with
  | nil => rfl
  | cons field rest ih =>
      obtain ⟨name, value⟩ := field
      by_cases hname : name = gateLevelField
      · subst hname
        cases value <;> simp [remarksBehind, behind?]
      · cases value <;> simp only [remarksBehind, if_neg hname, ih, behind?_cons_of_ne hname]

/-- A value that is no object is remarked on if its shape is not known. -/
theorem remarksAt_of_not_object {value : Json} (h : ∀ fields, value ≠ .object fields) :
    remarksAt value = value.unknown?.toList.map fun found => ⟨[], .unrecognized found⟩ := by
  cases value with
  | object fields => exact absurd rfl (h fields)
  | _ => rfl

/-! ### Entries in entries -/

/-- An entry is a branch, a gate or no object. -/
@[elab_as_elim] theorem entry_cases {P : Json → Prop} (value : Json)
    (branch : ∀ fields, fields.lookup gateSlotsField = none → P (.object fields))
    (gate : ∀ fields given, fields.lookup gateSlotsField = some given → P (.object fields))
    (other : ∀ value, (∀ fields, value ≠ .object fields) → P value) : P value := by
  by_cases hobject : ∃ fields, value = .object fields
  · obtain ⟨fields, rfl⟩ := hobject
    cases hgate : fields.lookup gateSlotsField with
    | none => exact branch fields hgate
    | some given => exact gate fields given hgate
  · exact other value fun fields heq => hobject ⟨fields, heq⟩

theorem inside?_branch {fields : List (String × Json)}
    (hbranch : fields.lookup gateSlotsField = none) : inside? (.object fields) = some fields := by
  simp [inside?, hbranch]

theorem inside?_gate {fields : List (String × Json)} {given : Json}
    (hgate : fields.lookup gateSlotsField = some given) :
    inside? (.object fields) = behind? fields := by
  simp [inside?, hgate]

theorem inside?_of_not_object {value : Json} (h : ∀ fields, value ≠ .object fields) :
    value.inside? = none := by
  cases value with
  | object fields => exact absurd rfl (h fields)
  | _ => rfl

theorem behind?_eq_some_iff {fields inner : List (String × Json)} :
    behind? fields = some inner ↔ fields.lookup gateLevelField = some (.object inner) := by
  unfold behind?
  split
  · rename_i found hfound
    rw [hfound, Option.some.injEq, Option.some.injEq, object.injEq]
  · rename_i hnone
    exact ⟨fun h => (nomatch h), fun h => absurd h (hnone inner)⟩

/-- Induction over fields. The step may use what holds of the fields inside of
each value. -/
theorem inside_induction {P : List (String × Json) → Prop}
    (step : ∀ fields, (∀ name value inner, (name, value) ∈ fields → value.inside? = some inner →
        P inner) → P fields) (fields : List (String × Json)) : P fields := by
  induction fields using fields_induction with
  | step fields ih =>
      refine step fields fun name value inner hmem hinside => ?_
      cases value using entry_cases with
      | branch held hbranch =>
          obtain rfl := Option.some.inj ((inside?_branch hbranch).symm.trans hinside)
          exact (ih name held hmem).1
      | gate held given hgate =>
          rw [inside?_gate hgate] at hinside
          exact (ih name held hmem).2 inner (behind?_eq_some_iff.mp hinside)
      | other value hnot =>
          rw [inside?_of_not_object hnot] at hinside
          cases hinside

/-! ### What is listed -/

/-- The remarks are those about some field's value and those about the entries in
it, as they read from further up. -/
theorem fieldsDraw_iff {fields : List (String × Json)} {remark : Remark} :
    FieldsDraw fields remark ↔ ∃ name value found, (name, value) ∈ fields
      ∧ ((∃ matter, value.Warrants matter ∧ found = ⟨[], matter⟩)
        ∨ ∃ inner, value.inside? = some inner ∧ FieldsDraw inner found)
      ∧ remark = found.under [name] := by
  constructor
  · obtain ⟨path, matter⟩ := remark
    rintro ⟨found, hreaches, hwarrants⟩
    -- The first name of the way tells which field it goes through.
    cases hreaches with
    | here hmem => exact ⟨_, _, ⟨[], matter⟩, hmem, .inl ⟨matter, hwarrants, rfl⟩, rfl⟩
    | inside hmem hinside hreaches =>
        exact ⟨_, _, ⟨_, matter⟩, hmem, .inr ⟨_, hinside, found, hreaches, hwarrants⟩, rfl⟩
  · rintro ⟨name, value, remark, hmem, hfound, rfl⟩
    rcases hfound with ⟨matter, hwarrants, rfl⟩ | ⟨inner, hinside, found, hreaches, hwarrants⟩
    · exact ⟨value, .here hmem, hwarrants⟩
    · exact ⟨found, .inside hmem hinside hreaches, hwarrants⟩

theorem mem_badSlotRemarks_iff {items : List Json} {remark : Remark} :
    remark ∈ badSlotRemarks 0 items
      ↔ ∃ index item, items[index]? = some item ∧ item.slot? = none
          ∧ remark = ⟨[], .badSlot index item⟩ := by
  simp only [badSlotRemarks, List.mem_map, List.mem_filter, Prod.exists,
    List.mem_zipIdx_iff_getElem?, Option.isNone_iff_eq_none]
  constructor
  · rintro ⟨item, index, ⟨hitem, hslot⟩, rfl⟩
    exact ⟨index, item, hitem, hslot, rfl⟩
  · rintro ⟨index, item, hitem, hslot, rfl⟩
    exact ⟨item, index, ⟨hitem, hslot⟩, rfl⟩

theorem mem_lackRemarks_iff {noSlots noLevel : Bool} {remark : Remark} :
    remark ∈ lackRemarks noSlots noLevel
      ↔ (noSlots ∧ remark = ⟨[], .noSlots⟩) ∨ (noLevel ∧ remark = ⟨[], .noLevel⟩) := by
  cases noSlots <;> cases noLevel <;> simp [lackRemarks]

/-- Of values that are no objects it is said only that their shape is not known. -/
theorem mem_remarksAt_of_not_object {value : Json} (h : ∀ fields, value ≠ .object fields)
    {remark : Remark} :
    remark ∈ remarksAt value ↔ ∃ matter, value.Warrants matter ∧ remark = ⟨[], matter⟩ := by
  rw [remarksAt_of_not_object h, List.mem_map]
  constructor
  · rintro ⟨found, hvalue, rfl⟩
    exact ⟨_, .unrecognized (Option.mem_toList.mp hvalue), rfl⟩
  · rintro ⟨matter, hwarrants, rfl⟩
    cases hwarrants with
    | unrecognized hvalue => exact ⟨_, Option.mem_toList.mpr hvalue, rfl⟩
    | _ => exact absurd rfl (h _)

/-- Of a branch there is nothing to say. -/
theorem not_warrants_branch {fields : List (String × Json)}
    (hbranch : fields.lookup gateSlotsField = none) (matter : Matter) :
    ¬ Warrants (.object fields) matter := by
  intro hwarrants
  cases hwarrants with
  | unrecognized hvalue => cases hvalue
  | ignored hgate => simp [hbranch] at hgate
  | badSlot hgate => simp [hbranch] at hgate
  | noSlots hgate => simp [hbranch] at hgate
  | noLevel hgate => simp [hbranch] at hgate

/-- What is said of a gate itself, around what is said of the entries behind it. -/
theorem warrants_gate_iff {fields : List (String × Json)} {given : Json}
    (hgate : fields.lookup gateSlotsField = some given) {remark : Remark} :
    (∃ matter, Warrants (.object fields) matter ∧ remark = ⟨[], matter⟩)
      ↔ remark ∈ ignoredRemarks fields ∨ remark ∈ badSlotRemarks 0 given.slotItems
        ∨ remark ∈ lackRemarks given.slotItems.isEmpty (behind? fields).isNone := by
  have hsome : (fields.lookup gateSlotsField).isSome := by rw [hgate]; rfl
  simp only [ignoredRemarks, List.mem_map, mem_badSlotRemarks_iff, mem_lackRemarks_iff,
    List.isEmpty_iff, Option.isNone_iff_eq_none]
  constructor
  · rintro ⟨matter, hwarrants, rfl⟩
    cases hwarrants with
    | unrecognized hvalue => cases hvalue
    | ignored _ hfield => exact .inl ⟨_, hfield, rfl⟩
    | badSlot hgiven hitem hslot =>
        obtain rfl := Option.some.inj (hgate.symm.trans hgiven)
        exact .inr (.inl ⟨_, _, hitem, hslot, rfl⟩)
    | noSlots hgiven hitems =>
        obtain rfl := Option.some.inj (hgate.symm.trans hgiven)
        exact .inr (.inr (.inl ⟨hitems, rfl⟩))
    | noLevel _ hbehind => exact .inr (.inr (.inr ⟨hbehind, rfl⟩))
  · rintro (⟨field, hfield, rfl⟩ | ⟨index, item, hitem, hslot, rfl⟩ | ⟨hitems, rfl⟩
      | ⟨hbehind, rfl⟩)
    · exact ⟨_, .ignored hsome hfield, rfl⟩
    · exact ⟨_, .badSlot hgate hitem hslot, rfl⟩
    · exact ⟨_, .noSlots hgate hitems, rfl⟩
    · exact ⟨_, .noLevel hsome hbehind, rfl⟩

/-- What is listed of a value is what there is to say about it and what its
entries draw, if that is listed of them. -/
theorem mem_remarksAt_iff {value : Json}
    (ih : ∀ inner, value.inside? = some inner →
      ∀ remark, remark ∈ remarksFrom inner ↔ FieldsDraw inner remark) (remark : Remark) :
    remark ∈ remarksAt value ↔ (∃ matter, value.Warrants matter ∧ remark = ⟨[], matter⟩)
      ∨ ∃ inner, value.inside? = some inner ∧ FieldsDraw inner remark := by
  cases value using entry_cases with
  | branch fields hbranch =>
      have hinside := inside?_branch hbranch
      simp [remarksAt, hbranch, not_warrants_branch hbranch, hinside, ih fields hinside]
  | gate fields given hgate =>
      have hbehind : remark ∈ remarksBehind fields
          ↔ ∃ inner, inside? (.object fields) = some inner ∧ FieldsDraw inner remark := by
        rw [remarksBehind_eq, inside?_gate hgate]
        cases hinner : behind? fields with
        | none => simp
        | some inner => simpa using ih inner ((inside?_gate hgate).trans hinner) remark
      simp only [remarksAt, hgate, List.mem_append, warrants_gate_iff hgate, hbehind, or_assoc,
        or_comm (a := remark ∈ lackRemarks _ _)]
  | other value hnot =>
      simp [mem_remarksAt_of_not_object hnot, inside?_of_not_object hnot]

/-- The list holds just the remarks that the fields draw. -/
theorem mem_remarksFrom_iff (fields : List (String × Json)) (remark : Remark) :
    remark ∈ remarksFrom fields ↔ FieldsDraw fields remark := by
  induction fields using inside_induction generalizing remark with
  | step fields ih =>
      -- Both sides are told by one field and a remark about its value.
      rw [remarksFrom_eq_flatMap, List.mem_flatMap, fieldsDraw_iff]
      constructor
      · rintro ⟨⟨name, value⟩, hmem, hremark⟩
        obtain ⟨found, hfound, rfl⟩ := List.mem_map.mp hremark
        exact ⟨name, value, found, hmem,
          (mem_remarksAt_iff (fun inner => ih name value inner hmem) found).mp hfound, rfl⟩
      · rintro ⟨name, value, found, hmem, hfound, rfl⟩
        exact ⟨(name, value), hmem, List.mem_map_of_mem
          ((mem_remarksAt_iff (fun inner => ih name value inner hmem) found).mpr hfound)⟩

/-! ### The order of the list -/

/-- The remarks come by their places. -/
def ByPlace (remarks : List Remark) : Prop :=
  remarks.Pairwise fun remark other => remark.place < other.place

end Json

theorem Remark.place_under_lt {remark other : Remark} (front : List String)
    (h : remark.place < other.place) : (remark.under front).place < (other.under front).place := by
  rw [place_under, place_under]
  exact List.append_left_lt h

/-- Entries come in the order of their names. -/
theorem Remark.place_under_lt_of_lt {name next : String} (h : name < next)
    (remark other : Remark) : (remark.under [name]).place < (other.under [next]).place := by
  rw [place_under, place_under]
  exact List.Lex.rel (Waymark.Before.entries (utf8_lt_utf8 h))

/-- The kind of mark that the place of a remark starts with. -/
def Remark.rank (remark : Remark) : Nat := (remark.place.head?.map Waymark.rank).getD 0

theorem Remark.place_lt_of_rank_lt {remark other : Remark} (h : remark.rank < other.rank) :
    remark.place < other.place := by
  unfold rank at h
  cases hplace : remark.place with
  | nil =>
      cases hother : other.place with
      | nil => simp [hplace, hother] at h
      | cons mark rest => exact List.nil_lt_cons mark rest
  | cons mark rest =>
      cases hother : other.place with
      | nil => simp [hother] at h
      | cons mark' rest' =>
          rw [hplace, hother] at h
          exact List.Lex.rel (Waymark.Before.kinds h)

namespace Json

theorem byPlace_ignoredRemarks {fields : List (String × Json)} (h : NamesOrdered fields) :
    ByPlace (ignoredRemarks fields) := by
  have hnames : (fields.map Prod.fst).Pairwise (· < ·) := List.pairwise_map.mpr h.pairwise
  refine List.pairwise_map.mpr ((hnames.filter _).imp fun hlt => ?_)
  exact List.Lex.rel (Waymark.Before.fields (utf8_lt_utf8 hlt))

theorem byPlace_badSlotRemarks (index : Nat) (items : List Json) :
    ByPlace (badSlotRemarks index items) := by
  have hindices : (items.zipIdx index).Pairwise fun listed other => listed.2 < other.2 := by
    rw [← List.pairwise_map, List.zipIdx_map_snd]
    exact List.pairwise_lt_range' 1
  refine List.pairwise_map.mpr ((hindices.filter _).imp fun hlt => ?_)
  exact List.Lex.rel (Waymark.Before.slots hlt)

theorem byPlace_lackRemarks (noSlots noLevel : Bool) : ByPlace (lackRemarks noSlots noLevel) := by
  have hlt : (⟨[], .noSlots⟩ : Remark).place < (⟨[], .noLevel⟩ : Remark).place :=
    List.Lex.rel (Waymark.Before.kinds (by decide))
  cases noSlots <;> cases noLevel <;> simp [lackRemarks, ByPlace, hlt]

/-- The remarks about fields come by their places, if those about each value do. -/
theorem byPlace_remarksFrom_of_entries {fields : List (String × Json)} (h : NamesOrdered fields)
    (hentry : ∀ field ∈ fields, ByPlace (remarksAt field.2)) : ByPlace (remarksFrom fields) := by
  rw [ByPlace, remarksFrom_eq_flatMap, List.pairwise_flatMap]
  constructor
  · intro field hmem
    exact List.pairwise_map.mpr ((hentry field hmem).imp (Remark.place_under_lt _))
  · refine h.pairwise.imp fun {field next} hlt remark hremark other hother => ?_
    obtain ⟨found, -, rfl⟩ := List.mem_map.mp hremark
    obtain ⟨found', -, rfl⟩ := List.mem_map.mp hother
    exact Remark.place_under_lt_of_lt hlt found found'

theorem rank_of_mem_remarksFrom {fields : List (String × Json)} {remark : Remark}
    (h : remark ∈ remarksFrom fields) : remark.rank = 2 := by
  obtain ⟨name, _, found, -, -, rfl⟩ := fieldsDraw_iff.mp ((mem_remarksFrom_iff fields remark).mp h)
  rfl

theorem ByPlace.append {remarks others : List Remark} (h : ByPlace remarks) (h' : ByPlace others)
    (hlt : ∀ remark ∈ remarks, ∀ other ∈ others, remark.rank < other.rank) :
    ByPlace (remarks ++ others) :=
  List.pairwise_append.mpr ⟨h, h', fun remark hremark other hother =>
    Remark.place_lt_of_rank_lt (hlt remark hremark other hother)⟩

/-- Of a gate come the remarks about itself around those about the entries behind
it. -/
theorem byPlace_gate {fields : List (String × Json)} {given : Json} (h : NamesOrdered fields)
    (hgate : fields.lookup gateSlotsField = some given)
    (ih : ∀ inner, behind? fields = some inner → ByPlace (remarksFrom inner)) :
    ByPlace (remarksAt (.object fields)) := by
  have hfield : ∀ remark ∈ ignoredRemarks fields, remark.rank = 0 := by
    intro remark hremark
    obtain ⟨_, -, rfl⟩ := List.mem_map.mp hremark
    rfl
  have hslot : ∀ remark ∈ badSlotRemarks 0 given.slotItems, remark.rank = 1 := by
    intro remark hremark
    obtain ⟨_, _, -, -, rfl⟩ := mem_badSlotRemarks_iff.mp hremark
    rfl
  obtain ⟨hplaces, hbehind⟩ : ByPlace (remarksBehind fields)
      ∧ ∀ remark ∈ remarksBehind fields, remark.rank = 2 := by
    rw [remarksBehind_eq]
    cases hinner : behind? fields with
    | none => exact ⟨.nil, List.forall_mem_nil _⟩
    | some inner => exact ⟨ih inner hinner, fun _ => rank_of_mem_remarksFrom⟩
  have hlack : ∀ remark ∈ lackRemarks given.slotItems.isEmpty (behind? fields).isNone,
      2 < remark.rank := by
    intro remark hremark
    rcases mem_lackRemarks_iff.mp hremark with ⟨-, rfl⟩ | ⟨-, rfl⟩ <;> decide
  -- Each part starts with marks of a higher kind than the parts before.
  simp only [remarksAt, hgate]
  refine .append (.append (.append (byPlace_ignoredRemarks h) (byPlace_badSlotRemarks 0 _) ?_)
    hplaces ?_) (byPlace_lackRemarks _ _) ?_
  · intro remark hremark other hother
    rw [hfield remark hremark, hslot other hother]
    exact Nat.zero_lt_one
  · intro remark hremark other hother
    rw [hbehind other hother]
    rcases List.mem_append.mp hremark with hremark | hremark
    · simp [hfield remark hremark]
    · simp [hslot remark hremark]
  · intro remark hremark other hother
    refine Nat.lt_of_le_of_lt ?_ (hlack other hother)
    simp only [List.mem_append] at hremark
    rcases hremark with (hremark | hremark) | hremark
    · simp [hfield remark hremark]
    · simp [hslot remark hremark]
    · exact Nat.le_of_eq (hbehind remark hremark)

/-- The remarks about a value come by their places, if those about the entries in
it do. -/
theorem byPlace_remarksAt {value : Json} (h : value.InNameOrder)
    (ih : ∀ inner, value.inside? = some inner → ByPlace (remarksFrom inner)) :
    ByPlace (remarksAt value) := by
  cases value using entry_cases with
  | branch fields hbranch =>
      simpa only [remarksAt, hbranch] using ih fields (inside?_branch hbranch)
  | gate fields given hgate =>
      exact byPlace_gate h.ordered hgate fun inner hinner =>
        ih inner ((inside?_gate hgate).trans hinner)
  | other value hnot =>
      rw [remarksAt_of_not_object hnot]
      cases value.unknown? <;> simp [ByPlace]

theorem InNameOrder.inside {value : Json} {inner : List (String × Json)} (h : value.InNameOrder)
    (hinside : value.inside? = some inner) : InNameOrder (.object inner) := by
  unfold inside? at hinside
  split at hinside
  · split at hinside
    · exact h.of_mem (mem_of_lookup (behind?_eq_some_iff.mp hinside))
    · cases hinside
      exact h
  · cases hinside

/-- The list is by places. -/
theorem byPlace_remarksFrom {fields : List (String × Json)} (h : (object fields).InNameOrder) :
    ByPlace (remarksFrom fields) := by
  induction fields using inside_induction with
  | step fields ih =>
      refine byPlace_remarksFrom_of_entries h.ordered fun ⟨name, value⟩ hmem => ?_
      refine byPlace_remarksAt (h.of_mem hmem) fun inner hinside => ?_
      exact ih name value inner hmem hinside ((h.of_mem hmem).inside hinside)

end Json

end KeyTree
