import KeyTree.Proofs.Compiled.Outcome
import KeyTree.Proofs.Compiled.Rendering
import KeyTree.Proofs.Decimal.Integer

/-!
# `KeyTree.Proofs.Compiled.Distinct`: different arguments make different keys

A key is nothing but its texts with the separator between them, so arguments
can run into each other. They cannot if the separator has a character that
none of their texts has. Literals may hold this character, and the separator
as a whole: they are the same in both keys, so they do not blur where the text
of a slot ends.

* `filled_eq_of_key_eq`: a key tells the texts of its slots, if a character of
  the separator stands in none of them.
* `Value.segment_inj_of_integer`: the texts of whole numbers tell the numbers,
  of whichever range.
* `Schema.different_arguments_different_keys`: the keys of a template are the
  same exactly when all its slots get the same texts.
-/

set_option autoImplicit false

namespace KeyTree

/-! ### Filled pieces -/

/-- Pieces that are filled and joined to the same key are filled alike. -/
theorem filled_eq_of_key_eq {c : Char} {separator : String} (hc : c ∈ separator.toList)
    {args args' : Arguments} {pieces : List Piece}
    (h : ∀ slot ∈ slotsOf pieces, c ∉ (Piece.filled args (.slot slot)).toList)
    (h' : ∀ slot ∈ slotsOf pieces, c ∉ (Piece.filled args' (.slot slot)).toList)
    (heq : separator.intercalate (pieces.map (Piece.filled args))
      = separator.intercalate (pieces.map (Piece.filled args'))) :
    ∀ slot ∈ slotsOf pieces,
      Piece.filled args (.slot slot) = Piece.filled args' (.slot slot) := by
  -- A literal is the same text in both; the text of a slot lacks the character.
  have hpieces : List.Forall₂ (fun text other => text = other ∨ (c ∉ text ∧ c ∉ other))
      (pieces.map fun piece => (piece.filled args).toList)
      (pieces.map fun piece => (piece.filled args').toList) := by
    rw [List.forall₂_map_left_iff, List.forall₂_map_right_iff, List.forall₂_same]
    intro piece hpiece
    cases piece with
    | literal text => exact .inl rfl
    | slot s =>
        have hslot : s ∈ slotsOf pieces := List.mem_filterMap.mpr ⟨_, hpiece, rfl⟩
        exact .inr ⟨h s hslot, h' s hslot⟩
  have hlists := congrArg String.toList heq
  rw [String.toList_intercalate, String.toList_intercalate, List.map_map, List.map_map] at hlists
  have hsame := intercalate_inj hc hpieces hlists
  intro slot hslot
  obtain ⟨piece, hpiece, hfound⟩ := List.mem_filterMap.mp hslot
  have htexts := List.map_inj_left.mp hsame piece hpiece
  cases piece with
  | literal text => cases hfound
  | slot s =>
      cases hfound
      exact String.toList_inj.mp htexts

/-! ### Whole numbers -/

namespace Value

/-- The whole number that a value is, of either range. -/
def integer? : Value → Option Int
  | signed n => some n.toInt
  | unsigned n => some n.toNat
  | _ => none

/-- A whole number is written as such, of whichever range it is. -/
theorem segment_of_integer {value : Value} {n : Int} (h : value.integer? = some n) :
    value.segment = integerText n := by
  cases value with
  | signed held =>
      cases h
      rfl
  | unsigned held =>
      cases h
      rfl
  | boolean b => cases h
  | number x => cases h
  | text s => cases h

/-- Different whole numbers have different texts. -/
theorem segment_inj_of_integer {value other : Value} {m n : Int} (h : value.integer? = some m)
    (h' : other.integer? = some n) : value.segment = other.segment ↔ m = n := by
  rw [segment_of_integer h, segment_of_integer h', integerText_inj]

end Value

/-! ### Supplied slots -/

namespace Arguments

/-- The arguments give each slot a value of some sort. -/
def Supplies (args : Arguments) (sort : Value → Prop) (slots : List Slot) : Prop :=
  ∀ slot ∈ slots, ∃ value, args.value? slot.name = some value ∧ sort value

variable {args : Arguments} {sort : Value → Prop} {slots : List Slot}

theorem Supplies.fills (h : args.Supplies sort slots) : ∀ slot ∈ slots, args.Fills slot := by
  intro slot hslot
  obtain ⟨value, hvalue, -⟩ := h slot hslot
  rw [Fills, hvalue]
  rfl

theorem Supplies.imp {other : Value → Prop} (h : args.Supplies sort slots)
    (himp : ∀ value, sort value → other value) : args.Supplies other slots := by
  intro slot hslot
  obtain ⟨value, hvalue, hsort⟩ := h slot hslot
  exact ⟨value, hvalue, himp value hsort⟩

/-- The text of a supplied slot is the segment of its value. -/
theorem filled_slot {slot : Slot} {value : Value} (h : args.value? slot.name = some value) :
    Piece.filled args (.slot slot) = value.segment := by
  simp [Piece.filled, segment?, h]

theorem Supplies.not_mem_filled {c : Char}
    (h : args.Supplies (fun value => c ∉ value.segment.toList) slots) :
    ∀ slot ∈ slots, c ∉ (Piece.filled args (.slot slot)).toList := by
  intro slot hslot
  obtain ⟨value, hvalue, hfree⟩ := h slot hslot
  rw [filled_slot hvalue]
  exact hfree

/-- Supplied slots have the same segments if they are filled alike. -/
theorem Supplies.segment?_eq_iff {args' : Arguments} (h : args.Supplies sort slots)
    (h' : args'.Supplies sort slots) {slot : Slot} (hslot : slot ∈ slots) :
    args.segment? slot = args'.segment? slot
      ↔ Piece.filled args (.slot slot) = Piece.filled args' (.slot slot) := by
  obtain ⟨value, hvalue, -⟩ := h slot hslot
  obtain ⟨value', hvalue', -⟩ := h' slot hslot
  simp [Piece.filled, segment?, hvalue, hvalue']

end Arguments

/-! ### Keys of a template -/

/-- The key of a template whose slots are all supplied. -/
theorem Schema.resolve_of_supplies {schema : Schema} {template : Template}
    (h : template ∈ schema.templates) (separator : String) {args : Arguments}
    {sort : Value → Prop} (hargs : args.Supplies sort template.slots) :
    ((schema.compile separator).result.resolve template.path args).result
      = .ok (separator.intercalate (template.pieces.map (Piece.filled args))) := by
  rcases (resolvesTo_of_mem_templates h separator args).cases with
    ⟨-, hkey⟩ | ⟨slot, place, hmissing, -⟩
  · exact hkey
  · exact absurd hargs.fills (Arguments.not_fills_of_firstMissing? hmissing)

/-- Filled pieces depend on the texts of their slots only. -/
theorem filled_congr {args args' : Arguments} {pieces : List Piece}
    (h : ∀ slot ∈ slotsOf pieces,
      Piece.filled args (.slot slot) = Piece.filled args' (.slot slot)) :
    pieces.map (Piece.filled args) = pieces.map (Piece.filled args') := by
  refine List.map_congr_left fun piece hpiece => ?_
  cases piece with
  | literal text => rfl
  | slot s => exact h s (List.mem_filterMap.mpr ⟨_, hpiece, rfl⟩)

/-- Keys of one template are the same exactly when the texts of its slots are,
if the separator has a character that these texts lack. -/
theorem Schema.key_eq_iff {schema : Schema} {template : Template}
    (h : template ∈ schema.templates) {separator : String} {c : Char}
    (hc : c ∈ separator.toList) {args args' : Arguments}
    (hargs : args.Supplies (fun value => c ∉ value.segment.toList) template.slots)
    (hargs' : args'.Supplies (fun value => c ∉ value.segment.toList) template.slots) :
    separator.intercalate (template.pieces.map (Piece.filled args))
        = separator.intercalate (template.pieces.map (Piece.filled args'))
      ↔ ∀ slot ∈ template.slots, args.segment? slot = args'.segment? slot := by
  have hslots := slotsOf_pieces h
  constructor
  · intro heq slot hslot
    rw [hargs.segment?_eq_iff hargs' hslot]
    refine filled_eq_of_key_eq hc ?_ ?_ heq slot (hslots ▸ hslot)
    · exact hslots ▸ hargs.not_mem_filled
    · exact hslots ▸ hargs'.not_mem_filled
  · intro hsame
    refine congrArg separator.intercalate (filled_congr fun slot hslot => ?_)
    rw [hslots] at hslot
    exact (hargs.segment?_eq_iff hargs' hslot).mp (hsame slot hslot)

/-- Different arguments make different keys. Let the separator have a
character that none of the texts has that fill the slots of a template. Then
the template's path resolves to the same key for two such arguments exactly
when they fill every slot with the same text; literals and names may hold the
character, and the separator too. No whole number has a character but digits
and a minus. So if the separator has another one, arguments that differ in a
whole number never share a key. -/
theorem Schema.different_arguments_different_keys {schema : Schema} {template : Template}
    (h : template ∈ schema.templates) {separator : String} {c : Char}
    (hc : c ∈ separator.toList) (args args' : Arguments) :
    let resolved := fun args =>
      ((schema.compile separator).result.resolve template.path args).result
    (args.Supplies (fun value => c ∉ value.segment.toList) template.slots →
        args'.Supplies (fun value => c ∉ value.segment.toList) template.slots →
        ∃ key key', resolved args = .ok key ∧ resolved args' = .ok key'
          ∧ (key = key' ↔ ∀ slot ∈ template.slots, args.segment? slot = args'.segment? slot))
      ∧ (c.isDigit = false → c ≠ '-' →
        args.Supplies (fun value => value.integer?.isSome ∨ c ∉ value.segment.toList)
          template.slots →
        args'.Supplies (fun value => value.integer?.isSome ∨ c ∉ value.segment.toList)
          template.slots →
        ∀ slot ∈ template.slots, ∀ m n,
          (args.value? slot.name).bind Value.integer? = some m →
          (args'.value? slot.name).bind Value.integer? = some n → m ≠ n →
          ∃ key key', resolved args = .ok key ∧ resolved args' = .ok key' ∧ key ≠ key') := by
  refine ⟨fun hargs hargs' => ?_, fun hdigit hminus hargs hargs' slot hslot m n hm hn hne => ?_⟩
  · exact ⟨_, _, resolve_of_supplies h separator hargs, resolve_of_supplies h separator hargs',
      key_eq_iff h hc hargs hargs'⟩
  · -- The texts of whole numbers lack the character too.
    have hfree : ∀ value : Value, value.integer?.isSome ∨ c ∉ value.segment.toList →
        c ∉ value.segment.toList := by
      rintro value (hinteger | hlacks)
      · obtain ⟨held, hheld⟩ := Option.isSome_iff_exists.mp hinteger
        rw [Value.segment_of_integer hheld]
        intro hmem
        rcases mem_toList_integerText hmem with hin | hin
        · exact absurd (hin.symm.trans hdigit) (by decide)
        · exact hminus hin
      · exact hlacks
    have hargs := hargs.imp hfree
    have hargs' := hargs'.imp hfree
    refine ⟨_, _, resolve_of_supplies h separator hargs, resolve_of_supplies h separator hargs',
      fun heq => hne ?_⟩
    have hsegments := (key_eq_iff h hc hargs hargs').mp heq slot hslot
    obtain ⟨value, hvalue, hvalueInt⟩ := Option.bind_eq_some_iff.mp hm
    obtain ⟨value', hvalue', hvalueInt'⟩ := Option.bind_eq_some_iff.mp hn
    simp only [Arguments.segment?, hvalue, hvalue', Option.map_some, Option.some.injEq]
      at hsegments
    exact (Value.segment_inj_of_integer hvalueInt hvalueInt').mp hsegments

/-- A gate with two slots, and behind it a key that holds the separator and
asks for one of the slots again. -/
def Schema.repeatedOwner : Schema :=
  Schema.empty.insert "team" (some (.gate ⟨⟨"owner", .text⟩, [⟨"size", .number⟩]⟩
    (Schema.empty.insert "badge"
      (some (.key [.literal "a::b", .slot ⟨"size", .number⟩, .slot ⟨"owner", .text⟩])))))

/-- A team without an owner. -/
def Arguments.ofSize (size : Value) : Arguments :=
  NameMap.ofList [("owner", some (.text "")), ("size", some size)]

/-- A size makes the same key in both ranges, and the next greater size, which
fits the unsigned range only, another one. -/
theorem Schema.repeatedOwner_keys :
    let resolved := fun args =>
      ((repeatedOwner.compile "::").result.resolve ["team", "badge"] args).result
    (∃ key, resolved (.ofSize (.signed 9223372036854775807)) = .ok key
        ∧ resolved (.ofSize (.unsigned 9223372036854775807)) = .ok key)
      ∧ ∃ key key', resolved (.ofSize (.signed 9223372036854775807)) = .ok key
          ∧ resolved (.ofSize (.unsigned 9223372036854775808)) = .ok key' ∧ key ≠ key' := by
  intro resolved
  let badge : Template :=
    ⟨["team", "badge"], [⟨"owner", .text⟩, ⟨"size", .number⟩],
      [⟨"size", .number⟩, ⟨"owner", .text⟩],
      [.literal "team", .slot ⟨"owner", .text⟩, .slot ⟨"size", .number⟩, .literal "a::b",
        .slot ⟨"size", .number⟩, .slot ⟨"owner", .text⟩]⟩
  have hbadge : badge ∈ repeatedOwner.templates := by decide
  have hcolon : ':' ∈ "::".toList := by decide
  have hsupplies : ∀ size : Value, ':' ∉ size.segment.toList →
      (Arguments.ofSize size).Supplies (fun value => ':' ∉ value.segment.toList) badge.slots := by
    intro size hsize
    have howner : (Arguments.ofSize size).value? "owner" = some (.text "") := by
      simp [Arguments.value?, Arguments.ofSize, NameMap.find?_ofList, List.lookup_cons]
    have hheld : (Arguments.ofSize size).value? "size" = some size := by
      simp [Arguments.value?, Arguments.ofSize, NameMap.find?_ofList]
    have hblank : ':' ∉ (Value.text "").segment.toList := by decide
    simp [Arguments.Supplies, badge, Template.slots, howner, hheld, hsize, hblank]
  constructor
  · have hsigned := hsupplies (.signed 9223372036854775807) (by decide)
    have hunsigned := hsupplies (.unsigned 9223372036854775807) (by decide)
    obtain ⟨key, key', hkey, hkey', hiff⟩ :=
      (different_arguments_different_keys hbadge hcolon _ _).1 hsigned hunsigned
    obtain rfl := hiff.mpr (by decide)
    exact ⟨key, hkey, hkey'⟩
  · have hsigned := hsupplies (.signed 9223372036854775807) (by decide)
    have hgreater := hsupplies (.unsigned 9223372036854775808) (by decide)
    exact (different_arguments_different_keys hbadge hcolon _ _).2 (by decide) (by decide)
      (hsigned.imp fun _ => .inr) (hgreater.imp fun _ => .inr) ⟨"size", .number⟩ (by decide)
      9223372036854775807 9223372036854775808 (by decide) (by decide) (by decide)

end KeyTree
