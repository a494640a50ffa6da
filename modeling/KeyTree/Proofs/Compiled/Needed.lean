import KeyTree.Compiled.Resolve
import KeyTree.Proofs.Compiled.Tree
import KeyTree.Proofs.Schema.Paths

/-!
# `KeyTree.Proofs.Compiled.Needed`: only needed arguments count

Resolving a path asks the arguments for the segments of the slots that the path
needs (`Level.Needs`), and for nothing else. So arguments that agree on these
cannot be told apart, neither by the key nor by an error, which may show the
values of outer gates, nor by what is reported on the way.

`Tree.resolveFrom_compile_congr` is the walk. Its two runs stay at the same
tree: a gate opens to what the segments of its slots say.
-/

set_option autoImplicit false

namespace KeyTree

variable {args args' : Arguments}

/-! ### Segments that are the same -/

/-- Filling pieces asks for the segments of their slots only. -/
theorem fillPieces_congr {pieces : List Piece}
    (h : ∀ slot ∈ slotsOf pieces, args.segment? slot = args'.segment? slot) :
    fillPieces args pieces = fillPieces args' pieces := by
  induction pieces with
  | nil => rfl
  | cons piece rest ih =>
      cases piece with
      | literal text => rw [fillPieces_literal, fillPieces_literal, ih h]
      | slot s =>
          rw [slotsOf_slot, List.forall_mem_cons] at h
          rw [fillPieces_slot, fillPieces_slot, h.1, ih h.2]

/-- A key depends on the segments of its slots only. -/
theorem KeyMaker.build_congr {maker : KeyMaker}
    (h : ∀ slot ∈ slotsOf maker.template, args.segment? slot = args'.segment? slot) :
    maker.build args = maker.build args' := by
  rw [build, build, fillPieces_congr h]

/-- What a gate opens to depends on the segments of its slots only. -/
theorem Opener.apply_congr {opener : Opener}
    (h : ∀ slot ∈ opener.slots.toList, args.segment? slot = args'.segment? slot) :
    opener.apply args = opener.apply args' := by
  rw [← slotsOf_map_slot opener.slots.toList] at h
  rw [apply, apply, fillSlots, fillSlots, fillPieces_congr h]

/-! ### The walk -/

/-- Work that goes on from the same result in the same way is the same. -/
theorem Logged.bind_congr {α β : Type} {x : Logged α} {f g : α → Logged β}
    (h : f x.result = g x.result) : (x >>= f) = (x >>= g) := by
  ext mode
  · rw [Logged.events_bind, Logged.events_bind, h]
  · rw [Logged.result_bind, Logged.result_bind, h]

/-- The walks for arguments that agree on what the path needs are the same. -/
theorem Tree.resolveFrom_compile_congr {level : Level} (hordered : level.Ordered)
    {path : List String}
    (h : ∀ slot, level.Needs path slot → args.segment? slot = args'.segment? slot)
    (separator : String) (stem walked : List String) :
    resolveFrom args walked (level.compile separator stem).result path
      = resolveFrom args' walked (level.compile separator stem).result path := by
  induction path generalizing level stem walked with
  | nil => rfl
  | cons name rest ih =>
      rw [resolveFrom, resolveFrom, Level.find?_compile hordered]
      cases hentry : level.presentAt? name with
      | none => rfl
      | some entry =>
          have hbelow : entry.Ordered := Level.ordered_of_presentAt? hordered hentry
          -- Behind an entry the rest of the path needs nothing new.
          have hrest : ∀ inner, entry.below? = some inner → ∀ slot, inner.Needs rest slot →
              args.segment? slot = args'.segment? slot := fun inner hinner slot hneeds =>
            h slot ((Level.needs_cons_iff hentry).mpr (.inr ⟨inner, hinner, hneeds⟩))
          simp only [Option.map_some]
          cases entry with
          | key pieces =>
              simp only [Level.Entry.compiled]
              split
              · rename_i hend
                have hmaker : (KeyMaker.make separator stem pieces).build args
                    = (KeyMaker.make separator stem pieces).build args' := by
                  refine KeyMaker.build_congr fun slot hslot => ?_
                  rw [show (KeyMaker.make separator stem pieces).template
                    = stem.map .literal ++ pieces from rfl, slotsOf_stem_append] at hslot
                  refine h slot ((Level.needs_cons_iff hentry).mpr (.inl ⟨hslot, ?_⟩))
                  simpa [Level.Entry.below?] using hend
                rw [hmaker]
              · rfl
          | branch below =>
              simp only [Level.Entry.compiled]
              split
              · rfl
              · exact ih hbelow (hrest below rfl) (stem ++ [name]) (walked ++ [name])
          | gate slots behind =>
              simp only [Level.Entry.compiled]
              split
              · rfl
              · rename_i hmore
                have happly : Opener.apply ⟨name, stem, slots, behind, separator⟩ args
                    = Opener.apply ⟨name, stem, slots, behind, separator⟩ args' := by
                  refine Opener.apply_congr fun slot hslot => ?_
                  refine h slot ((Level.needs_cons_iff hentry).mpr (.inl ⟨hslot, ?_⟩))
                  simpa [Level.Entry.below?] using hmore
                rw [happly, Opener.apply_eq]
                cases args'.firstMissing? slots.toList with
                | some slot => rfl
                | none =>
                    -- Both runs go on in the tree that is compiled behind the gate.
                    refine Logged.bind_congr ?_
                    exact ih hbelow (hrest behind rfl) _ (walked ++ [name])

/-! ### Arguments that are changed -/

namespace Arguments

/-- After an insertion the name has the new value, if it is one. -/
theorem value?_insert (args : Arguments) (name other : String) (held : Option Value) :
    Arguments.value? (args.insert name held) other
      = if other = name then held else args.value? other := by
  rw [value?, NameMap.find?_insert]
  split <;> rfl

end Arguments

/-- Resolving a path depends on the segments of the needed slots only: those of
gates that the path goes on behind, and of the key at its end. A slot without a
value has no segment, whether its name is absent or present without a value.
So nothing changes if an argument is added that no needed slot asks for, if a
name without a value is added or dropped, or if a value is replaced by the text
of its segment. -/
theorem Schema.resolve_congr_of_needs (schema : Schema) (separator : String)
    (path : List String) :
    let resolved := fun args => (schema.compile separator).result.resolve path args
    (∀ args args' : Arguments, (∀ slot, schema.level.Needs path slot →
        args.segment? slot = args'.segment? slot) → resolved args = resolved args')
      ∧ (∀ (args : Arguments) (name : String) (held : Option Value),
          (∀ slot, schema.level.Needs path slot → slot.name ≠ name) →
          resolved (args.insert name held) = resolved args)
      ∧ (∀ (args : Arguments) (name : String), args.value? name = none →
          resolved (args.insert name none) = resolved args)
      ∧ ∀ (args : Arguments) (name : String) (value : Value), args.value? name = some value →
          resolved (args.insert name (some (.text value.segment))) = resolved args := by
  intro resolved
  have hagree : ∀ args args' : Arguments, (∀ slot, schema.level.Needs path slot →
      args.segment? slot = args'.segment? slot) → resolved args = resolved args' :=
    fun args args' h => Tree.resolveFrom_compile_congr schema.ordered h separator [] []
  have hinsert : ∀ (args : Arguments) (name : String) (held : Option Value),
      (∀ slot, schema.level.Needs path slot → slot.name = name →
        held.map Value.segment = (args.value? name).map Value.segment) →
      resolved (args.insert name held) = resolved args := by
    intro args name held h
    refine hagree _ _ fun slot hneeds => ?_
    rw [Arguments.segment?, Arguments.segment?, Arguments.value?_insert]
    split
    · rename_i hname
      rw [h slot hneeds hname, hname]
    · rfl
  refine ⟨hagree, fun args name held h => ?_, fun args name h => ?_, fun args name value h => ?_⟩
  · exact hinsert args name held fun slot hneeds hname => absurd hname (h slot hneeds)
  · exact hinsert args name none fun _ _ _ => by rw [h]
  · exact hinsert args name _ fun _ _ _ => by rw [h]; rfl

/-- A number and its text fill a slot alike, and nothing asks for a color. -/
theorem Schema.user_from_text :
    let user := Schema.empty.insert "user" (some (.key [.literal "user", .slot ⟨"id", .number⟩]))
    let resolved := fun args => (user.compile ":").result.resolve ["user"] args
    let number : Arguments := NameMap.ofList [("id", some (.signed 12))]
    let text : Arguments := NameMap.ofList [("color", none), ("id", some (.text "12"))]
    resolved number = resolved text ∧ (resolved text).result = .ok "user:12" := by
  intro user resolved number text
  refine ⟨(resolve_congr_of_needs user ":" ["user"]).1 number text fun slot hneeds => ?_, rfl⟩
  rcases (Level.needs_cons_iff rfl).mp hneeds with ⟨hslot, -⟩ | ⟨inner, hinner, -⟩
  · obtain rfl : slot = ⟨"id", .number⟩ := by simpa [Level.Entry.slots] using hslot
    rfl
  · cases hinner

end KeyTree
