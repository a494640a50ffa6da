import KeyTree.Json.Reader
import KeyTree.Proofs.Except
import KeyTree.Proofs.Json.Scan
import Mathlib.Logic.Basic

/-!
# `KeyTree.Proofs.Json.Reading`: values that are read, and how deep they nest

Reading shifts one token after the other on a stack of open arrays and
objects. This module follows it in two ways.

* `Shift.readsBack_of_canonical`: along the tokens of a written value, by
  induction on the value. The stack around it stays as it is, and the value
  goes on top of it if there is room for its depth.
* `Shift.depth_le_of_run`: along any tokens, by induction on these. Everything
  on the stack fits into the room in its place (`Shift.Within`), each step
  keeps this, and so the value that is complete in the end fits, too.

`Reader.any_tokens` and `Reader.depth_le_of_any` say the same of the reader of
any value. `Reader.record_preserves` carries what holds of a record over the
reading of its fields.
-/

set_option autoImplicit false

namespace KeyTree.Json

/-! ### Depth -/

mutual

/-- How many levels of arrays and objects a value has. -/
def depth : Json → Nat
  | .array items => itemsDepth items + 1
  | .object fields => fieldsDepth fields + 1
  | .null | .boolean _ | .number _ | .text _ => 0
termination_by structural value => value

/-- The depth of the deepest item. -/
def itemsDepth : List Json → Nat
  | [] => 0
  | item :: rest => max item.depth (itemsDepth rest)
termination_by structural items => items

/-- The depth of the deepest field. -/
def fieldsDepth : List (String × Json) → Nat
  | [] => 0
  | (_, value) :: rest => max value.depth (fieldsDepth rest)
termination_by structural fields => fields

end

/-! ### Written values -/

/-- No value is written from the end of an array on. -/
theorem head?_tokens_append_ne {value : Json} (h : value.Canonical) (rest : List Token) :
    (value.tokens ++ rest).head? ≠ some .closeArray := by
  cases h with
  | null => simp [tokens]
  | boolean b => simp [tokens]
  | text s => simp [tokens]
  | @array items _ => cases items <;> simp [tokens]
  | @object fields _ _ => cases fields <;> simp [tokens]

namespace Shift

variable {room : Nat} {stack : List Frame}

/-! ### Steps on written tokens -/

/-- A bracket opens an array or an object if there is room. -/
theorem run_bracket {token : Token} {opened : Shift}
    (h : startValue (.wanted room) stack token
      = if hasRoom (.wanted room) stack then .ok opened else .error .malformed)
    (rest : List Token) :
    run (.wanted room) (.value stack) (token :: rest)
      = if stack.length < room then run (.wanted room) opened rest else .error .malformed := by
  have hroom : hasRoom (.wanted room) stack = decide (stack.length < room) := rfl
  simp only [run, step, h, hroom, decide_eq_true_eq]
  split
  · rfl
  · rfl

theorem run_openArray (rest : List Token) :
    run (.wanted room) (.value stack) (.openArray :: rest)
      = if stack.length < room then run (.wanted room) (.items stack) rest
        else .error .malformed :=
  run_bracket rfl rest

theorem run_openObject (rest : List Token) :
    run (.wanted room) (.value stack) (.openObject :: rest)
      = if stack.length < room then run (.wanted room) (.fields stack) rest
        else .error .malformed :=
  run_bracket rfl rest

/-- Until an array ends, its first item is read like any other. -/
theorem run_items {tokens : List Token} (h : tokens.head? ≠ some .closeArray) :
    run (.wanted room) (.items stack) tokens
      = run (.wanted room) (.value (.array [] :: stack)) tokens := by
  cases tokens with
  | nil => rfl
  | cons token rest =>
      cases token with
      | closeArray => exact absurd rfl h
      | _ => rfl

/-- The first name of an object is read like any other. -/
theorem run_fields (name : Option String) (rest : List Token) :
    run (.wanted room) (.fields stack) (.text name :: rest)
      = run (.wanted room) (.field [] stack) (.text name :: rest) := rfl

theorem run_field (held : List (String × Json)) (name : String) (rest : List Token) :
    run (.wanted room) (.field held stack) (.text (some name) :: .colon :: rest)
      = run (.wanted room) (.value (.object held name :: stack)) rest := rfl

/-! ### Reading written values -/

/-- Reading the tokens of a value gives the value, if it is not too deep to
stand inside the open arrays and objects. -/
def ReadsBack (room : Nat) (value : Json) : Prop :=
  ∀ (stack : List Frame) (rest : List Token), stack.length ≤ room →
    run (.wanted room) (.value stack) (value.tokens ++ rest)
      = if stack.length + value.depth ≤ room then run (.wanted room) (settle value stack) rest
        else .error .malformed

/-- A value of one token always has room. -/
theorem ReadsBack.of_token {value : Json} (hdepth : value.depth = 0)
    (h : ∀ (stack : List Frame) (rest : List Token),
      run (.wanted room) (.value stack) (value.tokens ++ rest)
        = run (.wanted room) (settle value stack) rest) : ReadsBack room value := by
  intro stack rest hroom
  rw [hdepth, Nat.add_zero, if_pos hroom]
  exact h stack rest

/-- Further items of an array, and its end. -/
theorem run_moreItems {items : List Json} (h : ∀ item ∈ items, ReadsBack room item)
    (hroom : stack.length < room) (held : List Json) (rest : List Token) :
    run (.wanted room) (.more (.array held) stack) (moreItems items ++ .closeArray :: rest)
      = if stack.length + itemsDepth items < room then
          run (.wanted room) (settle (.array (held.reverse ++ items)) stack) rest
        else .error .malformed := by
  induction items generalizing held with
  | nil =>
      rw [itemsDepth, Nat.add_zero, if_pos hroom, List.append_nil]
      rfl
  | cons item others ih =>
      obtain ⟨hitem, hothers⟩ := List.forall_mem_cons.mp h
      have hstep : run (.wanted room) (.more (.array held) stack)
            (moreItems (item :: others) ++ .closeArray :: rest)
          = run (.wanted room) (.value (.array held :: stack))
            (item.tokens ++ (moreItems others ++ .closeArray :: rest)) := by
        rw [moreItems, List.append_assoc]
        rfl
      rw [hstep, hitem (.array held :: stack) _ hroom, settle, ih hothers, ← ite_and,
        List.reverse_cons, List.append_assoc, List.singleton_append]
      refine if_congr ?_ rfl rfl
      rw [itemsDepth, List.length_cons]
      omega

/-- Further fields of an object, and its end. -/
theorem run_moreFields {fields : List (String × Json)}
    (h : ∀ field ∈ fields, ReadsBack room field.2) (hroom : stack.length < room)
    (held : List (String × Json)) (last : String) (rest : List Token) :
    run (.wanted room) (.more (.object held last) stack) (moreFields fields ++ .closeObject :: rest)
      = if stack.length + fieldsDepth fields < room then
          run (.wanted room) (settle (.object (fields.foldl
            (fun held field => insertNamed field.1 field.2 held) held)) stack) rest
        else .error .malformed := by
  induction fields generalizing held last with
  | nil =>
      rw [fieldsDepth, Nat.add_zero, if_pos hroom]
      rfl
  | cons field others ih =>
      obtain ⟨name, value⟩ := field
      obtain ⟨(hvalue : ReadsBack room value), hothers⟩ := List.forall_mem_cons.mp h
      have hstep : run (.wanted room) (.more (.object held last) stack)
            (moreFields ((name, value) :: others) ++ .closeObject :: rest)
          = run (.wanted room) (.value (.object held name :: stack))
            (value.tokens ++ (moreFields others ++ .closeObject :: rest)) := by
        rw [moreFields, List.append_assoc]
        rfl
      rw [hstep, hvalue (.object held name :: stack) _ hroom, settle, ih hothers, ← ite_and,
        List.foldl_cons]
      refine if_congr ?_ rfl rfl
      rw [fieldsDepth, List.length_cons]
      omega

/-- A canonical value comes back from its tokens. -/
theorem readsBack_of_canonical {value : Json} (h : value.Canonical) (room : Nat) :
    ReadsBack room value := by
  induction h with
  | null => exact .of_token rfl fun _ _ => rfl
  | boolean b => exact .of_token rfl fun _ _ => rfl
  | text s => exact .of_token rfl fun _ _ => rfl
  | @array items hitems ih =>
      intro stack rest hroom
      cases items with
      | nil =>
          rw [tokens, List.cons_append, run_openArray]
          rfl
      | cons item others =>
          obtain ⟨hitem, hothers⟩ := List.forall_mem_cons.mp ih
          have hhead := head?_tokens_append_ne (hitems item List.mem_cons_self)
            (moreItems others ++ .closeArray :: rest)
          have htokens : (array (item :: others)).tokens ++ rest
              = .openArray :: (item.tokens ++ (moreItems others ++ .closeArray :: rest)) := by
            simp [tokens]
          rw [htokens, run_openArray, depth, itemsDepth]
          -- The first item is read with one frame more on the stack, and the array
          -- goes on from there.
          by_cases hopen : stack.length < room
          · rw [if_pos hopen, run_items hhead, hitem (.array [] :: stack) _ hopen, settle,
              run_moreItems hothers hopen, ← ite_and]
            refine if_congr ?_ rfl rfl
            rw [List.length_cons]
            omega
          · rw [if_neg hopen, if_neg (by omega)]
  | @object fields hordered hfields ih =>
      intro stack rest hroom
      cases fields with
      | nil =>
          rw [tokens, List.cons_append, run_openObject]
          rfl
      | cons field others =>
          obtain ⟨name, value⟩ := field
          obtain ⟨(hvalue : ReadsBack room value), hothers⟩ := List.forall_mem_cons.mp ih
          have htokens : (object ((name, value) :: others)).tokens ++ rest
              = .openObject :: .text (some name) :: .colon ::
                (value.tokens ++ (moreFields others ++ .closeObject :: rest)) := by
            simp [tokens]
          rw [htokens, run_openObject, depth, fieldsDepth]
          by_cases hopen : stack.length < room
          · rw [if_pos hopen, run_fields, run_field, hvalue (.object [] name :: stack) _ hopen,
              settle, run_moreFields hothers hopen, ← ite_and]
            -- The first field is alone when the others are put behind it.
            rw [insertNamed, @foldl_insertNamed_of_ordered _ [(name, value)] others hordered]
            refine if_congr ?_ rfl rfl
            rw [List.length_cons]
            omega
          · rw [if_neg hopen, if_neg (by omega)]

end Shift

/-- A canonical value is read back from its tokens, if it is not too deep. -/
theorem Reader.any_tokens {value : Json} (h : value.Canonical) (room : Nat) (rest : List Token) :
    Reader.any room (value.tokens ++ rest)
      = if value.depth ≤ room then .ok (value, rest) else .error .malformed := by
  have hread := Shift.readsBack_of_canonical h room [] rest (Nat.zero_le room)
  rw [List.length_nil, Nat.zero_add] at hread
  exact hread.trans (if_congr Iff.rfl (by cases rest <;> rfl) rfl)

/-- A token that is a value of its own is read as this value. -/
theorem Reader.any_scalar {token : Token} {value : Json} (h : token.scalar = .ok value)
    (room : Nat) (rest : List Token) : Reader.any room (token :: rest) = .ok (value, rest) := by
  have hstart : Shift.startValue (.wanted room) [] token = .ok (.done value) := by
    cases token with
    | openArray => cases h
    | openObject => cases h
    | _ => simp [Shift.startValue, Reading.wanted, h, Except.map, Shift.settle]
  show (Shift.startValue (.wanted room) [] token >>= fun shift =>
    Shift.run (.wanted room) shift rest) = _
  rw [hstart]
  cases rest <;> rfl

/-! ### How deep what is read can be -/

theorem itemsDepth_le_iff {items : List Json} {n : Nat} :
    itemsDepth items ≤ n ↔ ∀ item ∈ items, item.depth ≤ n := by
  induction items with
  | nil => simp [itemsDepth]
  | cons item rest ih => rw [itemsDepth, Nat.max_le, ih, List.forall_mem_cons]

theorem fieldsDepth_le_iff {fields : List (String × Json)} {n : Nat} :
    fieldsDepth fields ≤ n ↔ ∀ field ∈ fields, field.2.depth ≤ n := by
  induction fields with
  | nil => simp [fieldsDepth]
  | cons field rest ih => rw [fieldsDepth, Nat.max_le, ih, List.forall_mem_cons]

/-- The depth of an open array or object, as far as it is read. -/
def Frame.depth : Frame → Nat
  | .array items => itemsDepth items + 1
  | .object fields _ => fieldsDepth fields + 1

/-- Each open array or object fits into the room, inside those around it. -/
def FramesWithin (room : Nat) : List Frame → Prop
  | [] => True
  | frame :: stack => stack.length + frame.depth ≤ room ∧ FramesWithin room stack

theorem FramesWithin.length_le {room : Nat} {stack : List Frame} (h : FramesWithin room stack) :
    stack.length ≤ room := by
  cases stack with
  | nil => exact Nat.zero_le room
  | cons frame stack =>
      have hframe : stack.length + frame.depth ≤ room := h.1
      have hdepth : 0 < frame.depth := by cases frame <;> exact Nat.succ_pos _
      rw [List.length_cons]
      omega

namespace Shift

/-- What has been read so far fits into the room. -/
def Within (room : Nat) : Shift → Prop
  | .done v => v.depth ≤ room
  | .value stack => FramesWithin room stack
  | .items stack | .fields stack => stack.length < room ∧ FramesWithin room stack
  | .field held stack | .colon held _ stack =>
    stack.length + fieldsDepth held < room ∧ FramesWithin room stack
  | .more frame stack => FramesWithin room (frame :: stack)

variable {room : Nat} {stack : List Frame}

/-- A complete value that fits goes into an open array or object that fits. -/
theorem within_settle {value : Json} (h : FramesWithin room stack)
    (hvalue : stack.length + value.depth ≤ room) : (settle value stack).Within room := by
  cases stack with
  | nil => simpa [settle, Within] using hvalue
  | cons frame stack =>
      obtain ⟨hframe, hstack⟩ := h
      rw [List.length_cons] at hvalue
      cases frame with
      | array held =>
          refine ⟨?_, hstack⟩
          rw [Frame.depth] at hframe ⊢
          rw [itemsDepth]
          omega
      | object held name =>
          refine ⟨?_, hstack⟩
          rw [Frame.depth] at hframe ⊢
          have hfields : fieldsDepth (insertNamed name value held)
              ≤ max value.depth (fieldsDepth held) := by
            rw [fieldsDepth_le_iff]
            intro field hfield
            rcases mem_insertNamed hfield with rfl | hold
            · exact Nat.le_max_left _ _
            · exact (fieldsDepth_le_iff.mp (Nat.le_max_right _ _)) field hold
          omega

/-- A value of a single token has no levels. -/
theorem depth_of_scalar {token : Token} {value : Json} (h : token.scalar = .ok value) :
    value.depth = 0 := by
  cases token with
  | null => cases h; rfl
  | boolean b => cases h; rfl
  | number parts =>
      obtain ⟨n, -, rfl⟩ := map_eq_ok_iff.mp h
      rfl
  | text s =>
      cases s with
      | none => cases h
      | some s => cases h; rfl
  | _ => cases h

theorem within_startValue {token : Token} {next : Shift} (h : FramesWithin room stack)
    (hstep : startValue (.wanted room) stack token = .ok next) : next.Within room := by
  have hroom := h.length_le
  have hscalar : ((Reading.wanted room).scalar token).map (settle · stack) = .ok next →
      next.Within room := by
    intro hstep
    obtain ⟨value, hvalue, rfl⟩ := map_eq_ok_iff.mp hstep
    refine within_settle h ?_
    rw [depth_of_scalar hvalue]
    exact hroom
  -- A bracket is taken only if there is room.
  have hopened : ∀ opened : Shift, (if hasRoom (.wanted room) stack then .ok opened
      else .error Fault.malformed) = Except.ok next → stack.length < room ∧ opened = next := by
    intro opened hopen
    split at hopen
    · rename_i hlt
      exact ⟨of_decide_eq_true hlt, Except.ok.inj hopen⟩
    · cases hopen
  cases token with
  | openArray =>
      obtain ⟨hlt, rfl⟩ := hopened _ hstep
      exact ⟨hlt, h⟩
  | openObject =>
      obtain ⟨hlt, rfl⟩ := hopened _ hstep
      exact ⟨hlt, h⟩
  | _ => exact hscalar hstep

/-- A step keeps what is read within the room. -/
theorem within_step {token : Token} {shift next : Shift} (h : shift.Within room)
    (hstep : step (.wanted room) token shift = .ok next) : next.Within room := by
  cases shift with
  | done v =>
      cases hstep
      exact h
  | value stack => exact within_startValue h hstep
  | items stack =>
      obtain ⟨hlt, hstack⟩ := h
      have hfirst : startValue (.wanted room) (.array [] :: stack) token = .ok next →
          next.Within room := within_startValue ⟨hlt, hstack⟩
      cases token with
      | closeArray =>
          cases hstep
          exact within_settle hstack hlt
      | _ => exact hfirst hstep
  | fields stack =>
      obtain ⟨hlt, hstack⟩ := h
      have hname : ((Reading.wanted room).name token).map (colon [] · stack) = .ok next →
          next.Within room := by
        intro hstep
        obtain ⟨name, -, rfl⟩ := map_eq_ok_iff.mp hstep
        exact ⟨hlt, hstack⟩
      cases token with
      | closeObject =>
          cases hstep
          exact within_settle hstack hlt
      | _ => exact hname hstep
  | field held stack =>
      obtain ⟨name, -, rfl⟩ := map_eq_ok_iff.mp hstep
      exact h
  | colon held name stack =>
      cases token with
      | colon =>
          cases hstep
          exact h
      | _ => cases hstep
  | more frame stack =>
      cases frame with
      | array held =>
          cases token with
          | comma =>
              cases hstep
              exact h
          | closeArray =>
              cases hstep
              -- The items stand in reverse until the array is complete.
              have hreverse : itemsDepth held.reverse ≤ itemsDepth held :=
                itemsDepth_le_iff.mpr fun item hitem =>
                  itemsDepth_le_iff.mp (Nat.le_refl _) item (List.mem_reverse.mp hitem)
              obtain ⟨hframe, hstack⟩ := h
              rw [Frame.depth] at hframe
              refine within_settle hstack ?_
              rw [depth]
              omega
          | _ => cases hstep
      | object held name =>
          obtain ⟨hframe, hstack⟩ := h
          cases token with
          | comma =>
              cases hstep
              exact ⟨hframe, hstack⟩
          | closeObject =>
              cases hstep
              exact within_settle hstack hframe
          | _ => cases hstep

/-- What each step keeps still holds when the value is complete. -/
theorem done_of_run {P : Shift → Prop} {reading : Reading}
    (hstep : ∀ {token : Token} {shift next : Shift}, P shift →
      step reading token shift = .ok next → P next)
    {shift : Shift} {tokens rest : List Token} {value : Json} (h : P shift)
    (hrun : run reading shift tokens = .ok (value, rest)) : P (.done value) := by
  induction tokens generalizing shift with
  | nil =>
      cases shift with
      | done v =>
          cases hrun
          exact h
      | _ => cases hrun
  | cons token tokens ih =>
      -- A complete value takes no further token.
      by_cases hdone : ∃ v, shift = .done v
      · obtain ⟨v, rfl⟩ := hdone
        cases hrun
        exact h
      · rw [run] at hrun
        · obtain ⟨next, hnext, hrun⟩ := bind_eq_ok_iff.mp hrun
          exact ih (hstep h hnext) hrun
        · exact fun v heq => hdone ⟨v, heq⟩

/-- What is read to the end fits into the room. -/
theorem depth_le_of_run {shift : Shift} {tokens rest : List Token} {value : Json}
    (h : shift.Within room) (hrun : run (.wanted room) shift tokens = .ok (value, rest)) :
    value.depth ≤ room :=
  done_of_run within_step h hrun

end Shift

/-- No value is deeper than the room for it. -/
theorem Reader.depth_le_of_any {room : Nat} {tokens rest : List Token} {value : Json}
    (h : Reader.any room tokens = .ok (value, rest)) : value.depth ≤ room := by
  have hstart : (Shift.value []).Within room := trivial
  exact Shift.depth_le_of_run hstart h

/-! ### Records -/

namespace Reader

variable {σ : Type} {P : σ → Prop} {room : Nat} {tokens rest : List Token}

/-- Reading a value into a record keeps what holds of the record. -/
def Preserves (P : σ → Prop) (room : Nat) (read : σ → Reader σ) : Prop :=
  ∀ state tokens next rest, P state → read state room tokens = .ok (next, rest) → P next

theorem Preserves.afterColon {read : σ → Reader σ} (h : Preserves P room read) :
    Preserves P room fun state => afterColon (read state) := by
  intro state tokens next rest hstate hread
  obtain ⟨behind, -, hread⟩ := bind_eq_ok_iff.mp hread
  exact h state behind next rest hstate hread

theorem fieldsFrom_preserves {onField : String → σ → Reader σ}
    (h : ∀ name, Preserves P room (onField name)) {fuel : Nat} {state next : σ} (hstate : P state)
    (hread : fieldsFrom onField room fuel state tokens = .ok (next, rest)) : P next := by
  induction fuel generalizing state tokens with
  | zero => cases hread
  | succ fuel ih =>
      cases tokens with
      | nil => cases hread
      | cons token tokens =>
          obtain ⟨name, -, hread⟩ := bind_eq_ok_iff.mp hread
          obtain ⟨⟨state', behind⟩, hfield, hread⟩ := bind_eq_ok_iff.mp hread
          have hstate' := h name state tokens state' behind hstate hfield
          simp only at hread
          split at hread
          · cases hread
          · cases hread
            exact hstate'
          · exact ih hstate' hread
          · cases hread

section

variable {α : Type} {name : String} {reader : Reader α} {value : α} {get : σ → Option α}
  {set : σ → α → σ} {state next : σ}

/-- A field that is set to what a reader gives, if that keeps what holds. -/
theorem Field.preserves_required
    (h : ∀ state value tokens rest, P state → reader room tokens = .ok (value, rest) →
      P (set state value)) : Preserves P room (Field.required name reader get set).read := by
  intro state tokens next rest hstate hread
  obtain ⟨⟨value, behind⟩, hvalue, hread⟩ := bind_eq_ok_iff.mp hread
  cases hread
  exact h state value tokens rest hstate hvalue

theorem Field.preserves_defaulted
    (h : ∀ state value tokens rest, P state → reader room tokens = .ok (value, rest) →
      P (set state value)) : Preserves P room (Field.defaulted name reader value get set).read := by
  show Preserves P room (Field.required name reader get set).read
  exact Field.preserves_required h

theorem Field.eq_of_missing_required
    (h : (Field.required name reader get set).missing state = .ok next) : next = state := by
  by_cases hset : (get state).isSome
  · simp only [Field.required, hset, if_true, Except.ok.injEq] at h
    exact h.symm
  · simp [Field.required, hset] at h

theorem Field.eq_or_eq_of_missing_defaulted
    (h : (Field.defaulted name reader value get set).missing state = .ok next) :
    next = state ∨ next = set state value := by
  simp only [Field.defaulted, Except.ok.injEq] at h
  split at h
  · exact .inl h.symm
  · exact .inr h.symm

end

theorem inOrder_preserves {known : List (Field σ)}
    (hread : ∀ field ∈ known, Preserves P room field.read)
    (hmissing : ∀ field ∈ known, ∀ state next, P state → field.missing state = .ok next → P next)
    {first : Bool} {state next : σ} (hstate : P state)
    (horder : inOrder room first known state tokens = .ok (next, rest)) : P next := by
  induction known generalizing first state tokens with
  | nil =>
      cases tokens with
      | nil => cases horder
      | cons token tokens =>
          cases token with
          | closeArray =>
              cases horder
              exact hstate
          | _ => cases horder
  | cons field others ih =>
      obtain ⟨hfield, hothers⟩ := List.forall_mem_cons.mp hread
      obtain ⟨hnone, hnothers⟩ := List.forall_mem_cons.mp hmissing
      cases tokens with
      | nil => cases horder
      | cons token tokens =>
          rw [inOrder.eq_def] at horder
          simp only at horder
          split at horder
          · obtain ⟨state', hstate', horder⟩ := bind_eq_ok_iff.mp horder
            exact ih hothers hnothers (hnone state state' hstate hstate') horder
          · split at horder
            · cases horder
            · obtain ⟨⟨state', behind⟩, hvalue, horder⟩ := bind_eq_ok_iff.mp horder
              exact ih hothers hnothers (hfield state _ state' behind hstate hvalue) horder
          · cases horder
          · obtain ⟨⟨state', behind⟩, hvalue, horder⟩ := bind_eq_ok_iff.mp horder
            exact ih hothers hnothers (hfield state _ state' behind hstate hvalue) horder

/-- A value of the wrong shape gives nothing. -/
theorem not_wrongShape_eq_ok {α : Type} {a : α × List Token} : wrongShape tokens ≠ .ok a := by
  intro h
  unfold wrongShape at h
  split at h
  · cases h
  · cases h
  · cases h
  · split at h
    · cases h
    · cases h

theorem fields_preserves {onField : String → σ → Reader σ}
    (h : ∀ name, Preserves P (room - 1) (onField name)) {start next : σ} (hstart : P start)
    (hread : fields onField start room tokens = .ok (next, rest)) : P next := by
  unfold fields at hread
  split at hread
  · split at hread
    · cases hread
    · split at hread
      · cases hread
      · cases hread
        exact hstart
      · exact fieldsFrom_preserves h hstart hread
  · exact absurd hread not_wrongShape_eq_ok

/-- A record is put together from its start, what is read into it, and what
stands for missing fields. -/
theorem record_preserves {known : List (Field σ)} {start : σ} (hstart : P start)
    (hread : ∀ field ∈ known, Preserves P (room - 1) field.read)
    (hmissing : ∀ field ∈ known, ∀ state next, P state → field.missing state = .ok next → P next)
    {result : σ} (hrecord : record known start room tokens = .ok (result, rest)) : P result := by
  unfold record at hrecord
  split at hrecord
  · split at hrecord
    · cases hrecord
    · exact inOrder_preserves hread hmissing hstart hrecord
  · obtain ⟨⟨state, behind⟩, hfields, hrecord⟩ := bind_eq_ok_iff.mp hrecord
    obtain ⟨final, hfinal, hrecord⟩ := bind_eq_ok_iff.mp hrecord
    cases hrecord
    refine foldlM_preserves hmissing (fields_preserves (fun name => ?_) hstart hfields) hfinal
    intro state tokens next rest hstate hfield
    split at hfield
    · rename_i field hfound
      beta_reduce at hfield
      split at hfield
      · cases hfield
      · exact (hread field (List.mem_of_find?_eq_some hfound)).afterColon state tokens next rest
          hstate hfield
    · -- Other fields are passed over.
      obtain ⟨⟨_, behind⟩, -, hfield⟩ := bind_eq_ok_iff.mp hfield
      cases hfield
      exact hstate

end Reader

end KeyTree.Json
