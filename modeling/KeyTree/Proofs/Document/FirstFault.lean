import KeyTree.Proofs.Document.Remarks

/-!
# `KeyTree.Proofs.Document.FirstFault`: which error reading ends with

A run of the reader goes through the remarks about what it reads, reports those
that are passed over and ends at the first fault.

* `Loading.Heeds`: a run goes through just these remarks. The steps of the reader
  each heed the remarks about their part, `Heeds.bind` puts them together, and
  `loadFields_heeds` is the whole.
* `Remark.forM_react_fails_iff`: how going through remarks ends.
* `Schema.ofKeys_names_first_fault`: reading the keys of a document fails exactly
  if there is a fault, with the error of the fault whose place comes first.
-/

set_option autoImplicit false

namespace KeyTree

/-! ### Going through remarks -/

namespace Remark

/-- Reports what is passed over and ends at a fault. Fields of gates are reported in
every build, and entries in development. -/
def react (remark : Remark) : Loading Unit :=
  match remark.outcome with
  | .inl event => if remark.aboutField then .note event else .noteInDevelopment event
  | .inr error => .fail error

/-- Going through remarks ends with the first error there is. -/
theorem result_forM_react (remarks : List Remark) :
    (forM remarks react).run.result
      = match remarks.findSome? fun remark => remark.outcome.getRight? with
        | some error => .error error
        | none => .ok () := by
  induction remarks with
  | nil => rfl
  | cons first rest ih =>
      rw [List.forM_cons, List.findSome?_cons, react]
      cases first.outcome with
      | inl event =>
          cases first.aboutField with
          | true => exact ih
          | false => exact ih
      | inr error => rfl

theorem isFault_iff {remark : Remark} : remark.IsFault ↔ remark.outcome.getRight? ≠ none := by
  unfold IsFault
  cases remark.outcome <;> simp

/-- The error is that of the first fault, which comes behind remarks that are none. -/
theorem forM_react_fails_iff (remarks : List Remark) (error : KeysError) :
    (forM remarks react).run.result = .error error
      ↔ ∃ before remark after, remarks = before ++ remark :: after
          ∧ (∀ other ∈ before, ¬ other.IsFault) ∧ remark.outcome = .inr error := by
  have hfound : (forM remarks react).run.result = .error error
      ↔ remarks.findSome? (fun remark => remark.outcome.getRight?) = some error := by
    rw [result_forM_react]
    cases remarks.findSome? fun remark => remark.outcome.getRight? <;> simp
  rw [hfound, List.findSome?_eq_some_iff]
  simp only [isFault_iff, not_not, Sum.getRight?_eq_some_iff, and_comm]

/-- If there is a fault among remarks, there is a first one. -/
theorem exists_first_of_isFault {remarks : List Remark} {remark : Remark} (hmem : remark ∈ remarks)
    (hfault : remark.IsFault) : ∃ before first after, remarks = before ++ first :: after
      ∧ (∀ other ∈ before, ¬ other.IsFault) ∧ first.IsFault := by
  have hfound : (remarks.find? fun other => other.outcome.isRight).isSome :=
    List.find?_isSome.mpr ⟨remark, hmem, hfault⟩
  obtain ⟨first, hfirst⟩ := Option.isSome_iff_exists.mp hfound
  obtain ⟨hright, before, after, hsplit, hbefore⟩ := List.find?_eq_some_iff_append.mp hfirst
  refine ⟨before, first, after, hsplit, fun other hother => ?_, hright⟩
  simpa [IsFault] using hbefore other hother

end Remark

namespace Loading

variable {α β : Type}

/-- Two ways to go on agree, if they do after the result there is. -/
theorem bind_congr_of_gives {loading : Loading α} {next other : α → Loading β}
    (h : ∀ a, loading.Gives a → next a = other a) : loading >>= next = loading >>= other := by
  apply ExceptT.ext
  rw [ExceptT.run_bind, ExceptT.run_bind]
  unfold Gives at h
  cases hrun : loading.run with
  | mk events outcome =>
      rw [hrun] at h
      cases outcome with
      | ok a => simp only [bind, h a rfl]
      | error error => rfl

/-- Apart from what it gives, the run goes through these remarks. -/
def Heeds (loading : Loading α) (remarks : List Remark) : Prop :=
  (fun _ => ()) <$> loading = forM remarks Remark.react

theorem heeds_pure (a : α) : (pure a : Loading α).Heeds [] := map_pure _ _

theorem heeds_note {remark : Remark} {event : Event} (h : remark.outcome = .inl event)
    (hfield : remark.aboutField) : (note event).Heeds [remark] := by
  simp only [Heeds, List.forM_cons, List.forM_nil, Remark.react, h, hfield]
  rfl

theorem heeds_noteInDevelopment {remark : Remark} {event : Event}
    (h : remark.outcome = .inl event) (hfield : remark.aboutField = false) :
    (noteInDevelopment event).Heeds [remark] := by
  simp only [Heeds, List.forM_cons, List.forM_nil, Remark.react, h, hfield]
  rfl

/-- What comes after a fault does not matter. -/
theorem heeds_fail {remark : Remark} {error : KeysError} (h : remark.outcome = .inr error)
    (rest : List Remark) : (fail error : Loading α).Heeds (remark :: rest) := by
  simp only [Heeds, List.forM_cons, Remark.react, h]
  rfl

/-- Runs one after the other go through the remarks of both. The second may count on
what the first gives. -/
theorem Heeds.bind {loading : Loading α} {next : α → Loading β} {remarks others : List Remark}
    (h : loading.Heeds remarks) (hnext : ∀ a, loading.Gives a → (next a).Heeds others) :
    (loading >>= next).Heeds (remarks ++ others) := by
  unfold Heeds at h
  calc (fun _ => ()) <$> (loading >>= next)
      = loading >>= fun a => (fun _ => ()) <$> next a := map_bind _ _ _
    _ = loading >>= fun _ => forM others Remark.react := bind_congr_of_gives hnext
    _ = ((fun _ => ()) <$> loading) >>= fun _ => forM others Remark.react :=
        (bind_map_left (fun _ => ()) loading fun _ => forM others Remark.react).symm
    _ = forM (remarks ++ others) Remark.react := by rw [h, List.forM_append]

/-- Such a run fails like going through the remarks. -/
theorem Heeds.fails_iff {loading : Loading α} {remarks : List Remark} (h : loading.Heeds remarks)
    (error : KeysError) : loading.run.result = .error error
      ↔ (forM remarks Remark.react).run.result = .error error := by
  rw [← h, ExceptT.run_map, Logged.result_map]
  cases loading.run.result <;> simp [Except.map]

theorem Heeds.map {loading : Loading α} {remarks : List Remark} (f : α → β)
    (h : loading.Heeds remarks) : (f <$> loading).Heeds remarks := by
  unfold Heeds at h ⊢
  rw [← h, ← comp_map]

end Loading

/-! ### The steps of the reader -/

namespace Json

open Loading

theorem noteIgnored_heeds (path : List String) (fields : List (String × Json)) :
    (noteIgnored path fields).Heeds ((ignoredRemarks fields).map (.under path)) := by
  induction fields with
  | nil => exact heeds_pure ()
  | cons field rest ih =>
      obtain ⟨name, value⟩ := field
      rw [noteIgnored]
      by_cases hname : name ≠ gateSlotsField ∧ name ≠ gateLevelField
      · have hsplit : ignoredRemarks ((name, value) :: rest)
            = ⟨[], .ignored name⟩ :: ignoredRemarks rest := by
          simp [ignoredRemarks, ignoredNames, hname]
        rw [if_pos hname, hsplit, List.map_cons]
        refine (heeds_note ?_ rfl).bind fun _ _ => ih
        simp [Remark.under, Remark.outcome]
      · have hsplit : ignoredRemarks ((name, value) :: rest) = ignoredRemarks rest := by
          simp only [ignoredRemarks, ignoredNames, List.map_cons]
          rw [List.filter_cons_of_neg (by simpa using hname)]
        rw [if_neg hname, hsplit]
        exact ih

/-- A value among the slots of a gate is remarked on if it is no slot. -/
theorem badSlotRemarks_cons (index : Nat) (item : Json) (rest : List Json) :
    badSlotRemarks index (item :: rest)
      = (if item.slot?.isNone then [⟨[], .badSlot index item⟩] else [])
        ++ badSlotRemarks (index + 1) rest := by
  unfold badSlotRemarks
  cases hslot : item.slot?.isNone <;> simp [List.zipIdx_cons, hslot]

theorem slotAt_heeds (path : List String) (index : Nat) (item : Json) :
    (slotAt path item).Heeds
      ((if item.slot?.isNone then [⟨[], .badSlot index item⟩] else []).map (.under path)) := by
  unfold slotAt
  cases item.slot? with
  | some slot => exact heeds_pure slot
  | none => exact heeds_fail (by simp [Remark.under, Remark.outcome]) []

theorem mapM_slotAt_heeds (path : List String) (index : Nat) (items : List Json) :
    (items.mapM (slotAt path)).Heeds ((badSlotRemarks index items).map (.under path)) := by
  induction items generalizing index with
  | nil => exact heeds_pure []
  | cons item rest ih =>
      rw [List.mapM_cons, badSlotRemarks_cons, List.map_append]
      refine (slotAt_heeds path index item).bind fun slot _ => ?_
      simpa using (ih (index + 1)).bind fun slots _ => heeds_pure (slot :: slots)

/-- A value that is no array is read like an array of it alone. -/
theorem gateSlots_eq_mapM (path : List String) (given : Json) :
    gateSlots path (some given) = given.slotItems.mapM (slotAt path) := by
  cases given <;> simp [gateSlots, slotItems]

theorem gateSlots_heeds (path : List String) (given : Json) :
    (gateSlots path (some given)).Heeds
      ((badSlotRemarks 0 given.slotItems).map (.under path)) := by
  rw [gateSlots_eq_mapM]
  exact mapM_slotAt_heeds path 0 given.slotItems

/-- There are as many slots as values that hold them. -/
theorem isEmpty_of_gateSlots {path : List String} {given : Json} {slots : List Slot}
    (h : (gateSlots path (some given)).Gives slots) :
    slots.isEmpty = given.slotItems.isEmpty := by
  rw [gateSlots_eq_mapM, mapM_slotAt_gives_iff] at h
  rw [h, List.isEmpty_map]

theorem gateAt_heeds (path : List String) (slots : List Slot) (behind : Option Schema) :
    (gateAt path slots behind).Heeds
      ((lackRemarks slots.isEmpty behind.isNone).map (.under path)) := by
  unfold gateAt Node.gateOver
  cases slots with
  | nil =>
      -- Then it does not matter whether there is a level.
      exact heeds_fail (by simp [Remark.under, Remark.outcome]) _
  | cons slot others =>
      cases behind with
      | none => exact heeds_fail (by simp [Remark.under, Remark.outcome]) []
      | some schema => exact heeds_pure _

/-- The schema behind a gate is read from the object there, if there is one. -/
theorem loadBehind_eq (path : List String) (fields : List (String × Json)) :
    loadBehind path fields = match behind? fields with
      | some inner => some <$> loadFields path inner
      | none => pure none := by
  induction fields with
  | nil => rfl
  | cons field rest ih =>
      obtain ⟨name, value⟩ := field
      by_cases hname : name = gateLevelField
      · subst hname
        cases value <;> simp [loadBehind, behind?]
      · have hskip : loadBehind path ((name, value) :: rest) = loadBehind path rest := by
          cases value <;> simp only [loadBehind, if_neg hname]
        rw [hskip, ih, behind?_cons_of_ne hname]

theorem isNone_of_loadBehind {path : List String} {fields : List (String × Json)}
    {behind : Option Schema} (h : (loadBehind path fields).Gives behind) :
    behind.isNone = (behind? fields).isNone := by
  rw [loadBehind_eq] at h
  cases hinner : behind? fields with
  | none =>
      rw [hinner] at h
      obtain rfl := (gives_pure _ _).mp h
      rfl
  | some inner =>
      rw [hinner] at h
      obtain ⟨schema, -, rfl⟩ := (gives_map _ _ _).mp h
      rfl

/-- Reading some fields goes through the remarks about them. -/
def HeedsRemarks (fields : List (String × Json)) : Prop :=
  ∀ path, (loadFields path fields).Heeds ((remarksFrom fields).map (.under path))

theorem skipEntry_heeds (path : List String) (found : String) :
    (skipEntry path found).Heeds ([⟨[], .unrecognized found⟩].map (.under path)) := by
  have hnote : (noteInDevelopment (.skippedUnrecognized (dotted path) found)).Heeds
      [⟨path, .unrecognized found⟩] := heeds_noteInDevelopment rfl rfl
  have hrun := hnote.bind fun _ _ => heeds_pure (none : Option (Option Node))
  simpa [skipEntry, Remark.under] using hrun

/-- A gate is read in the order of its remarks. -/
theorem loadEntry_gate_heeds {fields : List (String × Json)} {given : Json}
    (hgate : fields.lookup gateSlotsField = some given)
    (ih : ∀ inner, behind? fields = some inner → HeedsRemarks inner) (path : List String) :
    (loadEntry path (.object fields)).Heeds
      ((remarksAt (.object fields)).map (.under path)) := by
  have hbehind : (loadBehind path fields).Heeds ((remarksBehind fields).map (.under path)) := by
    rw [loadBehind_eq, remarksBehind_eq]
    cases hinner : behind? fields with
    | none => exact heeds_pure none
    | some inner => exact (ih inner hinner path).map some
  -- From here the steps of the reader and the parts of the list go together.
  rw [loadEntry, hgate, remarksAt]
  simp only [hgate, Option.isSome_some, if_true, List.map_append, List.append_assoc]
  refine (noteIgnored_heeds path fields).bind fun _ _ => ?_
  refine (gateSlots_heeds path given).bind fun slots hslots => ?_
  refine hbehind.bind fun behind hschema => ?_
  rw [← isEmpty_of_gateSlots hslots, ← isNone_of_loadBehind hschema]
  simpa using (gateAt_heeds path slots behind).map fun node => some (some node)

/-- One entry, if reading goes through the remarks about the entries in it. -/
theorem loadEntry_heeds {value : Json}
    (ih : ∀ inner, value.inside? = some inner → HeedsRemarks inner) (path : List String) :
    (loadEntry path value).Heeds ((remarksAt value).map (.under path)) := by
  cases value with
  | null => exact heeds_pure _
  | boolean b => exact skipEntry_heeds path "boolean"
  | number n => exact skipEntry_heeds path "number"
  | text s => exact skipEntry_heeds path "string"
  | array items =>
      rw [loadEntry, remarksAt_of_not_object (by simp), unknown?]
      cases items.mapM piece? with
      | some pieces => exact heeds_pure _
      | none => exact skipEntry_heeds path _
  | object fields =>
      cases hgate : fields.lookup gateSlotsField with
      | some given =>
          exact loadEntry_gate_heeds hgate
            (fun inner hinner => ih inner ((inside?_gate hgate).trans hinner)) path
      | none =>
          have hfields := ih fields (inside?_branch hgate) path
          rw [loadEntry, hgate, remarksAt]
          simpa [hgate] using hfields.map fun below => some (some (Node.branch below))

/-- Fields, if reading goes through the remarks for each of them. -/
theorem heedsRemarks_of_entries {fields : List (String × Json)}
    (h : ∀ name value, (name, value) ∈ fields → ∀ path,
      (loadEntry path value).Heeds ((remarksAt value).map (.under path))) :
    HeedsRemarks fields := by
  induction fields with
  | nil => exact fun path => heeds_pure _
  | cons field rest ih =>
      obtain ⟨name, value⟩ := field
      have hvalue := h name value List.mem_cons_self
      have hrest := ih fun other held hmem => h other held (List.mem_cons_of_mem _ hmem)
      intro path
      have hsplit : (remarksFrom ((name, value) :: rest)).map (Remark.under path)
          = (remarksAt value).map (Remark.under (path ++ [name]))
            ++ ((remarksFrom rest).map (Remark.under path) ++ []) := by
        rw [remarksFrom, List.map_append, List.map_map, List.append_nil]
        simp only [Function.comp_def, Remark.under_under]
      -- The entry is put into the schema last, which heeds nothing more.
      rw [loadFields, hsplit]
      refine (hvalue (path ++ [name])).bind fun entry _ => ?_
      refine (hrest path).bind fun others _ => ?_
      cases entry with
      | none => exact heeds_pure _
      | some node => exact heeds_pure _

/-- Reading fields goes through the remarks about them. -/
theorem loadFields_heeds (fields : List (String × Json)) : HeedsRemarks fields := by
  induction fields using inside_induction with
  | step fields ih =>
      refine heedsRemarks_of_entries fun name value hmem => ?_
      exact loadEntry_heeds fun inner hinside => ih name value inner hmem hinside

/-! ### The first fault -/

/-- The fault that comes first among all that the fields draw. -/
structure IsFirstFault (fields : List (String × Json)) (remark : Remark) : Prop where
  drawn : FieldsDraw fields remark
  isFault : remark.IsFault
  first : ∀ other, FieldsDraw fields other → other.IsFault → other ≠ remark →
    remark.place < other.place

/-- In a list by places, the first fault is the one behind those that are none. -/
theorem isFirstFault_iff {fields : List (String × Json)} (h : (object fields).InNameOrder)
    (remark : Remark) : IsFirstFault fields remark
      ↔ ∃ before after, remarksFrom fields = before ++ remark :: after
          ∧ (∀ other ∈ before, ¬ other.IsFault) ∧ remark.IsFault := by
  have hplaces := byPlace_remarksFrom h
  constructor
  · intro hfirst
    obtain ⟨before, after, hsplit⟩ :=
      List.append_of_mem ((mem_remarksFrom_iff fields remark).mpr hfirst.drawn)
    refine ⟨before, after, hsplit, fun other hother hfault => ?_, hfirst.isFault⟩
    have hmem : other ∈ remarksFrom fields := by
      rw [hsplit]
      exact List.mem_append_left _ hother
    have hlt : other.place < remark.place := by
      rw [ByPlace, hsplit, List.pairwise_append] at hplaces
      exact hplaces.2.2 other hother remark List.mem_cons_self
    have hne : other ≠ remark := fun heq => List.lt_irrefl _ (heq ▸ hlt)
    -- A fault further up in the list would come both before and after.
    exact List.lt_asymm hlt
      (hfirst.first other ((mem_remarksFrom_iff fields other).mp hmem) hfault hne)
  · rintro ⟨before, after, hsplit, hbefore, hfault⟩
    have hmem : remark ∈ remarksFrom fields := by simp [hsplit]
    refine ⟨(mem_remarksFrom_iff fields remark).mp hmem, hfault, fun other hother hother' hne => ?_⟩
    rw [← mem_remarksFrom_iff, hsplit, List.mem_append, List.mem_cons] at hother
    rcases hother with hother | rfl | hother
    · exact absurd hother' (hbefore other hother)
    · exact absurd rfl hne
    · rw [ByPlace, hsplit, List.pairwise_append, List.pairwise_cons] at hplaces
      exact hplaces.2.1.1 other hother

end Json

namespace Schema

variable {fields : List (String × Json)}

theorem ofKeys_heeds (fields : List (String × Json)) :
    (loadFields [] fields).Heeds (Json.remarksFrom fields) := by
  have hpath : (Json.remarksFrom fields).map (Remark.under []) = Json.remarksFrom fields :=
    List.map_id' _
  rw [← hpath]
  exact Json.loadFields_heeds fields []

/-- Keys are read with an error if and only if it is that of the first fault in
the list of remarks. -/
theorem ofKeys_fails_iff {error : KeysError} :
    (ofKeys (.object fields)).result = .error error
      ↔ ∃ before remark after, Json.remarksFrom fields = before ++ remark :: after
          ∧ (∀ other ∈ before, ¬ other.IsFault) ∧ remark.outcome = .inr error :=
  ((ofKeys_heeds fields).fails_iff error).trans (Remark.forM_react_fails_iff _ error)

theorem exists_error_of_isFault {remark : Remark} (hdrawn : Json.FieldsDraw fields remark)
    (hfault : remark.IsFault) : ∃ error, (ofKeys (.object fields)).result = .error error := by
  have hmem := (Json.mem_remarksFrom_iff fields remark).mpr hdrawn
  obtain ⟨before, first, after, hsplit, hbefore, hfirst⟩ :=
    Remark.exists_first_of_isFault hmem hfault
  obtain ⟨error, herror⟩ := Sum.isRight_iff.mp hfirst
  exact ⟨error, ofKeys_fails_iff.mpr ⟨before, first, after, hsplit, hbefore, herror⟩⟩

/-- Reading the keys of a document fails exactly if some fault is drawn. The error
is then that of the fault whose place comes before the places of all others. -/
theorem ofKeys_names_first_fault (h : (Json.object fields).InNameOrder) :
    ((∃ error, (ofKeys (.object fields)).result = .error error)
        ↔ ∃ remark, Json.FieldsDraw fields remark ∧ remark.IsFault)
      ∧ ∀ error, (ofKeys (.object fields)).result = .error error
        ↔ ∃ remark, Json.IsFirstFault fields remark ∧ remark.outcome = .inr error := by
  have hfails : ∀ error, (ofKeys (.object fields)).result = .error error
      ↔ ∃ remark, Json.IsFirstFault fields remark ∧ remark.outcome = .inr error := by
    intro error
    simp only [Json.isFirstFault_iff h, ofKeys_fails_iff]
    constructor
    · rintro ⟨before, remark, after, hsplit, hbefore, hremark⟩
      have hfault : remark.IsFault := by simp [Remark.IsFault, hremark]
      exact ⟨remark, ⟨before, after, hsplit, hbefore, hfault⟩, hremark⟩
    · rintro ⟨remark, ⟨before, after, hsplit, hbefore, -⟩, hremark⟩
      exact ⟨before, remark, after, hsplit, hbefore, hremark⟩
  refine ⟨⟨?_, ?_⟩, hfails⟩
  · rintro ⟨error, herror⟩
    obtain ⟨remark, hfirst, -⟩ := (hfails error).mp herror
    exact ⟨remark, hfirst.drawn, hfirst.isFault⟩
  · rintro ⟨remark, hdrawn, hfault⟩
    exact exists_error_of_isFault hdrawn hfault

end Schema

/-- Keys with several faults. The first entry is passed over and the last gate has
no slots, but it is a gate behind another that comes first. -/
def faultyFields : List (String × Json) :=
  [ ("area", .number (.integer 7)),
    ("store", .object
      [ ("$parameterize", .array []), ("$schema", .object
          [ ("aisle", .array [.text "aisle"]),
            ("shelf", .object [("$parameterize", .text "shelf"), ("label", .null)]) ]) ]),
    ("zone", .object [("$parameterize", .null)]) ]

theorem ofKeys_faultyFields : (Json.object faultyFields).InNameOrder
    ∧ ∃ remark, Json.IsFirstFault faultyFields remark
      ∧ remark.outcome = .inr (.invalidSlot "store.shelf" (.text "shelf")) := by
  have hordered : (Json.object faultyFields).InNameOrder := by
    simp only [faultyFields, Json.inNameOrder_object_iff, Json.inNameOrder_array_iff, NamesOrdered,
      Json.InNameOrder.null, Json.InNameOrder.number, Json.InNameOrder.text, List.forall_mem_cons,
      List.map_cons, List.map_nil, List.not_mem_nil, false_imp_iff, implies_true, and_true,
      true_and]
    decide
  exact ⟨hordered, ((Schema.ofKeys_names_first_fault hordered).2 _).mp rfl⟩

end KeyTree
