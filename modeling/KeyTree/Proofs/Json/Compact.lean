import KeyTree.Proofs.Json.Integers

/-!
# `KeyTree.Proofs.Json.Compact`: values without blanks as tokens

`Json.compact` writes a value without any blanks. Its text is cut as it is with
blanks, but for numbers: a number ends only where no digit, point or power of ten
follows (`EndsNumber`). In a compact text a bracket, a comma or the end of the
text follows on each value, and all of these end a number.

* `ScansBefore`: a text is cut into some tokens wherever what follows allows it.
* `exists_scanNumber_integerText`: a whole number is one token, and its value
  gives the number back.
* `scan_compact`: the tokens of a value whose numbers are all whole numbers.
-/

set_option autoImplicit false

namespace KeyTree.Json

/-! ### Texts that are cut alike in some places -/

theorem EndsNumber.append {text more : List Char} (h : EndsNumber text) (hmore : EndsNumber more) :
    EndsNumber (text ++ more) := by
  cases text with
  | nil => exact hmore
  | cons c rest => exact h

/-- The text is cut into these tokens in front of everything with a property. -/
def ScansBefore (P : List Char → Prop) (text : List Char) (tokens : List Token) : Prop :=
  ∀ (rest : List Char) (fuel : Nat), P rest → rest.length ≤ fuel →
    ∃ left, rest.length ≤ left
      ∧ scanFrom (text.length + fuel) (text ++ rest) = tokens ++ scanFrom left rest

theorem Scans.before {text : List Char} {tokens : List Token} (h : Scans text tokens)
    (P : List Char → Prop) : ScansBefore P text tokens := by
  intro rest fuel _ hfuel
  exact h rest fuel hfuel

/-- Such texts can be put together if the second one, whatever follows on it, may
follow on the first. -/
theorem ScansBefore.append {P Q : List Char → Prop} {text more : List Char}
    {tokens others : List Token} (h : ScansBefore P text tokens) (hmore : ScansBefore Q more others)
    (hfollows : ∀ rest, Q rest → P (more ++ rest)) :
    ScansBefore Q (text ++ more) (tokens ++ others) := by
  intro rest fuel hrest hfuel
  have hlength : (more ++ rest).length ≤ more.length + fuel := by
    rw [List.length_append]
    omega
  obtain ⟨left, hleft, htext⟩ := h (more ++ rest) (more.length + fuel) (hfollows rest hrest) hlength
  rw [List.length_append] at hleft
  -- The fuel that the first text leaves covers the second one, too.
  obtain ⟨last, hlast, htail⟩ := hmore rest (left - more.length) hrest (by omega)
  refine ⟨last, hlast, ?_⟩
  rw [show more.length + (left - more.length) = left by omega] at htail
  rw [List.length_append, Nat.add_assoc, List.append_assoc, htext, htail, List.append_assoc]

/-- The text is cut into these tokens where no number goes on behind it. -/
abbrev ScansApart : List Char → List Token → Prop := ScansBefore EndsNumber

/-- A text that is cut alike anywhere may stand in front. -/
theorem Scans.appendApart {text more : List Char} {tokens others : List Token}
    (h : Scans text tokens) (hmore : ScansApart more others) :
    ScansApart (text ++ more) (tokens ++ others) :=
  (h.before fun _ => True).append hmore fun _ _ => trivial

/-! ### Whole numbers -/

/-- The text of a whole number is scanned as one number where none goes on, and
its value is the whole number if that fits 64 bits. -/
theorem exists_scanNumber_integerText (n : Int) :
    ∃ parts : NumberText,
      (∀ back, EndsNumber back →
        scanNumber ((integerText n).toList ++ back) = .ok (parts, back))
      ∧ (-0x8000000000000000 ≤ n → n < 0x10000000000000000 →
        parts.value = .ok (.integer n)) := by
  have hcanonical : CanonicalInteger (integerText n).toList n := canonicalInteger_iff.mpr rfl
  generalize (integerText n).toList = text at hcanonical ⊢
  cases hcanonical with
  | @plain _ m h =>
      refine ⟨.integer false text, fun back hback => scanNumber_plain hback h, fun _ hhigh => ?_⟩
      rw [NumberText.value_integer h.toNumeral (by omega)]
      rfl
  | @minus digits m h hpos =>
      refine ⟨.integer true digits, fun back hback => scanNumber_minus hback h, fun hlow _ => ?_⟩
      have hsigned : 0 < m ∧ m ≤ 0x8000000000000000 := by omega
      rw [NumberText.value_integer h.toNumeral (by omega)]
      simp [hsigned]

/-- The text of a whole number starts with a minus or a digit. -/
theorem exists_integerText_eq_cons (n : Int) :
    ∃ c rest, (integerText n).toList = c :: rest ∧ (c = '-' ∨ c.isDigit = true) := by
  have hcanonical : CanonicalInteger (integerText n).toList n := canonicalInteger_iff.mpr rfl
  generalize (integerText n).toList = text at hcanonical ⊢
  cases hcanonical with
  | plain h =>
      obtain ⟨c, rest, rfl⟩ := List.exists_cons_of_ne_nil h.nonempty
      exact ⟨c, rest, rfl, .inr (h.isDigit c List.mem_cons_self)⟩
  | minus h hpos => exact ⟨'-', _, rfl, .inl rfl⟩

/-- A whole number is one token, whatever ends it. -/
theorem exists_token_of_integer (n : Int) :
    ∃ parts : NumberText, (Json.number (.integer n)).tokens = [.number parts]
      ∧ ScansApart (compactChars (.number (.integer n))) [.number parts]
      ∧ (-0x8000000000000000 ≤ n → n < 0x10000000000000000 →
        parts.value = .ok (.integer n)) := by
  obtain ⟨parts, hscan, hvalue⟩ := exists_scanNumber_integerText n
  obtain ⟨c, text, htext, hc⟩ := exists_integerText_eq_cons n
  rw [htext] at hscan
  have hstep : ∀ (rest : List Char) (fuel : Nat), EndsNumber rest →
      scanFrom ((c :: text).length + fuel) (c :: text ++ rest)
        = .number parts :: scanFrom (text.length + fuel) rest := by
    intro rest fuel hrest
    rw [List.length_cons, Nat.add_right_comm]
    exact scanFrom_number hc (hscan rest hrest) (text.length + fuel)
  refine ⟨parts, ?_, fun rest fuel hrest hfuel => ?_, hvalue⟩
  · have hwhole := hstep [] 0 endsNumber_nil
    rw [List.append_nil, Nat.add_zero] at hwhole
    rw [tokens, JsonNumber.written, scan, htext, hwhole, scanFrom_blanks (List.forall_mem_nil _)]
  · rw [compactChars, JsonNumber.written, htext]
    exact ⟨text.length + fuel, by omega, hstep rest fuel hrest⟩

/-! ### Compact values -/

/-- Values whose numbers are all whole numbers. -/
inductive Whole : Json → Prop
  | null : Whole .null
  | boolean (b : Bool) : Whole (.boolean b)
  | integer (n : Int) : Whole (.number (.integer n))
  | text (s : String) : Whole (.text s)
  | array {items : List Json} (hitems : ∀ item ∈ items, Whole item) : Whole (.array items)
  | object {fields : List (String × Json)} (hfields : ∀ field ∈ fields, Whole field.2) :
      Whole (.object fields)

/-- Further items start with a comma, if there are any. -/
theorem endsNumber_compactItems (items : List Json) : EndsNumber (compactItems false items) := by
  cases items with
  | nil => exact endsNumber_nil
  | cons item rest =>
      rintro c ⟨⟩
      decide

/-- So do further fields. -/
theorem endsNumber_compactFields (fields : List (String × Json)) :
    EndsNumber (compactFields false fields) := by
  cases fields with
  | nil => exact endsNumber_nil
  | cons field rest =>
      rintro c ⟨⟩
      decide

namespace ScansApart

theorem items {items : List Json} (h : ∀ item ∈ items, ScansApart (compactChars item) item.tokens) :
    ScansApart (compactItems false items) (moreItems items) := by
  induction items with
  | nil => exact Scans.nil.before EndsNumber
  | cons item rest ih =>
      obtain ⟨hitem, hrest⟩ := List.forall_mem_cons.mp h
      have hends := endsNumber_compactItems rest
      exact (Scans.comma.appendApart hitem).append (ih hrest) fun _ hmore => hends.append hmore

/-- A field, if its value is cut alike where no number goes on. -/
theorem field (name : String) {value : List Char} {tokens : List Token}
    (h : ScansApart value tokens) :
    ScansApart (quoted name ++ ':' :: value) (.text (some name) :: .colon :: tokens) :=
  (Scans.text name).appendApart (Scans.colon.appendApart h)

theorem fields {fields : List (String × Json)}
    (h : ∀ field ∈ fields, ScansApart (compactChars field.2) field.2.tokens) :
    ScansApart (compactFields false fields) (moreFields fields) := by
  induction fields with
  | nil => exact Scans.nil.before EndsNumber
  | cons entry rest ih =>
      obtain ⟨hvalue, hrest⟩ := List.forall_mem_cons.mp h
      have hends := endsNumber_compactFields rest
      have hfield := Scans.comma.appendApart (field entry.1 hvalue)
      rw [compactFields, moreFields]
      simpa using hfield.append (ih hrest) fun _ hmore => hends.append hmore

/-- A value with whole numbers is cut into its tokens where no number goes on
behind it. -/
theorem compact {value : Json} (h : value.Whole) :
    ScansApart (compactChars value) value.tokens := by
  induction h with
  | null => exact Scans.null.before EndsNumber
  | boolean b =>
      cases b with
      | false => exact (Scans.boolean false).before EndsNumber
      | true => exact (Scans.boolean true).before EndsNumber
  | integer n =>
      obtain ⟨parts, htokens, hscan, -⟩ := exists_token_of_integer n
      rw [htokens]
      exact hscan
  | text s => exact (Scans.text s).before EndsNumber
  | @array held _ ih =>
      have hclose := Scans.closeArray.before EndsNumber
      have hbracket : ∀ rest, EndsNumber rest → EndsNumber ([']'] ++ rest) := by
        rintro rest - c ⟨⟩
        decide
      cases held with
      | nil => exact Scans.openArray.appendApart hclose
      | cons item rest =>
          obtain ⟨hitem, hrest⟩ := List.forall_mem_cons.mp ih
          have hends := endsNumber_compactItems rest
          have hinside := hitem.append (items hrest) fun _ hmore => hends.append hmore
          simpa [compactChars, compactItems, tokens] using
            Scans.openArray.appendApart (hinside.append hclose hbracket)
  | @object held _ ih =>
      have hclose := Scans.closeObject.before EndsNumber
      have hbracket : ∀ rest, EndsNumber rest → EndsNumber (['}'] ++ rest) := by
        rintro rest - c ⟨⟩
        decide
      cases held with
      | nil => exact Scans.openObject.appendApart hclose
      | cons entry rest =>
          obtain ⟨hvalue, hrest⟩ := List.forall_mem_cons.mp ih
          have hends := endsNumber_compactFields rest
          have hinside := (field entry.1 hvalue).append (fields hrest)
            fun _ hmore => hends.append hmore
          simpa [compactChars, compactFields, tokens] using
            Scans.openObject.appendApart (hinside.append hclose hbracket)

end ScansApart

/-- A value with whole numbers, written without blanks, is cut into its tokens. -/
theorem scan_compact {value : Json} (h : value.Whole) : scan value.compact = value.tokens := by
  obtain ⟨left, -, hscan⟩ := ScansApart.compact h [] 0 endsNumber_nil (Nat.le_refl 0)
  rw [List.append_nil, Nat.add_zero] at hscan
  rw [scan, Json.compact, String.toList_ofList, hscan, scanFrom_blanks (List.forall_mem_nil _),
    List.append_nil]

end KeyTree.Json
