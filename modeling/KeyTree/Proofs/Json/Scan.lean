import KeyTree.Json.Token
import Mathlib.Tactic.SplitIfs

/-!
# `KeyTree.Proofs.Json.Scan`: written values as tokens

`Json.pretty` writes a value as text, `Token.scan` cuts a text into tokens.
The tokens of a written value can be told from the value (`Json.tokens`),
without the blanks and line feeds and with all escapes undone.

* `Scans`: a text is cut into some tokens, whatever follows it. Such texts
  can be put together (`Scans.append`).
* `exists_scanText_flatMap`: a quoted text ends at its own closing quote,
  and gives back its characters.
* `Canonical`: the values that are read back as they are. They hold no
  numbers, and the fields of their objects are in name order.
* `scan_pretty`: the tokens of a canonical value, written over several lines.
-/

set_option autoImplicit false

namespace KeyTree.Json

/-! ### Values and their tokens -/

/-- Values without numbers, whose objects have their fields in name order. -/
inductive Canonical : Json → Prop
  | null : Canonical .null
  | boolean (b : Bool) : Canonical (.boolean b)
  | text (s : String) : Canonical (.text s)
  | array {items : List Json} (hitems : ∀ item ∈ items, Canonical item) : Canonical (.array items)
  | object {fields : List (String × Json)} (hordered : NamesOrdered fields)
      (hfields : ∀ field ∈ fields, Canonical field.2) : Canonical (.object fields)

theorem Canonical.emptyObject : Canonical (.object []) :=
  .object trivial (List.forall_mem_nil _)

/-- A field in front of the others. -/
theorem Canonical.cons {name : String} {value : Json} {rest : List (String × Json)}
    (hlt : ∀ other ∈ rest.map Prod.fst, name < other) (hvalue : value.Canonical)
    (hrest : Canonical (.object rest)) : Canonical (.object ((name, value) :: rest)) := by
  cases hrest with
  | object hordered hfields =>
      exact .object ⟨hlt, hordered⟩ (List.forall_mem_cons.mpr ⟨hvalue, hfields⟩)

mutual

/-- The tokens of a written value. -/
def tokens : Json → List Token
  | .null => [.null]
  | .boolean b => [.boolean b]
  | .number n => scan n.written
  | .text s => [.text (some s)]
  | .array [] => [.openArray, .closeArray]
  | .array (item :: rest) => .openArray :: tokens item ++ moreItems rest ++ [.closeArray]
  | .object [] => [.openObject, .closeObject]
  | .object ((name, value) :: rest) =>
    .openObject :: .text (some name) :: .colon :: tokens value ++ moreFields rest
      ++ [.closeObject]
termination_by structural value => value

/-- The tokens of further items, each behind a comma. -/
def moreItems : List Json → List Token
  | [] => []
  | item :: rest => .comma :: tokens item ++ moreItems rest
termination_by structural items => items

/-- The tokens of further fields, each behind a comma. -/
def moreFields : List (String × Json) → List Token
  | [] => []
  | (name, value) :: rest =>
    .comma :: .text (some name) :: .colon :: tokens value ++ moreFields rest
termination_by structural fields => fields

end

/-! ### Texts that are cut alike in any place -/

/-- The text is cut into these tokens, and then goes on with what follows. All
that counts of the fuel is that it covers the text. -/
def Scans (text : List Char) (tokens : List Token) : Prop :=
  ∀ (rest : List Char) (fuel : Nat), rest.length ≤ fuel →
    ∃ left, rest.length ≤ left
      ∧ scanFrom (text.length + fuel) (text ++ rest) = tokens ++ scanFrom left rest

namespace Scans

theorem nil : Scans [] [] := by
  intro rest fuel hfuel
  refine ⟨fuel, hfuel, ?_⟩
  rw [List.length_nil, Nat.zero_add, List.nil_append, List.nil_append]

/-- Texts that are cut alike in any place are so one behind the other. -/
theorem append {text more : List Char} {tokens others : List Token} (h : Scans text tokens)
    (hmore : Scans more others) : Scans (text ++ more) (tokens ++ others) := by
  intro rest fuel hfuel
  have hlength : (more ++ rest).length ≤ more.length + fuel := by
    rw [List.length_append]
    omega
  obtain ⟨left, hleft, htext⟩ := h (more ++ rest) (more.length + fuel) hlength
  rw [List.length_append] at hleft
  -- The fuel that the first text leaves covers the second one, too.
  obtain ⟨last, hlast, hrest⟩ := hmore rest (left - more.length) (by omega)
  refine ⟨last, hlast, ?_⟩
  rw [show more.length + (left - more.length) = left by omega] at hrest
  rw [List.length_append, Nat.add_assoc, List.append_assoc, htext, hrest, List.append_assoc]

/-- A character that takes one step. -/
theorem char {c : Char} {tokens : List Token}
    (h : ∀ fuel rest, scanFrom (fuel + 1) (c :: rest) = tokens ++ scanFrom fuel rest) :
    Scans [c] tokens := by
  intro rest fuel hfuel
  refine ⟨fuel, hfuel, ?_⟩
  rw [List.length_singleton, Nat.add_comm, List.singleton_append]
  exact h fuel rest

theorem openArray : Scans ['['] [.openArray] := .char fun _ _ => by simp [scanFrom, isBlank]

theorem closeArray : Scans [']'] [.closeArray] := .char fun _ _ => by simp [scanFrom, isBlank]

theorem openObject : Scans ['{'] [.openObject] := .char fun _ _ => by simp [scanFrom, isBlank]

theorem closeObject : Scans ['}'] [.closeObject] := .char fun _ _ => by simp [scanFrom, isBlank]

theorem comma : Scans [','] [.comma] := .char fun _ _ => by simp [scanFrom, isBlank]

theorem colon : Scans [':'] [.colon] := .char fun _ _ => by simp [scanFrom, isBlank]

/-- Blanks give no tokens. -/
theorem blanks {text : List Char} (h : ∀ c ∈ text, isBlank c = true) : Scans text [] := by
  induction text with
  | nil => exact nil
  | cons c rest ih =>
      obtain ⟨hc, hrest⟩ := List.forall_mem_cons.mp h
      have hfirst : Scans [c] [] := .char fun _ _ => by simp [scanFrom, hc]
      exact hfirst.append (ih hrest)

/-- A new line gives no tokens, however far it is indented. -/
theorem newLine (level : Nat) : Scans (newLine level) [] := by
  refine .blanks fun c hc => ?_
  rcases List.mem_cons.mp hc with rfl | hc
  · rfl
  · rw [List.eq_of_mem_replicate hc]
    rfl

/-- A word is found letter by letter. -/
theorem scanWord_append (word rest : List Char) : scanWord word (word ++ rest) = .ok rest := by
  induction word with
  | nil => cases rest <;> rfl
  | cons c word ih =>
      rw [List.cons_append, scanWord, if_pos rfl]
      exact ih

/-- A word gives its token, if its first letter starts it. -/
theorem word (c : Char) (token : Token) (tail : String)
    (h : ∀ fuel rest, scanFrom (fuel + 1) (c :: rest) = scanFrom.word fuel token tail rest) :
    Scans (c :: tail.toList) [token] := by
  intro rest fuel hfuel
  have hword : scanFrom.word (tail.toList.length + fuel) token tail (tail.toList ++ rest)
      = token :: scanFrom (tail.toList.length + fuel) rest := by
    rw [scanFrom.word, scanWord_append]
  refine ⟨tail.toList.length + fuel, by omega, ?_⟩
  rw [List.length_cons, List.cons_append, Nat.add_right_comm, h, hword]
  rfl

theorem null : Scans "null".toList [.null] :=
  word 'n' .null "ull" fun _ _ => by simp [scanFrom, isBlank]

theorem boolean (b : Bool) : Scans (if b then "true" else "false").toList [.boolean b] := by
  cases b with
  | false => exact word 'f' (.boolean false) "alse" fun _ _ => by simp [scanFrom, isBlank]
  | true => exact word 't' (.boolean true) "rue" fun _ _ => by simp [scanFrom, isBlank]

end Scans

/-! ### Quoted texts -/

/-- A letter behind a backslash. -/
theorem scanText_escape {c e : Char} (hc : c ≠ 'u') (he : escaped? c = some e)
    (rest : List Char) :
    scanText ('\\' :: c :: rest) = (.char e :: (scanText rest).1, (scanText rest).2) := by
  rw [scanText]
  · simp [he]
  · rintro _ _ _ _ _ rfl
    exact absurd rfl hc

/-- A number behind a backslash. -/
theorem scanText_number {digits : List Char} {n : Nat} (hlength : digits.length = 4)
    (hn : readDigits? 16 digits = some n) (rest : List Char) :
    scanText ('\\' :: 'u' :: digits ++ rest)
      = (.unit n :: (scanText rest).1, (scanText rest).2) := by
  match digits, hlength with
  | [a, b, c, d], _ =>
    have hunit : hexUnit? a b c d = some n := hn
    simp [scanText, hunit]

/-- Any other character. -/
theorem scanText_char {c : Char} (hquote : c ≠ '"') (hbackslash : c ≠ '\\')
    (hcontrol : ¬ c.toNat < 0x20) (rest : List Char) :
    scanText (c :: rest) = (.char c :: (scanText rest).1, (scanText rest).2) := by
  rw [scanText, if_neg hcontrol]
  all_goals simp_all

/-- Control characters are written with four digits. -/
theorem readDigits?_hexDigits : ∀ n < 0x20,
    (hexDigits 4 n).length = 4 ∧ readDigits? 16 (hexDigits 4 n) = some n := by
  decide

/-- The unit gives a character in any text. -/
def TextUnit.Gives (unit : TextUnit) (c : Char) : Prop :=
  ∀ units, joinUnits (unit :: units) = (joinUnits units).map (c :: ·)

theorem TextUnit.gives_char (c : Char) : (TextUnit.char c).Gives c := fun _ => rfl

/-- Code units below those of surrogates are characters. -/
theorem TextUnit.gives_unit {c : Char} (h : c.toNat < 0xD800) :
    (TextUnit.unit c.toNat).Gives c := by
  intro units
  rw [joinUnits.eq_def]
  simp only
  rw [if_neg (by omega), if_neg (by omega), Char.ofNat_toNat]

/-- A written character is read as one unit, which gives the character. -/
theorem exists_scanText_quotedChar (c : Char) :
    ∃ unit : TextUnit, unit.Gives c ∧ ∀ rest,
      scanText (quotedChar c ++ rest) = (unit :: (scanText rest).1, (scanText rest).2) := by
  unfold quotedChar
  -- Seven characters have a letter of their own, other control characters are
  -- given by number, and the rest stand for themselves.
  split_ifs with hquote hbackslash hb hf hn hr ht hcontrol
  · exact ⟨_, TextUnit.gives_char c, scanText_escape (by decide) (by rw [hquote]; rfl)⟩
  · exact ⟨_, TextUnit.gives_char c, scanText_escape (by decide) (by rw [hbackslash]; rfl)⟩
  · exact ⟨_, TextUnit.gives_char c, scanText_escape (by decide) (by rw [hb]; rfl)⟩
  · exact ⟨_, TextUnit.gives_char c, scanText_escape (by decide) (by rw [hf]; rfl)⟩
  · exact ⟨_, TextUnit.gives_char c, scanText_escape (by decide) (by rw [hn]; rfl)⟩
  · exact ⟨_, TextUnit.gives_char c, scanText_escape (by decide) (by rw [hr]; rfl)⟩
  · exact ⟨_, TextUnit.gives_char c, scanText_escape (by decide) (by rw [ht]; rfl)⟩
  · obtain ⟨hlength, hdigits⟩ := readDigits?_hexDigits c.toNat hcontrol
    exact ⟨_, TextUnit.gives_unit (by omega), scanText_number hlength hdigits⟩
  · exact ⟨_, TextUnit.gives_char c, scanText_char hquote hbackslash hcontrol⟩

/-- A written text ends at its closing quote, and gives its characters. -/
theorem exists_scanText_flatMap (chars rest : List Char) :
    ∃ units, joinUnits units = some chars
      ∧ scanText (chars.flatMap quotedChar ++ '"' :: rest) = (units, .ok rest) := by
  induction chars with
  | nil => exact ⟨[], rfl, by simp [scanText]⟩
  | cons c chars ih =>
      obtain ⟨unit, hgives, hc⟩ := exists_scanText_quotedChar c
      obtain ⟨units, hunits, hchars⟩ := ih
      refine ⟨unit :: units, ?_, ?_⟩
      · rw [hgives, hunits, Option.map_some]
      · rw [List.flatMap_cons, List.append_assoc, hc, hchars]

namespace Scans

theorem text (s : String) : Scans (quoted s) [.text (some s)] := by
  intro rest fuel hfuel
  obtain ⟨units, hunits, hscan⟩ := exists_scanText_flatMap s.toList rest
  -- One step takes the whole text, so most of the fuel for it is left.
  refine ⟨(s.toList.flatMap quotedChar).length + 1 + fuel, by omega, ?_⟩
  have hquoted : quoted s ++ rest = '"' :: (s.toList.flatMap quotedChar ++ '"' :: rest) := by
    simp [quoted]
  have hlength : (quoted s).length + fuel
      = (s.toList.flatMap quotedChar).length + 1 + fuel + 1 := by
    simp [quoted]
    omega
  rw [hquoted, hlength]
  simp [scanFrom, isBlank, hscan, hunits]

/-! ### Canonical values -/

/-- A comma and a new line in front of an item or a field. -/
theorem nextLine (level : Nat) : Scans (',' :: Json.newLine level) [.comma] :=
  comma.append (newLine level)

/-- A field, if its value is cut alike in any place. -/
theorem field (name : String) {value : List Char} {tokens : List Token} (h : Scans value tokens) :
    Scans (quoted name ++ ':' :: ' ' :: value) (.text (some name) :: .colon :: tokens) := by
  have hblank : Scans [' '] [] := blanks (List.forall_mem_singleton.mpr rfl)
  exact (text name).append (colon.append (hblank.append h))

theorem items {level : Nat} {items : List Json}
    (h : ∀ item ∈ items, Scans (prettyChars level item) item.tokens) :
    Scans (prettyItems level items) (moreItems items) := by
  induction items with
  | nil => exact nil
  | cons item rest ih =>
      obtain ⟨hitem, hrest⟩ := List.forall_mem_cons.mp h
      exact ((nextLine level).append hitem).append (ih hrest)

theorem fields {level : Nat} {fields : List (String × Json)}
    (h : ∀ field ∈ fields, Scans (prettyChars level field.2) field.2.tokens) :
    Scans (prettyFields level fields) (moreFields fields) := by
  induction fields with
  | nil => exact nil
  | cons entry rest ih =>
      obtain ⟨hvalue, hrest⟩ := List.forall_mem_cons.mp h
      have hfield := (nextLine level).append (field entry.1 hvalue)
      rw [prettyFields, moreFields, List.append_assoc (',' :: _)]
      exact hfield.append (ih hrest)

/-- A canonical value is cut into its tokens, wherever it stands. -/
theorem pretty {value : Json} (h : value.Canonical) (level : Nat) :
    Scans (prettyChars level value) value.tokens := by
  induction h generalizing level with
  | null => exact null
  | boolean b =>
      cases b with
      | false => exact boolean false
      | true => exact boolean true
  | text s => exact text s
  | @array held hheld ih =>
      cases held with
      | nil => exact openArray.append closeArray
      | cons item rest =>
          obtain ⟨hitem, hrest⟩ := List.forall_mem_cons.mp ih
          have hinside := (hitem (level + 1)).append
            (items fun other hother => hrest other hother (level + 1))
          have hopen := openArray.append (newLine (level + 1))
          have hclose := (newLine level).append closeArray
          simpa [prettyChars, tokens] using hopen.append (hinside.append hclose)
  | @object held hordered hheld ih =>
      cases held with
      | nil => exact openObject.append closeObject
      | cons entry rest =>
          obtain ⟨hvalue, hrest⟩ := List.forall_mem_cons.mp ih
          have hinside := (field entry.1 (hvalue (level + 1))).append
            (fields fun other hother => hrest other hother (level + 1))
          have hopen := openObject.append (newLine (level + 1))
          have hclose := (newLine level).append closeObject
          simpa [prettyChars, tokens] using hopen.append (hinside.append hclose)

end Scans

/-- A canonical value, written over several lines, is cut into its tokens. -/
theorem scan_pretty {value : Json} (h : value.Canonical) : scan value.pretty = value.tokens := by
  obtain ⟨left, -, hscan⟩ := Scans.pretty h 0 [] 0 (Nat.le_refl 0)
  rw [List.append_nil, Nat.add_zero] at hscan
  rw [scan, Json.pretty, String.toList_ofList, hscan]
  cases left <;> simp [scanFrom]

end KeyTree.Json
