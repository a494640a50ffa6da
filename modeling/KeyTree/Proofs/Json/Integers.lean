import KeyTree.Exchange
import KeyTree.Proofs.Decimal.Numerals
import KeyTree.Proofs.Json.Reading

/-!
# `KeyTree.Proofs.Json.Integers`: whole numbers read from JSON

A JSON text that is a whole number between blanks (`IntegerText`) is cut into
one token (`scan_of_integerText`), and its digits are all taken as long as the
number fits 64 bits (`NumberText.value_integer`).

`Value.read_integerText` says what such a text is as a value: the whole number,
but for minus zero, which is a double.
-/

set_option autoImplicit false

namespace KeyTree.Json

/-! ### Texts that are whole numbers -/

/-- A whole number as it stands in JSON: a numeral without zeros in front, with
or without a minus. Zero may have one. -/
inductive IntegerWord : List Char → Int → Prop
  | plain {digits : List Char} {m : Nat} (h : TrimmedNumeral digits m) : IntegerWord digits m
  | minus {digits : List Char} {m : Nat} (h : TrimmedNumeral digits m) :
      IntegerWord ('-' :: digits) (-m)

/-- A text with nothing but a whole number in it, and blanks around. -/
def IntegerText (text : List Char) (n : Int) : Prop :=
  ∃ front word back, IntegerWord word n ∧ (∀ c ∈ front, isBlank c = true)
    ∧ (∀ c ∈ back, isBlank c = true) ∧ text = front ++ word ++ back

/-- The parts of a number that is nothing but digits and a sign. -/
def NumberText.integer (negative : Bool) (digits : List Char) : NumberText :=
  ⟨negative, digits, [], none⟩

/-! ### Scanning -/

/-- No number goes on with the text: it starts with no digit, no point and no
power of ten. -/
def EndsNumber (text : List Char) : Prop :=
  ∀ c ∈ text.head?, c.isDigit = false ∧ c ≠ '.' ∧ c ≠ 'e' ∧ c ≠ 'E'

theorem endsNumber_nil : EndsNumber [] := nofun

/-- No number goes on with a blank. -/
theorem endsNumber_of_blanks {text : List Char} (h : ∀ c ∈ text, isBlank c = true) :
    EndsNumber text := by
  intro c hc
  have hblank := h c (List.mem_of_mem_head? hc)
  simp only [isBlank, Bool.or_eq_true, beq_iff_eq] at hblank
  rcases hblank with ((rfl | rfl) | rfl) | rfl <;> decide

section

variable {back : List Char} (hback : EndsNumber back)

include hback

/-- All digits of a numeral are scanned, up to the end of the number. -/
theorem scanDigits_numeral {digits : List Char} {m : Nat} (h : Numeral digits m) :
    scanDigits (digits ++ back) = .ok (digits, back) := by
  have hend : back.takeWhile Char.isDigit = [] ∧ back.dropWhile Char.isDigit = back := by
    cases back with
    | nil => exact ⟨rfl, rfl⟩
    | cons c rest =>
        have hc := (hback c rfl).1
        simp [hc]
  rw [scanDigits, List.takeWhile_append_of_pos h.isDigit, List.dropWhile_append_of_pos h.isDigit,
    hend.1, hend.2, List.append_nil]
  cases digits with
  | nil => exact absurd rfl h.nonempty
  | cons c rest => rfl

/-- Behind the digits there is no fraction and no power of ten. -/
theorem scan_endsNumber :
    scanFraction back = .ok ([], back) ∧ scanPower back = .ok (none, back) := by
  cases back with
  | nil => exact ⟨rfl, rfl⟩
  | cons c rest =>
      obtain ⟨-, hpoint, he, hE⟩ := hback c rfl
      constructor
      · simp [scanFraction, hpoint]
      · simp [scanPower, he, hE]

/-- A numeral without zeros in front is scanned up to the end of the number. -/
theorem scanNumber_plain {digits : List Char} {m : Nat} (h : TrimmedNumeral digits m) :
    scanNumber (digits ++ back) = .ok (.integer false digits, back) := by
  have hdigits := scanDigits_numeral hback h.toNumeral
  obtain ⟨hfraction, hpower⟩ := scan_endsNumber hback
  unfold scanNumber
  split
  rename_i negative rest heq
  -- The sign is looked for in a match of its own.
  split at heq
  · rename_i tail hminus
    -- The minus would be one of the digits.
    have hmem : '-' ∈ digits := by
      cases digits with
      | nil => exact absurd rfl h.nonempty
      | cons c others =>
          obtain ⟨rfl, -⟩ := List.cons.inj hminus
          exact List.mem_cons_self
    exact absurd (h.isDigit '-' hmem) (by decide)
  · obtain ⟨rfl, rfl⟩ := Prod.mk.inj heq
    simp only [hdigits, hfraction, hpower, bind, Except.bind, if_neg h.not_zero_in_front]
    rfl

/-- So it is behind a minus. -/
theorem scanNumber_minus {digits : List Char} {m : Nat} (h : TrimmedNumeral digits m) :
    scanNumber ('-' :: digits ++ back) = .ok (.integer true digits, back) := by
  have hdigits := scanDigits_numeral hback h.toNumeral
  obtain ⟨hfraction, hpower⟩ := scan_endsNumber hback
  simp only [List.cons_append, scanNumber, hdigits, hfraction, hpower, bind, Except.bind,
    if_neg h.not_zero_in_front]
  rfl

end

/-- Nothing but blanks gives no token. -/
theorem scanFrom_blanks {back : List Char} (hback : ∀ c ∈ back, isBlank c = true) (fuel : Nat) :
    scanFrom fuel back = [] := by
  induction back generalizing fuel with
  | nil => cases fuel <;> simp [scanFrom]
  | cons c rest ih =>
      obtain ⟨hc, hrest⟩ := List.forall_mem_cons.mp hback
      cases fuel with
      | zero => simp [scanFrom]
      | succ fuel =>
          rw [scanFrom, if_pos hc]
          exact ih hrest fuel

/-- A number starts with a minus or a digit, and is scanned as a whole. -/
theorem scanFrom_number {c : Char} (hc : c = '-' ∨ c.isDigit = true) {parts : NumberText}
    {rest back : List Char} (h : scanNumber (c :: rest) = .ok (parts, back)) (fuel : Nat) :
    scanFrom (fuel + 1) (c :: rest) = .number parts :: scanFrom fuel back := by
  rcases hc with rfl | hdigit
  · simp [scanFrom, isBlank, h]
  · -- None of the characters that start other tokens is a digit.
    have hne : ∀ d : Char, d.isDigit = false → c ≠ d := by
      rintro d hd rfl
      exact absurd (hdigit.symm.trans hd) (by decide)
    simp [scanFrom, isBlank, hne, hdigit, h]

/-- A text that is a whole number is cut into one token, which has its sign and
its digits. -/
theorem scan_of_integerText {text : String} {n : Int} (h : IntegerText text.toList n) :
    ∃ (negative : Bool) (digits : List Char) (m : Nat), Numeral digits m
      ∧ n = (if negative then -(m : Int) else m)
      ∧ scan text = [.number (.integer negative digits)] := by
  obtain ⟨front, word, back, hword, hfront, hback, htext⟩ := h
  -- Behind the blanks in front, the number is the only token.
  have hscan : ∀ {negative digits c rest}, word = c :: rest → (c = '-' ∨ c.isDigit = true) →
      scanNumber (word ++ back) = .ok (.integer negative digits, back) →
      scan text = [.number (.integer negative digits)] := by
    intro negative digits c rest hfirst hc hnumber
    obtain ⟨left, hleft, hskip⟩ := Scans.blanks hfront (word ++ back) (word ++ back).length
      (Nat.le_refl _)
    rw [List.nil_append] at hskip
    rw [scan, htext, List.append_assoc, List.length_append, hskip]
    rw [hfirst, List.cons_append] at hnumber hleft ⊢
    obtain ⟨fuel, rfl⟩ : ∃ fuel, left = fuel + 1 := ⟨left - 1, by simp at hleft; omega⟩
    rw [scanFrom_number hc hnumber, scanFrom_blanks hback]
  cases hword with
  | @plain _ m h =>
      have hnumber := scanNumber_plain (endsNumber_of_blanks hback) h
      refine ⟨false, word, m, h.toNumeral, rfl, ?_⟩
      cases word with
      | nil => exact absurd rfl h.nonempty
      | cons c rest => exact hscan rfl (.inr (h.isDigit c List.mem_cons_self)) hnumber
  | @minus digits m h =>
      have hnumber := scanNumber_minus (endsNumber_of_blanks hback) h
      exact ⟨true, digits, m, h.toNumeral, rfl, hscan rfl (.inl rfl) hnumber⟩

/-! ### Values -/

namespace NumberText

/-- All digits are taken while the number fits 64 bits. -/
theorem accumulate_eq {digits : List Char} (hdigits : ∀ c ∈ digits, c.isDigit = true) {acc : Nat}
    (h : Nat.ofDigitChars 10 digits acc < 0x10000000000000000) :
    accumulate acc digits = (Nat.ofDigitChars 10 digits acc, []) := by
  induction digits generalizing acc with
  | nil => rfl
  | cons c rest ih =>
      obtain ⟨hc, hrest⟩ := List.forall_mem_cons.mp hdigits
      have hnext : acc * 10 + (digitValue? c).getD 0 = 10 * acc + (c.toNat - '0'.toNat) := by
        rw [(digitValue?_of_isDigit hc).1, Option.getD_some, Nat.mul_comm]
      rw [Nat.ofDigitChars_cons] at h ⊢
      -- Further digits only make the number greater.
      have hle : 10 * acc + (c.toNat - '0'.toNat)
          ≤ Nat.ofDigitChars 10 rest (10 * acc + (c.toNat - '0'.toNat)) := by
        rw [Nat.ofDigitChars_eq_ofDigitChars_zero]
        have hpow : 0 < 10 ^ rest.length := Nat.pow_pos (by decide)
        exact Nat.le_add_right_of_le (Nat.le_mul_of_pos_left _ hpow)
      rw [accumulate, hnext, if_pos (Nat.lt_of_le_of_lt hle h)]
      exact ih hrest h

/-- The value of a number without a fraction and a power of ten. -/
theorem value_integer {digits : List Char} {m : Nat} (h : Numeral digits m)
    (hlt : m < 0x10000000000000000) (negative : Bool) :
    (integer negative digits).value
      = if ! negative then .ok (.integer m)
        else if 0 < m ∧ m ≤ 0x8000000000000000 then .ok (.integer (-m))
        else double true m 0 := by
  have hvalue := h.value
  have haccumulate : accumulate 0 digits = (m, []) := by
    rw [accumulate_eq h.isDigit (hvalue ▸ hlt), hvalue]
  simp [value, integer, haccumulate]

end NumberText

/-- Minus zero is read as a double. -/
theorem double_minus_zero : NumberText.double true 0 0 = .ok (.double (.zero true)) := by
  rfl

end KeyTree.Json

namespace KeyTree.Value

open Json

/-- Values are signed or unsigned numbers of 64 bits. -/
theorem bounds_of_ofInt? {n : Int} {value : Value} (h : ofInt? n = some value) :
    -0x8000000000000000 ≤ n ∧ n < 0x10000000000000000 := by
  unfold ofInt? at h
  split at h
  · omega
  · split at h
    · omega
    · cases h

/-- A text with one number in it is read as the value of the number. -/
theorem read_of_scan {text : String} {parts : NumberText} {number : JsonNumber} {value : Value}
    (hscan : scan text = [.number parts]) (hnumber : parts.value = .ok number)
    (hvalue : ofJson? (.number number) = some value) : reader.read text = .ok value := by
  have hscalar : (Token.number parts).scalar = .ok (.number number) := by
    rw [Token.scalar, hnumber]
    rfl
  have hany := Reader.any_scalar hscalar depthLimit []
  simp [Reader.read, hscan, reader, Reader.accept, hany, hvalue, bind, Except.bind]

/-- A text that is a whole number between blanks is read as this number if it
fits 64 bits. Zero may be read as the double zero with a minus. -/
theorem read_integerText {text : String} {n : Int} (h : IntegerText text.toList n)
    {value : Value} (hvalue : ofInt? n = some value) :
    reader.read text = .ok value
      ∨ n = 0 ∧ reader.read text = .ok (.number (.zero true)) := by
  obtain ⟨hlow, hhigh⟩ := bounds_of_ofInt? hvalue
  obtain ⟨negative, digits, m, hdigits, hn, hscan⟩ := scan_of_integerText h
  cases negative with
  | false =>
      rw [if_neg Bool.false_ne_true] at hn
      have hnumber : (NumberText.integer false digits).value = .ok (.integer m) :=
        NumberText.value_integer hdigits (by omega) false
      left
      refine read_of_scan hscan hnumber ?_
      rw [ofJson?, ← hn, hvalue]
  | true =>
      rw [if_pos rfl] at hn
      have hread := NumberText.value_integer hdigits (by omega) true
      by_cases hzero : m = 0
      · -- No whole number keeps the sign of zero.
        subst hzero
        right
        exact ⟨by omega, read_of_scan hscan (hread.trans double_minus_zero) rfl⟩
      · have hsigned : 0 < m ∧ m ≤ 0x8000000000000000 := by omega
        have hnumber : (NumberText.integer true digits).value = .ok (.integer (-m)) := by
          rw [hread]
          simp [hsigned]
        left
        refine read_of_scan hscan hnumber ?_
        rw [ofJson?, ← hn, hvalue]

end KeyTree.Value
