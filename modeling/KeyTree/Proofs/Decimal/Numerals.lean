import KeyTree.Proofs.Decimal.Integer

/-!
# `KeyTree.Proofs.Decimal.Numerals`: the texts that are whole numbers

What `readInteger?` reads and what `integerText` writes, as grammars of their
own that say which number a text stands for.

* `Numeral`: decimal digits, at least one. A `TrimmedNumeral` has no zeros in
  front, and there is only one for each number (`TrimmedNumeral.eq_decimalDigits`).
* `Writes`: a numeral behind an optional sign. These are exactly the texts that
  are read as a whole number (`readInteger?_eq_some_iff`).
* `CanonicalInteger`: a trimmed numeral, with a minus if the number is negative.
  The text of a whole number is its only canonical one (`canonicalInteger_iff`).
-/

set_option autoImplicit false

namespace KeyTree

/-! ### Digits -/

/-- The digits `0` to `9` stand for what they are worth. -/
theorem digitValue?_of_isDigit {c : Char} (h : c.isDigit = true) :
    digitValue? c = some (c.toNat - '0'.toNat) ∧ c.toNat - '0'.toNat < 10 := by
  have hrange := Char.isDigit_iff_toNat.mp h
  have hnine : '9'.toNat = '0'.toNat + 9 := rfl
  constructor
  · rw [digitValue?, if_pos]
    exact hrange
  · omega

/-- No letter is worth less than ten. -/
theorem isDigit_of_digitValue? {c : Char} {d : Nat} (h : digitValue? c = some d) (hd : d < 10) :
    c.isDigit = true := by
  unfold digitValue? at h
  split at h
  · rename_i hrange
    exact Char.isDigit_iff_toNat.mpr hrange
  · split at h
    · simp only [Option.some.injEq] at h
      omega
    · split at h
      · simp only [Option.some.injEq] at h
        omega
      · cases h

/-- A digit is the character of what it is worth. -/
theorem digitChar_of_isDigit {c : Char} (h : c.isDigit = true) :
    Nat.digitChar (c.toNat - '0'.toNat) = c := by
  have hrange := Char.isDigit_iff_toNat.mp h
  have hlt := (digitValue?_of_isDigit h).2
  apply Char.toNat_inj.mp
  rw [Nat.toNat_digitChar_of_lt_ten hlt]
  show '0'.toNat + (c.toNat - '0'.toNat) = c.toNat
  omega

/-! ### Numerals -/

/-- Decimal digits and the number that they write. Zeros may stand in front. -/
structure Numeral (digits : List Char) (n : Nat) : Prop where
  nonempty : digits ≠ []
  isDigit : ∀ c ∈ digits, c.isDigit = true
  value : Nat.ofDigitChars 10 digits 0 = n

/-- Decimal digits without zeros in front: `0` itself, or another digit first. -/
structure TrimmedNumeral (digits : List Char) (n : Nat) : Prop extends Numeral digits n where
  noLeadingZero : digits.head? = some '0' → digits = ['0']

/-- No zero stands in front of other digits. -/
theorem TrimmedNumeral.not_zero_in_front {digits : List Char} {n : Nat}
    (h : TrimmedNumeral digits n) : ¬ (digits.head? = some '0' ∧ 1 < digits.length) := by
  intro ⟨hhead, hlength⟩
  rw [h.noLeadingZero hhead] at hlength
  exact absurd hlength (by decide)

/-- Digits are read on to the number that they write behind the ones before. -/
theorem readDigitsFrom?_ten {digits : List Char} {acc n : Nat} :
    readDigitsFrom? 10 acc digits = some n
      ↔ (∀ c ∈ digits, c.isDigit = true) ∧ Nat.ofDigitChars 10 digits acc = n := by
  induction digits generalizing acc with
  | nil => simp [readDigitsFrom?, Nat.ofDigitChars_nil]
  | cons c rest ih =>
      rw [readDigitsFrom?, Nat.ofDigitChars_cons, List.forall_mem_cons]
      by_cases hc : c.isDigit = true
      · obtain ⟨hvalue, hlt⟩ := digitValue?_of_isDigit hc
        simp only [hvalue, Option.bind_eq_bind, Option.bind_some, if_pos hlt, hc, true_and, ih,
          Nat.mul_comm acc 10]
      · -- Letters are worth ten or more, and nothing else is worth anything.
        have hnone : ¬ ∃ d, digitValue? c = some d ∧ d < 10 := by
          rintro ⟨d, hd, hlt⟩
          exact hc (isDigit_of_digitValue? hd hlt)
        cases hd : digitValue? c with
        | none => simp [hc]
        | some d =>
            have hle : ¬ d < 10 := fun hlt => hnone ⟨d, hd, hlt⟩
            simp [hc, hle]

/-- Exactly the numerals are read as numbers to the base of ten. -/
theorem readDigits?_ten_eq_some_iff {digits : List Char} {n : Nat} :
    readDigits? 10 digits = some n ↔ Numeral digits n := by
  cases digits with
  | nil =>
      constructor
      · intro h
        cases h
      · intro h
        exact absurd rfl h.nonempty
  | cons c rest =>
      rw [readDigits?, List.isEmpty_cons, if_neg Bool.false_ne_true, readDigitsFrom?_ten]
      constructor
      · intro h
        exact ⟨List.cons_ne_nil c rest, h.1, h.2⟩
      · intro h
        exact ⟨h.isDigit, h.value⟩

/-- Digits behind those of a number above zero make the digits of a number. -/
theorem decimalDigits_append {digits : List Char} (h : ∀ c ∈ digits, c.isDigit = true)
    {acc : Nat} (hacc : 0 < acc) :
    decimalDigits acc ++ digits = decimalDigits (Nat.ofDigitChars 10 digits acc) := by
  induction digits generalizing acc with
  | nil => rw [List.append_nil, Nat.ofDigitChars_nil]
  | cons c rest ih =>
      obtain ⟨hc, hrest⟩ := List.forall_mem_cons.mp h
      have hlt := (digitValue?_of_isDigit hc).2
      have hone : decimalDigits acc ++ [c] = decimalDigits (10 * acc + (c.toNat - '0'.toNat)) := by
        have happend := Nat.toDigits_append_toDigits (by decide : 1 < 10) hacc hlt
        rw [Nat.toDigits_of_lt_base hlt, digitChar_of_isDigit hc] at happend
        exact happend
      calc decimalDigits acc ++ c :: rest
          = (decimalDigits acc ++ [c]) ++ rest := by rw [List.append_assoc]; rfl
        _ = decimalDigits (10 * acc + (c.toNat - '0'.toNat)) ++ rest := by rw [hone]
        _ = decimalDigits (Nat.ofDigitChars 10 (c :: rest) acc) := by
            rw [ih hrest (by omega), Nat.ofDigitChars_cons]

/-- The trimmed numeral of a number is the one that is written. -/
theorem TrimmedNumeral.eq_decimalDigits {digits : List Char} {n : Nat}
    (h : TrimmedNumeral digits n) : digits = decimalDigits n := by
  cases digits with
  | nil => exact absurd rfl h.nonempty
  | cons c rest =>
      obtain ⟨hc, hrest⟩ := List.forall_mem_cons.mp h.isDigit
      have hvalue := h.value
      by_cases hzero : c = '0'
      · subst hzero
        have hsingle := h.noLeadingZero rfl
        rw [hsingle] at hvalue ⊢
        rw [← hvalue]
        rfl
      · -- The first digit is a number above zero, and the others stand behind it.
        have hpos : 0 < c.toNat - '0'.toNat := by
          have hrange := Char.isDigit_iff_toNat.mp hc
          have hne : c.toNat ≠ '0'.toNat := fun heq => hzero (Char.toNat_inj.mp heq)
          omega
        have hfirst : decimalDigits (c.toNat - '0'.toNat) = [c] := by
          rw [decimalDigits, Nat.toDigits_of_lt_base (digitValue?_of_isDigit hc).2,
            digitChar_of_isDigit hc]
        rw [Nat.ofDigitChars_cons, Nat.mul_zero, Nat.zero_add] at hvalue
        rw [← hvalue, ← decimalDigits_append hrest hpos, hfirst]
        rfl

/-- The digits of a number start with zero for zero only. -/
theorem decimalDigits_eq_zero_of_head? {n : Nat} (h : (decimalDigits n).head? = some '0') :
    decimalDigits n = ['0'] := by
  induction n using Nat.strongRecOn with
  | ind n ih =>
    rw [decimalDigits, Nat.toDigits_eq_if (by decide)] at h ⊢
    split
    · rename_i hlt
      rw [if_pos hlt, List.head?_cons, Option.some.injEq] at h
      rw [h]
    · rename_i hge
      -- The digits of a tenth come first, and a tenth of such a number is not zero.
      have hne : Nat.toDigits 10 (n / 10) ≠ [] := Nat.toDigits_ne_nil
      rw [if_neg hge, List.head?_append, Option.or_of_isSome (List.isSome_head?.mpr hne)] at h
      have htenth := ih (n / 10) (by omega) h
      have hzero : n / 10 = 0 := decimalDigits_inj.mp htenth
      omega

/-- The written digits of a number are a numeral without zeros in front. -/
theorem trimmedNumeral_decimalDigits (n : Nat) : TrimmedNumeral (decimalDigits n) n where
  nonempty := Nat.toDigits_ne_nil
  isDigit _ hc := isDigit_of_mem_decimalDigits hc
  value := Nat.ofDigitChars_ten_toDigits
  noLeadingZero := decimalDigits_eq_zero_of_head?

/-! ### Signed texts -/

/-- A numeral behind an optional sign, and the whole number that it stands for. -/
inductive Writes : List Char → Int → Prop
  | plain {digits : List Char} {m : Nat} (h : Numeral digits m) : Writes digits m
  | plus {digits : List Char} {m : Nat} (h : Numeral digits m) : Writes ('+' :: digits) m
  | minus {digits : List Char} {m : Nat} (h : Numeral digits m) : Writes ('-' :: digits) (-m)

/-- A numeral has no sign to take off. -/
theorem Numeral.takeSign_eq {digits : List Char} {n : Nat} (h : Numeral digits n) :
    takeSign digits = (false, digits) := by
  unfold takeSign
  split
  · exact absurd (h.isDigit '-' List.mem_cons_self) (by decide)
  · exact absurd (h.isDigit '+' List.mem_cons_self) (by decide)
  · rfl

/-- A whole number is read behind its sign. -/
theorem readInteger?_eq (text : List Char) :
    readInteger? text
      = (readDigits? 10 (takeSign text).2).map fun m : Nat =>
          if (takeSign text).1 then -(m : Int) else (m : Int) := by
  show ((readDigits? 10 (takeSign text).2).bind _).map _ = _
  cases readDigits? 10 (takeSign text).2 with
  | none => rfl
  | some m => rfl

/-- A text is read as a whole number exactly if it writes the number. -/
theorem readInteger?_eq_some_iff {text : List Char} {n : Int} :
    readInteger? text = some n ↔ Writes text n := by
  rw [readInteger?_eq]
  constructor
  · intro h
    obtain ⟨m, hm, rfl⟩ := Option.map_eq_some_iff.mp h
    rw [readDigits?_ten_eq_some_iff] at hm
    unfold takeSign at hm ⊢
    split at hm
    · exact .minus hm
    · exact .plus hm
    · exact .plain hm
  · intro h
    cases h with
    | plain h => rw [h.takeSign_eq, readDigits?_ten_eq_some_iff.mpr h]; rfl
    | plus h => rw [takeSign, readDigits?_ten_eq_some_iff.mpr h]; rfl
    | minus h => rw [takeSign, readDigits?_ten_eq_some_iff.mpr h]; rfl

/-- The canonical text of a whole number: no zeros and no plus in front, and a
minus only if the number is negative. -/
inductive CanonicalInteger : List Char → Int → Prop
  | plain {digits : List Char} {m : Nat} (h : TrimmedNumeral digits m) : CanonicalInteger digits m
  | minus {digits : List Char} {m : Nat} (h : TrimmedNumeral digits m) (hpos : 0 < m) :
      CanonicalInteger ('-' :: digits) (-m)

/-- The text of a whole number is its canonical text, and the only one. -/
theorem canonicalInteger_iff {text : List Char} {n : Int} :
    CanonicalInteger text n ↔ text = (integerText n).toList := by
  constructor
  · intro h
    cases h with
    | plain h =>
        rw [h.eq_decimalDigits]
        show _ = (String.ofList _).toList
        rw [String.toList_ofList]
    | @minus digits m h hpos =>
        obtain ⟨k, rfl⟩ : ∃ k, m = k + 1 := ⟨m - 1, by omega⟩
        rw [h.eq_decimalDigits]
        show _ = (String.ofList _).toList
        rw [String.toList_ofList]
  · intro h
    rw [h]
    cases n with
    | ofNat m =>
        rw [integerText, String.toList_ofList]
        exact .plain (trimmedNumeral_decimalDigits m)
    | negSucc m =>
        rw [integerText, String.toList_ofList]
        exact .minus (trimmedNumeral_decimalDigits (m + 1)) (Nat.succ_pos m)

/-- A canonical text is read as its number. -/
theorem CanonicalInteger.writes {text : List Char} {n : Int} (h : CanonicalInteger text n) :
    Writes text n := by
  cases h with
  | plain h => exact .plain h.toNumeral
  | minus h _ => exact .minus h.toNumeral

end KeyTree
