import KeyTree.Decimal.Read
import KeyTree.Decimal.Written

/-!
# `KeyTree.Proofs.Decimal.Integer`: whole numbers as text

A whole number is written with its decimal digits and, if it is negative, a
minus in front. So its text tells the number (`integerText_inj`), and holds
nothing but digits and a minus (`mem_toList_integerText`).

Digits of any base up to sixteen are read back as the number that they write
(`readDigits?_toDigits`).
-/

set_option autoImplicit false

namespace KeyTree

/-- Decimal digits tell the number. -/
theorem decimalDigits_inj {m n : Nat} : decimalDigits m = decimalDigits n ↔ m = n := by
  constructor
  · intro h
    have hread := congrArg (fun digits => Nat.ofDigitChars 10 digits 0) h
    simpa only [decimalDigits, Nat.ofDigitChars_ten_toDigits] using hread
  · intro h
    rw [h]

theorem isDigit_of_mem_decimalDigits {n : Nat} {c : Char} (h : c ∈ decimalDigits n) :
    c.isDigit = true :=
  Nat.isDigit_of_mem_toDigits (by decide) (by decide) h

/-- A minus is no digit, so no digits are the text of a negative number. -/
theorem decimalDigits_ne_minus (m n : Nat) : decimalDigits m ≠ '-' :: decimalDigits n := by
  intro h
  have hminus : '-' ∈ decimalDigits m := h ▸ List.mem_cons_self
  exact absurd (isDigit_of_mem_decimalDigits hminus) (by decide)

/-- The text of a whole number tells the number. -/
theorem integerText_inj {m n : Int} : integerText m = integerText n ↔ m = n := by
  constructor
  · intro h
    have hlist : (integerText m).toList = (integerText n).toList := by rw [h]
    cases m with
    | ofNat m =>
        cases n with
        | ofNat n =>
            simp only [integerText, String.toList_ofList, decimalDigits_inj] at hlist
            rw [hlist]
        | negSucc n =>
            simp only [integerText, String.toList_ofList] at hlist
            exact absurd hlist (decimalDigits_ne_minus m (n + 1))
    | negSucc m =>
        cases n with
        | ofNat n =>
            simp only [integerText, String.toList_ofList] at hlist
            exact absurd hlist.symm (decimalDigits_ne_minus n (m + 1))
        | negSucc n =>
            simp only [integerText, String.toList_ofList, List.cons.injEq, true_and,
              decimalDigits_inj, Nat.add_right_cancel_iff] at hlist
            rw [hlist]
  · intro h
    rw [h]

/-- The text of a whole number is made of digits and a minus. -/
theorem mem_toList_integerText {n : Int} {c : Char} (h : c ∈ (integerText n).toList) :
    c.isDigit = true ∨ c = '-' := by
  cases n with
  | ofNat n =>
      rw [integerText, String.toList_ofList] at h
      exact .inl (isDigit_of_mem_decimalDigits h)
  | negSucc n =>
      rw [integerText, String.toList_ofList] at h
      rcases List.mem_cons.mp h with rfl | h
      · exact .inr rfl
      · exact .inl (isDigit_of_mem_decimalDigits h)

/-! ### Digits of other bases -/

theorem digitValue?_digitChar : ∀ d < 16, digitValue? (Nat.digitChar d) = some d := by
  decide

theorem readDigitsFrom?_append (base n : Nat) (front back : List Char) :
    readDigitsFrom? base n (front ++ back)
      = (readDigitsFrom? base n front).bind fun m => readDigitsFrom? base m back := by
  induction front generalizing n with
  | nil => rfl
  | cons c rest ih =>
      rw [List.cons_append, readDigitsFrom?, readDigitsFrom?]
      cases digitValue? c with
      | none => rfl
      | some d =>
          by_cases hd : d < base
          · simp only [Option.bind_eq_bind, Option.bind_some, if_pos hd, ih]
          · simp only [Option.bind_eq_bind, Option.bind_some, if_neg hd, Option.bind_none]

section

variable {base : Nat} (hbase : 1 < base)

include hbase

/-- Every digit of a number is one of the base. -/
theorem exists_digitChar_of_mem_toDigits {n : Nat} {c : Char} (h : c ∈ Nat.toDigits base n) :
    ∃ d < base, c = Nat.digitChar d := by
  induction n using Nat.strongRecOn with
  | ind n ih =>
    rw [Nat.toDigits_eq_if hbase] at h
    split at h
    · rename_i hlt
      exact ⟨n, hlt, List.mem_singleton.mp h⟩
    · rename_i hle
      have hpos : 0 < n := by omega
      rcases List.mem_append.mp h with h | h
      · exact ih (n / base) (Nat.div_lt_self hpos hbase) h
      · exact ⟨n % base, Nat.mod_lt n (by omega), List.mem_singleton.mp h⟩

/-- The digits of a number are read back as the number. -/
theorem readDigits?_toDigits (hsixteen : base ≤ 16) (n : Nat) :
    readDigits? base (Nat.toDigits base n) = some n := by
  have hone : ∀ d < base, ∀ m, readDigitsFrom? base m [Nat.digitChar d] = some (m * base + d) := by
    intro d hd m
    have hvalue := digitValue?_digitChar d (by omega)
    simp [readDigitsFrom?, hvalue, hd]
  have hfrom : readDigitsFrom? base 0 (Nat.toDigits base n) = some n := by
    induction n using Nat.strongRecOn with
    | ind n ih =>
      rw [Nat.toDigits_eq_if hbase]
      split
      · rename_i hlt
        rw [hone n hlt 0, Nat.zero_mul, Nat.zero_add]
      · rename_i hle
        have hpos : 0 < n := by omega
        rw [readDigitsFrom?_append, ih (n / base) (Nat.div_lt_self hpos hbase), Option.bind_some,
          hone _ (Nat.mod_lt n (by omega)), Nat.div_add_mod']
  have hne : (Nat.toDigits base n).isEmpty = false := by
    rw [Nat.toDigits_eq_if hbase]
    split <;> simp
  rw [readDigits?, hne]
  exact hfrom

end

end KeyTree
