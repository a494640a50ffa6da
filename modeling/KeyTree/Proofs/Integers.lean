import KeyTree.Command.Run
import KeyTree.Integers
import KeyTree.Proofs.Compiled.Distinct
import KeyTree.Proofs.Json.Integers

/-!
# `KeyTree.Proofs.Integers`: whole numbers stay exact on every way in

A whole number becomes a value in three ways: from a number of an integer type,
from a JSON text, and from an argument on the command line (`Value.Enters`).
Each way decides for itself between the signed and the unsigned range, and all
come to the same: the one value that holds the number exactly (`Value.Exact`).
Only minus zero, as JSON text, is another value (`Value.Enters.exact_or_zero`),
and its segment is that of zero.

* `IntegerType.exists_toInt_iff`: a type has the numbers between its bounds.
* `Value.exact_ofInteger`: numbers of any type are held exactly.
* `Value.integers_exact`: over the signed and the unsigned 64-bit range
  together, segments are canonical, and they are read back exactly.
-/

set_option autoImplicit false

namespace KeyTree

/-! ### Integer types -/

/-- A type has the numbers between two bounds if none lies outside and each is
made from its whole number. -/
theorem exists_iff_of_bounds {α : Type} {toInt : α → Int} {low high : Int} (make : Int → α)
    (hbounds : ∀ x, low ≤ toInt x ∧ toInt x < high)
    (hmake : ∀ n, low ≤ n → n < high → toInt (make n) = n) (n : Int) :
    (∃ x, toInt x = n) ↔ low ≤ n ∧ n < high := by
  constructor
  · intro ⟨x, hx⟩
    rw [← hx]
    exact hbounds x
  · intro ⟨hlow, hhigh⟩
    exact ⟨make n, hmake n hlow hhigh⟩

/-- So it is with a bound for numbers without a sign. -/
theorem exists_natCast_iff_of_bound {α : Type} {toNat : α → Nat} {bound : Nat} (make : Nat → α)
    (hbound : ∀ x, toNat x < bound) (hmake : ∀ {n : Nat}, n < bound → toNat (make n) = n)
    (n : Int) : (∃ x, (toNat x : Int) = n) ↔ 0 ≤ n ∧ n < bound := by
  refine exists_iff_of_bounds (fun n => make n.toNat) (fun x => ?_) (fun n hlow hhigh => ?_) n
  · have hlt := hbound x
    omega
  · show (toNat (make n.toNat) : Int) = n
    rw [hmake (by omega), Int.toNat_of_nonneg hlow]

/-- An integer type has the whole numbers between its bounds, and no others. -/
theorem IntegerType.exists_toInt_iff (type : IntegerType) (n : Int) :
    (∃ x : type.Carrier, type.toInt x = n) ↔ type.Holds n := by
  cases type with
  | i8 =>
      exact exists_iff_of_bounds Int8.ofInt (fun x => ⟨x.le_toInt, x.toInt_lt⟩)
        (fun n => Int8.toInt_ofInt_of_le) n
  | i16 =>
      exact exists_iff_of_bounds Int16.ofInt (fun x => ⟨x.le_toInt, x.toInt_lt⟩)
        (fun n => Int16.toInt_ofInt_of_le) n
  | i32 =>
      exact exists_iff_of_bounds Int32.ofInt (fun x => ⟨x.le_toInt, x.toInt_lt⟩)
        (fun n => Int32.toInt_ofInt_of_le) n
  | i64 | isize =>
      exact exists_iff_of_bounds Int64.ofInt (fun x => ⟨x.le_toInt, x.toInt_lt⟩)
        (fun n => Int64.toInt_ofInt_of_le) n
  | u8 => exact exists_natCast_iff_of_bound UInt8.ofNat UInt8.toNat_lt UInt8.toNat_ofNat_of_lt' n
  | u16 =>
      exact exists_natCast_iff_of_bound UInt16.ofNat UInt16.toNat_lt UInt16.toNat_ofNat_of_lt' n
  | u32 =>
      exact exists_natCast_iff_of_bound UInt32.ofNat UInt32.toNat_lt UInt32.toNat_ofNat_of_lt' n
  | u64 | usize =>
      exact exists_natCast_iff_of_bound UInt64.ofNat UInt64.toNat_lt UInt64.toNat_ofNat_of_lt' n

namespace Value

/-! ### Exact values -/

/-- The value holds a whole number as it is: in the signed range wherever it
fits, else in the unsigned one. -/
inductive Exact : Value → Int → Prop
  | signed (x : Int64) : Exact (.signed x) x.toInt
  | unsigned (x : UInt64) (h : 0x8000000000000000 ≤ x.toNat) : Exact (.unsigned x) x.toNat

/-- A whole number has one exact value if it is of either range. -/
theorem ofInt?_eq_some_iff {n : Int} {value : Value} :
    ofInt? n = some value ↔ value.Exact n := by
  constructor
  · intro h
    unfold ofInt? at h
    split at h
    · rename_i hrange
      cases h
      have hexact := Exact.signed (Int64.ofInt n)
      rwa [Int64.toInt_ofInt_of_le (by omega) (by omega)] at hexact
    · split at h
      · rename_i hsigned hrange
        cases h
        have hnat : (UInt64.ofNat n.toNat).toNat = n.toNat :=
          UInt64.toNat_ofNat_of_lt' (by rw [UInt64.size]; omega)
        have hexact := Exact.unsigned (UInt64.ofNat n.toNat) (by omega)
        rwa [hnat, Int.toNat_of_nonneg hrange.1] at hexact
      · cases h
  · intro h
    cases h with
    | signed x =>
        have hlow := Int64.le_toInt x
        have hhigh := Int64.toInt_lt x
        rw [ofInt?, if_pos (by omega), Int64.ofInt_toInt]
    | unsigned x h =>
        have hhigh := UInt64.toNat_lt x
        rw [ofInt?, if_neg (by omega), if_pos (by omega), Int.toNat_natCast, UInt64.ofNat_toNat]

theorem Exact.integer? {value : Value} {n : Int} (h : value.Exact n) :
    value.integer? = some n := by
  cases h with
  | signed x => rfl
  | unsigned x _ => rfl

/-! ### Numbers of a type -/

/-- Widening keeps the number. -/
theorem exact_widened {α : Type} {widen : α → Int64} {x : α} {n : Int} (h : (widen x).toInt = n) :
    (widened widen x).Exact n := by
  rw [← h]
  exact .signed (widen x)

/-- An unsigned number that fits the signed range is the same number there. -/
theorem toInt_toInt64_of_fits {x : UInt64} (h : x.toNat < 0x8000000000000000) :
    x.toInt64.toInt = x.toNat := by
  show x.toBitVec.toInt = x.toBitVec.toNat
  exact BitVec.toInt_eq_toNat_of_lt (by show 2 * x.toNat < 2 ^ 64; omega)

/-- Unsigned numbers of 64 bits are held exactly. -/
theorem exact_ofUInt64 (x : UInt64) : (ofUInt64 x).Exact x.toNat := by
  unfold ofUInt64
  split
  · rename_i h
    have hlt : x.toNat < 0x8000000000000000 := UInt64.lt_iff_toNat_lt.mp h
    rw [← toInt_toInt64_of_fits hlt]
    exact .signed x.toInt64
  · rename_i h
    have hle : ¬ x.toNat < 0x8000000000000000 := fun hlt => h (UInt64.lt_iff_toNat_lt.mpr hlt)
    exact .unsigned x (by omega)

/-- So are those of fewer bits, widened to as many. -/
theorem exact_widened_unsigned {α : Type} {widen : α → UInt64} {x : α} {n : Nat}
    (hwiden : (widen x).toNat = n) (hlt : n < 0x8000000000000000) :
    (widened (fun x => (widen x).toInt64) x).Exact n := by
  apply exact_widened
  rw [toInt_toInt64_of_fits (by omega), hwiden]

/-- Numbers of every integer type are held exactly. -/
theorem exact_ofInteger (type : IntegerType) (x : type.Carrier) :
    (ofInteger type x).Exact (type.toInt x) := by
  cases type with
  | i8 => exact exact_widened (Int8.toInt_toInt64 x)
  | i16 => exact exact_widened (Int16.toInt_toInt64 x)
  | i32 => exact exact_widened (Int32.toInt_toInt64 x)
  | i64 => exact exact_widened rfl
  | isize => exact .signed x
  | u8 =>
      have hlt := UInt8.toNat_lt x
      exact exact_widened_unsigned (UInt8.toNat_toUInt64 x) (by omega)
  | u16 =>
      have hlt := UInt16.toNat_lt x
      exact exact_widened_unsigned (UInt16.toNat_toUInt64 x) (by omega)
  | u32 =>
      have hlt := UInt32.toNat_lt x
      exact exact_widened_unsigned (UInt32.toNat_toUInt64 x) (by omega)
  | u64 | usize => exact exact_ofUInt64 x

/-! ### Ways in -/

/-- The value is one that a whole number becomes: made from a number of an
integer type, read from a JSON text, or read as an argument for a number. -/
inductive Enters : Value → Int → Prop
  | typed (type : IntegerType) (x : type.Carrier) : Enters (ofInteger type x) (type.toInt x)
  | json {text : String} {n : Int} {value : Value} (h : Json.IntegerText text.toList n)
      (hread : reader.read text = .ok value) : Enters value n
  | argument {text : String} {n : Int} {value : Value} (h : Writes text.toList n)
      (hread : Command.readValue .number text = .ok value) : Enters value n

/-- An argument that writes a whole number is read as its exact value. -/
theorem readValue_of_writes {text : String} {n : Int} (h : Writes text.toList n) {value : Value}
    (hvalue : value.Exact n) : Command.readValue .number text = .ok value := by
  have hread := readInteger?_eq_some_iff.mpr h
  have hexact := ofInt?_eq_some_iff.mpr hvalue
  simp [Command.readValue, hread, hexact]

/-- Every way in comes to the exact value, but for minus zero. -/
theorem Enters.exact_or_zero {value exact : Value} {n : Int} (h : value.Enters n)
    (hexact : exact.Exact n) : value = exact ∨ n = 0 ∧ value = .number (.zero true) := by
  have hof := ofInt?_eq_some_iff.mpr hexact
  cases h with
  | typed type x =>
      have hother := ofInt?_eq_some_iff.mpr (exact_ofInteger type x)
      exact .inl (Option.some.inj (hother.symm.trans hof))
  | json h hread =>
      rcases Value.read_integerText h hof with hok | ⟨hzero, hok⟩
      · exact .inl (Except.ok.inj (hread.symm.trans hok))
      · exact .inr ⟨hzero, Except.ok.inj (hread.symm.trans hok)⟩
  | argument h hread =>
      exact .inl (Except.ok.inj (hread.symm.trans (readValue_of_writes h hexact)))

/-- The segment of a whole number is its text, whichever way it came in. -/
theorem Enters.segment_eq {value exact : Value} {n : Int} (h : value.Enters n)
    (hexact : exact.Exact n) : value.segment = integerText n := by
  rcases h.exact_or_zero hexact with rfl | ⟨rfl, rfl⟩
  · exact segment_of_integer hexact.integer?
  · decide

/-- Between the least signed and the greatest unsigned number, every whole
number has an exact value. -/
theorem exists_exact {n : Int} (hlow : -0x8000000000000000 ≤ n) (hhigh : n ≤ 0xffffffffffffffff) :
    ∃ exact : Value, exact.Exact n := by
  by_cases hsigned : n < 0x8000000000000000
  · exact ⟨_, ofInt?_eq_some_iff.mp (if_pos ⟨hlow, hsigned⟩)⟩
  · refine ⟨_, ofInt?_eq_some_iff.mp ((if_neg ?_).trans (if_pos ?_))⟩
    · omega
    · omega

/-- Whole numbers from the least signed to the greatest unsigned one of 64 bits
stay exact, whichever way they come in. Every integer type whose bounds allow it
has the number, every JSON text that is the number is read, and so is every
argument that writes it, with a plus or zeros in front, too. The value has the
canonical text of the number as its segment, and read as an argument, the
segment gives the exact value: signed if it fits, else unsigned. Two numbers have
the same segment only if they are the same, and then always. -/
theorem integers_exact {n : Int} (hlow : -0x8000000000000000 ≤ n)
    (hhigh : n ≤ 0xffffffffffffffff) :
    (∀ type : IntegerType, (∃ x : type.Carrier, type.toInt x = n) ↔ type.Holds n)
      ∧ (∀ text : String, Json.IntegerText text.toList n →
          ∃ value, reader.read text = .ok value)
      ∧ (∀ text : String, Writes text.toList n →
          ∃ value, Command.readValue .number text = .ok value)
      ∧ ∀ value : Value, value.Enters n →
          CanonicalInteger value.segment.toList n
            ∧ (∃ exact : Value, exact.Exact n
                ∧ Command.readValue .number value.segment = .ok exact)
            ∧ ∀ (m : Int) (other : Value), -0x8000000000000000 ≤ m → m ≤ 0xffffffffffffffff →
                other.Enters m → (other.segment = value.segment ↔ m = n) := by
  obtain ⟨exact, hexact⟩ := exists_exact hlow hhigh
  refine ⟨fun type => type.exists_toInt_iff n, fun text htext => ?_, fun text htext => ?_,
    fun value hvalue => ?_⟩
  · rcases read_integerText htext (ofInt?_eq_some_iff.mpr hexact) with hread | ⟨-, hread⟩
    · exact ⟨_, hread⟩
    · exact ⟨_, hread⟩
  · exact ⟨_, readValue_of_writes htext hexact⟩
  · have hcanonical : CanonicalInteger value.segment.toList n := by
      rw [canonicalInteger_iff, hvalue.segment_eq hexact]
    refine ⟨hcanonical, ⟨exact, hexact, readValue_of_writes hcanonical.writes hexact⟩, ?_⟩
    intro m other hmlow hmhigh hother
    obtain ⟨exactOther, hexactOther⟩ := exists_exact hmlow hmhigh
    rw [hvalue.segment_eq hexact, hother.segment_eq hexactOther, integerText_inj]

/-- The greatest number has the same segment as a pointer-sized number, between
the blanks of a JSON text, and as an argument with a plus and a zero in front. The
least number has another one. -/
theorem integers_exact_greatest :
    let greatest := ofInteger .usize (18446744073709551615 : UInt64)
    (∃ value, reader.read "\n18446744073709551615 " = .ok value
        ∧ value.segment = greatest.segment)
      ∧ (∃ value, Command.readValue .number "+018446744073709551615" = .ok value
        ∧ value.segment = greatest.segment)
      ∧ (ofInteger .isize (-9223372036854775808 : Int64)).segment ≠ greatest.segment := by
  intro greatest
  have hjson : Json.IntegerText "\n18446744073709551615 ".toList 18446744073709551615 :=
    ⟨['\n'], _, [' '], .plain (trimmedNumeral_decimalDigits 18446744073709551615),
      List.forall_mem_singleton.mpr rfl, List.forall_mem_singleton.mpr rfl, by decide⟩
  have hargument : Writes "+018446744073709551615".toList 18446744073709551615 :=
    readInteger?_eq_some_iff.mp (by decide)
  obtain ⟨-, hread, hvalue, hsegment⟩ :=
    integers_exact (by decide : (-0x8000000000000000 : Int) ≤ 18446744073709551615) (by decide)
  obtain ⟨-, -, hsame⟩ := hsegment greatest (.typed .usize (18446744073709551615 : UInt64))
  obtain ⟨value, hok⟩ := hread _ hjson
  obtain ⟨other, hotherOk⟩ := hvalue _ hargument
  refine ⟨⟨value, hok, ?_⟩, ⟨other, hotherOk, ?_⟩, ?_⟩
  · exact (hsame _ value (by decide) (by decide) (.json hjson hok)).mpr rfl
  · exact (hsame _ other (by decide) (by decide) (.argument hargument hotherOk)).mpr rfl
  · intro heq
    have hleast : Enters _ (-9223372036854775808) := .typed .isize (-9223372036854775808 : Int64)
    exact absurd ((hsame _ _ (by decide) (by decide) hleast).mp heq) (by decide)

end Value

end KeyTree
