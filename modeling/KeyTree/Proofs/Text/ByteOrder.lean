import KeyTree.NameMap
import Mathlib.Tactic.ByContra
import Mathlib.Tactic.SplitIfs

/-!
# `KeyTree.Proofs.Text.ByteOrder`: names in the order of their bytes

Names are compared by code point. What is compared outside is often the bytes
of their UTF-8 form. `lt_iff_utf8_lt` says that this is the same order, and
`path_lt_iff_utf8_lt` says so of paths, name by name.

The reason is one fact about single characters: if a character is less than
another, its bytes are less than those of the other at a byte that both have.
So whatever follows does not count (`utf8EncodeChar_append_lt`).
-/

set_option autoImplicit false

namespace KeyTree

/-- The bytes of a text in UTF-8. -/
def utf8 (text : String) : List UInt8 := text.toUTF8.data.toList

theorem utf8_eq_flatMap (text : String) :
    utf8 text = text.toList.flatMap String.utf8EncodeChar := by
  rw [utf8, String.toUTF8_eq_toByteArray, ← String.utf8Encode_toList, List.utf8Encode,
    List.toList_data_toByteArray]

/-! ### Characters -/

/-- The bytes of a lesser character are less, whatever follows them. -/
theorem utf8EncodeChar_append_lt {c d : Char} (h : c < d) (front back : List UInt8) :
    String.utf8EncodeChar c ++ front < String.utf8EncodeChar d ++ back := by
  have hlt : c.val.toNat < d.val.toNat := h
  have hlimit : d.val.toNat < 0x110000 := by
    have hvalid := d.valid
    simp only [UInt32.isValidChar, Nat.isValidChar] at hvalid
    omega
  -- The first bytes tell how many bytes there are; of characters of one length
  -- the code points are compared six bits at a time.
  have htwelve : ∀ n : Nat, n / 4096 = n / 64 / 64 := fun n => by omega
  have heighteen : ∀ n : Nat, n / 262144 = n / 64 / 64 / 64 := fun n => by omega
  simp only [String.utf8EncodeChar, htwelve, heighteen]
  split_ifs
  all_goals
    simp only [List.cons_append, List.nil_append, List.cons_lt_cons_iff, UInt8.lt_iff_toNat_lt,
      ← UInt8.toNat_inj, UInt8.toNat_ofNat']
    omega

/-! ### Texts and paths -/

/-- A lesser list stays less when its elements are replaced by lists that are
less whatever follows them. -/
theorem flatMap_lt_flatMap {α β : Type} [LT α] [LT β] {f : α → List β} (hne : ∀ a, f a ≠ [])
    (hlt : ∀ a b, a < b → ∀ front back, f a ++ front < f b ++ back) {list other : List α}
    (h : list < other) : list.flatMap f < other.flatMap f := by
  induction h with
  | @nil b others =>
      obtain ⟨first, more, hb⟩ := List.exists_cons_of_ne_nil (hne b)
      rw [List.flatMap_nil, List.flatMap_cons, hb, List.cons_append]
      exact List.nil_lt_cons first _
  | @cons a list others _ ih =>
      rw [List.flatMap_cons, List.flatMap_cons]
      exact List.append_left_lt ih
  | @rel a list b others hab =>
      rw [List.flatMap_cons, List.flatMap_cons]
      exact hlt a b hab _ _

/-- The bytes of a lesser text are less. -/
theorem utf8_lt_utf8 {text other : String} (h : text < other) : utf8 text < utf8 other := by
  rw [utf8_eq_flatMap, utf8_eq_flatMap]
  exact flatMap_lt_flatMap (fun _ => String.utf8EncodeChar_ne_nil)
    (fun _ _ hlt => utf8EncodeChar_append_lt hlt) (String.lt_iff.mp h)

/-- Different texts have different bytes. -/
theorem utf8_inj {text other : String} (h : utf8 text = utf8 other) : text = other := by
  by_contra hne
  by_cases hlt : text < other
  · exact List.lt_irrefl _ (h ▸ utf8_lt_utf8 hlt)
  · exact List.lt_irrefl _ (h ▸ utf8_lt_utf8 (lt_of_not_lt_of_ne hlt hne))

/-- Texts are in the order of their bytes. -/
theorem lt_iff_utf8_lt (text other : String) : text < other ↔ utf8 text < utf8 other := by
  refine ⟨utf8_lt_utf8, fun h => ?_⟩
  by_contra hnot
  by_cases heq : text = other
  · exact List.lt_irrefl _ (heq ▸ h)
  · exact List.lt_asymm h (utf8_lt_utf8 (lt_of_not_lt_of_ne hnot heq))

/-- Paths are in the order of the bytes of their names, name by name. -/
theorem path_lt_iff_utf8_lt (path other : List String) :
    path < other ↔ path.map utf8 < other.map utf8 := by
  induction path generalizing other with
  | nil => cases other <;> simp
  | cons name rest ih =>
      cases other with
      | nil => simp
      | cons next others =>
          have heq : name = next ↔ utf8 name = utf8 next := ⟨congrArg utf8, utf8_inj⟩
          rw [List.map_cons, List.map_cons, List.cons_lt_cons_iff, List.cons_lt_cons_iff, ← heq,
            ← lt_iff_utf8_lt, ih]

end KeyTree
