import Mathlib.Data.String.Basic

/-!
# `KeyTree.Proofs.Text.Split`: texts split at a character

Splitting a text at a text of one character is splitting its characters there
(`splitOn_singleton`). `splitOnAux_singleton` is the loop: what is in front of
the place is settled, and a part has begun. Texts that do not have a character
are found again when they have been joined by it
(`splitOn_intercalate_singleton`).
-/

set_option autoImplicit false

namespace KeyTree

open String in
/-- The loop that splits a text, from behind `front` and in the middle of a
part that begins with `part`. -/
theorem splitOnAux_singleton (c : Char) (front part rest : List Char) (parts : List String) :
    String.splitOnAux (ofList (front ++ part ++ rest)) (ofList [c]) ⟨utf8Len front⟩
        ⟨utf8Len (front ++ part)⟩ 0 parts
      = parts.reverse ++ (List.splitOnPPrepend (· == c) rest part.reverse).map ofList := by
  induction rest generalizing front part parts with
  | nil =>
      have hend := (atEnd_of_valid (front ++ part) []).mpr rfl
      have hextract := extract_of_valid front part []
      unfold splitOnAux
      rw [if_pos hend, utf8Len_append, hextract]
      simp
  | cons d rest ih =>
      have hend : ¬ Pos.Raw.atEnd (ofList (front ++ part ++ d :: rest))
          ⟨utf8Len (front ++ part)⟩ = true := by
        rw [atEnd_of_valid]
        exact List.cons_ne_nil d rest
      have hget := get_of_valid (front ++ part) (d :: rest)
      have hget' : Pos.Raw.get (ofList [c]) 0 = c := get_of_valid [] [c]
      unfold splitOnAux
      rw [if_neg hend, hget, hget']
      by_cases hd : d = c
      · subst hd
        have hnext := next_of_valid (front ++ part) d rest
        have hnext' : Pos.Raw.next (ofList [d]) 0 = ⟨d.utf8Size⟩ := by
          simpa using next_of_valid [] d []
        have hend' : Pos.Raw.atEnd (ofList [d]) ⟨d.utf8Size⟩ = true := by
          simpa using (atEnd_of_valid [d] []).mpr rfl
        have hextract := extract_of_valid front part (d :: rest)
        have hstep := ih (front ++ part ++ [d]) [] (ofList part :: parts)
        have hback : (⟨utf8Len (front ++ part) + d.utf8Size⟩ : Pos.Raw).unoffsetBy ⟨d.utf8Size⟩
            = ⟨utf8Len front + utf8Len part⟩ := by
          simp [Pos.Raw.unoffsetBy]
        simp only [List.headD_cons, beq_self_eq_true, if_true, hnext, hnext', hend', hback,
          hextract]
        simpa [List.splitOnPPrepend_cons_pos, Nat.add_assoc] using hstep
      · have hnext := next_of_valid (front ++ part) d rest
        have hstep := ih front (part ++ [d]) parts
        have hback : (⟨utf8Len (front ++ part)⟩ : Pos.Raw).unoffsetBy 0
            = ⟨utf8Len (front ++ part)⟩ := by
          simp [Pos.Raw.unoffsetBy]
        have hd' : (d == c) = false := by simpa using hd
        simp only [List.headD_cons, hd', Bool.false_eq_true, if_false, hback, hnext]
        simpa [List.splitOnPPrepend_cons_neg, hd, Nat.add_assoc] using hstep

/-- Splitting a text at a character splits its characters. -/
theorem splitOn_singleton (text : String) (c : Char) :
    text.splitOn (String.singleton c) = (text.toList.splitOn c).map String.ofList := by
  have hloop := splitOnAux_singleton c [] [] text.toList []
  have hne : (String.singleton c == "") = false := by simp
  rw [String.splitOn, hne, List.splitOn, List.splitOnP]
  simpa using hloop

/-- Joined texts can be split again at a character that none of them has. -/
theorem splitOn_intercalate_singleton {c : Char} {texts : List String} (hne : texts ≠ [])
    (hfree : ∀ text ∈ texts, c ∉ text.toList) :
    (((String.singleton c).intercalate texts).toList.splitOn c).map String.ofList = texts := by
  have hlists : ∀ list ∈ texts.map String.toList, c ∉ list := by
    simpa using hfree
  rw [String.toList_intercalate, String.toList_singleton,
    List.splitOn_intercalate c hlists (by simpa using hne)]
  simp

end KeyTree
