import Mathlib.Data.List.Forall2

/-!
# `KeyTree.Proofs.Intercalate`: lists joined by a list between them

Keys, rendered templates, dotted paths and identifiers are all texts joined by
a text. What is said here of joined lists holds of each of them.

* `mem_intercalate`: what stands in joined lists stands in one of the lists, or
  is put between them.
* `flatMap_intercalate`: joined lists are mapped list by list.
* `intercalate_inj`: joined lists tell the lists, if something that is put
  between them stands in none of those that differ.
-/

set_option autoImplicit false

namespace KeyTree

/-- What stands in joined lists is put between them, or stands in one of
them. -/
theorem mem_intercalate {α : Type} {a : α} {between : List α} {lists : List (List α)}
    (h : a ∈ between.intercalate lists) : a ∈ between ∨ ∃ list ∈ lists, a ∈ list := by
  induction lists with
  | nil => cases h
  | cons list rest ih =>
      cases rest with
      | nil =>
          rw [List.intercalate_singleton] at h
          exact .inr ⟨list, List.mem_cons_self, h⟩
      | cons next others =>
          rw [List.intercalate_cons_cons, List.mem_append, List.mem_append] at h
          rcases h with (h | h) | h
          · exact .inr ⟨list, List.mem_cons_self, h⟩
          · exact .inl h
          · refine (ih h).imp_right fun ⟨other, hother, ha⟩ => ?_
            exact ⟨other, List.mem_cons_of_mem list hother, ha⟩

/-- A character of joined texts is a character of the separator or of one of
the texts. -/
theorem mem_toList_intercalate {c : Char} {separator : String} {texts : List String}
    (h : c ∈ (separator.intercalate texts).toList) :
    c ∈ separator.toList ∨ ∃ text ∈ texts, c ∈ text.toList := by
  rw [String.toList_intercalate] at h
  simpa using mem_intercalate h

/-- What is put between lists may be mapped with them. -/
theorem flatMap_intercalate {α β : Type} (f : α → List β) (between : List α)
    (lists : List (List α)) :
    (between.intercalate lists).flatMap f
      = (between.flatMap f).intercalate (lists.map fun list => list.flatMap f) := by
  induction lists with
  | nil => rfl
  | cons list rest ih =>
      cases rest with
      | nil => simp
      | cons next others =>
          rw [List.intercalate_cons_cons, List.flatMap_append, List.flatMap_append, ih]
          simp only [List.map_cons, List.intercalate_cons_cons]

/-- What stands in front of the first of some character is determined. -/
theorem append_cons_inj_of_not_mem {α : Type} {a : α} {front front' back back' : List α}
    (h : a ∉ front) (h' : a ∉ front') (heq : front ++ a :: back = front' ++ a :: back') :
    front = front' ∧ back = back' := by
  induction front generalizing front' with
  | nil =>
      cases front' with
      | nil => exact ⟨rfl, List.tail_eq_of_cons_eq heq⟩
      | cons b rest =>
          have hhead : a = b := List.head_eq_of_cons_eq heq
          exact absurd (hhead ▸ List.mem_cons_self) h'
  | cons b rest ih =>
      cases front' with
      | nil =>
          have hhead : b = a := List.head_eq_of_cons_eq heq
          exact absurd (hhead ▸ List.mem_cons_self) h
      | cons b' rest' =>
          rw [List.mem_cons, not_or] at h h'
          have hrest := ih h.2 h'.2 (List.tail_eq_of_cons_eq heq)
          exact ⟨by rw [List.head_eq_of_cons_eq heq, hrest.1], hrest.2⟩

/-- Joined texts tell the texts, if there is something between them that
stands in no text but those that are the same anyway. The first text ends in
front of the first such thing, so the rest can be compared by itself. -/
theorem intercalate_inj {α : Type} {c : α} {between : List α} (hc : c ∈ between)
    {texts others : List (List α)}
    (h : List.Forall₂ (fun text other => text = other ∨ (c ∉ text ∧ c ∉ other)) texts others)
    (heq : between.intercalate texts = between.intercalate others) : texts = others := by
  induction h with
  | nil => rfl
  | @cons text other texts others hfirst hrest ih =>
      cases hrest with
      | nil => simpa using heq
      | @cons next next' texts others hnext hothers =>
          rw [List.intercalate_cons_cons, List.intercalate_cons_cons] at heq
          -- Both joined texts go on with what is between, whatever comes first.
          have hsame : text = other
              ∧ between.intercalate (next :: texts) = between.intercalate (next' :: others) := by
            rcases hfirst with rfl | ⟨htext, hother⟩
            · exact ⟨rfl, List.append_cancel_left heq⟩
            · obtain ⟨front, back, hsplit, hfront⟩ := List.eq_append_cons_of_mem hc
              rw [hsplit] at heq ⊢
              have hcut : (text ++ front) ++ c :: (back ++ (front ++ c :: back).intercalate
                    (next :: texts))
                  = (other ++ front) ++ c :: (back ++ (front ++ c :: back).intercalate
                    (next' :: others)) := by
                simpa using heq
              obtain ⟨hheads, htails⟩ := append_cons_inj_of_not_mem (by simp [htext, hfront])
                (by simp [hother, hfront]) hcut
              exact ⟨List.append_cancel_right hheads, List.append_cancel_left htails⟩
          rw [hsame.1, ih hsame.2]

end KeyTree
