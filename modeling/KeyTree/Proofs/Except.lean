import Mathlib.Data.List.Forall2

/-!
# `KeyTree.Proofs.Except`: runs that may fail

What the result, or the error, of a run in several parts tells of its parts.
-/

set_option autoImplicit false

namespace KeyTree

/-! ### Two parts -/

/-- A run in two parts succeeds if both parts do. -/
theorem bind_eq_ok_iff {ε α β : Type} {x : Except ε α} {f : α → Except ε β} {b : β} :
    (x >>= f) = .ok b ↔ ∃ a, x = .ok a ∧ f a = .ok b := by
  cases x with
  | error e => simp [bind, Except.bind]
  | ok a => simp [bind, Except.bind]

/-- A run in two parts fails if the first part does, or the second. -/
theorem bind_eq_error_iff {ε α β : Type} {x : Except ε α} {f : α → Except ε β} {e : ε} :
    (x >>= f) = .error e ↔ x = .error e ∨ ∃ a, x = .ok a ∧ f a = .error e := by
  cases x with
  | error e' => simp [bind, Except.bind]
  | ok a => simp [bind, Except.bind]

/-- A changed result is the change of a result. -/
theorem map_eq_ok_iff {ε α β : Type} {f : α → β} {x : Except ε α} {b : β} :
    x.map f = .ok b ↔ ∃ a, x = .ok a ∧ f a = b := by
  cases x with
  | error e => simp [Except.map]
  | ok a => simp [Except.map]

/-- Errors that are named otherwise leave results as they are. -/
theorem mapError_eq_ok_iff {ε ε' α : Type} {f : ε → ε'} {x : Except ε α} {a : α} :
    x.mapError f = .ok a ↔ x = .ok a := by
  cases x with
  | error e =>
      show Except.error (f e) = .ok a ↔ Except.error e = .ok a
      simp only [reduceCtorEq]
  | ok held =>
      show Except.ok held = .ok a ↔ Except.ok held = .ok a
      simp only [Except.ok.injEq]

/-- Errors may be named otherwise twice. -/
theorem mapError_mapError {ε ε' ε'' α : Type} (f : ε → ε') (g : ε' → ε'') (x : Except ε α) :
    (x.mapError f).mapError g = x.mapError fun e => g (f e) := by
  cases x <;> rfl

/-! ### Traversals -/

/-- A traversal succeeds if it does so at each element. -/
theorem mapM_eq_ok_iff {ε α β : Type} {f : α → Except ε β} {list : List α} {results : List β} :
    list.mapM f = .ok results ↔ List.Forall₂ (fun a b => f a = .ok b) list results := by
  induction list generalizing results with
  | nil =>
      rw [List.mapM_nil, List.forall₂_nil_left_iff]
      show Except.ok [] = Except.ok results ↔ results = []
      rw [Except.ok.injEq, eq_comm]
  | cons a rest ih =>
      rw [List.mapM_cons, bind_eq_ok_iff, List.forall₂_cons_left_iff]
      constructor
      · rintro ⟨first, hfirst, hrest⟩
        obtain ⟨others, hothers, hresults⟩ := bind_eq_ok_iff.mp hrest
        exact ⟨first, others, hfirst, ih.mp hothers, (Except.ok.inj hresults).symm⟩
      · rintro ⟨first, others, hfirst, hothers, rfl⟩
        exact ⟨first, hfirst, bind_eq_ok_iff.mpr ⟨others, ih.mpr hothers, rfl⟩⟩

/-- What is related to a list element by element is related to each of its
elements. -/
theorem exists_mem_of_forall₂ {α β : Type} {R : α → β → Prop} {list : List α} {others : List β}
    (h : List.Forall₂ R list others) {a : α} (hmem : a ∈ list) : ∃ b ∈ others, R a b := by
  induction h with
  | nil => cases hmem
  | @cons head other list others hhead hrest ih =>
      rcases List.mem_cons.mp hmem with rfl | hmem
      · exact ⟨other, List.mem_cons_self, hhead⟩
      · obtain ⟨b, hb, hrel⟩ := ih hmem
        exact ⟨b, List.mem_cons_of_mem _ hb, hrel⟩

/-- What relates two lists in two ways relates them in both at once. -/
theorem forall₂_and {α β : Type} {R S : α → β → Prop} {list : List α} {others : List β}
    (h : List.Forall₂ R list others) (h' : List.Forall₂ S list others) :
    List.Forall₂ (fun a b => R a b ∧ S a b) list others := by
  induction h with
  | nil => exact .nil
  | cons hfirst _ ih =>
      obtain ⟨hother, hothers⟩ := List.forall₂_cons.mp h'
      exact .cons ⟨hfirst, hother⟩ (ih hothers)

/-- A traversal fails where one of the elements does. -/
theorem exists_eq_error_of_mapM {ε α β : Type} {f : α → Except ε β} {list : List α} {e : ε}
    (h : list.mapM f = .error e) : ∃ a ∈ list, f a = .error e := by
  induction list with
  | nil => cases h
  | cons a rest ih =>
      rw [List.mapM_cons, bind_eq_error_iff] at h
      rcases h with h | ⟨first, -, h⟩
      · exact ⟨a, List.mem_cons_self, h⟩
      · rcases bind_eq_error_iff.mp h with h | ⟨others, -, h⟩
        · obtain ⟨other, hmem, hother⟩ := ih h
          exact ⟨other, List.mem_cons_of_mem a hmem, hother⟩
        · cases h

/-- A fold keeps what each of its steps keeps. -/
theorem foldlM_preserves {ε α σ : Type} {P : σ → Prop} {f : σ → α → Except ε σ} {list : List α}
    (h : ∀ a ∈ list, ∀ state next, P state → f state a = .ok next → P next) {start result : σ}
    (hstart : P start) (hfold : list.foldlM f start = .ok result) : P result := by
  induction list generalizing start with
  | nil =>
      cases hfold
      exact hstart
  | cons a rest ih =>
      obtain ⟨hfirst, hrest⟩ := List.forall_mem_cons.mp h
      rw [List.foldlM_cons] at hfold
      obtain ⟨next, hnext, hfold⟩ := bind_eq_ok_iff.mp hfold
      exact ih hrest (hfirst start next hstart hnext) hfold

end KeyTree
