import KeyTree.Text.Naming

/-!
# `KeyTree.Proofs.Text.Words`: which names have words

A name is split into words at everything that is no letter or numeral, so it
has words if it has a letter or a numeral at all (`HasLetter`), and only then
it makes an identifier. Words are written in lower case, which is why the rules
must not let a character vanish there (`Lowers`); those of Unicode do not.
-/

set_option autoImplicit false

namespace KeyTree.LetterRules

variable {rules : LetterRules}

/-- The name has a letter or a numeral. -/
def HasLetter (rules : LetterRules) (name : String) : Prop :=
  ∃ c ∈ name.toList, rules.alphanumeric c = true

/-- No character vanishes in lower case. -/
def Lowers (rules : LetterRules) : Prop := ∀ c, rules.toLower c ≠ []

/-- An open word is a word in the end, whatever follows. -/
theorem wordsFrom_ne_nil (rules : LetterRules) {current : List Char} (h : current ≠ [])
    (before : Option Char) (text : List Char) : rules.wordsFrom current before text ≠ [] := by
  induction text generalizing current before with
  | nil =>
      rw [wordsFrom, if_neg (by simpa using h)]
      exact List.cons_ne_nil _ _
  | cons c rest ih =>
      have hopen : current.isEmpty = false := by simpa using h
      rw [wordsFrom]
      split
      · simp [hopen]
      · -- The word is either cut off here, or it goes on.
        dsimp only
        split
        · exact List.cons_ne_nil _ _
        · exact ih (List.append_ne_nil_of_left_ne_nil h _) (some c)

/-- A text has no words exactly when it has no letters or numerals. -/
theorem wordsFrom_eq_nil_iff (h : rules.Lowers) (before : Option Char) (text : List Char) :
    rules.wordsFrom [] before text = [] ↔ ∀ c ∈ text, rules.alphanumeric c = false := by
  induction text generalizing before with
  | nil => simp [wordsFrom]
  | cons c rest ih =>
      rw [wordsFrom, List.forall_mem_cons]
      cases hc : rules.alphanumeric c with
      | false => simpa using ih (some c)
      | true =>
          have hword := wordsFrom_ne_nil rules (h c) (some c) rest
          simpa using hword

theorem words_eq_nil_iff (h : rules.Lowers) (name : String) :
    rules.words name = [] ↔ ¬ rules.HasLetter name := by
  rw [words, wordsFrom_eq_nil_iff h, HasLetter]
  simp

/-- A name makes the name of a method exactly when it has a letter or a
numeral. -/
theorem exists_snakeCase_iff (h : rules.Lowers) {name : String} :
    (∃ identifier, rules.snakeCase name = some identifier) ↔ rules.HasLetter name := by
  have hwords := words_eq_nil_iff h name
  rw [snakeCase]
  cases hname : rules.words name with
  | nil => simpa using hwords.mp hname
  | cons word others => simpa [hname] using hwords

/-- A name makes the name of a type exactly when it has a letter or a
numeral. -/
theorem exists_pascalCase_iff (h : rules.Lowers) {name : String} :
    (∃ identifier, rules.pascalCase name = some identifier) ↔ rules.HasLetter name := by
  have hwords := words_eq_nil_iff h name
  rw [pascalCase]
  cases hname : rules.words name with
  | nil => simpa using hwords.mp hname
  | cons word others => simpa [hname] using hwords

/-- A character is mapped to something, if all exceptions are. -/
theorem mapCase_ne_nil {expansions : List (Nat × List Nat)} {shifts : List CharShift}
    (h : ∀ listed ∈ expansions, listed.2 ≠ []) (c : Char) : mapCase expansions shifts c ≠ [] := by
  rw [mapCase]
  split
  · rename_i points hpoints
    obtain ⟨front, back, hlist, -⟩ := List.lookup_eq_some_iff.mp hpoints
    have hmem : (c.toNat, points) ∈ expansions := by simp [hlist]
    exact fun hnil => h _ hmem (List.map_eq_nil_iff.mp hnil)
  · exact List.cons_ne_nil _ _

/-- In Unicode every character has a lower case. -/
theorem lowers_unicode : unicode.Lowers := mapCase_ne_nil (by decide)

end KeyTree.LetterRules
