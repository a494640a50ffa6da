import Mathlib.Data.Bool.AllAny
import Mathlib.Data.List.DropRight
import KeyTree.Codegen.Builders
import KeyTree.Proofs.Intercalate
import KeyTree.Proofs.Text.Words

/-!
# `KeyTree.Proofs.Text.Identifiers`: the characters of identifiers

An identifier is made of the letters and numerals of a name, in lower and in
upper case, and of underscores. Which characters these can be is told by the
case mappings: no mapping of Unicode makes a quote, a slash or any other mark of
ASCII of another character (`foreign_of_ascii`), so no identifier holds one,
whatever the name (`Foreign.not_mem_snakeCase`, `Foreign.not_mem_pascalCase`).

The upper case of no character starts with a small letter of ASCII. So what an
entry's name adds to the name of a struct starts with something else
(`exists_trimUnderscores_eq_cons`).
-/

set_option autoImplicit false

namespace KeyTree

/-! ### Case mappings -/

/-- The number lies between the first and the last that the members of a run
are mapped to. -/
def CharShift.Covers (shift : CharShift) (n : Nat) : Prop :=
  shift.run.first + shift.distance ≤ n ∧ n ≤ shift.run.last + shift.distance

instance (shift : CharShift) (n : Nat) : Decidable (shift.Covers n) :=
  inferInstanceAs (Decidable (_ ∧ _))

theorem CharShift.covers_of_contains {shift : CharShift} {n m : Nat} (hpos : m ≠ 0)
    (h : shift.run.contains n = true) (heq : (n + shift.distance).toNat = m) :
    shift.Covers m := by
  simp only [CharRun.contains, Bool.and_eq_true, decide_eq_true_eq] at h
  obtain ⟨⟨hfirst, hlast⟩, -⟩ := h
  rw [Covers]
  omega

/-- A number that no run is mapped to comes from itself only. -/
theorem eq_of_shiftBy_eq {shifts : List CharShift} {n m : Nat} (hpos : m ≠ 0)
    (h : ∀ shift ∈ shifts, ¬ shift.Covers m) (heq : shiftBy shifts n = m) : n = m := by
  induction shifts with
  | nil => exact heq
  | cons shift rest ih =>
      obtain ⟨hfirst, hrest⟩ := List.forall_mem_cons.mp h
      rw [shiftBy] at heq
      split at heq
      · exact heq
      · split at heq
        · rename_i hcontains
          exact absurd (CharShift.covers_of_contains hpos hcontains heq) hfirst
        · exact ih hrest heq

/-- A number that is a character's has this number. -/
theorem toNat_ofNat_of_ne_zero {n : Nat} (h : (Char.ofNat n).toNat ≠ 0) :
    (Char.ofNat n).toNat = n := by
  by_cases hvalid : n.isValidChar
  · rw [Char.ofNat, dif_pos hvalid]
    rfl
  · rw [Char.ofNat, dif_neg hvalid] at h
    exact absurd rfl h

/-- A character that no run is mapped to, and that is in no exception, comes
from itself only. -/
theorem eq_of_mem_mapCase {expansions : List (Nat × List Nat)} {shifts : List CharShift}
    {c d : Char} (hpos : d.toNat ≠ 0) (hexpansions : ∀ listed ∈ expansions, d.toNat ∉ listed.2)
    (hshifts : ∀ shift ∈ shifts, ¬ shift.Covers d.toNat) (h : d ∈ mapCase expansions shifts c) :
    c = d := by
  rw [mapCase] at h
  split at h
  · rename_i points hpoints
    obtain ⟨front, back, hlist, -⟩ := List.lookup_eq_some_iff.mp hpoints
    have hmem : (c.toNat, points) ∈ expansions := by simp [hlist]
    obtain ⟨point, hpoint, rfl⟩ := List.mem_map.mp h
    rw [toNat_ofNat_of_ne_zero hpos] at hexpansions
    exact absurd hpoint (hexpansions _ hmem)
  · obtain rfl := List.mem_singleton.mp h
    have hnumber := toNat_ofNat_of_ne_zero hpos
    rw [hnumber] at hpos hshifts
    exact Char.toNat_inj.mp ((eq_of_shiftBy_eq hpos hshifts rfl).trans hnumber.symm)

namespace LetterRules

variable {rules : LetterRules} {name identifier : String}

/-! ### Words -/

/-- A character of a word is one of the open word, or the lower case of a
letter or numeral of the text. -/
theorem mem_of_mem_wordsFrom {current : List Char} {before : Option Char} {text word : List Char}
    {d : Char} (hword : word ∈ rules.wordsFrom current before text) (hd : d ∈ word) :
    d ∈ current ∨ ∃ c ∈ text, rules.alphanumeric c = true ∧ d ∈ rules.toLower c := by
  induction text generalizing current before with
  | nil =>
      rw [wordsFrom] at hword
      split at hword
      · cases hword
      · rw [List.mem_singleton.mp hword] at hd
        exact .inl hd
  | cons c rest ih =>
      have hlater : (∃ e ∈ rest, rules.alphanumeric e = true ∧ d ∈ rules.toLower e) →
          ∃ e ∈ c :: rest, rules.alphanumeric e = true ∧ d ∈ rules.toLower e := by
        rintro ⟨e, he, hrest⟩
        exact ⟨e, List.mem_cons_of_mem c he, hrest⟩
      rw [wordsFrom] at hword
      split at hword
      · rcases List.mem_append.mp hword with hword | hword
        · split at hword
          · cases hword
          · rw [List.mem_singleton.mp hword] at hd
            exact .inl hd
        · rcases ih hword with hin | hin
          · cases hin
          · exact .inr (hlater hin)
      · rename_i hletter
        have hletter : rules.alphanumeric c = true := by simpa using hletter
        have hfirst : d ∈ rules.toLower c →
            ∃ e ∈ c :: rest, rules.alphanumeric e = true ∧ d ∈ rules.toLower e :=
          fun hin => ⟨c, List.mem_cons_self, hletter, hin⟩
        dsimp only at hword
        split at hword
        · rcases List.mem_cons.mp hword with rfl | hword
          · exact .inl hd
          · exact .inr ((ih hword).elim hfirst hlater)
        · rcases ih hword with hin | hin
          · exact (List.mem_append.mp hin).imp_right hfirst
          · exact .inr (hlater hin)

/-- No word is empty. -/
theorem ne_nil_of_mem_wordsFrom {current : List Char} {before : Option Char}
    {text word : List Char} (hword : word ∈ rules.wordsFrom current before text) : word ≠ [] := by
  -- The open word is a word only where it has characters.
  have hopen : ∀ {list : List Char}, word ∈ (if list.isEmpty then [] else [list]) → word ≠ [] := by
    intro list hmem
    split at hmem
    · cases hmem
    · rename_i hne
      rw [List.mem_singleton.mp hmem]
      simpa using hne
  induction text generalizing current before with
  | nil => exact hopen hword
  | cons c rest ih =>
      rw [wordsFrom] at hword
      split at hword
      · exact (List.mem_append.mp hword).elim hopen ih
      · dsimp only at hword
        split at hword
        · rename_i hcut
          rcases List.mem_cons.mp hword with rfl | hword
          · simp only [Bool.and_eq_true] at hcut
            simpa using hcut.1
          · exact ih hword
        · exact ih hword

/-! ### Identifiers -/

/-- An identifier is the joined name, and maybe an underscore at either end. -/
theorem exists_toList_finished (rules : LetterRules) (text : List Char) :
    ∃ front back, (∀ c ∈ front, c = '_') ∧ (∀ c ∈ back, c = '_')
      ∧ (rules.finished text).toList = front ++ text ++ back := by
  have hfront : ∃ front, (∀ c ∈ front, c = '_')
      ∧ (if text.head?.any rules.numeric then '_' :: text else text) = front ++ text := by
    split
    · exact ⟨['_'], by simp, rfl⟩
    · exact ⟨[], by simp, rfl⟩
  obtain ⟨front, hunderscores, hname⟩ := hfront
  rw [finished, hname]
  split
  · exact ⟨front, ['_'], hunderscores, by simp, by simp⟩
  · exact ⟨front, [], hunderscores, by simp, by simp⟩

theorem mem_finished {text : List Char} {d : Char} (h : d ∈ (rules.finished text).toList) :
    d = '_' ∨ d ∈ text := by
  obtain ⟨front, back, hfront, hback, hlist⟩ := rules.exists_toList_finished text
  rw [hlist, List.mem_append, List.mem_append] at h
  rcases h with (h | h) | h
  · exact .inl (hfront d h)
  · exact .inr h
  · exact .inl (hback d h)

/-- The name of a method is made of the words of the name and of underscores. -/
theorem mem_snakeCase {d : Char} (h : rules.snakeCase name = some identifier)
    (hd : d ∈ identifier.toList) : d = '_' ∨ ∃ word ∈ rules.words name, d ∈ word := by
  rw [snakeCase] at h
  split at h
  · cases h
  · obtain rfl := Option.some.inj h
    rcases mem_finished hd with hin | hin
    · exact .inl hin
    · exact (mem_intercalate hin).imp_left List.mem_singleton.mp

/-- The name of a type is made of the words of the name, each with its first
character in upper case, and of underscores. -/
theorem mem_pascalCase {d : Char} (h : rules.pascalCase name = some identifier)
    (hd : d ∈ identifier.toList) :
    d = '_' ∨ ∃ word ∈ rules.words name, d ∈ rules.capitalized word := by
  rw [pascalCase] at h
  split at h
  · cases h
  · obtain rfl := Option.some.inj h
    exact (mem_finished hd).imp_right List.mem_flatMap.mp

theorem mem_capitalized {word : List Char} {d : Char} (h : d ∈ rules.capitalized word) :
    d ∈ word ∨ ∃ c ∈ word, d ∈ rules.toUpper c := by
  cases word with
  | nil => cases h
  | cons c rest =>
      rcases List.mem_append.mp h with h | h
      · exact .inr ⟨c, List.mem_cons_self, h⟩
      · exact .inl (List.mem_cons_of_mem c h)

/-! ### Characters that no name brings in -/

/-- A character is foreign to identifiers: it is no letter and no numeral, and
no other character becomes it in lower or in upper case. -/
structure Foreign (rules : LetterRules) (d : Char) : Prop where
  alphanumeric : rules.alphanumeric d = false
  eq_of_toLower : ∀ c, d ∈ rules.toLower c → c = d
  eq_of_toUpper : ∀ c, d ∈ rules.toUpper c → c = d

namespace Foreign

variable {d : Char}

theorem not_mem_word (h : rules.Foreign d) {word : List Char} (hword : word ∈ rules.words name) :
    d ∉ word := by
  intro hd
  rcases mem_of_mem_wordsFrom hword hd with hin | ⟨c, -, hletter, hin⟩
  · cases hin
  · rw [h.eq_of_toLower c hin, h.alphanumeric] at hletter
    cases hletter

theorem not_mem_capitalized (h : rules.Foreign d) {word : List Char}
    (hword : word ∈ rules.words name) : d ∉ rules.capitalized word := by
  intro hd
  rcases mem_capitalized hd with hin | ⟨c, hc, hin⟩
  · exact h.not_mem_word hword hin
  · exact h.not_mem_word hword (h.eq_of_toUpper c hin ▸ hc)

/-- No method and no parameter has the character in its name. -/
theorem not_mem_snakeCase (h : rules.Foreign d) (hd : d ≠ '_')
    (hname : rules.snakeCase name = some identifier) : d ∉ identifier.toList := by
  intro hmem
  rcases mem_snakeCase hname hmem with heq | ⟨word, hword, hin⟩
  · exact hd heq
  · exact h.not_mem_word hword hin

/-- No type has the character in its name. -/
theorem not_mem_pascalCase (h : rules.Foreign d) (hd : d ≠ '_')
    (hname : rules.pascalCase name = some identifier) : d ∉ identifier.toList := by
  intro hmem
  rcases mem_pascalCase hname hmem with heq | ⟨word, hword, hin⟩
  · exact hd heq
  · exact h.not_mem_capitalized hword hin

end Foreign

/-- A character of ASCII is foreign to identifiers in Unicode if it is no letter
and no numeral. -/
theorem foreign_of_ascii {d : Char} (hpos : d.toNat ≠ 0) (hascii : d.toNat < 128)
    (hletter : unicode.alphanumeric d = false) : unicode.Foreign d := by
  -- What the tables map to below 128 are letters, and letters are alphanumeric.
  have hletters : ∀ n < 128, (65 ≤ n ∧ n ≤ 90) ∨ (97 ≤ n ∧ n ≤ 122) →
      unicode.alphanumeric (Char.ofNat n) = true := by
    decide +kernel
  have hexpansions : ∀ listed ∈ lowerExpansions ++ upperExpansions, ∀ n ∈ listed.2,
      (65 ≤ n ∧ n ≤ 90) ∨ (97 ≤ n ∧ n ≤ 122) ∨ 127 < n := by
    decide +kernel
  have hshifts : ∀ shift ∈ lowerShifts ++ upperShifts,
      (65 ≤ shift.run.first + shift.distance ∧ shift.run.last + shift.distance ≤ 90)
        ∨ (97 ≤ shift.run.first + shift.distance ∧ shift.run.last + shift.distance ≤ 122)
        ∨ 127 < shift.run.first + shift.distance := by
    decide +kernel
  have hnone : ¬ ((65 ≤ d.toNat ∧ d.toNat ≤ 90) ∨ (97 ≤ d.toNat ∧ d.toNat ≤ 122)) := by
    intro hrange
    have hnumber := hletters d.toNat hascii hrange
    rw [Char.ofNat_toNat, hletter] at hnumber
    cases hnumber
  have hlisted : ∀ listed ∈ lowerExpansions ++ upperExpansions, d.toNat ∉ listed.2 := by
    intro listed hmem hin
    have := hexpansions listed hmem _ hin
    omega
  have hcovers : ∀ shift ∈ lowerShifts ++ upperShifts, ¬ shift.Covers d.toNat := by
    intro shift hmem hcovered
    have := hshifts shift hmem
    rw [CharShift.Covers] at hcovered
    omega
  obtain ⟨hlower, hupper⟩ := List.forall_mem_append.mp hlisted
  obtain ⟨hlowers, huppers⟩ := List.forall_mem_append.mp hcovers
  exact ⟨hletter, fun _ => eq_of_mem_mapCase hpos hlower hlowers,
    fun _ => eq_of_mem_mapCase hpos hupper huppers⟩

/-- Quotes, slashes and underscores are foreign to identifiers in Unicode. -/
theorem foreign_unicode : ∀ d ∈ ['"', '\'', '/', '_'], unicode.Foreign d := by
  have hmarks : ∀ d ∈ ['"', '\'', '/', '_'],
      d.toNat ≠ 0 ∧ d.toNat < 128 ∧ unicode.alphanumeric d = false :=
    List.all_iff_forall_prop.mp (by decide +kernel)
  intro d hd
  obtain ⟨hpos, hascii, hletter⟩ := hmarks d hd
  exact foreign_of_ascii hpos hascii hletter

/-! ### How the names of types start -/

/-- The small letters of ASCII. -/
def smallLetters : List Char := "abcdefghijklmnopqrstuvwxyz".toList

/-- No upper case of a character is a small letter. -/
theorem not_mem_toUpper_of_small {d : Char} (hd : d ∈ smallLetters) (c : Char) :
    d ∉ unicode.toUpper c := by
  have hrange : ∀ d ∈ smallLetters, 97 ≤ d.toNat ∧ d.toNat ≤ 122 :=
    List.all_iff_forall_prop.mp (by decide)
  have hexpansions : ∀ listed ∈ upperExpansions, ∀ n ∈ listed.2, n < 97 ∨ 122 < n := by
    decide +kernel
  have hshifts : ∀ shift ∈ upperShifts, shift.run.last + shift.distance < 97
      ∨ 122 < shift.run.first + shift.distance := by
    decide +kernel
  -- It could only be its own upper case, and it is not.
  have hself : ∀ d ∈ smallLetters, d ∉ unicode.toUpper d :=
    List.all_iff_forall_prop.mp (by decide +kernel)
  obtain ⟨hfirst, hlast⟩ := hrange d hd
  intro hmem
  have hc : c = d := by
    refine eq_of_mem_mapCase (by omega) (fun listed hlisted hin => ?_)
      (fun shift hshift hcovers => ?_) hmem
    · have := hexpansions listed hlisted _ hin
      omega
    · have := hshifts shift hshift
      rw [CharShift.Covers] at hcovers
      omega
  exact hself d hd (hc ▸ hmem)

/-- The joined name of a type starts with the upper case of a character of the
name's first word. -/
theorem exists_toList_pascalCase (h : unicode.pascalCase name = some identifier) :
    ∃ front c u rest, (∀ d ∈ front, d = '_') ∧ u ∈ unicode.toUpper c
      ∧ (∃ word ∈ unicode.words name, c ∈ word) ∧ identifier.toList = front ++ u :: rest := by
  rw [pascalCase] at h
  split at h
  · cases h
  · rename_i hne
    obtain rfl := Option.some.inj h
    obtain ⟨front, back, hfront, -, hlist⟩ :=
      unicode.exists_toList_finished ((unicode.words name).flatMap unicode.capitalized)
    cases hwords : unicode.words name with
    | nil => exact absurd hwords (by simpa using hne)
    | cons word others =>
        have hword : word ∈ unicode.words name := hwords ▸ List.mem_cons_self
        obtain ⟨c, tail, rfl⟩ := List.exists_cons_of_ne_nil (ne_nil_of_mem_wordsFrom hword)
        have hne : unicode.toUpper c ≠ [] := mapCase_ne_nil (by decide) c
        obtain ⟨u, more, hupper⟩ := List.exists_cons_of_ne_nil hne
        refine ⟨front, c, u, more ++ tail ++ others.flatMap unicode.capitalized ++ back, hfront,
          hupper ▸ List.mem_cons_self, ⟨_, List.mem_cons_self, List.mem_cons_self⟩, ?_⟩
        rw [hwords] at hlist
        simpa [capitalized, hupper] using hlist

/-- What an entry's name adds to the name of a struct is not empty, and starts
with no small letter. -/
theorem exists_trimUnderscores_eq_cons (h : unicode.pascalCase name = some identifier) :
    ∃ c rest, (trimUnderscores identifier).toList = c :: rest ∧ c ∉ smallLetters := by
  have hunderscore : unicode.Foreign '_' := foreign_unicode '_' (by decide)
  obtain ⟨front, c, u, rest, hfront, hu, ⟨word, hword, hc⟩, hlist⟩ := exists_toList_pascalCase h
  have htrim : (trimUnderscores identifier).toList
      = identifier.toList.rdropWhile (· = '_') := by
    rw [trimUnderscores, String.toList_ofList, List.rdropWhile]
  rw [htrim]
  -- The upper case is no underscore, so not everything is trimmed off.
  have hne : u ≠ '_' := by
    rintro rfl
    exact hunderscore.not_mem_word hword (hunderscore.eq_of_toUpper c hu ▸ hc)
  cases htrimmed : identifier.toList.rdropWhile (· = '_') with
  | nil =>
      have hall := List.rdropWhile_eq_nil_iff.mp htrimmed u (by simp [hlist])
      exact absurd (of_decide_eq_true hall) hne
  | cons first others =>
      refine ⟨first, others, rfl, ?_⟩
      have hprefix := List.rdropWhile_prefix (· = '_') identifier.toList
      rw [htrimmed, hlist] at hprefix
      cases front with
      | nil =>
          obtain rfl := List.head_eq_of_cons_eq (List.prefix_iff_eq_append.mp hprefix)
          exact fun hsmall => not_mem_toUpper_of_small hsmall c hu
      | cons d others =>
          obtain rfl := List.head_eq_of_cons_eq (List.prefix_iff_eq_append.mp hprefix)
          rw [hfront first List.mem_cons_self]
          decide

end LetterRules

end KeyTree
