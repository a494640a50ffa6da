import KeyTree.Codegen.Builders
import KeyTree.Proofs.Text.Identifiers

/-!
# `KeyTree.Proofs.Text.NormalForm`: names that are names of methods already

A name of ASCII characters becomes the name of a method in a form that says how
it is made (`MethodForm`): words of small letters and digits, joined with
underscores, with an underscore in front of a digit and one behind a keyword.
Conversion finds the same words in such a name again, because these underscores
only separate, and then puts them back (`MethodForm.snakeCase_eq`).

So the forms are exactly the names that stay as they are
(`snakeCase_eq_self_iff`), and where names are compared after conversion, a name
may be replaced by its form (`snakeCase_normal_form`).
-/

set_option autoImplicit false

namespace KeyTree.LetterRules

/-! ### ASCII characters -/

/-- A small letter of ASCII or a digit. -/
def IsWordChar (c : Char) : Prop := c.isLower = true ∨ c.isDigit = true

instance : DecidablePred IsWordChar := fun c =>
  inferInstanceAs (Decidable (c.isLower = true ∨ c.isDigit = true))

theorem IsWordChar.ascii {c : Char} (h : IsWordChar c) : c.toNat < 128 := by
  rcases h with h | h
  · have hrange : (decide ('a'.val ≤ c.val) && decide (c.val ≤ 'z'.val)) = true := h
    simp only [Bool.and_eq_true, decide_eq_true_eq, UInt32.le_iff_toNat_le] at hrange
    have hz : 'z'.val.toNat = 122 := rfl
    show c.val.toNat < 128
    omega
  · have hrange := Char.isDigit_iff_toNat.mp h
    have hnine : '9'.toNat = 57 := rfl
    omega

/-- Small letters and digits belong to words and are no capitals. They are their
own lower case, and only the digits are numerals. -/
theorem IsWordChar.classes {c : Char} (h : IsWordChar c) :
    unicode.alphanumeric c = true ∧ unicode.uppercase c = false
      ∧ unicode.numeric c = c.isDigit ∧ unicode.toLower c = [c] := by
  have hall : ∀ n < 128, IsWordChar (Char.ofNat n) →
      unicode.alphanumeric (Char.ofNat n) = true ∧ unicode.uppercase (Char.ofNat n) = false
        ∧ unicode.numeric (Char.ofNat n) = (Char.ofNat n).isDigit
        ∧ unicode.toLower (Char.ofNat n) = [Char.ofNat n] := by
    decide +kernel
  have hc := hall c.toNat h.ascii
  rw [Char.ofNat_toNat] at hc
  exact hc h

/-- In ASCII the lower case of letters and numerals is small letters and
digits. -/
theorem isWordChar_of_mem_toLower {c d : Char} (hascii : c.toNat < 128)
    (hc : unicode.alphanumeric c = true) (hd : d ∈ unicode.toLower c) : IsWordChar d := by
  -- Decided along the list that comes out, not over all characters.
  have hall : ∀ n < 128, unicode.alphanumeric (Char.ofNat n) = true →
      (unicode.toLower (Char.ofNat n)).all (fun d => decide (IsWordChar d)) = true := by
    decide +kernel
  have hlower := hall c.toNat hascii
  rw [Char.ofNat_toNat] at hlower
  exact List.all_iff_forall_prop.mp (hlower hc) d hd

theorem not_alphanumeric_underscore : unicode.alphanumeric '_' = false := by decide

/-! ### The form of names of methods -/

/-- Small letters and digits, at least one. -/
structure IsWord (word : List Char) : Prop where
  nonempty : word ≠ []
  wordChar : ∀ c ∈ word, IsWordChar c

/-- The identifier is made of some words, with one underscore between two of
them. One more stands in front exactly if it would start with a digit, and one
more behind exactly if it would be a keyword. -/
structure MethodForm (words : List (List Char)) (identifier : String) : Prop where
  nonempty : words ≠ []
  isWord : ∀ word ∈ words, IsWord word
  toList_eq : identifier.toList
    = (if (['_'].intercalate words).head?.any Char.isDigit then ['_'] else [])
      ++ ['_'].intercalate words
      ++ if String.ofList (['_'].intercalate words) ∈ rustKeywords then ['_'] else []

/-- No keyword starts with an underscore or a digit. -/
theorem not_keyword_of_head {c : Char} (hc : c = '_' ∨ c.isDigit = true) (text : List Char) :
    String.ofList (c :: text) ∉ rustKeywords := by
  have hkeywords : ∀ keyword ∈ rustKeywords,
      keyword.toList.head?.all (fun c => c ≠ '_' && ! c.isDigit) = true := by
    decide
  intro hmem
  have hhead := hkeywords _ hmem
  rcases hc with rfl | hc
  · simp at hhead
  · simp [hc] at hhead

/-- A name with an underscore behind if it is a keyword. -/
theorem toList_keywordEnded (text : String) :
    (if text ∈ rustKeywords then text ++ "_" else text).toList
      = text.toList ++ if text ∈ rustKeywords then ['_'] else [] := by
  split
  · rw [String.toList_append]
    rfl
  · rw [List.append_nil]

/-- Joined words are finished in their form. -/
theorem methodForm_finished {words : List (List Char)} (hne : words ≠ [])
    (hwords : ∀ word ∈ words, IsWord word) :
    MethodForm words (unicode.finished (['_'].intercalate words)) where
  nonempty := hne
  isWord := hwords
  toList_eq := by
    obtain ⟨first, rest, hjoined, hfirst⟩ : ∃ first rest,
        ['_'].intercalate words = first :: rest ∧ IsWordChar first := by
      obtain ⟨word, others, rfl⟩ := List.exists_cons_of_ne_nil hne
      have hword := hwords word List.mem_cons_self
      obtain ⟨c, tail, rfl⟩ := List.exists_cons_of_ne_nil hword.nonempty
      have hc := hword.wordChar c List.mem_cons_self
      cases others with
      | nil => exact ⟨c, tail, by simp, hc⟩
      | cons next others => exact ⟨c, _, by rw [List.intercalate_cons_cons]; rfl, hc⟩
    have hnumeric : (first :: rest).head?.any unicode.numeric = first.isDigit :=
      hfirst.classes.2.2.1
    rw [hjoined, finished, toList_keywordEnded, hnumeric, List.head?_cons, Option.any_some,
      String.toList_ofList]
    by_cases hdigit : first.isDigit = true
    · -- With the digit or the underscore in front it is no keyword either way.
      rw [if_pos hdigit, if_pos hdigit, if_neg (not_keyword_of_head (.inl rfl) _),
        if_neg (not_keyword_of_head (.inr hdigit) _), List.singleton_append]
    · rw [if_neg hdigit, if_neg hdigit, List.nil_append]

/-! ### Words of joined words -/

/-- Small letters and digits all go to the open word. -/
theorem wordsFrom_wordChars {word : List Char} (h : ∀ c ∈ word, IsWordChar c)
    (current rest : List Char) (before : Option Char) :
    ∃ last, unicode.wordsFrom current before (word ++ rest)
      = unicode.wordsFrom (current ++ word) last rest := by
  induction word generalizing current before with
  | nil => exact ⟨before, by simp⟩
  | cons c word ih =>
      obtain ⟨hc, hword⟩ := List.forall_mem_cons.mp h
      obtain ⟨hletter, hsmall, -, hlower⟩ := hc.classes
      obtain ⟨last, hlast⟩ := ih hword (current ++ [c]) (some c)
      refine ⟨last, ?_⟩
      have hcuts : ∀ a next, unicode.cutsBetween a c next = false := by
        intro a next
        simp [cutsBetween, hsmall]
      rw [List.append_assoc, List.singleton_append] at hlast
      rw [List.cons_append, wordsFrom, ← hlast]
      cases before <;> simp [hletter, hlower, hcuts]

/-- Joined words are split into the same words again, also with an underscore
behind them. -/
theorem wordsFrom_intercalate {words : List (List Char)} (h : ∀ word ∈ words, IsWord word)
    {back : List Char} (hback : back = [] ∨ back = ['_']) (before : Option Char) :
    unicode.wordsFrom [] before (['_'].intercalate words ++ back) = words := by
  induction words generalizing before with
  | nil =>
      rcases hback with rfl | rfl <;> simp [wordsFrom, not_alphanumeric_underscore]
  | cons word others ih =>
      obtain ⟨hword, hothers⟩ := List.forall_mem_cons.mp h
      cases others with
      | nil =>
          obtain ⟨last, hlast⟩ := wordsFrom_wordChars hword.wordChar [] back before
          rw [List.intercalate_singleton, hlast]
          rcases hback with rfl | rfl <;>
            simp [wordsFrom, not_alphanumeric_underscore, hword.nonempty]
      | cons next others =>
          have hrest := ih hothers (some '_')
          obtain ⟨last, hlast⟩ := wordsFrom_wordChars hword.wordChar []
            ('_' :: (['_'].intercalate (next :: others) ++ back)) before
          have hjoined : ['_'].intercalate (word :: next :: others) ++ back
              = word ++ '_' :: (['_'].intercalate (next :: others) ++ back) := by
            simp [List.intercalate_cons_cons]
          rw [hjoined, hlast, wordsFrom]
          simp [not_alphanumeric_underscore, hword.nonempty, hrest]

namespace MethodForm

variable {words : List (List Char)} {identifier : String}

/-- The words of a form are those that it is made of: the underscores around
them separate nothing. -/
theorem words_eq (h : MethodForm words identifier) : unicode.words identifier = words := by
  have hback := ite_eq_or_eq (String.ofList (['_'].intercalate words) ∈ rustKeywords) ['_'] []
  have hjoined := wordsFrom_intercalate h.isWord hback.symm
  rw [LetterRules.words, h.toList_eq, List.append_assoc]
  split
  · rw [List.singleton_append, wordsFrom]
    simp [not_alphanumeric_underscore, hjoined]
  · exact hjoined none

/-- There is one form of the same words. -/
theorem unique {other : String} (h : MethodForm words identifier)
    (h' : MethodForm words other) : identifier = other :=
  String.toList_inj.mp (h.toList_eq.trans h'.toList_eq.symm)

/-- A form stays as it is. -/
theorem snakeCase_eq (h : MethodForm words identifier) :
    unicode.snakeCase identifier = some identifier := by
  have hfinished := methodForm_finished h.nonempty h.isWord
  obtain ⟨word, others, rfl⟩ := List.exists_cons_of_ne_nil h.nonempty
  rw [snakeCase, h.words_eq]
  exact congrArg some (hfinished.unique h)

end MethodForm

/-! ### Names in ASCII -/

section

variable {name : String} (hascii : ∀ c ∈ name.toList, c.toNat < 128)

include hascii

/-- The words of a name in ASCII are made of small letters and digits. -/
theorem isWord_of_mem_words {word : List Char} (h : word ∈ unicode.words name) :
    IsWord word where
  nonempty := ne_nil_of_mem_wordsFrom h
  wordChar d hd := by
    rcases mem_of_mem_wordsFrom h hd with hopen | ⟨c, hc, hletter, hlower⟩
    · cases hopen
    · exact isWordChar_of_mem_toLower (hascii c hc) hletter hlower

/-- What a name in ASCII is converted to has the form of the name's words. -/
theorem methodForm_of_snakeCase {identifier : String}
    (h : unicode.snakeCase name = some identifier) :
    MethodForm (unicode.words name) identifier := by
  rw [snakeCase] at h
  split at h
  · cases h
  · rename_i hne
    obtain rfl := Option.some.inj h
    exact methodForm_finished hne fun word => isWord_of_mem_words hascii

end

/-- The names in ASCII that stay as they are have the form, and no others. -/
theorem snakeCase_eq_self_iff {identifier : String}
    (hascii : ∀ c ∈ identifier.toList, c.toNat < 128) :
    unicode.snakeCase identifier = some identifier ↔ ∃ words, MethodForm words identifier := by
  constructor
  · intro h
    exact ⟨_, methodForm_of_snakeCase hascii h⟩
  · intro ⟨words, h⟩
    exact h.snakeCase_eq

/-! ### Clashes -/

/-- Two names make the name of the same method. -/
def Clashes (rules : LetterRules) (a b : String) : Prop :=
  ∃ identifier, rules.snakeCase a = some identifier ∧ rules.snakeCase b = some identifier

/-- A name in ASCII with a letter or a numeral is converted to a normal form: the
form of its words, which conversion leaves as it is.

So whatever name another one is compared with may be replaced by its form. They
clash with the same names, and the checks for methods of a struct and for
parameters of a method say the same of both. -/
theorem snakeCase_normal_form {name : String} (hascii : ∀ c ∈ name.toList, c.toNat < 128)
    (hletter : unicode.HasLetter name) :
    ∃ identifier, unicode.snakeCase name = some identifier
      ∧ MethodForm (unicode.words name) identifier
      ∧ unicode.snakeCase identifier = some identifier
      ∧ (∀ other, unicode.Clashes other name ↔ unicode.Clashes other identifier)
      ∧ (∀ place members, memberName unicode place members name
          = memberName unicode place members identifier)
      ∧ ∀ path taken kind rest, parametersFrom unicode path taken (⟨name, kind⟩ :: rest)
          = parametersFrom unicode path taken (⟨identifier, kind⟩ :: rest) := by
  obtain ⟨identifier, hmade⟩ := (exists_snakeCase_iff lowers_unicode).mpr hletter
  have hform := methodForm_of_snakeCase hascii hmade
  have hsame := hmade.trans hform.snakeCase_eq.symm
  have hidentifier : identifierFor unicode.snakeCase name
      = identifierFor unicode.snakeCase identifier := by
    rw [identifierFor, identifierFor, hmade, hform.snakeCase_eq]
  refine ⟨identifier, hmade, hform, hform.snakeCase_eq, fun other => ?_, fun place members => ?_,
    fun path taken kind rest => ?_⟩
  · rw [Clashes, Clashes, hsame]
  · rw [memberName, memberName, hidentifier]
  · rw [parametersFrom, parametersFrom, Slot.parameter, Slot.parameter, hidentifier]

/-- The underscore in front of a digit is not put there twice, and a name with
other capitals and marks clashes with the form as with the name. -/
theorem twoFast_normal_form :
    (∀ c ∈ "2Fast".toList, c.toNat < 128) ∧ unicode.HasLetter "2Fast"
      ∧ unicode.snakeCase "_2_fast" = some "_2_fast" ∧ unicode.Clashes "2-FAST" "_2_fast" := by
  have hascii : ∀ c ∈ "2Fast".toList, c.toNat < 128 :=
    List.all_iff_forall_prop.mp (by decide)
  have hletter : unicode.HasLetter "2Fast" := ⟨'2', by decide, by decide⟩
  obtain ⟨identifier, hmade, -, hstays, hclash, -, -⟩ := snakeCase_normal_form hascii hletter
  have hname : unicode.snakeCase "2Fast" = some "_2_fast" := by decide +kernel
  obtain rfl := Option.some.inj (hname.symm.trans hmade)
  exact ⟨hascii, hletter, hstays, (hclash "2-FAST").mp ⟨"_2_fast", by decide +kernel, hname⟩⟩

end KeyTree.LetterRules
