import KeyTree.Proofs.Text.CaseRuns

/-!
# `KeyTree.Proofs.Text.Spelling`: which names make identifiers that can be used

`snakeCase` and `pascalCase` keep all letters and numerals of a name. Not all
of these can be part of an identifier (`IsIdentifier`): a superscript is a
numeral, but no identifier may have one. So whether what a name makes is an
identifier is a matter of how the name is spelled (`WellSpelled`).

* `flatten_words`: the words of a name are the lower case of its letters and
  numerals.
* `isIdentifier_finished_iff`: a joined name makes an identifier if all its
  characters can be part of one, and the first is a numeral or can start one.
* `isIdentifier_snakeCase_iff`, `isIdentifier_pascalCase_iff`: so a name makes
  the name of a method, or of a type, if and only if it is well spelled.
* `not_mem_reserved_of_snakeCase`, `not_mem_reserved_of_pascalCase`: no name,
  however spelled, makes a keyword or an underscore.
-/

set_option autoImplicit false

namespace KeyTree

/-! ### Identifiers -/

/-- A text that is spelled like an identifier: it starts with an underscore or
a letter and goes on with what identifiers go on with. -/
def Spelled : List Char → Prop
  | [] => False
  | first :: rest => (first = '_' ∨ XidStart first) ∧ ∀ c ∈ rest, XidContinue c

/-- Texts that are no identifiers, whatever they are made of. -/
def reservedTexts : List String := "" :: "_" :: rustKeywords

/-- A text that can be used as an identifier. -/
structure IsIdentifier (text : String) : Prop where
  spelled : Spelled text.toList
  not_underscore : text ≠ "_"
  not_keyword : text ∉ rustKeywords

instance : DecidablePred Spelled
  | [] => inferInstanceAs (Decidable False)
  | first :: rest =>
    @instDecidableAnd (first = '_' ∨ XidStart first) (∀ c ∈ rest, XidContinue c) inferInstance
      (List.decidableBAll XidContinue rest)

instance : DecidablePred IsIdentifier := fun text =>
  decidable_of_iff (Spelled text.toList ∧ text ≠ "_" ∧ text ∉ rustKeywords)
    ⟨fun h => ⟨h.1, h.2.1, h.2.2⟩, fun h => ⟨h.1, h.2, h.3⟩⟩

/-- What is spelled like an identifier is one if it is not reserved. -/
theorem Spelled.isIdentifier {text : String} (h : Spelled text.toList)
    (hfree : text ∉ reservedTexts) : IsIdentifier text := by
  simp only [reservedTexts, List.mem_cons, not_or] at hfree
  exact ⟨h, hfree.2.1, hfree.2.2⟩

theorem xidContinue_underscore : XidContinue '_' := by decide

/-- What is spelled like an identifier can be part of one. -/
theorem Spelled.xidContinue {text : List Char} (h : Spelled text) : ∀ c ∈ text, XidContinue c := by
  cases text with
  | nil => nofun
  | cons first rest =>
      obtain ⟨hfirst, hrest⟩ := h
      rw [List.forall_mem_cons]
      refine ⟨?_, hrest⟩
      rcases hfirst with rfl | hstart
      · exact xidContinue_underscore
      · exact hstart.xidContinue

/-- More characters that identifiers go on with. -/
theorem spelled_append_iff {text more : List Char} (hne : text ≠ []) :
    Spelled (text ++ more) ↔ Spelled text ∧ ∀ c ∈ more, XidContinue c := by
  obtain ⟨first, rest, rfl⟩ := List.exists_cons_of_ne_nil hne
  simp only [List.cons_append, Spelled, List.forall_mem_append, and_assoc]

namespace LetterRules

variable {rules : LetterRules} {name identifier : String}

/-! ### Joined names -/

/-- An identifier is the joined name, behind an underscore if it starts with a
numeral, and with an underscore behind if it would be a keyword. -/
theorem toList_finished (text : List Char) :
    ∃ back, (∀ c ∈ back, c = '_')
      ∧ (unicode.finished text).toList
        = (if text.head?.any unicode.numeric then '_' :: text else text) ++ back := by
  rw [finished]
  split <;> split
  · exact ⟨['_'], by simp, by simp⟩
  · exact ⟨[], by simp, by simp⟩
  · exact ⟨['_'], by simp, by simp⟩
  · exact ⟨[], by simp, by simp⟩

section

variable {text : List Char} {first : Char}

/-- Which joined names make something that is spelled like an identifier. -/
theorem spelled_finished_iff (hhead : text.head? = some first) (hfirst : first ≠ '_') :
    Spelled (unicode.finished text).toList
      ↔ (∀ c ∈ text, XidContinue c) ∧ (unicode.numeric first = true ∨ XidStart first) := by
  obtain ⟨back, hback, hlist⟩ := toList_finished text
  obtain ⟨rest, rfl⟩ := List.head?_eq_some_iff.mp hhead
  have hunderscores : ∀ c ∈ back, XidContinue c := by
    intro c hc
    rw [hback c hc]
    exact xidContinue_underscore
  rw [hlist]
  by_cases hnumeric : unicode.numeric first = true
  · -- The underscore in front starts the identifier, so the numeral only goes on with it.
    rw [if_pos (by simpa using hnumeric), spelled_append_iff (List.cons_ne_nil _ _)]
    constructor
    · intro hspelled
      exact ⟨hspelled.1.2, .inl hnumeric⟩
    · intro hall
      exact ⟨⟨.inl rfl, hall.1⟩, hunderscores⟩
  · rw [if_neg (by simpa using hnumeric), spelled_append_iff (List.cons_ne_nil _ _)]
    constructor
    · intro hspelled
      exact ⟨hspelled.1.xidContinue, .inr (hspelled.1.1.resolve_left hfirst)⟩
    · intro hall
      have hletter : XidStart first := hall.2.resolve_left hnumeric
      exact ⟨⟨.inr hletter, fun c hc => hall.1 c (List.mem_cons_of_mem first hc)⟩, hunderscores⟩

/-- No joined name makes a keyword: no keyword has an underscore at its end. -/
theorem finished_not_mem_rustKeywords (text : List Char) :
    unicode.finished text ∉ rustKeywords := by
  have hlonger : ∀ word ∈ rustKeywords, word ++ "_" ∉ rustKeywords := by decide
  have hsuffixed : ∀ word, (if word ∈ rustKeywords then word ++ "_" else word) ∉ rustKeywords := by
    intro word
    by_cases hword : word ∈ rustKeywords
    · rw [if_pos hword]
      exact hlonger word hword
    · rwa [if_neg hword]
  exact hsuffixed _

/-- No joined name makes a text that is no identifier. -/
theorem finished_not_mem_reserved (hhead : text.head? = some first) (hfirst : first ≠ '_') :
    unicode.finished text ∉ reservedTexts := by
  obtain ⟨rest, rfl⟩ := List.head?_eq_some_iff.mp hhead
  obtain ⟨back, -, hlist⟩ := toList_finished (first :: rest)
  -- Something that is no underscore stands in the identifier.
  have hmem : first ∈ (unicode.finished (first :: rest)).toList := by
    rw [hlist]
    split <;> simp
  simp only [reservedTexts, List.mem_cons, not_or]
  refine ⟨?_, ?_, finished_not_mem_rustKeywords _⟩
  · intro heq
    rw [heq] at hmem
    cases hmem
  · intro heq
    rw [heq] at hmem
    exact hfirst (List.mem_singleton.mp hmem)

/-- Which joined names make identifiers. -/
theorem isIdentifier_finished_iff (hhead : text.head? = some first) (hfirst : first ≠ '_') :
    IsIdentifier (unicode.finished text)
      ↔ (∀ c ∈ text, XidContinue c) ∧ (unicode.numeric first = true ∨ XidStart first) := by
  rw [← spelled_finished_iff hhead hfirst]
  constructor
  · exact IsIdentifier.spelled
  · intro hspelled
    exact hspelled.isIdentifier (finished_not_mem_reserved hhead hfirst)

end

/-- What a joined name makes can go on with an identifier if the name can. -/
theorem xidContinue_finished {text : List Char} (h : ∀ c ∈ text, XidContinue c) :
    ∀ c ∈ (unicode.finished text).toList, XidContinue c := by
  intro c hc
  rcases mem_finished hc with rfl | hc
  · exact xidContinue_underscore
  · exact h c hc

/-! ### Letters and words -/

/-- The letters and numerals of a name. -/
def lettersOf (name : String) : List Char := name.toList.filter unicode.alphanumeric

/-- A name of which all letters and numerals can be part of an identifier; the
first of them is a numeral or one of those it may start with. -/
def WellSpelled (starts : Char → Prop) (name : String) : Prop :=
  (∀ c ∈ lettersOf name, XidContinue c)
    ∧ ∀ c ∈ (lettersOf name).head?, unicode.numeric c = true ∨ starts c

instance (starts : Char → Prop) [DecidablePred starts] :
    DecidablePred (WellSpelled starts) := fun name =>
  @instDecidableAnd (∀ c ∈ lettersOf name, XidContinue c)
    (∀ c ∈ (lettersOf name).head?, unicode.numeric c = true ∨ starts c)
    (List.decidableBAll XidContinue _) (Option.decidableForallMem _)

/-- The words of a text are the open word and the lower case of what follows. -/
theorem flatten_wordsFrom (current : List Char) (before : Option Char) (text : List Char) :
    (rules.wordsFrom current before text).flatten
      = current ++ (text.filter rules.alphanumeric).flatMap rules.toLower := by
  have hopen : ∀ list : List Char, (if list.isEmpty then [] else [list]).flatten = list := by
    intro list
    cases list <;> simp
  induction text generalizing current before with
  | nil => simpa [wordsFrom] using hopen current
  | cons c rest ih =>
      rw [wordsFrom]
      by_cases hletter : rules.alphanumeric c = true
      · rw [if_neg (by simp [hletter]), List.filter_cons_of_pos hletter, List.flatMap_cons]
        dsimp only
        -- A cut ends the open word, and makes no difference to the joined words.
        split
        · rw [List.flatten_cons, ih]
        · rw [ih, List.append_assoc]
      · rw [if_pos (by simp [hletter]), List.flatten_append, hopen, ih,
          List.filter_cons_of_neg hletter, List.nil_append]

/-- The words of a name are the lower case of its letters and numerals. -/
theorem flatten_words (name : String) :
    (unicode.words name).flatten = (lettersOf name).flatMap unicode.toLower := by
  rw [words, flatten_wordsFrom]
  rfl

/-- The words of a name can go on with an identifier if and only if its letters
and numerals can. -/
theorem forall_xidContinue_words_iff (name : String) :
    (∀ c ∈ (unicode.words name).flatten, XidContinue c)
      ↔ ∀ c ∈ lettersOf name, XidContinue c := by
  rw [flatten_words]
  simp only [List.mem_flatMap, forall_exists_index, and_imp]
  constructor
  · intro h c hc
    exact forall_xidContinue_toLower_iff.mp fun d hd => h d c hc hd
  · intro h d c hc hd
    exact forall_xidContinue_toLower_iff.mpr (h c hc) d hd

/-- The first word of a name starts with the lower case of the name's first
letter or numeral. -/
theorem exists_of_words_eq_cons {word : List Char} {others : List (List Char)}
    (h : unicode.words name = word :: others) :
    ∃ c d lower rest, (lettersOf name).head? = some c ∧ unicode.toLower c = d :: lower
      ∧ word = d :: rest ∧ d ≠ '_' := by
  have hflat := flatten_words name
  have hword : word ≠ [] := ne_nil_of_mem_wordsFrom (h ▸ List.mem_cons_self)
  obtain ⟨d, rest, rfl⟩ := List.exists_cons_of_ne_nil hword
  rw [h, List.flatten_cons] at hflat
  cases hletters : lettersOf name with
  | nil => simp [hletters] at hflat
  | cons c others =>
      obtain ⟨lowered, lower, hlower⟩ := List.exists_cons_of_ne_nil (lowers_unicode c)
      rw [hletters, List.flatMap_cons, hlower] at hflat
      obtain rfl : d = lowered := List.head_eq_of_cons_eq hflat
      refine ⟨c, d, lower, rest, rfl, hlower, rfl, ?_⟩
      rintro rfl
      -- Only the underscore itself has an underscore for its lower case.
      have hforeign := foreign_unicode '_' (by decide)
      have hc : c = '_' := hforeign.eq_of_toLower c (hlower ▸ List.mem_cons_self)
      have hmem : c ∈ lettersOf name := hletters ▸ List.mem_cons_self
      have hletter := (List.mem_filter.mp hmem).2
      rw [hc, hforeign.alphanumeric] at hletter
      cases hletter

/-! ### Names of methods -/

/-- What holds of what is put between lists holds of the joined lists if it
holds of the lists. -/
theorem forall_mem_intercalate_iff {P : Char → Prop} {between : List Char}
    (hbetween : ∀ c ∈ between, P c) (lists : List (List Char)) :
    (∀ c ∈ between.intercalate lists, P c) ↔ ∀ c ∈ lists.flatten, P c := by
  induction lists with
  | nil => simp
  | cons list rest ih =>
      cases rest with
      | nil => simp
      | cons next others =>
          have hflat : (list :: next :: others).flatten = list ++ (next :: others).flatten := rfl
          rw [List.intercalate_cons_cons, List.forall_mem_append, List.forall_mem_append, ih,
            hflat, List.forall_mem_append]
          constructor
          · intro h
            exact ⟨h.1.1, h.2⟩
          · intro h
            exact ⟨⟨h.1, hbetween⟩, h.2⟩

/-- What a name makes the name of a method of: its joined words, which start
with the lower case of its first letter or numeral. -/
theorem exists_finished_of_snakeCase (h : unicode.snakeCase name = some identifier) :
    ∃ c d lower, (lettersOf name).head? = some c ∧ unicode.toLower c = d :: lower ∧ d ≠ '_'
      ∧ (['_'].intercalate (unicode.words name)).head? = some d
      ∧ identifier = unicode.finished (['_'].intercalate (unicode.words name)) := by
  rw [snakeCase] at h
  cases hwords : unicode.words name with
  | nil => simp [hwords] at h
  | cons word others =>
      rw [hwords, Option.some.injEq] at h
      obtain ⟨c, d, lower, rest, hfirst, hlower, rfl, hd⟩ := exists_of_words_eq_cons hwords
      have hhead : (['_'].intercalate ((d :: rest) :: others)).head? = some d := by
        cases others <;> rfl
      exact ⟨c, d, lower, hfirst, hlower, hd, hhead, h.symm⟩

/-- No name of a method is a text that is no identifier. -/
theorem not_mem_reserved_of_snakeCase (h : unicode.snakeCase name = some identifier) :
    identifier ∉ reservedTexts := by
  obtain ⟨c, d, lower, -, -, hd, hhead, rfl⟩ := exists_finished_of_snakeCase h
  exact finished_not_mem_reserved hhead hd

/-- A name that is used for a method makes an identifier if and only if it is
well spelled, with a letter of identifiers to start with. -/
theorem isIdentifier_snakeCase_iff (h : unicode.snakeCase name = some identifier) :
    IsIdentifier identifier ↔ WellSpelled XidStart name := by
  obtain ⟨c, d, lower, hfirst, hlower, hd, hhead, rfl⟩ := exists_finished_of_snakeCase h
  have hbetween : ∀ c ∈ ['_'], XidContinue c := by
    simpa using xidContinue_underscore
  rw [isIdentifier_finished_iff hhead hd, forall_mem_intercalate_iff hbetween,
    forall_xidContinue_words_iff, WellSpelled, hfirst, numeric_of_toLower hlower,
    xidStart_of_toLower_iff hlower]
  simp

/-! ### Names of types -/

/-- A capitalized word can go on with an identifier if and only if the word
can. -/
theorem forall_xidContinue_capitalized_iff (word : List Char) :
    (∀ c ∈ unicode.capitalized word, XidContinue c) ↔ ∀ c ∈ word, XidContinue c := by
  cases word with
  | nil => rfl
  | cons c rest =>
      rw [capitalized, List.forall_mem_append, forall_xidContinue_toUpper_iff, List.forall_mem_cons]

theorem forall_xidContinue_capitals_iff (name : String) :
    (∀ c ∈ (unicode.words name).flatMap unicode.capitalized, XidContinue c)
      ↔ ∀ c ∈ lettersOf name, XidContinue c := by
  rw [← forall_xidContinue_words_iff]
  simp only [List.mem_flatMap, List.mem_flatten, forall_exists_index, and_imp]
  constructor
  · intro h c word hword hc
    exact (forall_xidContinue_capitalized_iff word).mp (fun d hd => h d word hword hd) c hc
  · intro h c word hword hc
    exact (forall_xidContinue_capitalized_iff word).mpr (fun d hd => h d word hword hd) c hc

/-- Only the iota below a letter has it for its lower case. -/
theorem eq_iotaBelow_of_toLower_iff {c d : Char} {lower : List Char}
    (h : unicode.toLower c = d :: lower) : d = iotaBelow ↔ c = iotaBelow := by
  constructor
  · rintro rfl
    exact eq_of_mem_mapCase (by decide) (by decide +kernel) (by decide +kernel)
      (h ▸ List.mem_cons_self)
  · rintro rfl
    have hself : unicode.toLower iotaBelow = [iotaBelow] := by decide +kernel
    exact List.head_eq_of_cons_eq (h.symm.trans hself)

/-- What a name makes the name of a type of: its capitalized words. They start
with the upper case of the lower case of its first letter or numeral. -/
theorem exists_finished_of_pascalCase (h : unicode.pascalCase name = some identifier) :
    ∃ c d lower u upper, (lettersOf name).head? = some c ∧ unicode.toLower c = d :: lower
      ∧ unicode.toUpper d = u :: upper ∧ u ≠ '_'
      ∧ ((unicode.words name).flatMap unicode.capitalized).head? = some u
      ∧ identifier = unicode.finished ((unicode.words name).flatMap unicode.capitalized) := by
  rw [pascalCase] at h
  cases hwords : unicode.words name with
  | nil => simp [hwords] at h
  | cons word others =>
      rw [hwords, Option.some.injEq] at h
      obtain ⟨c, d, lower, rest, hfirst, hlower, rfl, hd⟩ := exists_of_words_eq_cons hwords
      have hne : unicode.toUpper d ≠ [] := mapCase_ne_nil (by decide) d
      obtain ⟨u, upper, hupper⟩ := List.exists_cons_of_ne_nil hne
      have hhead : (((d :: rest) :: others).flatMap unicode.capitalized).head? = some u := by
        rw [List.flatMap_cons, capitalized, hupper]
        rfl
      have hu : u ≠ '_' := by
        rintro rfl
        have hforeign := foreign_unicode '_' (by decide)
        exact hd (hforeign.eq_of_toUpper d (hupper ▸ List.mem_cons_self))
      exact ⟨c, d, lower, u, upper, hfirst, hlower, hupper, hu, hhead, h.symm⟩

/-- No name of a type is a text that is no identifier. -/
theorem not_mem_reserved_of_pascalCase (h : unicode.pascalCase name = some identifier) :
    identifier ∉ reservedTexts := by
  obtain ⟨c, d, lower, u, upper, -, -, -, hu, hhead, rfl⟩ := exists_finished_of_pascalCase h
  exact finished_not_mem_reserved hhead hu

/-- A name that is used for a type makes an identifier if and only if it is
well spelled, with a letter of identifiers or the iota below to start with. -/
theorem isIdentifier_pascalCase_iff (h : unicode.pascalCase name = some identifier) :
    IsIdentifier identifier ↔ WellSpelled (fun c => XidStart c ∨ c = iotaBelow) name := by
  obtain ⟨c, d, lower, u, upper, hfirst, hlower, hupper, hu, hhead, rfl⟩ :=
    exists_finished_of_pascalCase h
  rw [isIdentifier_finished_iff hhead hu, forall_xidContinue_capitals_iff, WellSpelled, hfirst,
    numeric_of_toUpper hupper, numeric_of_toLower hlower, xidStart_of_toUpper_iff hupper,
    xidStart_of_toLower_iff hlower, eq_iotaBelow_of_toLower_iff hlower]
  simp

/-- What is put behind the name of a type can go on with an identifier if the
letters and numerals of its name can. -/
theorem xidContinue_trimUnderscores (h : unicode.pascalCase name = some identifier)
    (hletters : ∀ c ∈ lettersOf name, XidContinue c) :
    ∀ c ∈ (trimUnderscores identifier).toList, XidContinue c := by
  obtain ⟨c, d, lower, u, upper, -, -, -, -, -, rfl⟩ := exists_finished_of_pascalCase h
  have hall := xidContinue_finished ((forall_xidContinue_capitals_iff name).mpr hletters)
  intro d hd
  rw [trimUnderscores, String.toList_ofList] at hd
  exact hall d ((List.rdropWhile_prefix (· = '_') _).subset hd)

end LetterRules

end KeyTree
