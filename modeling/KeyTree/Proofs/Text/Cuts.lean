import KeyTree.Proofs.Text.Spelling

/-!
# `KeyTree.Proofs.Text.Cuts`: where words are cut

`wordsFrom` walks along a name with the open word and the character in front of
the rest. The same words come out of a loop over the positions of the name that
looks one position back and one ahead (`wordsByPosition?`). Such a loop could
look at a position that is not there, and gives nothing then.

Both are followed position by position. `Reached` says what holds once a front
part of the name is taken in: which words are complete, which one is open, and
that the open one has characters exactly behind a letter or a numeral. Each
position keeps this (`Reached.step`), and so does the loop (`exists_reached`).

* `wordsByPosition?_eq`: the loop never looks outside of the name.
* `endsBehind_cons_iff`: between two letters a word ends exactly at a change of
  case.
* `words_lose_nothing`: both together, for any classes of characters and any
  lower case in which no character vanishes.
-/

set_option autoImplicit false

namespace KeyTree.LetterRules

variable (rules : LetterRules)

/-! ### Words by position -/

/-- The words in front of a position: those that are complete, and the open one. -/
structure Splitting where
  complete : List (List Char)
  current : List Char
  deriving DecidableEq, Repr

/-- The words if nothing else belongs to the open one. -/
def Splitting.closed (splitting : Splitting) : List (List Char) :=
  splitting.complete ++ if splitting.current.isEmpty then [] else [splitting.current]

/-- The character in front of a position, if there is one. -/
def charBefore? (text : List Char) : Nat → Option Char
  | 0 => none
  | i + 1 => text[i]?

/-- Takes in the character at a position. For a capital behind an open word the
character in front of it is needed, and without one there is no result. -/
def takeAt (text : List Char) (splitting : Splitting) (i : Nat) : Option Splitting := do
  let c ← text[i]?
  if ! rules.alphanumeric c then some ⟨splitting.closed, []⟩
  else if rules.uppercase c && ! splitting.current.isEmpty then
    let before ← charBefore? text i
    let nextLower := text[i + 1]?.any rules.lowercase
    if rules.lowercase before || rules.numeric before || (rules.uppercase before && nextLower) then
      some ⟨splitting.closed, rules.toLower c⟩
    else some ⟨splitting.complete, splitting.current ++ rules.toLower c⟩
  else some ⟨splitting.complete, splitting.current ++ rules.toLower c⟩

/-- The words of a text, by a loop over its positions. -/
def wordsByPosition? (text : List Char) : Option (List (List Char)) :=
  ((List.range text.length).foldlM (rules.takeAt text) ⟨[], []⟩).map Splitting.closed

/-- The letters and numerals of a text in lower case. -/
def lowered (text : List Char) : List Char :=
  (text.filter rules.alphanumeric).flatMap rules.toLower

/-- What holds when `front` is taken in and `back` is still to come. -/
structure Reached (front back : List Char) (splitting : Splitting) : Prop where
  words : rules.wordsFrom [] none (front ++ back)
    = splitting.complete ++ rules.wordsFrom splitting.current front.getLast? back
  letters : splitting.complete.flatten ++ splitting.current = rules.lowered front
  opened : splitting.current ≠ [] ↔ ∃ c ∈ front.getLast?, rules.alphanumeric c = true

variable {rules} {front back : List Char} {splitting : Splitting} {c : Char}

theorem lowered_append (rules : LetterRules) (front back : List Char) :
    rules.lowered (front ++ back) = rules.lowered front ++ rules.lowered back := by
  simp [lowered]

theorem lowered_of_letter (hc : rules.alphanumeric c = true) :
    rules.lowered [c] = rules.toLower c := by
  simp [lowered, hc]

theorem lowered_of_not_letter (hc : rules.alphanumeric c = false) : rules.lowered [c] = [] := by
  simp [lowered, hc]

theorem Splitting.flatten_closed (splitting : Splitting) :
    splitting.closed.flatten = splitting.complete.flatten ++ splitting.current := by
  rw [closed]
  cases hcurrent : splitting.current <;> simp

/-- The three positions that are looked at: the one in front is there unless the
text starts here. -/
theorem getElem?_around (front back : List Char) (c : Char) :
    (front ++ c :: back)[front.length]? = some c
      ∧ charBefore? (front ++ c :: back) front.length = front.getLast?
      ∧ (front ++ c :: back)[front.length + 1]? = back.head? := by
  refine ⟨by simp, ?_, ?_⟩
  · cases hlength : front.length with
    | zero => simp [charBefore?, List.eq_nil_of_length_eq_zero hlength]
    | succ n =>
        have hn : n < front.length := by omega
        rw [charBefore?, List.getElem?_append_left hn, List.getLast?_eq_getElem?, hlength]
        rfl
  · rw [List.getElem?_append_right (by omega), show front.length + 1 - front.length = 1 by omega]
    cases back <;> rfl

namespace Reached

/-- A character that is no letter closes the open word. -/
theorem closed (h : rules.Reached front (c :: back) splitting)
    (hc : rules.alphanumeric c = false) :
    rules.Reached (front ++ [c]) back ⟨splitting.closed, []⟩ where
  words := by
    rw [List.append_assoc, List.singleton_append, h.words, wordsFrom, if_pos (by simp [hc]),
      Splitting.closed, List.append_assoc, List.getLast?_concat]
  letters := by
    rw [Splitting.flatten_closed, List.append_nil, h.letters, lowered_append,
      lowered_of_not_letter hc, List.append_nil]
  opened := by simp [hc]

/-- At a cut a letter starts a new word. -/
theorem cut (h : rules.Reached front (c :: back) splitting) (hlowers : rules.Lowers)
    (hc : rules.alphanumeric c = true) (hopen : splitting.current ≠ [])
    (hcut : front.getLast?.any (rules.cutsBetween · c back.head?) = true) :
    rules.Reached (front ++ [c]) back ⟨splitting.closed, rules.toLower c⟩ where
  words := by
    rw [List.append_assoc, List.singleton_append, h.words, wordsFrom, if_neg (by simp [hc])]
    simp [hopen, hcut, Splitting.closed]
  letters := by
    rw [Splitting.flatten_closed, h.letters, lowered_append, lowered_of_letter hc]
  opened := by simpa [hc] using hlowers c

/-- Elsewhere a letter goes to the open word. -/
theorem goOn (h : rules.Reached front (c :: back) splitting) (hlowers : rules.Lowers)
    (hc : rules.alphanumeric c = true)
    (hcut : splitting.current ≠ [] →
      front.getLast?.any (rules.cutsBetween · c back.head?) = false) :
    rules.Reached (front ++ [c]) back
      ⟨splitting.complete, splitting.current ++ rules.toLower c⟩ where
  words := by
    have hno : (! splitting.current.isEmpty
        && front.getLast?.any (rules.cutsBetween · c back.head?)) = false := by
      by_cases hopen : splitting.current = []
      · simp [hopen]
      · simp [hcut hopen]
    rw [List.append_assoc, List.singleton_append, h.words, wordsFrom, if_neg (by simp [hc])]
    simp [hno]
  letters := by
    rw [← List.append_assoc, h.letters, lowered_append, lowered_of_letter hc]
  opened := by simp [hc, hlowers c]

/-- Taking in one character keeps what holds, and does not fail: behind an open
word there is a character to look back at. -/
theorem step (h : rules.Reached front (c :: back) splitting) (hlowers : rules.Lowers) :
    ∃ next, rules.takeAt (front ++ c :: back) splitting front.length = some next
      ∧ rules.Reached (front ++ [c]) back next := by
  obtain ⟨hhere, hbefore, hahead⟩ := getElem?_around front back c
  simp only [takeAt, hhere, hbefore, hahead, Option.bind_eq_bind, Option.bind_some]
  cases hc : rules.alphanumeric c with
  | false => exact ⟨_, rfl, h.closed hc⟩
  | true =>
      -- The look back is made for a capital behind an open word only.
      by_cases hlook : (rules.uppercase c && ! splitting.current.isEmpty) = true
      · obtain ⟨hupper, hopen⟩ : rules.uppercase c = true ∧ splitting.current ≠ [] := by
          simpa using hlook
        obtain ⟨a, ha, -⟩ := h.opened.mp hopen
        rw [Option.mem_def] at ha
        have hcuts : front.getLast?.any (rules.cutsBetween · c back.head?)
            = (rules.lowercase a || rules.numeric a
              || (rules.uppercase a && back.head?.any rules.lowercase)) := by
          simp [ha, cutsBetween, hupper]
        simp only [hlook, ha, Option.bind_some]
        rw [← hcuts]
        cases hcut : front.getLast?.any (rules.cutsBetween · c back.head?) with
        | true => exact ⟨_, rfl, h.cut hlowers hc hopen hcut⟩
        | false => exact ⟨_, rfl, h.goOn hlowers hc fun _ => hcut⟩
      · -- No cut without a capital, and none without an open word.
        simp only [hlook]
        refine ⟨_, rfl, h.goOn hlowers hc fun hopen => ?_⟩
        have hupper : rules.uppercase c = false := by
          simpa [hopen] using hlook
        cases front.getLast? <;> simp [cutsBetween, hupper]

end Reached

/-- The loop comes to every position, whatever follows there. -/
theorem exists_reached (h : rules.Lowers) (front back : List Char) :
    ∃ splitting, (List.range front.length).foldlM (rules.takeAt (front ++ back)) ⟨[], []⟩
        = some splitting
      ∧ rules.Reached front back splitting := by
  induction front using List.reverseRecOn generalizing back with
  | nil => exact ⟨⟨[], []⟩, rfl, ⟨rfl, rfl, by simp⟩⟩
  | append_singleton front c ih =>
      obtain ⟨splitting, hrun, hreached⟩ := ih (c :: back)
      obtain ⟨next, hnext, hreached⟩ := hreached.step h
      refine ⟨next, ?_, hreached⟩
      rw [List.append_assoc, List.singleton_append, List.length_append, List.length_singleton,
        List.range_succ, List.foldlM_append, hrun]
      simpa using hnext

/-- No position outside of the text is looked at, and the words are the same. -/
theorem wordsByPosition?_eq (h : rules.Lowers) (text : List Char) :
    rules.wordsByPosition? text = some (rules.wordsFrom [] none text) := by
  obtain ⟨splitting, hrun, hreached⟩ := exists_reached h text []
  rw [List.append_nil] at hrun
  have hwords := hreached.words
  rw [List.append_nil, wordsFrom] at hwords
  rw [wordsByPosition?, hrun, hwords]
  rfl

/-! ### Ends of words -/

/-- Some words of the name, from the first on, make up the front part of it. -/
def EndsBehind (rules : LetterRules) (name : String) (front : List Char) : Prop :=
  ∃ taken left, rules.words name = taken ++ left ∧ taken.flatten = rules.lowered front

/-- One character either ends the open word or goes to it. -/
theorem wordsFrom_cons_cases (rules : LetterRules) (current : List Char) (before : Option Char)
    (c : Char) (rest : List Char) :
    rules.wordsFrom current before (c :: rest)
        = current :: rules.wordsFrom (rules.lowered [c]) (some c) rest
      ∨ rules.wordsFrom current before (c :: rest)
        = rules.wordsFrom (current ++ rules.lowered [c]) (some c) rest := by
  rw [wordsFrom]
  cases hc : rules.alphanumeric c with
  | false =>
      rw [lowered_of_not_letter hc]
      by_cases hopen : current = []
      · right
        simp [hopen]
      · left
        simp [hopen]
  | true =>
      rw [lowered_of_letter hc, if_neg (by simp)]
      dsimp only
      split
      · exact .inl rfl
      · exact .inr rfl

/-- The first word of what follows goes on with the open word. -/
theorem exists_wordsFrom_eq_cons (rules : LetterRules) {current : List Char} (h : current ≠ [])
    (before : Option Char) (text : List Char) :
    ∃ more others, rules.wordsFrom current before text = (current ++ more) :: others := by
  induction text generalizing current before with
  | nil => exact ⟨[], [], by simp [wordsFrom, h]⟩
  | cons c rest ih =>
      rcases wordsFrom_cons_cases rules current before c rest with hends | hgoes
      · exact ⟨[], _, by rw [hends, List.append_nil]⟩
      · obtain ⟨more, others, hmore⟩ :=
          ih (List.append_ne_nil_of_left_ne_nil h (rules.lowered [c])) (some c)
        exact ⟨rules.lowered [c] ++ more, others, by rw [hgoes, hmore, List.append_assoc]⟩

/-- A word ends at a position with an open word if and only if the open word is
complete there. -/
theorem Reached.endsBehind_iff {name : String} (hname : name.toList = front ++ back)
    (h : rules.Reached front back splitting) (hopen : splitting.current ≠ []) :
    rules.EndsBehind name front
      ↔ ∃ others, rules.wordsFrom splitting.current front.getLast? back
          = splitting.current :: others := by
  have hwords : rules.words name = _ := (congrArg (rules.wordsFrom [] none) hname).trans h.words
  rw [EndsBehind, hwords, ← h.letters]
  constructor
  · intro ⟨taken, left, hsplit, hflat⟩
    obtain ⟨more, others, hgoes⟩ :=
      exists_wordsFrom_eq_cons rules hopen front.getLast? back
    rw [hgoes] at hsplit ⊢
    rcases List.append_eq_append_iff.mp hsplit with ⟨ends, rfl, hends⟩ | ⟨rest, hcomplete, -⟩
    · rw [List.flatten_append, List.append_cancel_left_eq] at hflat
      cases ends with
      | nil => exact absurd hflat.symm hopen
      | cons word rest =>
          -- The open word and more would be no longer than the open word.
          obtain ⟨rfl, -⟩ := List.cons.inj hends
          rw [List.flatten_cons, List.append_assoc, List.append_right_eq_self] at hflat
          rw [(List.append_eq_nil_iff.mp hflat).1, List.append_nil]
          exact ⟨others, rfl⟩
    · -- Without the open word the letters are too few.
      rw [hcomplete, List.flatten_append, List.append_assoc, eq_comm,
        List.append_right_eq_self] at hflat
      exact absurd (List.append_eq_nil_iff.mp hflat).2 hopen
  · intro ⟨others, hothers⟩
    refine ⟨splitting.complete ++ [splitting.current], others, ?_, by simp⟩
    rw [hothers, List.append_assoc, List.singleton_append]

/-- Behind a character that is no letter all words are complete. -/
theorem endsBehind_of_not_letter (h : rules.Lowers) {name : String}
    (hname : name.toList = front ++ c :: back) (hc : rules.alphanumeric c = false) :
    rules.EndsBehind name front := by
  obtain ⟨splitting, -, hreached⟩ := exists_reached h front (c :: back)
  have hclosed := hreached.closed hc
  refine ⟨splitting.closed, rules.wordsFrom [] (some c) back, ?_, ?_⟩
  · rw [words, hname, ← List.singleton_append, ← List.append_assoc, hclosed.words,
      List.getLast?_concat]
  · rw [Splitting.flatten_closed, hreached.letters]

/-- Between two letters a word ends exactly before a capital that stands behind
a small letter or a numeral, or behind a capital and before a small letter. -/
theorem endsBehind_cons_iff (h : rules.Lowers) {name : String} {a b : Char}
    (hname : name.toList = front ++ a :: b :: back) (ha : rules.alphanumeric a = true)
    (hb : rules.alphanumeric b = true) :
    rules.EndsBehind name (front ++ [a]) ↔ rules.cutsBetween a b back.head? = true := by
  rw [← List.singleton_append, ← List.append_assoc] at hname
  obtain ⟨splitting, -, hreached⟩ := exists_reached h (front ++ [a]) (b :: back)
  have hopen : splitting.current ≠ [] := hreached.opened.mpr ⟨a, by simp, ha⟩
  rw [hreached.endsBehind_iff hname hopen, List.getLast?_concat, wordsFrom, if_neg (by simp [hb])]
  cases hcut : rules.cutsBetween a b back.head? with
  | true => simp [hopen, hcut]
  | false =>
      -- The lower case of the second letter goes to the word.
      obtain ⟨more, others, hgoes⟩ := exists_wordsFrom_eq_cons rules
        (List.append_ne_nil_of_left_ne_nil hopen (rules.toLower b)) (some b) back
      simp [hcut, hgoes, h b]

/-- Words end between characters only: what a character becomes in lower case
stays together. -/
theorem exists_front_of_wordsFrom {current : List Char} {before : Option Char} {text : List Char}
    {taken left : List (List Char)} (h : rules.wordsFrom current before text = taken ++ left) :
    taken = [] ∨ ∃ front back, text = front ++ back
      ∧ taken.flatten = current ++ rules.lowered front := by
  cases taken with
  | nil => exact .inl rfl
  | cons word taken =>
      right
      induction text generalizing current before word taken with
      | nil =>
          rw [wordsFrom] at h
          split at h
          · cases h
          · obtain ⟨rfl, hnil⟩ := List.cons.inj h
            refine ⟨[], [], rfl, ?_⟩
            simp [(List.append_eq_nil_iff.mp hnil.symm).1, lowered]
      | cons c rest ih =>
          rcases wordsFrom_cons_cases rules current before c rest with hends | hgoes
          · obtain ⟨rfl, hrest⟩ := List.cons.inj (hends.symm.trans h)
            cases taken with
            | nil => exact ⟨[], c :: rest, rfl, by simp [lowered]⟩
            | cons next taken =>
                obtain ⟨front, back, rfl, hflat⟩ := ih _ _ hrest
                refine ⟨c :: front, back, rfl, ?_⟩
                rw [List.flatten_cons, hflat, ← lowered_append]
                rfl
          · obtain ⟨front, back, rfl, hflat⟩ := ih _ _ (hgoes.symm.trans h)
            refine ⟨c :: front, back, rfl, ?_⟩
            rw [hflat, List.append_assoc, ← lowered_append]
            rfl

/-! ### Words and names -/

/-- Splitting a name into words loses nothing, whatever characters count as
letters and numerals, as long as none vanishes in lower case.

A loop over the positions of the name that looks back and ahead never leaves it.
The words one behind the other are the letters and numerals in lower case, and
none is empty. They end between characters, always in front of what is no letter
or numeral, and between two letters or numerals exactly if the second is a
capital and the first is a small letter, or a numeral, or a capital while a small
letter follows on the second. Exactly the names without letters and numerals make
no name of a method or a type. -/
theorem words_lose_nothing (h : rules.Lowers) (name : String) :
    rules.wordsByPosition? name.toList = some (rules.words name)
      ∧ (rules.words name).flatten
          = (name.toList.filter rules.alphanumeric).flatMap rules.toLower
      ∧ (∀ word ∈ rules.words name, word ≠ [])
      ∧ (∀ taken left, rules.words name = taken ++ left →
          ∃ front back, name.toList = front ++ back ∧ taken.flatten = rules.lowered front)
      ∧ (∀ front c back, name.toList = front ++ c :: back → rules.alphanumeric c = false →
          rules.EndsBehind name front)
      ∧ (∀ front a b back, name.toList = front ++ a :: b :: back →
          rules.alphanumeric a = true → rules.alphanumeric b = true →
          (rules.EndsBehind name (front ++ [a])
            ↔ rules.uppercase b = true
              ∧ (rules.lowercase a = true ∨ rules.numeric a = true
                ∨ rules.uppercase a = true ∧ ∃ c ∈ back.head?, rules.lowercase c = true)))
      ∧ (rules.snakeCase name = none ↔ ∀ c ∈ name.toList, rules.alphanumeric c = false)
      ∧ (rules.pascalCase name = none ↔ ∀ c ∈ name.toList, rules.alphanumeric c = false) := by
  have hnone : ∀ {made : Option String}, ((∃ identifier, made = some identifier) ↔
      rules.HasLetter name) → (made = none ↔ ∀ c ∈ name.toList, rules.alphanumeric c = false) := by
    intro made hmade
    rw [← Option.not_isSome_iff_eq_none, Option.isSome_iff_exists, hmade, HasLetter]
    simp
  refine ⟨wordsByPosition?_eq h name.toList, flatten_wordsFrom [] none name.toList,
    fun word => ne_nil_of_mem_wordsFrom, fun taken left hsplit => ?_,
    fun front c back hname => endsBehind_of_not_letter h hname,
    fun front a b back hname ha hb => ?_, hnone (exists_snakeCase_iff h),
    hnone (exists_pascalCase_iff h)⟩
  · rcases exists_front_of_wordsFrom hsplit with rfl | hfront
    · exact ⟨[], name.toList, rfl, rfl⟩
    · exact hfront
  · rw [endsBehind_cons_iff h hname ha hb]
    cases back.head? <;> simp [cutsBetween, or_assoc]

/-- Of several capitals the last one starts a word, because a small letter
follows it. The one before does not. -/
theorem httpServer_cut :
    unicode.Lowers
      ∧ unicode.EndsBehind "HTTPServer" ['H', 'T', 'T', 'P']
      ∧ ¬ unicode.EndsBehind "HTTPServer" ['H', 'T', 'T'] := by
  obtain ⟨-, -, -, -, -, hcut, -, -⟩ := words_lose_nothing lowers_unicode "HTTPServer"
  refine ⟨lowers_unicode, ?_, ?_⟩
  · have hiff := hcut ['H', 'T', 'T'] 'P' 'S' ['e', 'r', 'v', 'e', 'r'] (by decide) (by decide)
      (by decide)
    exact hiff.mpr ⟨by decide, .inr (.inr ⟨by decide, 'e', rfl, by decide⟩)⟩
  · have hiff := hcut ['H', 'T'] 'T' 'P' ['S', 'e', 'r', 'v', 'e', 'r'] (by decide) (by decide)
      (by decide)
    intro hends
    obtain ⟨-, hsmall | hnumeral | ⟨-, next, hnext, hlower⟩⟩ := hiff.mp hends
    · exact absurd hsmall (by decide)
    · exact absurd hnumeral (by decide)
    · cases hnext
      exact absurd hlower (by decide)

end KeyTree.LetterRules
