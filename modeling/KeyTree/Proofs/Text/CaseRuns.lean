import KeyTree.Proofs.Text.Identifiers
import KeyTree.Proofs.Text.Xid
import Mathlib.Data.List.Chain

/-!
# `KeyTree.Proofs.Text.CaseRuns`: classes that case mappings keep

A character and its lower or upper case are in the same classes: both are
numerals or none is, and both can start an identifier, or go on with one, or
none can. The tables have to be looked through for this. For that the numbers
of a class are written as the bits of one number (`runBits`), of which a shift
compares two parts (`CharShift.Keeps`).

* `CharShift.testBit_image`: a shift that keeps a class maps the numbers of the
  class to such numbers, and the others to others.
* `inRuns_shiftBy`: so do all shifts together.
* `forall_inRuns_mapCase_iff`, `inRuns_of_mapCase_eq_cons`: so does the mapping
  of characters, where the expansions keep the class too.

There is one character whose upper case is in another class: U+0345, the iota
below a letter, can only go on with an identifier, but its upper case is a
letter of its own (`iotaBelow`).
-/

set_option autoImplicit false

namespace KeyTree

/-! ### Classes as bits -/

/-- Runs without gaps that increase. -/
def RunsIncrease (runs : List CharRun) : Prop :=
  (runs.map CharRun.first).IsChain (· ≤ ·) ∧ ∀ run ∈ runs, run.step = 1

instance (runs : List CharRun) : Decidable (RunsIncrease runs) :=
  inferInstanceAs (Decidable (_ ∧ _))

/-- The bits of the numbers of a run without gaps. -/
def CharRun.bits (run : CharRun) : Nat := (1 <<< (run.last + 1 - run.first) - 1) <<< run.first

/-- The numbers of runs without gaps, as the bits of one number, together with
given bits. These are matched on so that they are put together run by run, and
not all at the end. -/
def runBits (bits : Nat) : List CharRun → Nat
  | [] => bits
  | run :: rest =>
    match bits ||| run.bits with
    | 0 => runBits 0 rest
    | more + 1 => runBits (more + 1) rest

theorem runBits_cons (bits : Nat) (run : CharRun) (rest : List CharRun) :
    runBits bits (run :: rest) = runBits (bits ||| run.bits) rest := by
  rw [runBits]
  cases bits ||| run.bits <;> rfl

theorem testBit_runBits {runs : List CharRun} (h : RunsIncrease runs) (bits n : Nat) :
    (runBits bits runs).testBit n = (bits.testBit n || inRuns runs n) := by
  induction runs generalizing bits with
  | nil => simp [runBits, inRuns]
  | cons run rest ih =>
      obtain ⟨hchain, hsteps⟩ := h
      obtain ⟨hstep, hrest⟩ := List.forall_mem_cons.mp hsteps
      rw [runBits_cons, ih ⟨hchain.tail, hrest⟩, Nat.testBit_or, CharRun.bits,
        Nat.testBit_shiftLeft, Nat.one_shiftLeft, Nat.testBit_two_pow_sub_one, inRuns]
      by_cases hbefore : n < run.first
      · -- The runs behind start later still.
        have hlater : inRuns rest n = false := by
          cases rest with
          | nil => rfl
          | cons next others =>
              have hnext : run.first ≤ next.first := by
                simpa using List.isChain_cons_cons.mp hchain |>.1
              rw [inRuns, if_pos (by omega)]
        simp [hlater, hbefore]
      · have hfirst : run.first ≤ n := by omega
        have hrun : run.contains n = decide (n - run.first < run.last + 1 - run.first) := by
          rw [Bool.eq_iff_iff]
          simp [CharRun.contains, hstep, Nat.mod_one]
          omega
        simp [hbefore, hfirst, hrun, Bool.or_assoc]

/-- All numbers that are mapped, and those that they are mapped to, are less. -/
def caseLimit : Nat := 0x20000

/-- The numbers of a class that are below the limit, as bits. -/
def caseBits (runs : List CharRun) : Nat := runBits 0 runs % 1 <<< caseLimit

theorem testBit_caseBits {runs : List CharRun} (h : RunsIncrease runs) {n : Nat}
    (hn : n < caseLimit) : (caseBits runs).testBit n = inRuns runs n := by
  rw [caseBits, Nat.one_shiftLeft, Nat.testBit_mod_two_pow, testBit_runBits h]
  simp [hn]

/-- As many bits, each a step behind the last one. -/
def stepBits (step : Nat) : Nat → Nat
  | 0 => 0
  | count + 1 => 1 ||| stepBits step count <<< step

theorem testBit_stepBits {step count k : Nat} (h : k < count) :
    (stepBits step count).testBit (step * k) = true := by
  induction count generalizing k with
  | zero => omega
  | succ count ih =>
      rw [stepBits, Nat.testBit_or, Nat.testBit_shiftLeft]
      cases k with
      | zero => simp
      | succ k =>
          -- One step further back the bits are those of the rest.
          have hback : step * (k + 1) - step = step * k := by
            rw [Nat.mul_succ]
            omega
          have hle : step ≤ step * (k + 1) := Nat.le_mul_of_pos_right step (by omega)
          simp [hback, hle, ih (show k < count by omega)]

/-! ### Shifts -/

/-- How many numbers a run has. -/
def CharRun.count (run : CharRun) : Nat := (run.last - run.first) / run.step + 1

theorem CharRun.exists_eq_of_contains {run : CharRun} {n : Nat} (h : run.contains n = true) :
    n ≤ run.last ∧ ∃ k < run.count, n = run.first + run.step * k := by
  simp only [contains, Bool.and_eq_true, decide_eq_true_eq, beq_iff_eq] at h
  obtain ⟨⟨hfirst, hlast⟩, hstep⟩ := h
  have hsteps := Nat.mul_div_cancel' (Nat.dvd_of_mod_eq_zero hstep)
  have hcount : (n - run.first) / run.step ≤ (run.last - run.first) / run.step :=
    Nat.div_le_div_right (by omega)
  refine ⟨hlast, (n - run.first) / run.step, ?_, by omega⟩
  rw [count]
  omega

namespace CharShift

/-- The number that a member of the run is mapped to. -/
def image (shift : CharShift) (n : Nat) : Nat := (n + shift.distance).toNat

/-- The shift maps numbers below the limit to such numbers, and these are
numbers of characters. -/
structure Valid (shift : CharShift) : Prop where
  last : shift.run.last < caseLimit
  image_first : 0 ≤ shift.run.first + shift.distance
  image_last : shift.run.last + shift.distance < caseLimit
  isChar : shift.run.last + shift.distance < 0xd800 ∨ 0xdfff < shift.run.first + shift.distance

instance : DecidablePred Valid := fun shift =>
  decidable_of_iff
    (shift.run.last < caseLimit ∧ 0 ≤ shift.run.first + shift.distance
      ∧ shift.run.last + shift.distance < caseLimit
      ∧ (shift.run.last + shift.distance < 0xd800 ∨ 0xdfff < shift.run.first + shift.distance))
    ⟨fun h => ⟨h.1, h.2.1, h.2.2.1, h.2.2.2⟩, fun h => ⟨h.1, h.2, h.3, h.4⟩⟩

/-- The shift maps the numbers of a class, and no others, to such numbers, but
for some exceptions. -/
def Keeps (bits except : Nat) (shift : CharShift) : Prop :=
  bits >>> shift.image shift.run.first &&& stepBits shift.run.step shift.run.count
    = (bits ||| except) >>> shift.run.first &&& stepBits shift.run.step shift.run.count

instance (bits except : Nat) : DecidablePred (Keeps bits except) := fun _ =>
  inferInstanceAs (Decidable (_ = _))

variable {shift : CharShift} {n : Nat}

theorem Valid.of_contains (h : shift.Valid) (hn : shift.run.contains n = true) :
    n < caseLimit ∧ shift.image n < caseLimit ∧ (shift.image n).isValidChar := by
  obtain ⟨hlast, k, -, hk⟩ := CharRun.exists_eq_of_contains hn
  obtain ⟨hlimit, hfirst, himage, hchar⟩ := h
  simp only [caseLimit, image, Nat.isValidChar] at *
  omega

/-- A number is in a class that the shift keeps if and only if the number that
it is mapped to is. -/
theorem testBit_image {bits except : Nat} (hvalid : shift.Valid)
    (hkeeps : shift.Keeps bits except) (hn : shift.run.contains n = true)
    (hother : except.testBit n = false) : bits.testBit (shift.image n) = bits.testBit n := by
  obtain ⟨-, k, hk, hplace⟩ := CharRun.exists_eq_of_contains hn
  have himage : shift.image n = shift.image shift.run.first + shift.run.step * k := by
    have hfirst := hvalid.image_first
    rw [image, image, hplace]
    omega
  -- The two parts that are compared have the same bit at the number's place in the run.
  have hbit := congrArg (Nat.testBit · (shift.run.step * k)) hkeeps
  simp only [Nat.testBit_and, Nat.testBit_shiftRight, testBit_stepBits hk, Bool.and_true,
    Nat.testBit_or] at hbit
  rw [← himage, ← hplace, hother, Bool.or_false] at hbit
  exact hbit

end CharShift

/-- A number is mapped by one of the shifts, or stays. -/
theorem shiftBy_cases (shifts : List CharShift) (n : Nat) :
    shiftBy shifts n = n
      ∨ ∃ shift ∈ shifts, shift.run.contains n = true ∧ shiftBy shifts n = shift.image n := by
  induction shifts with
  | nil => exact .inl rfl
  | cons shift rest ih =>
      rw [shiftBy]
      by_cases hbefore : n < shift.run.first
      · exact .inl (if_pos hbefore)
      rw [if_neg hbefore]
      by_cases hcontains : shift.run.contains n = true
      · rw [if_pos hcontains]
        exact .inr ⟨shift, List.mem_cons_self, hcontains, rfl⟩
      · rw [if_neg hcontains]
        rcases ih with hsame | ⟨other, hother, hmapped⟩
        · exact .inl hsame
        · exact .inr ⟨other, List.mem_cons_of_mem shift hother, hmapped⟩

/-! ### Mappings -/

theorem toNat_ofNat_of_isValidChar {n : Nat} (h : n.isValidChar) : (Char.ofNat n).toNat = n := by
  rw [Char.ofNat, dif_pos h]
  rfl

/-- All shifts and expansions map numbers below the limit to such numbers, and
these are numbers of characters. -/
structure TablesValid (expansions : List (Nat × List Nat)) (shifts : List CharShift) : Prop where
  shifts : ∀ shift ∈ shifts, shift.Valid
  expansions : ∀ listed ∈ expansions, listed.1 < caseLimit
    ∧ ∀ n ∈ listed.2, n < caseLimit ∧ n.isValidChar

/-- All shifts keep a class but for some exceptions, and so do the expansions
where `asked` is what their numbers are asked for. -/
structure TablesKeep (asked : (Nat → Bool) → List Nat → Bool) (runs : List CharRun)
    (except : Nat) (expansions : List (Nat × List Nat)) (shifts : List CharShift) : Prop where
  shifts : ∀ shift ∈ shifts, shift.Keeps (caseBits runs) except
  expansions : ∀ listed ∈ expansions,
    asked (caseBits runs).testBit listed.2 = (caseBits runs).testBit listed.1

section

variable {asked : (Nat → Bool) → List Nat → Bool} {runs : List CharRun} {except : Nat}
  {expansions : List (Nat × List Nat)} {shifts : List CharShift} {c : Char}

instance : Decidable (TablesValid expansions shifts) :=
  decidable_of_iff ((∀ shift ∈ shifts, shift.Valid) ∧ ∀ listed ∈ expansions,
      listed.1 < caseLimit ∧ ∀ n ∈ listed.2, n < caseLimit ∧ n.isValidChar)
    ⟨fun h => ⟨h.1, h.2⟩, fun h => ⟨h.1, h.2⟩⟩

instance : Decidable (TablesKeep asked runs except expansions shifts) :=
  decidable_of_iff ((∀ shift ∈ shifts, shift.Keeps (caseBits runs) except)
      ∧ ∀ listed ∈ expansions,
          asked (caseBits runs).testBit listed.2 = (caseBits runs).testBit listed.1)
    ⟨fun h => ⟨h.1, h.2⟩, fun h => ⟨h.1, h.2⟩⟩

/-- A character is mapped to a character, which is in a class if and only if
the first one is. -/
theorem inRuns_shiftBy (hruns : RunsIncrease runs) (hvalid : ∀ shift ∈ shifts, shift.Valid)
    (hkeeps : ∀ shift ∈ shifts, shift.Keeps (caseBits runs) except)
    (hc : except.testBit c.toNat = false) :
    inRuns runs (Char.ofNat (shiftBy shifts c.toNat)).toNat = inRuns runs c.toNat := by
  rcases shiftBy_cases shifts c.toNat with hsame | ⟨shift, hshift, hcontains, hshifted⟩
  · rw [hsame, Char.ofNat_toNat]
  · obtain ⟨hlow, himage, hchar⟩ := (hvalid shift hshift).of_contains hcontains
    rw [hshifted, toNat_ofNat_of_isValidChar hchar, ← testBit_caseBits hruns himage,
      ← testBit_caseBits hruns hlow]
    exact CharShift.testBit_image (hvalid shift hshift) (hkeeps shift hshift) hcontains hc

/-- A character is mapped to what the expansions list for it, or by the
shifts. -/
theorem mapCase_cases (expansions : List (Nat × List Nat)) (shifts : List CharShift) (c : Char) :
    (∃ numbers, (c.toNat, numbers) ∈ expansions
        ∧ mapCase expansions shifts c = numbers.map Char.ofNat)
      ∨ mapCase expansions shifts c = [Char.ofNat (shiftBy shifts c.toNat)] := by
  rw [mapCase]
  split
  · rename_i numbers hnumbers
    obtain ⟨front, back, hlist, -⟩ := List.lookup_eq_some_iff.mp hnumbers
    exact .inl ⟨numbers, by simp [hlist], rfl⟩
  · exact .inr rfl

/-- What a character is mapped to is in a class if and only if the character
is. -/
theorem forall_inRuns_mapCase_iff (hruns : RunsIncrease runs)
    (hvalid : TablesValid expansions shifts)
    (hkeep : TablesKeep (fun inClass numbers => numbers.all inClass) runs except expansions shifts)
    (hc : except.testBit c.toNat = false) :
    (∀ d ∈ mapCase expansions shifts c, inRuns runs d.toNat = true)
      ↔ inRuns runs c.toNat = true := by
  rcases mapCase_cases expansions shifts c with ⟨numbers, hmem, hmapped⟩ | hmapped
  · obtain ⟨hlow, himages⟩ := hvalid.expansions _ hmem
    rw [hmapped, List.forall_mem_map, ← testBit_caseBits hruns hlow, ← hkeep.expansions _ hmem,
      List.all_eq_true]
    refine forall₂_congr fun n hn => ?_
    rw [toNat_ofNat_of_isValidChar (himages n hn).2, testBit_caseBits hruns (himages n hn).1]
  · rw [hmapped, List.forall_mem_singleton, inRuns_shiftBy hruns hvalid.shifts hkeep.shifts hc]

/-- The first character that a character is mapped to is in a class if and only
if the character is. -/
theorem inRuns_of_mapCase_eq_cons (hruns : RunsIncrease runs)
    (hvalid : TablesValid expansions shifts)
    (hkeep : TablesKeep (fun inClass numbers => numbers.head?.any inClass) runs except expansions
      shifts)
    (hc : except.testBit c.toNat = false) {d : Char} {rest : List Char}
    (h : mapCase expansions shifts c = d :: rest) :
    inRuns runs d.toNat = inRuns runs c.toNat := by
  rcases mapCase_cases expansions shifts c with ⟨numbers, hmem, hmapped⟩ | hmapped
  · obtain ⟨hlow, himages⟩ := hvalid.expansions _ hmem
    rw [hmapped] at h
    cases numbers with
    | nil => cases h
    | cons n others =>
        obtain ⟨himage, hchar⟩ := himages n List.mem_cons_self
        obtain rfl := List.head_eq_of_cons_eq h
        rw [toNat_ofNat_of_isValidChar hchar, ← testBit_caseBits hruns himage,
          ← testBit_caseBits hruns hlow]
        exact hkeep.expansions _ hmem
  · rw [hmapped] at h
    obtain rfl := List.head_eq_of_cons_eq h
    exact inRuns_shiftBy hruns hvalid.shifts hkeep.shifts hc

end

/-! ### The classes of identifiers -/

theorem classes_increase :
    RunsIncrease xidStartRuns ∧ RunsIncrease xidContinueRuns ∧ RunsIncrease numericRuns := by
  decide +kernel

/-- What starts an identifier can also go on with one. -/
theorem XidStart.xidContinue {c : Char} (h : XidStart c) : XidContinue c := by
  obtain ⟨hstart, hcontinue, -⟩ := classes_increase
  have hbits : runBits 0 xidStartRuns &&& runBits 0 xidContinueRuns = runBits 0 xidStartRuns := by
    decide +kernel
  have hbit := congrArg (Nat.testBit · c.toNat) hbits
  simp only [Nat.testBit_and, testBit_runBits hstart, testBit_runBits hcontinue,
    Nat.zero_testBit, Bool.false_or] at hbit
  rw [XidStart] at h
  rw [h, Bool.true_and] at hbit
  exact hbit

namespace LetterRules

/-- The iota below a letter. It is no letter by itself, but its upper case is. -/
def iotaBelow : Char := '\u0345'

/-- The lower case of characters keeps the classes of identifiers. -/
theorem lowerTables :
    TablesValid lowerExpansions lowerShifts
      ∧ TablesKeep (fun inClass numbers => numbers.all inClass) xidContinueRuns 0
          lowerExpansions lowerShifts
      ∧ TablesKeep (fun inClass numbers => numbers.head?.any inClass) numericRuns 0
          lowerExpansions lowerShifts
      ∧ TablesKeep (fun inClass numbers => numbers.head?.any inClass) xidStartRuns 0
          lowerExpansions lowerShifts := by
  decide +kernel

/-- The upper case of characters keeps the classes of identifiers, but for that
of the iota below a letter. -/
theorem upperTables :
    TablesValid upperExpansions upperShifts
      ∧ TablesKeep (fun inClass numbers => numbers.all inClass) xidContinueRuns 0
          upperExpansions upperShifts
      ∧ TablesKeep (fun inClass numbers => numbers.head?.any inClass) numericRuns 0
          upperExpansions upperShifts
      ∧ TablesKeep (fun inClass numbers => numbers.head?.any inClass) xidStartRuns
          (1 <<< iotaBelow.toNat) upperExpansions upperShifts := by
  decide +kernel

variable {c d : Char} {rest : List Char}

/-- The lower case of a character can go on with an identifier if and only if
the character can. -/
theorem forall_xidContinue_toLower_iff :
    (∀ d ∈ unicode.toLower c, XidContinue d) ↔ XidContinue c := by
  obtain ⟨hvalid, hkeep, -⟩ := lowerTables
  exact forall_inRuns_mapCase_iff classes_increase.2.1 hvalid hkeep (Nat.zero_testBit c.toNat)

/-- The upper case of a character can go on with an identifier if and only if
the character can. -/
theorem forall_xidContinue_toUpper_iff :
    (∀ d ∈ unicode.toUpper c, XidContinue d) ↔ XidContinue c := by
  obtain ⟨hvalid, hkeep, -⟩ := upperTables
  exact forall_inRuns_mapCase_iff classes_increase.2.1 hvalid hkeep (Nat.zero_testBit c.toNat)

/-- The lower case of a character starts with a numeral if and only if the
character is one. -/
theorem numeric_of_toLower (h : unicode.toLower c = d :: rest) :
    unicode.numeric d = unicode.numeric c := by
  obtain ⟨hvalid, -, hkeep, -⟩ := lowerTables
  exact inRuns_of_mapCase_eq_cons classes_increase.2.2 hvalid hkeep (Nat.zero_testBit c.toNat) h

/-- The upper case of a character starts with a numeral if and only if the
character is one. -/
theorem numeric_of_toUpper (h : unicode.toUpper c = d :: rest) :
    unicode.numeric d = unicode.numeric c := by
  obtain ⟨hvalid, -, hkeep, -⟩ := upperTables
  exact inRuns_of_mapCase_eq_cons classes_increase.2.2 hvalid hkeep (Nat.zero_testBit c.toNat) h

/-- The lower case of a character starts with a letter of identifiers if and
only if the character is one. -/
theorem xidStart_of_toLower_iff (h : unicode.toLower c = d :: rest) :
    XidStart d ↔ XidStart c := by
  obtain ⟨hvalid, -, -, hkeep⟩ := lowerTables
  have hkept := inRuns_of_mapCase_eq_cons classes_increase.1 hvalid hkeep
    (Nat.zero_testBit c.toNat) h
  rw [XidStart, XidStart, hkept]

/-- The upper case of a character starts with a letter of identifiers if and
only if the character is one, or is the iota below a letter. -/
theorem xidStart_of_toUpper_iff (h : unicode.toUpper c = d :: rest) :
    XidStart d ↔ XidStart c ∨ c = iotaBelow := by
  by_cases hc : c = iotaBelow
  · have hupper : unicode.toUpper iotaBelow = ['\u0399'] ∧ XidStart '\u0399' := by
      decide +kernel
    rw [hc, hupper.1, List.cons.injEq] at h
    rw [← h.1]
    simp [hupper.2, hc]
  · have hother : (1 <<< iotaBelow.toNat).testBit c.toNat = false := by
      rw [Nat.one_shiftLeft, Nat.testBit_two_pow, decide_eq_false_iff_not]
      intro hsame
      exact hc (Char.toNat_inj.mp hsame.symm)
    obtain ⟨hvalid, -, -, hkeep⟩ := upperTables
    have hkept := inRuns_of_mapCase_eq_cons classes_increase.1 hvalid hkeep hother h
    rw [XidStart, XidStart, hkept]
    simp [hc]

end LetterRules

end KeyTree
