import KeyTree.Command.Invocation
import KeyTree.Proofs.Except
import KeyTree.Proofs.Text.Split
import Mathlib.Data.List.TakeWhile

/-!
# `KeyTree.Proofs.Command.Request`: asking for a key on the command line

A `KeyRequest` is what a command line can ask of `render`: a key of the
document in a file, by one word with dots in it or by one word for each name,
with some assignments. There are many ways to spell a request;
`KeyRequest.words` is one of them that works for all texts, and
`KeyRequest.ofWords_words` says that it is read as meant.

An option with its value behind an equals sign is read in one step, whatever
the value is (`LineLevel.read_optionWord`). So any number of them is, by
induction (`LineLevel.read_optionWords`).
-/

set_option autoImplicit false

namespace KeyTree.Command

/-! ### Words with an equals sign -/

namespace LineLevel

/-- A value stands behind the first equals sign, and may have more of them. -/
theorem splitValue_append {name : String} (h : '=' ∉ name.toList) (value : String) :
    splitValue (name ++ "=" ++ value) = (name, some value) := by
  have hname : ∀ c ∈ name.toList, decide (c ≠ '=') = true := by
    intro c hc
    exact decide_eq_true fun heq => h (heq ▸ hc)
  have htext : (name ++ "=" ++ value).toList = name.toList ++ '=' :: value.toList := by
    simp
  unfold splitValue
  rw [htext, List.takeWhile_append_of_pos hname]
  simp

/-- Without an equals sign there is no value. -/
theorem splitValue_of_not_mem {text : String} (h : '=' ∉ text.toList) :
    splitValue text = (text, none) := by
  have htext : text.toList.takeWhile (· ≠ '=') = text.toList := by
    rw [List.takeWhile_eq_self_iff]
    intro c hc
    exact decide_eq_true fun heq => h (heq ▸ hc)
  unfold splitValue
  rw [htext]
  simp

/-- A text has a name and a value if there is an equals sign between them and
none in the name. -/
theorem splitValue_eq_iff {text name value : String} :
    splitValue text = (name, some value)
      ↔ '=' ∉ name.toList ∧ text = name ++ "=" ++ value := by
  constructor
  · intro hsplit
    by_cases hmem : '=' ∈ text.toList
    · obtain ⟨front, back, htext, hfront⟩ := List.eq_append_cons_of_mem hmem
      have hjoined : text = String.ofList front ++ "=" ++ String.ofList back := by
        apply String.toList_injective
        simp [htext]
      have hfree : '=' ∉ (String.ofList front).toList := by simpa using hfront
      rw [hjoined, splitValue_append hfree] at hsplit
      cases hsplit
      exact ⟨hfree, hjoined⟩
    · rw [splitValue_of_not_mem hmem] at hsplit
      cases hsplit
  · rintro ⟨hfree, rfl⟩
    exact splitValue_append hfree value

/-! ### Options with their values -/

/-- The word that gives an option a value. -/
def optionWord (name value : String) : String := "--" ++ name ++ "=" ++ value

variable {level : LineLevel} {name : String}

/-- An option with its value in the same word is read in one step. -/
theorem read_optionWord (hcommands : level.commands = [])
    (hoption : level.options.any (·.name = name) = true) (hname : '=' ∉ name.toList)
    (given : Given) (value : String) (rest : List String) :
    level.read given none (optionWord name value :: rest)
      = (do level.read (← level.addOption given name value) none rest) := by
  have hword : (optionWord name value).toList
      = '-' :: '-' :: (name.toList ++ '=' :: value.toList) := by
    simp [optionWord]
  have hdashes : optionWord name value ≠ "--" := by
    intro heq
    have hlist := congrArg String.toList heq
    simp [hword] at hlist
  have hstart : (optionWord name value).startsWith "--" = true := by
    rw [String.startsWith_string_iff]
    exact ⟨name.toList ++ '=' :: value.toList, by rw [hword]; rfl⟩
  have hrest : String.ofList ((optionWord name value).toList.drop 2) = name ++ "=" ++ value := by
    apply String.toList_injective
    simp [hword]
  rw [read]
  simp only [hcommands, hdashes, hstart, hrest, splitValue_append hname, hoption]
  simp

/-- Options that may be given more than once are read one after another. -/
theorem read_optionWords (hcommands : level.commands = [])
    {shape : OptionShape} (hshape : level.options.find? (·.name = name) = some shape)
    (hrepeats : shape.repeats = true) (haccepts : ∀ value, shape.accepts value = true)
    (hname : '=' ∉ name.toList) (given : Given) (values rest : List String) :
    level.read given none (values.map (optionWord name) ++ rest)
      = level.read { given with options := given.options ++ values.map (name, ·) } none rest := by
  have hoption : level.options.any (·.name = name) = true := by
    rw [List.any_eq_true, ← List.find?_isSome, hshape]
    rfl
  induction values generalizing given with
  | nil => simp
  | cons value values ih =>
      have hadded : level.addOption given name value
          = .ok { given with options := given.options ++ [(name, value)] } := by
        simp [addOption, hshape, hrepeats, haccepts]
      rw [List.map_cons, List.cons_append, read_optionWord hcommands hoption hname, hadded]
      show level.read _ none _ = _
      rw [ih]
      simp

/-- Behind two dashes there are operands only. -/
theorem read_dashes (hcommands : level.commands = []) (given : Given) (rest : List String) :
    level.read given none ("--" :: rest)
      = (do .ok ⟨← level.readOperands given rest, none⟩) := by
  rw [read]
  simp [hcommands]

end LineLevel

/-! ### Requests -/

/-- How a key is asked for. -/
inductive KeyWords where
  /-- By its names in one word, with dots between them. -/
  | dotted (word : String)
  /-- By its names one by one, of which there is at least one. -/
  | segments (first : String) (others : List String)
  deriving DecidableEq, Repr

namespace KeyWords

/-- The names that lead to the key. -/
def path : KeyWords → List String
  | dotted word => (word.toList.splitOn '.').map String.ofList
  | segments first others => first :: others

/-- The operands that name the key. -/
def operands : KeyWords → List String
  | dotted word => [word]
  | segments _ _ => []

/-- The names that are given one by one. -/
def listed : KeyWords → List String
  | dotted _ => []
  | segments first others => first :: others

end KeyWords

/-- What a command line can ask of `render`. -/
structure KeyRequest where
  file : String
  /-- What the keys are joined by, if not by what the document says. -/
  separator : Option String
  key : KeyWords
  /-- Names of slots with the texts of their values. -/
  assignments : List String
  deriving DecidableEq, Repr

namespace KeyRequest

/-- The request as an invocation. -/
def invocation (request : KeyRequest) : Invocation :=
  ⟨request.file, request.separator, .render request.key.path request.assignments⟩

/-- A command line that makes the request. Texts that may start with a dash
stand behind an equals sign, or at the end. -/
def words (request : KeyRequest) : List String :=
  "render" :: (request.separator.toList.map (LineLevel.optionWord "separator")
    ++ (request.key.listed.map (LineLevel.optionWord "segment")
      ++ (request.assignments.map (LineLevel.optionWord "arg")
        ++ "--" :: request.file :: request.key.operands)))

/-- What the request's command line gives. -/
def given (request : KeyRequest) : Given where
  options := request.separator.toList.map ("separator", ·)
    ++ request.key.listed.map ("segment", ·) ++ request.assignments.map ("arg", ·)
  operands := request.file :: request.key.operands

/-- The options of a name among options that all have the same. -/
theorem filter_options (name other : String) (values : List String) :
    (values.map (other, ·)).filter (·.1 = name)
      = if other = name then values.map (other, ·) else [] := by
  split
  · simp [*]
  · simp [*]

/-- The command's level is read to its end. -/
theorem read_words {request : KeyRequest} (h : request.file ≠ "") :
    (levelOf "render").read .nothing none request.words.tail = .ok ⟨request.given, none⟩ := by
  have hseparator : ∀ rest, (levelOf "render").read .nothing none
        (request.separator.toList.map (LineLevel.optionWord "separator") ++ rest)
      = (levelOf "render").read ⟨request.separator.toList.map ("separator", ·), []⟩ none rest := by
    intro rest
    cases request.separator with
    | none => rfl
    | some separator =>
        show (levelOf "render").read .nothing none (_ :: rest) = _
        rw [LineLevel.read_optionWord rfl (by decide) (by decide)]
        rfl
  have hoperands : ∀ options, (levelOf "render").readOperands ⟨options, []⟩
      (request.file :: request.key.operands)
        = .ok ⟨options, request.file :: request.key.operands⟩ := by
    intro options
    have hfile : (levelOf "render").addOperand ⟨options, []⟩ request.file
        = .ok ⟨options, [request.file]⟩ := by
      show (if isPath request.file = true then _ else _) = _
      rw [if_pos (by simp [isPath, h])]
      rfl
    rw [LineLevel.readOperands, List.foldlM_cons, hfile]
    cases request.key <;> rfl
  have hsegment : (levelOf "render").options.find? (·.name = "segment")
      = some ⟨"segment", true, anyText⟩ := rfl
  have harg : (levelOf "render").options.find? (·.name = "arg")
      = some ⟨"arg", true, anyText⟩ := rfl
  -- The groups of words are read one after another, and add what they give.
  show (levelOf "render").read .nothing none (_ ++ (_ ++ (_ ++ _))) = _
  rw [hseparator, LineLevel.read_optionWords rfl hsegment rfl (fun _ => rfl) (by decide),
    LineLevel.read_optionWords rfl harg rfl (fun _ => rfl) (by decide)]
  rw [LineLevel.read_dashes rfl, hoperands]
  rfl

/-- The request's command line is read as meant, if the file has a name at
all. -/
theorem ofWords_words {request : KeyRequest} (h : request.file ≠ "") :
    Invocation.ofWords request.words = .ok request.invocation := by
  have houter : programLevel.read .nothing none request.words
      = .ok ⟨.nothing, some ("render", request.words.tail)⟩ := rfl
  have hassignments : request.given.values "arg" = request.assignments := by
    simp [Given.values, given, filter_options, Function.comp_def]
  have hlisted : request.given.values "segment" = request.key.listed := by
    simp [Given.values, given, filter_options, Function.comp_def]
  have hseparator : request.given.value? "separator" = request.separator := by
    rw [Given.value?, given]
    cases request.separator with
    | none =>
        rw [List.lookup_eq_none_iff]
        intro option hoption
        have hname : option.1 = "segment" ∨ option.1 = "arg" := by
          rcases (by simpa using hoption) with ⟨_, _, rfl⟩ | ⟨_, _, rfl⟩ <;> simp
        rcases hname with hname | hname <;> simp [hname]
    | some separator => rfl
  have hpath : renderPath? request.given.operands[1]? (request.given.values "segment")
      = some request.key.path := by
    rw [hlisted, given]
    cases request.key with
    | dotted word => exact congrArg some (splitOn_singleton word '.')
    | segments first others => rfl
  have htask : taskOf? "render" request.given
      = some (.render request.key.path request.assignments) := by
    show Option.map _ _ = _
    rw [hpath, hassignments]
    rfl
  refine bind_eq_ok_iff.mpr ⟨_, houter, bind_eq_ok_iff.mpr ⟨_, read_words h, ?_⟩⟩
  have hfile : request.given.operands.head? = some request.file := rfl
  simp only [hfile, htask, hseparator, invocation, Except.ok.injEq]
  cases request.separator <;> rfl

end KeyRequest

end KeyTree.Command
