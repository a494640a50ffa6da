import KeyTree.Command.Run
import KeyTree.Proofs.Command.Request
import KeyTree.Proofs.Compiled.Outcome
import KeyTree.Proofs.Document.Written
import KeyTree.Proofs.Except
import Mathlib.Data.List.Induction

/-!
# `KeyTree.Proofs.Command.Render`: `render` agrees with the listing

`render` looks a key up in the list of templates and reads the assignments
for the template it finds, but the key itself is built by a walk through the
compiled tree, from the arguments that the assignments have left. Both agree:
what the list promises is what is built.

* `Template.holds_addAssignment` is the step: once an assignment has been
  read, the arguments hold the last value of each name so far (`Holds`).
  `Template.holds_foldlM` is the run, for all assignments.
* `Template.exists_foldlM_iff`: the run succeeds if the template accepts
  every assignment by itself.
* `Command.exists_renderKey_iff`: so there is a key if a template with the path
  accepts every assignment, and each of its slots is assigned to.
* `Command.run_render`: the command then prints the template's pieces, filled.
  If only some slot is not assigned to, a missing argument is reported and
  nothing else.
-/

set_option autoImplicit false

namespace KeyTree

open Command

/-! ### What an assignment says -/

/-- A text that gives a name the text of a value. The name is not empty and
ends at the first equals sign. -/
def Assigns (text name given : String) : Prop :=
  name ≠ "" ∧ '=' ∉ name.toList ∧ text = name ++ "=" ++ given

/-- Some text among others gives the name a value. -/
def AssignedBy (texts : List String) (name : String) : Prop :=
  ∃ text ∈ texts, ∃ given, Assigns text name given

/-- An assignment is split into what it says. -/
theorem splitAssignment_eq_ok_iff {text name given : String} :
    splitAssignment text = .ok (name, given) ↔ Assigns text name given := by
  unfold Assigns
  rw [← LineLevel.splitValue_eq_iff, splitAssignment]
  split
  · rename_i front back hsplit
    by_cases hempty : front = ""
    · simp only [hempty, if_true, hsplit, reduceCtorEq, Prod.mk.injEq, false_iff]
      rintro ⟨hname, rfl, -⟩
      exact hname rfl
    · simp only [hempty, if_false, hsplit, Except.ok.injEq, Prod.mk.injEq, Option.some.injEq]
      constructor
      · rintro ⟨rfl, rfl⟩
        exact ⟨hempty, rfl, rfl⟩
      · exact fun h => h.2
  · rename_i front hsplit
    simp [hsplit]

/-- An assignment says one thing. -/
theorem Assigns.unique {text name other given given' : String} (h : Assigns text name given)
    (h' : Assigns text other given') : name = other ∧ given = given' := by
  have hboth := (splitAssignment_eq_ok_iff.mpr h).symm.trans (splitAssignment_eq_ok_iff.mpr h')
  simpa using hboth

namespace Template

variable {template : Template} {texts : List String} {text name : String} {value : Value}

/-- A text that gives a slot of the template a value. The value is read as
the kind of the first slot of its name. -/
def Takes (template : Template) (text name : String) (value : Value) : Prop :=
  ∃ given slot, Assigns text name given ∧ template.slots.find? (·.name = name) = some slot
    ∧ readValue slot.kind given = .ok value

/-- A text that gives some slot of the template a value. -/
def Accepts (template : Template) (text : String) : Prop :=
  ∃ name value, template.Takes text name value

/-- A text gives one name one value. -/
theorem Takes.unique {other : String} {value' : Value} (h : template.Takes text name value)
    (h' : template.Takes text other value') : name = other ∧ value = value' := by
  obtain ⟨given, slot, hassigns, hslot, hvalue⟩ := h
  obtain ⟨given', slot', hassigns', hslot', hvalue'⟩ := h'
  obtain ⟨rfl, rfl⟩ := hassigns.unique hassigns'
  rw [hslot, Option.some.injEq] at hslot'
  subst hslot'
  rw [hvalue, Except.ok.injEq] at hvalue'
  exact ⟨rfl, hvalue'⟩

/-- Adding an assignment puts the value that it gives in place of any before. -/
theorem addAssignment_eq_ok_iff {args next : Arguments} :
    addAssignment template args text = .ok next
      ↔ ∃ name value, template.Takes text name value ∧ next = args.insert name (some value) := by
  unfold addAssignment
  rw [bind_eq_ok_iff]
  constructor
  · rintro ⟨⟨name, given⟩, hsplit, hadded⟩
    have hassigns := splitAssignment_eq_ok_iff.mp hsplit
    cases hslot : template.slots.find? (·.name = name) with
    | none => simp [hslot] at hadded
    | some slot =>
        simp only [hslot] at hadded
        obtain ⟨value, hvalue, hnext⟩ := bind_eq_ok_iff.mp hadded
        exact ⟨name, value, ⟨given, slot, hassigns, hslot, hvalue⟩, (Except.ok.inj hnext).symm⟩
  · rintro ⟨name, value, ⟨given, slot, hassigns, hslot, hvalue⟩, rfl⟩
    refine ⟨(name, given), splitAssignment_eq_ok_iff.mpr hassigns, ?_⟩
    simp only [hslot]
    exact bind_eq_ok_iff.mpr ⟨value, hvalue, rfl⟩

/-! ### The last of several assignments -/

/-- The last value that some texts give a name. -/
def LastGiven (template : Template) (texts : List String) (name : String) (value : Value) : Prop :=
  ∃ before text after, texts = before ++ text :: after ∧ template.Takes text name value
    ∧ ¬ AssignedBy after name

/-- One more text: it gives the value, or leaves the name alone. -/
theorem lastGiven_concat_iff :
    template.LastGiven (texts ++ [text]) name value
      ↔ template.Takes text name value
        ∨ (¬ AssignedBy [text] name ∧ template.LastGiven texts name value) := by
  constructor
  · rintro ⟨before, last, after, hsplit, htakes, hafter⟩
    rcases List.eq_nil_or_concat after with rfl | ⟨others, final, rfl⟩
    · obtain ⟨-, rfl⟩ := List.append_singleton_inj.mp hsplit
      exact .inl htakes
    · rw [List.concat_eq_append, ← List.cons_append, ← List.append_assoc] at hsplit
      obtain ⟨rfl, rfl⟩ := List.append_singleton_inj.mp hsplit
      refine .inr ⟨?_, before, last, others, rfl, htakes, ?_⟩
      · rintro ⟨final', hfinal, given, hassigns⟩
        exact hafter ⟨final', by simp_all, given, hassigns⟩
      · rintro ⟨later, hlater, given, hassigns⟩
        exact hafter ⟨later, by simp_all, given, hassigns⟩
  · rintro (htakes | ⟨hlast, before, found, after, rfl, htakes, hafter⟩)
    · exact ⟨texts, text, [], rfl, htakes, by simp [AssignedBy]⟩
    · refine ⟨before, found, after ++ [text], by simp, htakes, ?_⟩
      rintro ⟨later, hlater, given, hassigns⟩
      rcases List.mem_append.mp hlater with hlater | hlater
      · exact hafter ⟨later, hlater, given, hassigns⟩
      · exact hlast ⟨later, hlater, given, hassigns⟩

/-- There is one last value. -/
theorem LastGiven.unique {value' : Value} (h : template.LastGiven texts name value)
    (h' : template.LastGiven texts name value') : value = value' := by
  induction texts using List.reverseRecOn with
  | nil =>
      obtain ⟨before, text, after, hsplit, -⟩ := h
      simp at hsplit
  | append_singleton texts last ih =>
      have hassigned : ∀ {value}, template.Takes last name value → AssignedBy [last] name := by
        rintro value ⟨given, slot, hassigns, -⟩
        exact ⟨last, by simp, given, hassigns⟩
      rw [lastGiven_concat_iff] at h h'
      rcases h with h | ⟨hfree, h⟩ <;> rcases h' with h' | ⟨hfree', h'⟩
      · exact (h.unique h').2
      · exact absurd (hassigned h) hfree'
      · exact absurd (hassigned h') hfree
      · exact ih h h'

/-- A name has a last value if all texts are accepted and one gives it a
value. -/
theorem exists_lastGiven_iff (h : ∀ text ∈ texts, template.Accepts text) :
    (∃ value, template.LastGiven texts name value) ↔ AssignedBy texts name := by
  constructor
  · rintro ⟨value, before, text, after, rfl, ⟨given, slot, hassigns, -, -⟩, -⟩
    exact ⟨text, by simp, given, hassigns⟩
  · rintro ⟨text, hmem, given, hassigns⟩
    induction texts using List.reverseRecOn with
    | nil => cases hmem
    | append_singleton texts last ih =>
        obtain ⟨other, value, htakes⟩ := h last (by simp)
        -- The induction is on the end of the list, where the last value stands.
        by_cases hlast : AssignedBy [last] name
        · obtain ⟨last', hlast', given', hassigns'⟩ := hlast
          obtain rfl := List.mem_singleton.mp hlast'
          obtain ⟨given'', slot, hassigns'', -⟩ := id htakes
          obtain ⟨rfl, -⟩ := hassigns'.unique hassigns''
          exact ⟨value, lastGiven_concat_iff.mpr (.inl htakes)⟩
        · have hbefore : text ∈ texts := by
            rcases List.mem_append.mp hmem with hmem | hmem
            · exact hmem
            · exact absurd ⟨text, hmem, given, hassigns⟩ hlast
          obtain ⟨value, hvalue⟩ := ih (fun text hmem => h text (by simp [hmem])) hbefore
          exact ⟨value, lastGiven_concat_iff.mpr (.inr ⟨hlast, hvalue⟩)⟩

/-! ### Reading all assignments -/

/-- The arguments hold the last value of each name, and nothing else. -/
def Holds (template : Template) (texts : List String) (args : Arguments) : Prop :=
  ∀ name value, args.value? name = some value ↔ template.LastGiven texts name value

/-- Without texts, nothing is held. -/
theorem holds_empty (template : Template) : template.Holds [] .empty := by
  intro name value
  simp [Arguments.value?, NameMap.find?, NameMap.empty, LastGiven]

/-- What arguments hold for a slot, after one more assignment. -/
theorem holds_addAssignment {done : List String} {args next : Arguments}
    (h : template.Holds done args) (hnext : addAssignment template args text = .ok next) :
    template.Holds (done ++ [text]) next := by
  obtain ⟨assigned, held, htakes, rfl⟩ := addAssignment_eq_ok_iff.mp hnext
  obtain ⟨given, slot, hassigns, -, -⟩ := id htakes
  intro name value
  rw [lastGiven_concat_iff, Arguments.value?, NameMap.find?_insert]
  by_cases hname : name = assigned
  · -- The value that has just been given is held, whatever was before.
    subst hname
    have hassigned : AssignedBy [text] name := ⟨text, by simp, given, hassigns⟩
    simp only [if_true, Option.join_some, Option.some.injEq, hassigned, not_true, false_and,
      or_false]
    constructor
    · rintro rfl
      exact htakes
    · exact fun hother => (htakes.unique hother).2
  · -- The assignment leaves any other name alone.
    have hother : ¬ template.Takes text name value :=
      fun hother => hname (hother.unique htakes).1
    have hfree : ¬ AssignedBy [text] name := by
      rintro ⟨text', htext', given', hassigns'⟩
      obtain rfl := List.mem_singleton.mp htext'
      exact hname (hassigns'.unique hassigns).1
    simp only [hname, if_false, hother, hfree, not_false_iff, true_and, false_or]
    exact h name value

/-- What arguments hold for each slot, after all assignments. -/
theorem holds_foldlM {done : List String} {args result : Arguments}
    (h : template.Holds done args)
    (hresult : texts.foldlM (addAssignment template) args = .ok result) :
    template.Holds (done ++ texts) result := by
  induction texts generalizing done args with
  | nil =>
      cases hresult
      simpa using h
  | cons text rest ih =>
      rw [List.foldlM_cons] at hresult
      obtain ⟨next, hnext, hrest⟩ := bind_eq_ok_iff.mp hresult
      have hall := ih (holds_addAssignment h hnext) hrest
      simpa using hall

/-- All assignments can be read if each of them can, whatever is held. -/
theorem exists_foldlM_iff {args : Arguments} :
    (∃ result, texts.foldlM (addAssignment template) args = .ok result)
      ↔ ∀ text ∈ texts, template.Accepts text := by
  induction texts generalizing args with
  | nil => exact ⟨fun _ => nofun, fun _ => ⟨args, rfl⟩⟩
  | cons text rest ih =>
      rw [List.forall_mem_cons]
      constructor
      · rintro ⟨result, hresult⟩
        rw [List.foldlM_cons] at hresult
        obtain ⟨next, hnext, hrest⟩ := bind_eq_ok_iff.mp hresult
        obtain ⟨name, value, htakes, -⟩ := addAssignment_eq_ok_iff.mp hnext
        exact ⟨⟨name, value, htakes⟩, ih.mp ⟨result, hrest⟩⟩
      · rintro ⟨⟨name, value, htakes⟩, hrest⟩
        obtain ⟨result, hresult⟩ := (@ih (args.insert name (some value))).mpr hrest
        refine ⟨result, ?_⟩
        rw [List.foldlM_cons]
        exact bind_eq_ok_iff.mpr
          ⟨_, addAssignment_eq_ok_iff.mpr ⟨name, value, htakes, rfl⟩, hresult⟩

/-! ### Building the key -/

/-- What a piece puts into the key: a literal itself, a slot the text of the
last value of its name. -/
def Token (template : Template) (texts : List String) : Piece → String → Prop
  | .literal text, token => token = text
  | .slot slot, token => ∃ value, template.LastGiven texts slot.name value ∧ token = value.segment

/-- Pieces have one token each. -/
theorem tokens_unique {pieces : List Piece} {tokens others : List String}
    (h : List.Forall₂ (template.Token texts) pieces tokens)
    (h' : List.Forall₂ (template.Token texts) pieces others) : tokens = others := by
  refine List.right_unique_forall₂' ?_ h h'
  intro piece token other htoken hother
  cases piece with
  | literal text => exact htoken.trans hother.symm
  | slot slot =>
      obtain ⟨value, hvalue, rfl⟩ := htoken
      obtain ⟨value', hvalue', rfl⟩ := hother
      rw [hvalue.unique hvalue']

/-- With the last values held, a slot is filled if its name is assigned to. -/
theorem fills_iff_of_holds {args : Arguments} (h : template.Holds texts args)
    (haccepts : ∀ text ∈ texts, template.Accepts text) (slot : Slot) :
    args.Fills slot ↔ AssignedBy texts slot.name := by
  rw [← exists_lastGiven_iff haccepts, Arguments.Fills, Option.isSome_iff_exists]
  exact exists_congr fun value => h slot.name value

/-- With the last values held, pieces are filled with their tokens. -/
theorem tokens_of_holds {args : Arguments} (h : template.Holds texts args) {pieces : List Piece}
    (hfills : ∀ slot ∈ slotsOf pieces, args.Fills slot) :
    List.Forall₂ (template.Token texts) pieces (pieces.map (Piece.filled args)) := by
  induction pieces with
  | nil => exact .nil
  | cons piece rest ih =>
      cases piece with
      | literal text => exact .cons rfl (ih hfills)
      | slot slot =>
          rw [slotsOf_slot, List.forall_mem_cons] at hfills
          obtain ⟨value, hvalue⟩ := Option.isSome_iff_exists.mp hfills.1
          have htoken : Piece.filled args (.slot slot) = value.segment := by
            simp [Piece.filled, Arguments.segment?, hvalue]
          exact .cons ⟨value, (h slot.name value).mp hvalue, htoken⟩ (ih hfills.2)

end Template

/-- The template that is found for a path is the one that has it. -/
theorem Schema.find?_templates_eq_some_iff {schema : Schema} {path : List String}
    {template : Template} :
    schema.templates.find? (·.path = path) = some template
      ↔ template ∈ schema.templates ∧ template.path = path := by
  have hlisted : ∀ {found}, schema.templates.find? (·.path = path) = some found →
      found ∈ schema.templates ∧ found.path = path := by
    intro found hfound
    exact ⟨List.mem_of_find?_eq_some hfound, by simpa using List.find?_some hfound⟩
  refine ⟨hlisted, fun h => ?_⟩
  cases hfound : schema.templates.find? (·.path = path) with
  | none => exact absurd h.2 (by simpa using List.find?_eq_none.mp hfound template h.1)
  | some found =>
      -- A path leads to one template only.
      have hat := (Level.mem_templates_iff_templateAt? schema.ordered path template).mp h
      have hat' := (Level.mem_templates_iff_templateAt? schema.ordered path found).mp
        (hlisted hfound)
      rw [hat, Option.some.injEq] at hat'
      rw [hat']

namespace Command

variable {document : Document} {path assignments : List String} {template : Template}

/-- What comes of a key whose template accepts all assignments: the key, if
all slots are assigned to, or else a missing argument. -/
theorem renderKey_of_accepts (hlisted : template ∈ document.schema.templates)
    (hpath : template.path = path) (haccepts : ∀ text ∈ assignments, template.Accepts text) :
    ((∀ slot ∈ template.slots, AssignedBy assignments slot.name)
        ∧ ∃ tokens, List.Forall₂ (template.Token assignments) template.pieces tokens
          ∧ renderKey document path assignments = .ok (document.separator.intercalate tokens))
      ∨ ∃ slot ∈ template.slots, ¬ AssignedBy assignments slot.name
          ∧ ∃ place, renderKey document path assignments
            = .error (.resolve (.missing ⟨slot.name, place⟩)) := by
  obtain ⟨args, hargs⟩ := Template.exists_foldlM_iff.mpr haccepts
  have hholds : template.Holds ([] ++ assignments) args :=
    Template.holds_foldlM (Template.holds_empty template) hargs
  have hfills := Template.fills_iff_of_holds hholds haccepts
  have hrender : renderKey document path assignments
      = (document.compile.result.resolve path args).result.mapError .resolve := by
    unfold renderKey
    rw [Schema.find?_templates_eq_some_iff.mpr ⟨hlisted, hpath⟩]
    show (assignments.foldlM (addAssignment template) .empty >>= _) = _
    rw [hargs]
    rfl
  have hresolves := Schema.resolvesTo_of_mem_templates hlisted document.separator args
  rw [hrender, ← hpath]
  -- The walk to a template's key ends with the key or with a missing argument.
  rcases hresolves.cases with ⟨hnone, hkey⟩ | ⟨slot, place, hslot, herror⟩
  · have hslots := Arguments.firstMissing?_eq_none_iff.mp hnone
    refine .inl ⟨fun slot hslot => (hfills slot).mp (hslots slot hslot), _,
      Template.tokens_of_holds hholds ?_, congrArg _ hkey⟩
    rwa [Schema.slotsOf_pieces hlisted]
  · have hmem : slot ∈ template.slots := List.mem_of_find?_eq_some hslot
    have hmissing : ¬ args.Fills slot := by
      simpa [Arguments.Fills] using List.find?_some hslot
    exact .inr ⟨slot, hmem, fun h => hmissing ((hfills slot).mpr h), place, congrArg _ herror⟩

/-- A key is only rendered for a template with the path that accepts all
assignments. -/
theorem exists_template_of_renderKey {key : String}
    (h : renderKey document path assignments = .ok key) :
    ∃ template ∈ document.schema.templates, template.path = path
      ∧ ∀ text ∈ assignments, template.Accepts text := by
  unfold renderKey at h
  cases hfound : document.schema.templates.find? (·.path = path) with
  | none => simp [hfound] at h
  | some template =>
      rw [hfound] at h
      obtain ⟨args, hargs, -⟩ := bind_eq_ok_iff.mp h
      obtain ⟨hlisted, hpath⟩ := Schema.find?_templates_eq_some_iff.mp hfound
      exact ⟨template, hlisted, hpath, Template.exists_foldlM_iff.mp ⟨args, hargs⟩⟩

/-- A key is rendered if there is a template with the path that accepts all
assignments, and each of its slots is assigned to. -/
theorem exists_renderKey_iff :
    (∃ key, renderKey document path assignments = .ok key)
      ↔ ∃ template ∈ document.schema.templates, template.path = path
        ∧ (∀ text ∈ assignments, template.Accepts text)
        ∧ ∀ slot ∈ template.slots, AssignedBy assignments slot.name := by
  constructor
  · rintro ⟨key, hkey⟩
    obtain ⟨template, hlisted, hpath, haccepts⟩ := exists_template_of_renderKey hkey
    refine ⟨template, hlisted, hpath, haccepts, ?_⟩
    rcases renderKey_of_accepts hlisted hpath haccepts with ⟨hassigned, -⟩ | ⟨_, _, _, _, herror⟩
    · exact hassigned
    · rw [hkey] at herror
      cases herror
  · rintro ⟨template, hlisted, hpath, haccepts, hassigned⟩
    rcases renderKey_of_accepts hlisted hpath haccepts with
      ⟨-, tokens, -, hkey⟩ | ⟨slot, hslot, hmissing, -⟩
    · exact ⟨_, hkey⟩
    · exact absurd (hassigned slot hslot) hmissing

/-! ### The command -/

/-- The command ends well if there is a key. -/
theorem code_render_eq_zero_iff :
    (render document path assignments).outcome.code = 0
      ↔ ∃ key, renderKey document path assignments = .ok key := by
  unfold render
  cases renderKey document path assignments with
  | ok key => simp [Report.outcome, Report.done]
  | error failure => simp [Report.outcome, Report.failed]

/-- A document is loaded from the text of its file, and no file is changed. -/
theorem run_load (file : String) (directory : Directory) :
    (Document.load file : StateM Directory _).run directory
      = (match directory.read? file with
        | none => pure (.error .file)
        | some text => do
          Logged.note (.loadingDocument file (.ofPath file))
          Document.ofText (.ofPath file) text, directory) := by
  have hread : (Files.read file : StateM Directory _).run directory
      = (directory.read? file, directory) := rfl
  unfold Document.load
  rw [StateT.run_bind, hread]
  cases directory.read? file <;> rfl

/-- A command line that asks for a key of a document that loads is answered
as `render` says, and changes no file. -/
theorem run_eq_render {words : List String} {request : KeyRequest}
    (hwords : Invocation.ofWords words = .ok request.invocation) {directory : Directory}
    {document : Document}
    (hload : ((Document.load request.file : StateM Directory _).run directory).1.result
      = .ok document) :
    (run words : StateM Directory Outcome).run directory
      = ((render { document with separator := request.separator.getD document.separator }
          request.key.path request.assignments).outcome, directory) := by
  have hperform : (request.invocation.perform : StateM Directory Report).run directory
      = (render { document with separator := request.separator.getD document.separator }
          request.key.path request.assignments, directory) := by
    have hloaded : ∃ loaded, (Document.load request.file : StateM Directory _).run directory
        = (loaded, directory) ∧ loaded.result = .ok document := by
      refine ⟨_, ?_, hload⟩
      rw [run_load]
    obtain ⟨⟨events, result⟩, hrun, rfl⟩ := hloaded
    have hfile : request.invocation.file = request.file := rfl
    unfold Invocation.perform
    rw [StateT.run_bind, hfile, hrun]
    rfl
  unfold run
  rw [hwords]
  show (let done := (request.invocation.perform : StateM Directory Report).run directory
    (done.1.outcome, done.2)) = _
  rw [hperform]

/-- `render` agrees with the listing of templates. Take a command line that asks
for a key of a document that loads, whatever it says the keys are joined by. It
succeeds if a template has the path of the key, every assignment names a slot of
that template before its first equals sign and goes on with a value of the kind
of the first such slot, and every slot of the template is named; and only then.
It prints the pieces of the template, joined by the separator, with the text of
the last value of its name for each slot. If there is such a template that
accepts all assignments, a missing argument is all that can be wrong. No file is
changed. -/
theorem run_render {words : List String} {request : KeyRequest}
    (hwords : Invocation.ofWords words = .ok request.invocation) {directory : Directory}
    {document : Document}
    (hload : ((Document.load request.file : StateM Directory _).run directory).1.result
      = .ok document) :
    ∃ report : Report, (run words : StateM Directory Outcome).run directory
        = (report.outcome, directory)
      ∧ (report.outcome.code = 0 ↔ ∃ template ∈ document.schema.templates,
          template.path = request.key.path
            ∧ (∀ text ∈ request.assignments, template.Accepts text)
            ∧ ∀ slot ∈ template.slots, AssignedBy request.assignments slot.name)
      ∧ ∀ template ∈ document.schema.templates, template.path = request.key.path →
          (∀ text ∈ request.assignments, template.Accepts text) →
          ((∀ slot ∈ template.slots, AssignedBy request.assignments slot.name) →
            ∃ tokens, List.Forall₂ (template.Token request.assignments) template.pieces tokens
              ∧ report = .done
                ((request.separator.getD document.separator).intercalate tokens ++ "\n"))
          ∧ ∀ failure ∈ report.failure, ∃ slot ∈ template.slots,
              ¬ AssignedBy request.assignments slot.name
              ∧ ∃ place, failure = .resolve (.missing ⟨slot.name, place⟩) := by
  let joined : Document :=
    { document with separator := request.separator.getD document.separator }
  let report := render joined request.key.path request.assignments
  refine ⟨report, run_eq_render hwords hload, ?_, ?_⟩
  · exact code_render_eq_zero_iff.trans exists_renderKey_iff
  · intro template hlisted hpath haccepts
    rcases @renderKey_of_accepts joined _ _ _ hlisted hpath haccepts with
      ⟨hassigned, tokens, htokens, hkey⟩ | ⟨slot, hslot, hmissing, place, herror⟩
    · have hreport : report = .done (joined.separator.intercalate tokens ++ "\n") := by
        simp only [report, render, hkey]
      rw [hreport]
      exact ⟨fun _ => ⟨tokens, htokens, rfl⟩, nofun⟩
    · have hreport : report = .failed (.resolve (.missing ⟨slot.name, place⟩)) := by
        simp only [report, render, herror]
      rw [hreport]
      refine ⟨fun hassigned => absurd (hassigned slot hslot) hmissing, ?_⟩
      rintro failure ⟨⟩
      exact ⟨slot, hslot, hmissing, place, rfl⟩

/-- Notes on a post, behind a gate whose slot they ask for again. -/
def notes : Document where
  separator := ":"
  schema := .insert .empty "post" (some (.gate ⟨⟨"id", .number⟩, []⟩
    (.insert .empty "note" (some (.key
      [.slot ⟨"id", .text⟩, .literal "by", .slot ⟨"tag", .text⟩])))))

/-- A note is asked for, with two numbers for the post. -/
def noteRequest : KeyRequest where
  file := "n.json"
  separator := some "/"
  key := .dotted "post.note"
  assignments := ["id=7", "tag=a=b", "id=2.50"]

/-- A document that comes back from its text is loaded from a file that it has
been written to. -/
theorem load_written {document : Document} (hreload : document.schema.level.Reloadable)
    (hdepth : document.toJson.depth ≤ Json.depthLimit) :
    let directory : Directory := ⟨[], [(["n.json"], document.toText .json)]⟩
    ((Document.load "n.json" : StateM Directory _).run directory).1.result = .ok document := by
  intro directory
  have hsplit : "n.json".splitOn "/" = ["n.json"] := by
    have hslash := splitOn_singleton "n.json" '/'
    rwa [show ("n.json".toList.splitOn '/').map String.ofList = ["n.json"] by decide] at hslash
  have hparts : Directory.parts? "n.json" = some ["n.json"] := by
    unfold Directory.parts?
    rw [hsplit, String.startsWith_string_eq_false_iff.mpr (by decide)]
    decide
  have hread : directory.read? "n.json" = some (document.toText .json) := by
    unfold Directory.read? Directory.place?
    rw [hparts]
    rfl
  have hformat : DocumentFormat.ofPath "n.json" = .json := by
    unfold DocumentFormat.ofPath fileName?
    rw [hsplit]
    decide
  have hdocument : Document.ofJson (document.toText .json) = pure (.ok document) := by
    rw [Document.ofJson_toText hreload, if_pos hdepth]
  rw [run_load, hread, hformat]
  show (Document.ofJson _).result = _
  rw [hdocument]
  rfl

/-- The notes are loaded from a file that they have been written to. -/
theorem load_notes :
    let directory : Directory := ⟨[], [(["n.json"], notes.toText .json)]⟩
    ((Document.load "n.json" : StateM Directory _).run directory).1.result = .ok notes :=
  load_written ⟨trivial, trivial⟩ (by decide)

/-- The template of a note. -/
def noteTemplate : Template :=
  ⟨["post", "note"], [⟨"id", .number⟩], [⟨"id", .text⟩, ⟨"tag", .text⟩],
    [.literal "post", .slot ⟨"id", .number⟩, .slot ⟨"id", .text⟩, .literal "by",
      .slot ⟨"tag", .text⟩]⟩

theorem assigns_id (given : String) : Assigns ("id=" ++ given) "id" given :=
  ⟨by decide, by decide, rfl⟩

/-- All assignments of the request give a slot of the note a value. -/
theorem noteTemplate_takes :
    noteTemplate.Takes "id=7" "id" (.signed 7)
      ∧ noteTemplate.Takes "tag=a=b" "tag" (.text "a=b")
      ∧ noteTemplate.Takes "id=2.50" "id" (.number ⟨0x4004000000000000⟩) := by
  have hread : readDouble? "2.50".toList = some ⟨0x4004000000000000⟩ := by decide +kernel
  refine ⟨⟨"7", ⟨"id", .number⟩, assigns_id "7", by decide, rfl⟩,
    ⟨"a=b", ⟨"tag", .text⟩, ⟨by decide, by decide, rfl⟩, by decide, rfl⟩,
    ⟨"2.50", ⟨"id", .number⟩, assigns_id "2.50", by decide, ?_⟩⟩
  unfold readValue
  rw [show readInteger? "2.50".toList = none by decide, hread]
  rfl

/-- The last values are the second number and the tag. -/
theorem noteTemplate_lastGiven :
    noteTemplate.LastGiven noteRequest.assignments "id" (.number ⟨0x4004000000000000⟩)
      ∧ noteTemplate.LastGiven noteRequest.assignments "tag" (.text "a=b") := by
  obtain ⟨-, htag, hid⟩ := noteTemplate_takes
  refine ⟨⟨["id=7", "tag=a=b"], "id=2.50", [], rfl, hid, by simp [AssignedBy]⟩,
    ⟨["id=7"], "tag=a=b", ["id=2.50"], rfl, htag, ?_⟩⟩
  rintro ⟨text, htext, given, hgiven⟩
  obtain rfl := List.mem_singleton.mp htext
  exact absurd ((assigns_id "2.50").unique hgiven).1 (by decide)

/-- The note's key is rendered: the number that is given last is taken, once
for each of the two slots. -/
theorem noteRequest_rendered :
    let directory : Directory := ⟨[], [(["n.json"], notes.toText .json)]⟩
    Invocation.ofWords noteRequest.words = .ok noteRequest.invocation
      ∧ ((Document.load "n.json" : StateM Directory _).run directory).1.result = .ok notes
      ∧ (run noteRequest.words : StateM Directory Outcome).run directory
        = (⟨0, "post/2.5/2.5/by/a=b\n", ""⟩, directory) := by
  intro directory
  have hwords : Invocation.ofWords noteRequest.words = .ok noteRequest.invocation :=
    KeyRequest.ofWords_words (by decide)
  have hload : ((Document.load "n.json" : StateM Directory _).run directory).1.result
      = .ok notes := load_notes
  refine ⟨hwords, hload, ?_⟩
  obtain ⟨report, hrun, -, hreport⟩ := run_render hwords hload
  obtain ⟨hseven, htag, hhalf⟩ := noteTemplate_takes
  obtain ⟨hlastId, hlastTag⟩ := noteTemplate_lastGiven
  have haccepts : ∀ text ∈ noteRequest.assignments, noteTemplate.Accepts text := by
    simp only [noteRequest, List.forall_mem_cons]
    exact ⟨⟨_, _, hseven⟩, ⟨_, _, htag⟩, ⟨_, _, hhalf⟩, nofun⟩
  have hid := (Template.exists_lastGiven_iff haccepts).mp ⟨_, hlastId⟩
  have hassigned : ∀ slot ∈ noteTemplate.slots,
      AssignedBy noteRequest.assignments slot.name := by
    have hslots : noteTemplate.slots = [⟨"id", .number⟩, ⟨"id", .text⟩, ⟨"tag", .text⟩] := rfl
    simp only [hslots, List.forall_mem_cons]
    exact ⟨hid, hid, (Template.exists_lastGiven_iff haccepts).mp ⟨_, hlastTag⟩, nofun⟩
  have hpath : noteTemplate.path = noteRequest.key.path := by decide
  obtain ⟨tokens, htokens, hdone⟩ :=
    (hreport noteTemplate (by decide) hpath haccepts).1 hassigned
  have hsegment : (Value.number ⟨0x4004000000000000⟩).segment = "2.5" := by decide +kernel
  have hgiven : List.Forall₂ (noteTemplate.Token noteRequest.assignments) noteTemplate.pieces
      ["post", "2.5", "2.5", "by", "a=b"] :=
    .cons rfl (.cons ⟨_, hlastId, hsegment.symm⟩ (.cons ⟨_, hlastId, hsegment.symm⟩
      (.cons rfl (.cons ⟨_, hlastTag, rfl⟩ .nil))))
  rw [hrun, hdone, Template.tokens_unique htokens hgiven]
  rfl

end Command

end KeyTree
