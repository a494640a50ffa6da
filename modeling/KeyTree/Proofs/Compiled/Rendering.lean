import KeyTree.Proofs.Compiled.Walk
import KeyTree.Proofs.Intercalate

/-!
# `KeyTree.Proofs.Compiled.Rendering`: what a rendered template tells

Pieces are rendered with slots in braces and the braces of literal texts
doubled. Behind the rendered text stands a list of marks, single characters
and slots by name (`marks`), and keys are made from the same list: each slot
is replaced by the text of its value. So there are two questions about lists
of marks.

* `Mark.flatMap_render_inj`: can they be read back from the rendered text?
  Yes, since no rendered mark is a beginning of another (`Mark.render_append_inj`).
* `Mark.exists_filled_ne`: do different marks make different keys? Yes, for
  some values. It is enough to tell the first two marks apart that differ.

`renderPieces_eq_iff_build_eq` puts both together. The texts between the
pieces do not matter for this, nor does it matter where a literal is cut.
-/

set_option autoImplicit false

namespace KeyTree

/-! ### Marks -/

/-- A text without braces. -/
def BraceFree (text : String) : Prop := '{' ∉ text.toList ∧ '}' ∉ text.toList

instance (text : String) : Decidable (BraceFree text) :=
  inferInstanceAs (Decidable (_ ∧ _))

/-- A mark of a template: a character, or a slot by its name. -/
inductive Mark where
  | char (c : Char)
  | slot (name : String)
  deriving DecidableEq, Repr

namespace Mark

/-- A mark as it is rendered. -/
def render : Mark → List Char
  | char c => renderedChar c
  | slot name => '{' :: name.toList ++ ['}']

/-- A mark in a key, where each slot is replaced by a text. -/
def filled (texts : String → String) : Mark → List Char
  | char c => [c]
  | slot name => (texts name).toList

/-- The name of a slot. -/
def name? : Mark → Option String
  | char _ => none
  | slot name => some name

/-- Characters may be any; the names of slots hold no braces. -/
def Plain : Mark → Prop
  | char _ => True
  | slot name => BraceFree name

end Mark

/-- The marks of a piece. -/
def Piece.marks : Piece → List Mark
  | .literal text => text.toList.map .char
  | .slot s => [.slot s.name]

/-- The marks of some pieces and of the separators between them. -/
def marks (separator : String) (pieces : List Piece) : List Mark :=
  (separator.toList.map .char).intercalate (pieces.map Piece.marks)

/-- The text that arguments give for a name. -/
def Arguments.text (args : Arguments) (name : String) : String :=
  ((args.value? name).map Value.segment).getD ""

/-! ### Texts made of marks -/

theorem renderedChar_of_ne {c : Char} (hopen : c ≠ '{') (hclose : c ≠ '}') :
    renderedChar c = [c] := by
  rw [renderedChar, if_neg hopen, if_neg hclose]

/-- Braces aside, the characters of a text are rendered as they are. -/
theorem flatMap_renderedChar {text : String} (h : BraceFree text) :
    text.toList.flatMap renderedChar = text.toList := by
  have hchar : ∀ c ∈ text.toList, renderedChar c = [c] := by
    intro c hc
    have hopen : c ≠ '{' := fun heq => h.1 (heq ▸ hc)
    have hclose : c ≠ '}' := fun heq => h.2 (heq ▸ hc)
    exact renderedChar_of_ne hopen hclose
  rw [List.flatMap_congr hchar]
  simp

theorem Piece.flatMap_render_marks (piece : Piece) :
    piece.marks.flatMap Mark.render = piece.render.toList := by
  cases piece with
  | literal text =>
      show (text.toList.map Mark.char).flatMap Mark.render = _
      rw [List.flatMap_map, render, String.toList_ofList]
      rfl
  | slot s => simp [marks, Mark.render, render]

theorem Piece.flatMap_filled_marks (args : Arguments) (piece : Piece) :
    piece.marks.flatMap (Mark.filled args.text) = (piece.filled args).toList := by
  cases piece with
  | literal text =>
      show (text.toList.map Mark.char).flatMap (Mark.filled args.text) = _
      rw [List.flatMap_map, filled]
      simp [Mark.filled]
  | slot s => simp [marks, Mark.filled, filled, Arguments.text, Arguments.segment?]

/-- The rendered text is made of the rendered marks. -/
theorem toList_renderPieces {separator : String} (h : BraceFree separator) (pieces : List Piece) :
    (renderPieces separator pieces).toList = (marks separator pieces).flatMap Mark.render := by
  rw [renderPieces, String.toList_intercalate, marks, flatMap_intercalate, List.flatMap_map,
    List.map_map, List.map_map]
  show _ = (separator.toList.flatMap renderedChar).intercalate _
  rw [flatMap_renderedChar h]
  congr 1
  exact List.map_congr_left fun piece _ => (piece.flatMap_render_marks).symm

/-- A key is made of the filled marks. -/
theorem toList_filledPieces (separator : String) (pieces : List Piece) (args : Arguments) :
    (separator.intercalate (pieces.map (Piece.filled args))).toList
      = (marks separator pieces).flatMap (Mark.filled args.text) := by
  rw [String.toList_intercalate, marks, flatMap_intercalate, List.flatMap_map, List.map_map,
    List.map_map]
  show _ = (separator.toList.flatMap fun c => [c]).intercalate _
  congr 1
  · simp
  · exact List.map_congr_left fun piece _ => (piece.flatMap_filled_marks args).symm

/-! ### Marks read back -/

namespace Mark

/-- The rendered form of a character, by cases. -/
theorem renderedChar_cases (c : Char) :
    (c = '{' ∧ renderedChar c = ['{', '{']) ∨ (c = '}' ∧ renderedChar c = ['}', '}'])
      ∨ (c ≠ '{' ∧ c ≠ '}' ∧ renderedChar c = [c]) := by
  by_cases hopen : c = '{'
  · exact .inl ⟨hopen, by rw [hopen]; rfl⟩
  · by_cases hclose : c = '}'
    · exact .inr (.inl ⟨hclose, by rw [hclose]; rfl⟩)
    · exact .inr (.inr ⟨hopen, hclose, renderedChar_of_ne hopen hclose⟩)

/-- A rendered character starts with the character, doubled or not. -/
theorem renderedChar_eq_cons (c : Char) : ∃ tail, renderedChar c = c :: tail := by
  rcases renderedChar_cases c with ⟨rfl, h⟩ | ⟨rfl, h⟩ | ⟨-, -, h⟩
  · exact ⟨['{'], h⟩
  · exact ⟨['}'], h⟩
  · exact ⟨[], h⟩

theorem render_ne_nil (mark : Mark) : mark.render ≠ [] := by
  cases mark with
  | char c =>
      obtain ⟨tail, htail⟩ := renderedChar_eq_cons c
      rw [render, htail]
      exact List.cons_ne_nil c tail
  | slot name => exact List.cons_ne_nil _ _

/-- A character is not read as a slot: behind a single brace stands a brace
that closes it, or the name of the slot, and neither is an opening brace. -/
theorem renderedChar_append_ne {c : Char} {name : String} (h : BraceFree name)
    (rest rest' : List Char) :
    renderedChar c ++ rest ≠ '{' :: name.toList ++ ['}'] ++ rest' := by
  intro heq
  rcases renderedChar_cases c with ⟨-, hc⟩ | ⟨-, hc⟩ | ⟨hopen, -, hc⟩
  · rw [hc] at heq
    cases hname : name.toList with
    | nil => simp [hname] at heq
    | cons first others =>
        have hfirst : '{' = first := by
          rw [hname] at heq
          exact List.head_eq_of_cons_eq (List.tail_eq_of_cons_eq heq)
        exact h.1 (by rw [hname, hfirst]; exact List.mem_cons_self)
  · rw [hc] at heq
    exact absurd (List.head_eq_of_cons_eq heq) (by decide)
  · rw [hc] at heq
    exact hopen (List.head_eq_of_cons_eq heq)

/-- No rendered mark is a beginning of another, so the first mark is
determined by the text, and so is what follows it. -/
theorem render_append_inj {mark mark' : Mark} (h : mark.Plain) (h' : mark'.Plain)
    {rest rest' : List Char} (heq : mark.render ++ rest = mark'.render ++ rest') :
    mark = mark' ∧ rest = rest' := by
  cases mark with
  | char c =>
      cases mark' with
      | char c' =>
          obtain ⟨tail, htail⟩ := renderedChar_eq_cons c
          obtain ⟨tail', htail'⟩ := renderedChar_eq_cons c'
          have hchar : c = c' := by
            simp only [render, htail, htail'] at heq
            exact List.head_eq_of_cons_eq heq
          subst hchar
          exact ⟨rfl, List.append_cancel_left heq⟩
      | slot name' => exact absurd heq (renderedChar_append_ne h' rest rest')
  | slot name =>
      cases mark' with
      | char c' => exact absurd heq.symm (renderedChar_append_ne h rest' rest)
      | slot name' =>
          -- The names end at the first closing brace.
          have htail : name.toList ++ '}' :: rest = name'.toList ++ '}' :: rest' := by
            simpa [render] using heq
          obtain ⟨hname, hrest⟩ := append_cons_inj_of_not_mem h.2 h'.2 htail
          exact ⟨by rw [String.toList_inj.mp hname], hrest⟩

/-- Marks are read back from the text they are rendered as. -/
theorem flatMap_render_inj {marks others : List Mark} (h : ∀ mark ∈ marks, mark.Plain)
    (h' : ∀ mark ∈ others, mark.Plain) (heq : marks.flatMap render = others.flatMap render) :
    marks = others := by
  induction marks generalizing others with
  | nil =>
      cases others with
      | nil => rfl
      | cons mark' rest' =>
          rw [List.flatMap_nil, List.flatMap_cons] at heq
          exact absurd (List.append_eq_nil_iff.mp heq.symm).1 (render_ne_nil mark')
  | cons mark rest ih =>
      cases others with
      | nil =>
          rw [List.flatMap_nil, List.flatMap_cons] at heq
          exact absurd (List.append_eq_nil_iff.mp heq).1 (render_ne_nil mark)
      | cons mark' rest' =>
          obtain ⟨hmark, hrest⟩ := List.forall_mem_cons.mp h
          obtain ⟨hmark', hrest'⟩ := List.forall_mem_cons.mp h'
          rw [List.flatMap_cons, List.flatMap_cons] at heq
          obtain ⟨rfl, htail⟩ := render_append_inj hmark hmark' heq
          rw [ih hrest hrest' htail]

/-! ### Values that tell marks apart -/

/-- Every character differs from some other. -/
theorem exists_char_ne (c : Char) : ∃ other : Char, c ≠ other := by
  by_cases h : c = 'a'
  · exact ⟨'b', by rw [h]; decide⟩
  · exact ⟨'a', h⟩

/-- Different marks are filled differently by some texts, from the first
character on, whatever follows. -/
theorem exists_filled_append_ne {mark mark' : Mark} (h : mark ≠ mark') :
    ∃ texts : String → String, ∀ rest rest' : List Char,
      mark.filled texts ++ rest ≠ mark'.filled texts ++ rest' := by
  cases mark with
  | char c =>
      cases mark' with
      | char c' =>
          refine ⟨fun _ => "", fun rest rest' heq => h ?_⟩
          rw [List.head_eq_of_cons_eq heq]
      | slot name' =>
          obtain ⟨other, hother⟩ := exists_char_ne c
          refine ⟨fun _ => String.ofList [other], fun rest rest' heq => hother ?_⟩
          rw [filled, filled, String.toList_ofList] at heq
          exact List.head_eq_of_cons_eq heq
  | slot name =>
      cases mark' with
      | char c' =>
          obtain ⟨other, hother⟩ := exists_char_ne c'
          refine ⟨fun _ => String.ofList [other], fun rest rest' heq => hother ?_⟩
          rw [filled, filled, String.toList_ofList] at heq
          exact (List.head_eq_of_cons_eq heq).symm
      | slot name' =>
          -- Only `name` is filled with an `a`.
          have hname : name' ≠ name := fun heq => h (by rw [heq])
          refine ⟨fun other => if other = name then "a" else "b", fun rest rest' heq => ?_⟩
          simp only [filled, if_neg hname] at heq
          exact absurd (List.head_eq_of_cons_eq heq) (by decide)

/-- Where there is a mark, there is a text, once no slot is filled with nothing. -/
theorem flatMap_filled_cons_ne_nil (mark : Mark) (rest : List Mark) :
    (mark :: rest).flatMap (filled fun _ => "a") ≠ [] := by
  intro heq
  have hmark := (List.append_eq_nil_iff.mp heq).1
  cases mark with
  | char c => exact absurd hmark (List.cons_ne_nil c [])
  | slot name => exact absurd hmark (show "a".toList ≠ [] by decide)

/-- Different lists of marks are filled differently by some texts: what both
have in front cancels out, and then the first marks differ, or one list ends. -/
theorem exists_filled_ne {marks others : List Mark} (h : marks ≠ others) :
    ∃ texts : String → String, marks.flatMap (filled texts) ≠ others.flatMap (filled texts) := by
  induction marks generalizing others with
  | nil =>
      cases others with
      | nil => exact absurd rfl h
      | cons mark' rest' => exact ⟨fun _ => "a", (flatMap_filled_cons_ne_nil mark' rest').symm⟩
  | cons mark rest ih =>
      cases others with
      | nil => exact ⟨fun _ => "a", flatMap_filled_cons_ne_nil mark rest⟩
      | cons mark' rest' =>
          -- A mark in front of both makes no difference, whatever it is filled with.
          by_cases hmark : mark = mark'
          · subst hmark
            have hrest : rest ≠ rest' := fun heq => h (by rw [heq])
            obtain ⟨texts, htexts⟩ := ih hrest
            refine ⟨texts, fun heq => htexts ?_⟩
            rw [List.flatMap_cons, List.flatMap_cons] at heq
            exact List.append_cancel_left heq
          · obtain ⟨texts, htexts⟩ := exists_filled_append_ne hmark
            exact ⟨texts, htexts _ _⟩

end Mark

/-! ### Marks of pieces -/

/-- The slots among the marks are those of the pieces, in order. -/
theorem filterMap_name?_marks (separator : String) (pieces : List Piece) :
    (marks separator pieces).filterMap Mark.name? = (slotsOf pieces).map Slot.name := by
  have hchars : ∀ text : List Char, (text.map Mark.char).filterMap Mark.name? = [] := by
    intro text
    rw [List.filterMap_map]
    exact List.filterMap_eq_nil_iff.mpr fun c _ => rfl
  induction pieces with
  | nil => rfl
  | cons piece rest ih =>
      have hpiece : piece.marks.filterMap Mark.name? = (slotsOf [piece]).map Slot.name := by
        cases piece with
        | literal text => exact hchars text.toList
        | slot s => rfl
      have hcons : slotsOf (piece :: rest) = slotsOf [piece] ++ slotsOf rest :=
        slotsOf_append [piece] rest
      rw [hcons, List.map_append, ← ih, ← hpiece, marks, marks]
      cases rest with
      | nil => simp
      | cons next others =>
          rw [List.map_cons, List.map_cons, List.intercalate_cons_cons, List.filterMap_append,
            List.filterMap_append, hchars, List.append_nil]

/-- Marks are plain if the names of the slots hold no braces. -/
theorem plain_of_mem_marks {separator : String} {pieces : List Piece}
    (h : ∀ slot ∈ slotsOf pieces, BraceFree slot.name) :
    ∀ mark ∈ marks separator pieces, mark.Plain := by
  intro mark hmark
  cases mark with
  | char c => trivial
  | slot name =>
      have hname : name ∈ (marks separator pieces).filterMap Mark.name? :=
        List.mem_filterMap.mpr ⟨_, hmark, rfl⟩
      rw [filterMap_name?_marks] at hname
      obtain ⟨slot, hslot, rfl⟩ := List.mem_map.mp hname
      exact h slot hslot

/-- Pieces render alike exactly when they have the same marks. -/
theorem renderPieces_eq_iff_marks_eq {separator : String} {pieces others : List Piece}
    (hseparator : BraceFree separator) (h : ∀ slot ∈ slotsOf pieces, BraceFree slot.name)
    (h' : ∀ slot ∈ slotsOf others, BraceFree slot.name) :
    renderPieces separator pieces = renderPieces separator others
      ↔ marks separator pieces = marks separator others := by
  rw [← String.toList_inj, toList_renderPieces hseparator, toList_renderPieces hseparator]
  constructor
  · exact Mark.flatMap_render_inj (plain_of_mem_marks h) (plain_of_mem_marks h')
  · intro heq
    rw [heq]

/-! ### Arguments that give texts -/

namespace Arguments

/-- Arguments that give each of some names its text. -/
def ofTexts (texts : String → String) (names : List String) : Arguments :=
  NameMap.ofList (names.map fun name => (name, some (.text (texts name))))

theorem value?_ofTexts (texts : String → String) {names : List String} {name : String}
    (h : name ∈ names) : (ofTexts texts names).value? name = some (.text (texts name)) := by
  have hfind : (ofTexts texts names).find? name = some (some (.text (texts name))) := by
    rw [ofTexts, NameMap.find?_ofList, ← List.map_reverse]
    exact List.lookup_graph (fun other => some (Value.text (texts other))) (List.mem_reverse.mpr h)
  rw [value?, hfind]
  rfl

theorem fills_ofTexts (texts : String → String) {names : List String} {slot : Slot}
    (h : slot.name ∈ names) : (ofTexts texts names).Fills slot := by
  rw [Fills, value?_ofTexts texts h]
  rfl

end Arguments

/-- Marks whose names have texts are filled with these. -/
theorem flatMap_filled_ofTexts (texts : String → String) {marks : List Mark} {names : List String}
    (h : ∀ name ∈ marks.filterMap Mark.name?, name ∈ names) :
    marks.flatMap (Mark.filled (Arguments.ofTexts texts names).text)
      = marks.flatMap (Mark.filled texts) := by
  refine List.flatMap_congr fun mark hmark => ?_
  cases mark with
  | char c => rfl
  | slot name =>
      have hname : name ∈ names := h name (List.mem_filterMap.mpr ⟨_, hmark, rfl⟩)
      rw [Mark.filled, Mark.filled, Arguments.text, Arguments.value?_ofTexts texts hname]
      rfl

/-! ### Renderings and keys -/

/-- A key without a stem is built of its pieces as soon as its slots have
values. -/
theorem KeyMaker.build_make_nil {separator : String} {pieces : List Piece} {args : Arguments}
    (h : ∀ slot ∈ slotsOf pieces, args.Fills slot) :
    (KeyMaker.make separator [] pieces).build args
      = .ok (separator.intercalate (pieces.map (Piece.filled args))) :=
  build_make_eq_ok_iff.mpr ⟨h, rfl⟩

/-- Pieces with the same marks make the same key of any arguments. -/
theorem filledPieces_eq_of_marks_eq {separator : String} {pieces others : List Piece}
    (h : marks separator pieces = marks separator others) (args : Arguments) :
    separator.intercalate (pieces.map (Piece.filled args))
      = separator.intercalate (others.map (Piece.filled args)) := by
  rw [← String.toList_inj, toList_filledPieces, toList_filledPieces, h]

/-- Pieces with different marks make different keys of some arguments, that
fill the slots of both. -/
theorem exists_filledPieces_ne {separator : String} {pieces others : List Piece}
    (h : marks separator pieces ≠ marks separator others) :
    ∃ args : Arguments, (∀ slot ∈ slotsOf pieces ++ slotsOf others, args.Fills slot)
      ∧ separator.intercalate (pieces.map (Piece.filled args))
          ≠ separator.intercalate (others.map (Piece.filled args)) := by
  obtain ⟨texts, htexts⟩ := Mark.exists_filled_ne h
  let names := (slotsOf pieces).map Slot.name ++ (slotsOf others).map Slot.name
  refine ⟨Arguments.ofTexts texts names, fun slot hslot => ?_, fun hsame => htexts ?_⟩
  · have hname : slot.name ∈ names := by
      rcases List.mem_append.mp hslot with hslot | hslot
      · exact List.mem_append_left _ (List.mem_map_of_mem hslot)
      · exact List.mem_append_right _ (List.mem_map_of_mem hslot)
    exact Arguments.fills_ofTexts texts hname
  · rw [← String.toList_inj, toList_filledPieces, toList_filledPieces] at hsame
    rwa [flatMap_filled_ofTexts, flatMap_filled_ofTexts] at hsame
    · rw [filterMap_name?_marks]
      exact fun name hname => List.mem_append_right _ hname
    · rw [filterMap_name?_marks]
      exact fun name hname => List.mem_append_left _ hname

/-- A rendered template tells which keys are built. With a separator and slot
names that hold no braces, two lists of pieces render alike exactly when all
arguments that fill the slots of both make the same key of both. And pieces
that render alike have the same slots by name, one after another, so that no
literal reads as a slot. -/
theorem renderPieces_eq_iff_build_eq (separator : String) (pieces others : List Piece)
    (hseparator : BraceFree separator)
    (hnames : ∀ slot ∈ slotsOf pieces ++ slotsOf others, BraceFree slot.name) :
    (renderPieces separator pieces = renderPieces separator others
        ↔ ∀ args : Arguments, (∀ slot ∈ slotsOf pieces ++ slotsOf others, args.Fills slot) →
            ∃ key, (KeyMaker.make separator [] pieces).build args = .ok key
              ∧ (KeyMaker.make separator [] others).build args = .ok key)
      ∧ (renderPieces separator pieces = renderPieces separator others →
          (slotsOf pieces).map Slot.name = (slotsOf others).map Slot.name) := by
  obtain ⟨hpieces, hothers⟩ := List.forall_mem_append.mp hnames
  rw [renderPieces_eq_iff_marks_eq hseparator hpieces hothers]
  constructor
  · constructor
    · intro heq args hfills
      obtain ⟨hfill, hfill'⟩ := List.forall_mem_append.mp hfills
      refine ⟨_, KeyMaker.build_make_nil hfill, ?_⟩
      rw [KeyMaker.build_make_nil hfill', filledPieces_eq_of_marks_eq heq]
    · intro hkeys
      by_contra hne
      obtain ⟨args, hfills, hdiffer⟩ := exists_filledPieces_ne hne
      obtain ⟨hfill, hfill'⟩ := List.forall_mem_append.mp hfills
      obtain ⟨key, hkey, hkey'⟩ := hkeys args hfills
      rw [KeyMaker.build_make_nil hfill] at hkey
      rw [KeyMaker.build_make_nil hfill'] at hkey'
      exact hdiffer ((Except.ok.inj hkey).trans (Except.ok.inj hkey').symm)
  · intro heq
    rw [← filterMap_name?_marks separator, ← filterMap_name?_marks separator, heq]

/-- A closing brace right behind a slot without a name does not get mixed up
with the slot: the literal may be cut behind it, and the same keys are made. -/
theorem slot_before_brace_build_eq :
    let pieces : List Piece := [.slot ⟨"", .text⟩, .literal "\x7d\x7bid\x7d"]
    let others : List Piece := [.slot ⟨"", .number⟩, .literal "\x7d", .literal "\x7bid\x7d"]
    BraceFree "" ∧ (∀ slot ∈ slotsOf pieces ++ slotsOf others, BraceFree slot.name)
      ∧ ∀ args : Arguments, (args.value? "").isSome →
          ∃ key, (KeyMaker.make "" [] pieces).build args = .ok key
            ∧ (KeyMaker.make "" [] others).build args = .ok key := by
  intro pieces others
  refine ⟨by decide, by decide, fun args hvalue => ?_⟩
  refine (renderPieces_eq_iff_build_eq "" pieces others (by decide) (by decide)).1.mp
    (by decide) args ?_
  simpa [pieces, others, Arguments.Fills] using hvalue

end KeyTree
