import Mathlib.Data.List.Perm.Basic
import KeyTree.Document.Basic
import KeyTree.Proofs.Compiled.Outcome
import KeyTree.Proofs.Compiled.Rendering
import KeyTree.Proofs.Layout.Fingerprint

/-!
# `KeyTree.Proofs.Layout.Keys`: documents with one fingerprint make one set of keys

The text behind a fingerprint can be read back for documents whose texts are
clean (`Document.Clean`): no tab or line feed anywhere, and no brace in the
separator and in the names of slots. What is read back are dotted paths and
rendered templates, and a rendered template tells which keys are made and
which slots are asked for. So documents that are hashed alike make the same
keys at the same dotted paths (`Document.same_keys_of_hashed_alike`), even if
their schemas are of different shape.

* `Level.Clean.templates`: the templates of a clean level are clean.
* `Document.Clean.plain`: the layout of a clean document is plain, so
  `Layout.Plain.sameRendering_iff` applies.
* `exists_matching`: lists with the same images, up to order, can be matched.
-/

set_option autoImplicit false

namespace KeyTree

/-! ### Clean texts -/

/-- A text that fits into a line of the hashed text. -/
def LineText (text : String) : Prop := '\t' ∉ text.toList ∧ '\n' ∉ text.toList

instance (text : String) : Decidable (LineText text) :=
  inferInstanceAs (Decidable (_ ∧ _))

/-- A literal holds no tab and no line feed, and the name of a slot no brace
either. -/
def Piece.Clean : Piece → Prop
  | .literal text => LineText text
  | .slot s => LineText s.name ∧ BraceFree s.name

/-- Every name and every piece of a level is clean, at every depth, behind
gates too. -/
def Level.Clean : Level → Prop
  | .nil => True
  | .absent name rest => LineText name ∧ rest.Clean
  | .key name pieces rest => LineText name ∧ (∀ piece ∈ pieces, piece.Clean) ∧ rest.Clean
  | .branch name below rest => LineText name ∧ below.Clean ∧ rest.Clean
  | .gate name slots behind rest =>
    LineText name ∧ (∀ slot ∈ slots.toList, (Piece.slot slot).Clean) ∧ behind.Clean ∧ rest.Clean

instance : (piece : Piece) → Decidable piece.Clean
  | .literal text => inferInstanceAs (Decidable (LineText text))
  | .slot _ => inferInstanceAs (Decidable (_ ∧ _))

/-- Whether a level is clean can be computed. -/
def Level.decidableClean : (level : Level) → Decidable level.Clean
  | .nil => inferInstanceAs (Decidable True)
  | .absent name rest =>
    have := rest.decidableClean
    inferInstanceAs (Decidable (LineText name ∧ rest.Clean))
  | .key name pieces rest =>
    have := rest.decidableClean
    inferInstanceAs (Decidable (LineText name ∧ (∀ piece ∈ pieces, piece.Clean) ∧ rest.Clean))
  | .branch name below rest =>
    have := below.decidableClean
    have := rest.decidableClean
    inferInstanceAs (Decidable (LineText name ∧ below.Clean ∧ rest.Clean))
  | .gate name slots behind rest =>
    have := behind.decidableClean
    have := rest.decidableClean
    inferInstanceAs (Decidable (LineText name
      ∧ (∀ slot ∈ slots.toList, (Piece.slot slot).Clean) ∧ behind.Clean ∧ rest.Clean))

instance (level : Level) : Decidable level.Clean := level.decidableClean

/-- A document of clean texts. -/
structure Document.Clean (document : Document) : Prop where
  separator_line : LineText document.separator
  separator_braces : BraceFree document.separator
  keys : document.schema.level.Clean

/-- A template of clean texts. -/
structure Template.Clean (template : Template) : Prop where
  path : ∀ name ∈ template.path, LineText name
  pieces : ∀ piece ∈ template.pieces, piece.Clean

/-- The templates of a clean level are clean, below clean stacks. -/
theorem Level.Clean.templatesFrom {level : Level} (h : level.Clean) {path : List String}
    {stem : List Piece} (hpath : ∀ name ∈ path, LineText name)
    (hstem : ∀ piece ∈ stem, piece.Clean) (inherited : List Slot) :
    ∀ template ∈ level.templatesFrom path stem inherited, template.Clean := by
  induction level generalizing path stem inherited with
  | nil =>
      intro template htemplate
      cases htemplate
  | absent name rest ih => exact ih h.2 hpath hstem inherited
  | key name pieces rest ih =>
      obtain ⟨hname, hpieces, hrest⟩ := h
      intro template htemplate
      rcases List.mem_cons.mp htemplate with rfl | htemplate
      · constructor
        · exact List.forall_mem_append.mpr ⟨hpath, List.forall_mem_singleton.mpr hname⟩
        · exact List.forall_mem_append.mpr ⟨hstem, hpieces⟩
      · exact ih hrest hpath hstem inherited template htemplate
  | branch name below rest ihb ihr =>
      obtain ⟨hname, hbelow, hrest⟩ := h
      intro template htemplate
      rcases List.mem_append.mp htemplate with htemplate | htemplate
      · have hpath' : ∀ other ∈ path ++ [name], LineText other :=
          List.forall_mem_append.mpr ⟨hpath, List.forall_mem_singleton.mpr hname⟩
        have hstem' : ∀ piece ∈ stem ++ [Piece.literal name], piece.Clean :=
          List.forall_mem_append.mpr ⟨hstem, List.forall_mem_singleton.mpr hname⟩
        exact ihb hbelow hpath' hstem' inherited template htemplate
      · exact ihr hrest hpath hstem inherited template htemplate
  | gate name slots behind rest ihb ihr =>
      obtain ⟨hname, hslots, hbehind, hrest⟩ := h
      intro template htemplate
      rcases List.mem_append.mp htemplate with htemplate | htemplate
      · have hpath' : ∀ other ∈ path ++ [name], LineText other :=
          List.forall_mem_append.mpr ⟨hpath, List.forall_mem_singleton.mpr hname⟩
        have hgate : ∀ piece ∈ gatePieces name slots, piece.Clean := by
          refine List.forall_mem_cons.mpr ⟨hname, fun piece hpiece => ?_⟩
          obtain ⟨slot, hslot, rfl⟩ := List.mem_map.mp hpiece
          exact hslots slot hslot
        exact ihb hbehind hpath' (List.forall_mem_append.mpr ⟨hstem, hgate⟩) _ template htemplate
      · exact ihr hrest hpath hstem inherited template htemplate

/-! ### Clean layouts are plain -/

theorem LineText.intercalate {separator : String} {texts : List String}
    (hseparator : LineText separator) (h : ∀ text ∈ texts, LineText text) :
    LineText (separator.intercalate texts) := by
  constructor
  · intro hmem
    rcases mem_toList_intercalate hmem with hc | ⟨text, htext, hc⟩
    · exact hseparator.1 hc
    · exact (h text htext).1 hc
  · intro hmem
    rcases mem_toList_intercalate hmem with hc | ⟨text, htext, hc⟩
    · exact hseparator.2 hc
    · exact (h text htext).2 hc

/-- Doubling braces brings no other characters in. -/
theorem eq_of_mem_renderedChar {c d : Char} (h : d ∈ renderedChar c) : d = c := by
  rcases Mark.renderedChar_cases c with ⟨rfl, hc⟩ | ⟨rfl, hc⟩ | ⟨-, -, hc⟩
  · simpa [hc] using h
  · simpa [hc] using h
  · simpa [hc] using h

/-- The characters of a rendered piece are braces, or stand in the piece. -/
theorem Piece.mem_toList_render {piece : Piece} {c : Char} (h : c ∈ piece.render.toList) :
    c = '{' ∨ c = '}' ∨ c ∈ piece.hint.toList := by
  cases piece with
  | literal text =>
      rw [render, String.toList_ofList] at h
      obtain ⟨d, hd, hc⟩ := List.mem_flatMap.mp h
      exact .inr (.inr (eq_of_mem_renderedChar hc ▸ hd))
  | slot s =>
      rw [render, String.toList_ofList, List.cons_append, List.mem_cons, List.mem_append,
        List.mem_singleton] at h
      rcases h with hopen | hname | hclose
      · exact .inl hopen
      · exact .inr (.inr hname)
      · exact .inr (.inl hclose)

theorem Piece.Clean.hint {piece : Piece} (h : piece.Clean) : LineText piece.hint := by
  cases piece with
  | literal text => exact h
  | slot s => exact h.1

theorem Piece.Clean.render {piece : Piece} (h : piece.Clean) : LineText piece.render := by
  have hmem : ∀ c : Char, c ≠ '{' → c ≠ '}' → c ∉ piece.hint.toList → c ∉ piece.render.toList := by
    intro c hopen hclose hhint hc
    rcases mem_toList_render hc with heq | heq | hc
    · exact hopen heq
    · exact hclose heq
    · exact hhint hc
  constructor
  · exact hmem '\t' (by decide) (by decide) h.hint.1
  · exact hmem '\n' (by decide) (by decide) h.hint.2

/-- The row that a template has in a layout. -/
def Template.row (separator : String) (template : Template) : String × String :=
  (template.dottedPath, template.render separator)

theorem Layout.rows_ofSchema (schema : Schema) (separator : String) :
    (ofSchema schema separator).rows = schema.templates.map (Template.row separator) := by
  rw [rows, ofSchema, List.map_map]
  rfl

theorem Template.Clean.row {template : Template} (h : template.Clean) {separator : String}
    (hseparator : LineText separator) : PlainRow (template.row separator) := by
  have hpath : LineText template.dottedPath := by
    refine LineText.intercalate ?_ h.path
    exact ⟨by decide, by decide⟩
  have hrender : LineText (template.render separator) := by
    refine LineText.intercalate hseparator fun text htext => ?_
    obtain ⟨piece, hpiece, rfl⟩ := List.mem_map.mp htext
    exact (h.pieces piece hpiece).render
  exact ⟨hpath.2, hpath.1, hrender.2⟩

namespace Document

theorem Clean.templates {document : Document} (h : document.Clean) :
    ∀ template ∈ document.schema.templates, template.Clean :=
  h.keys.templatesFrom (List.forall_mem_nil _) (List.forall_mem_nil _) []

/-- The layout of a clean document can be read back. -/
theorem Clean.plain {document : Document} (h : document.Clean) : document.layout.Plain where
  separator := h.separator_line.2
  rows := by
    intro row hrow
    rw [layout, Layout.rows_ofSchema] at hrow
    obtain ⟨template, htemplate, rfl⟩ := List.mem_map.mp hrow
    exact (h.templates template htemplate).row h.separator_line

end Document

/-! ### Matched templates -/

/-- Lists with the same images, up to order, can be matched so that each
member has the image of its partner. -/
theorem exists_matching {α β γ : Type} {f : α → γ} {g : β → γ} {list : List α} {others : List β}
    (h : (list.map f).Perm (others.map g)) :
    ∃ matched : List β, matched.Perm others ∧ List.Forall₂ (fun a b => f a = g b) list matched := by
  have himage : List.Forall₂ (fun image b => image = g b) (others.map g) others := by
    rw [List.forall₂_map_left_iff]
    exact List.forall₂_same.mpr fun b _ => rfl
  obtain ⟨matched, hmatched, hperm⟩ := List.perm_comp_forall₂ h himage
  exact ⟨matched, hperm, (List.forall₂_map_left_iff).mp hmatched⟩

/-- Two ways to resolve a path come to the same: one key, or a missing
argument of one name. -/
def SameOutcome (outcome other : Except ResolveError String) : Prop :=
  (∃ key, outcome = .ok key ∧ other = .ok key)
    ∨ ∃ name place place', outcome = .error (.missing ⟨name, place⟩)
        ∧ other = .error (.missing ⟨name, place'⟩)

/-- Templates with the same marks and the same slots by name come to the same,
whatever the arguments. -/
theorem Template.ResolvesTo.same {template other : Template} {separator : String}
    {args : Arguments} {outcome outcome' : Except ResolveError String}
    (hmarks : marks separator template.pieces = marks separator other.pieces)
    (hslots : template.slots.map Slot.name = other.slots.map Slot.name)
    (h : template.ResolvesTo args separator [] outcome)
    (h' : other.ResolvesTo args separator [] outcome') : SameOutcome outcome outcome' := by
  have hmissing : (args.firstMissing? template.slots).map Slot.name
      = (args.firstMissing? other.slots).map Slot.name := by
    rw [Arguments.firstMissing?_map_name, Arguments.firstMissing?_map_name, hslots]
  rcases h.cases with ⟨hnone, hkey⟩ | ⟨slot, place, hsome, herror⟩
  · rcases h'.cases with ⟨-, hkey'⟩ | ⟨slot', place', hsome', -⟩
    · have hsame := filledPieces_eq_of_marks_eq hmarks args
      exact .inl ⟨_, hkey, hkey'.trans (congrArg Except.ok hsame.symm)⟩
    · simp [hnone, hsome'] at hmissing
  · rcases h'.cases with ⟨hnone', -⟩ | ⟨slot', place', hsome', herror'⟩
    · simp [hnone', hsome] at hmissing
    -- The places differ where the slots stand at different gates; the names do not.
    · rw [hsome, hsome'] at hmissing
      have hname : slot.name = slot'.name := Option.some.inj hmissing
      exact .inr ⟨slot.name, place, place', herror, hname ▸ herror'⟩

/-- The slots of a clean template hold no braces in their names. -/
theorem Template.Clean.braceFree {template : Template} (h : template.Clean) :
    ∀ slot ∈ slotsOf template.pieces, BraceFree slot.name := by
  intro slot hslot
  obtain ⟨piece, hpiece, hfound⟩ := List.mem_filterMap.mp hslot
  cases piece with
  | literal text => cases hfound
  | slot s =>
      cases hfound
      exact (h.pieces _ hpiece).2

/-- Clean templates that are rendered alike have the same marks. -/
theorem Template.Clean.same_marks {template other : Template} {separator : String}
    (hseparator : BraceFree separator) (h : template.Clean) (h' : other.Clean)
    (hrender : template.render separator = other.render separator) :
    marks separator template.pieces = marks separator other.pieces :=
  (renderPieces_eq_iff_marks_eq hseparator h.braceFree h'.braceFree).mp hrender

/-- Clean documents that are hashed alike have the same separator, and their
keys can be matched one to one: partners have the same dotted path, and for
all arguments they come to the same key, or to a missing argument of the same
name. -/
theorem Document.same_keys_of_hashed_alike (a b : Document) (ha : a.Clean) (hb : b.Clean)
    (h : a.layout.hashedBytes = b.layout.hashedBytes) :
    a.separator = b.separator
      ∧ ∃ matched : List Template, matched.Perm b.schema.templates
          ∧ List.Forall₂ (fun template partner =>
              template.dottedPath = partner.dottedPath
                ∧ ∀ args, SameOutcome (a.compile.result.resolve template.path args).result
                    (b.compile.result.resolve partner.path args).result)
              a.schema.templates matched := by
  -- Both layouts are plain, so equal bytes mean equal rows.
  obtain ⟨hseparator, hrows⟩ := ha.plain.sameRendering_iff.mpr ⟨h, hb.plain⟩
  have hseparator : a.separator = b.separator := hseparator
  rw [layout, layout, Layout.rows_ofSchema, Layout.rows_ofSchema] at hrows
  obtain ⟨matched, hperm, hmatched⟩ := exists_matching hrows
  obtain ⟨hlength, hsame⟩ := List.forall₂_iff_zip.mp hmatched
  refine ⟨hseparator, matched, hperm, List.forall₂_iff_zip.mpr ⟨hlength, ?_⟩⟩
  intro template partner hpair
  obtain ⟨htemplate, hpartner⟩ := List.of_mem_zip hpair
  have hpartner : partner ∈ b.schema.templates := hperm.mem_iff.mp hpartner
  obtain ⟨hpath, hrender⟩ := Prod.mk.inj (hsame hpair)
  refine ⟨hpath, fun args => ?_⟩
  rw [← hseparator] at hrender
  -- The rendered texts tell the marks, and the marks tell the names of the slots.
  have hmarks : marks a.separator template.pieces = marks a.separator partner.pieces :=
    (ha.templates _ htemplate).same_marks ha.separator_braces (hb.templates _ hpartner) hrender
  have hslots : template.slots.map Slot.name = partner.slots.map Slot.name := by
    rw [← Schema.slotsOf_pieces htemplate, ← Schema.slotsOf_pieces hpartner,
      ← filterMap_name?_marks a.separator, ← filterMap_name?_marks a.separator, hmarks]
  have houtcome := Schema.resolvesTo_of_mem_templates htemplate a.separator args
  have houtcome' := Schema.resolvesTo_of_mem_templates hpartner a.separator args
  rw [compile, compile, ← hseparator]
  exact houtcome.same hmarks hslots houtcome'

/-- A key with a dot in its name, whose first literal holds the separator. -/
def Document.dottedComment : Document :=
  ⟨":", Schema.empty.insert "post.comment"
    (some (.key [.literal "post:comment", .slot ⟨"id", .number⟩]))⟩

/-- A key with the same dotted path, in a branch. -/
def Document.nestedComment : Document :=
  ⟨":", Schema.empty.insert "post"
    (some (.branch (Schema.empty.insert "comment"
      (some (.key [.literal "comment", .slot ⟨"id", .text⟩])))))⟩

/-- The two documents are hashed alike, so their keys come to the same. -/
theorem Document.nested_comment_same_key :
    dottedComment.Clean ∧ nestedComment.Clean
      ∧ dottedComment.layout.hashedBytes = nestedComment.layout.hashedBytes
      ∧ ∀ args, SameOutcome
          (dottedComment.compile.result.resolve ["post.comment"] args).result
          (nestedComment.compile.result.resolve ["post", "comment"] args).result := by
  have hdotted : dottedComment.Clean := ⟨by decide, by decide, by decide⟩
  have hnested : nestedComment.Clean := ⟨by decide, by decide, by decide⟩
  have hrows : dottedComment.layout.rows = nestedComment.layout.rows := by decide
  have hhashed : dottedComment.layout.hashedBytes = nestedComment.layout.hashedBytes :=
    Layout.hashedBytes_eq_iff.mpr (Layout.SameRendering.hashedText_eq ⟨rfl, hrows ▸ .refl _⟩)
  obtain ⟨-, matched, hperm, hmatched⟩ := same_keys_of_hashed_alike _ _ hdotted hnested hhashed
  -- There is one key on either side, so the matching can only be of these two.
  have htemplates : dottedComment.schema.templates
      = [⟨["post.comment"], [], [⟨"id", .number⟩],
          [.literal "post:comment", .slot ⟨"id", .number⟩]⟩] := by
    decide
  have htemplates' : nestedComment.schema.templates
      = [⟨["post", "comment"], [], [⟨"id", .text⟩],
          [.literal "post", .literal "comment", .slot ⟨"id", .text⟩]⟩] := by
    decide
  rw [htemplates'] at hperm
  rw [htemplates, List.perm_singleton.mp hperm] at hmatched
  obtain ⟨⟨-, hsame⟩, -⟩ := List.forall₂_cons.mp hmatched
  exact ⟨hdotted, hnested, hhashed, hsame⟩

end KeyTree
