import KeyTree.Proofs.Codegen.Lines

/-!
# `KeyTree.Proofs.Codegen.Confined`: texts stay in their place in the source

A document's texts get into generated source in two places: as string literals
and in comments. `Schema.source_confines_texts` says that they stay there. Cut
by the lexical rules of the language, the source holds the literals and the
comments that were written, one after the other, and no others. Each literal
stands for the text that it was written for, and each comment for its line.

`Schema.shownTexts` are the texts that a schema's builders show as literals, in
the order of the builders. No quote, backslash or line break in them, and no
choice of characters to escape, changes what is read.
-/

set_option autoImplicit false

namespace KeyTree

/-! ### The texts that are shown -/

/-- The texts of a key, or of a part of it, that no arguments are put in
for. -/
def literalsOf (pieces : List Piece) : List String :=
  pieces.filterMap fun
    | .literal text => some text
    | .slot _ => none

/-- The texts of a schema that its builders show as literals, in the order of
the builders: the name of a branch or gate, and the literals of a key. -/
def Schema.shownTexts (schema : Schema) : List String :=
  schema.levels.flatMap fun listed =>
    listed.2.present.flatMap fun entry => literalsOf (entry.2.stage entry.1).pieces

/-- Related lists are mapped to the same list, if their members are. -/
theorem flatMap_eq_of_forall₂ {α β γ : Type} {R : α → β → Prop} {f : α → List γ} {g : β → List γ}
    {first : List α} {second : List β} (h : List.Forall₂ R first second)
    (hsame : ∀ a b, R a b → g b = f a) : second.flatMap g = first.flatMap f := by
  induction h with
  | nil => rfl
  | cons hfirst _ ih => rw [List.flatMap_cons, List.flatMap_cons, hsame _ _ hfirst, ih]

section

variable (separator : String) (print : PrintRules)

/-- A literal of a text in the source. -/
def shownLiteral (text : String) : String × String := (rustLiteral text print, text)

theorem literals_segments {rules : LetterRules} {pieces : List Piece}
    {segments : List SegmentExpr} (h : List.Forall₂ (Piece.Becomes rules) pieces segments) :
    (segments.flatMap (SegmentExpr.lexemes print)).filterMap Lexeme.literal?
      = (literalsOf pieces).map (shownLiteral print) := by
  induction h with
  | nil => rfl
  | @cons piece segment pieces segments hfirst _ ih =>
      rw [List.flatMap_cons, List.filterMap_append, ih]
      cases piece with
      | literal text =>
          obtain rfl : segment = .literal text := hfirst
          rfl
      | slot s =>
          obtain ⟨parameter, -, rfl⟩ := hfirst
          rfl

theorem comments_segments (segments : List SegmentExpr) :
    (segments.flatMap (SegmentExpr.lexemes print)).filterMap Lexeme.comment? = [] := by
  rw [List.filterMap_flatMap]
  refine List.flatMap_eq_nil_iff.mpr fun segment _ => ?_
  cases segment <;> rfl

theorem literals_comments (comments : List String) :
    (comments.map Lexeme.comment).filterMap Lexeme.literal? = [] := by
  rw [List.filterMap_map]
  exact List.filterMap_eq_nil_iff.mpr fun _ _ => rfl

theorem comments_comments (comments : List String) :
    (comments.map Lexeme.comment).filterMap Lexeme.comment? = comments := by
  rw [List.filterMap_map]
  exact List.filterMap_some

/-- The literals of a method are those of its stage. -/
theorem Stage.Method.literals {rules : LetterRules} {stage : Stage} {method : KeyTree.Method}
    (h : stage.Method rules method) :
    (method.lexemes separator print).filterMap Lexeme.literal?
      = (literalsOf stage.pieces).map (shownLiteral print) := by
  rw [KeyTree.Method.lexemes, List.filterMap_append, literals_comments, List.nil_append,
    literals_segments print h.segments]

theorem Method.comments_lexemes (method : Method) :
    (method.lexemes separator print).filterMap Lexeme.comment?
      = method.comments separator print := by
  rw [lexemes, List.filterMap_append, comments_comments, comments_segments, List.append_nil]

/-- The literals of a struct are those of the entries of its level. -/
theorem Level.Struct.literals {rules : LetterRules} {listed : List String × Level}
    {builder : BuilderStruct} (h : Level.Struct rules listed builder) :
    (builder.lexemes separator print).filterMap Lexeme.literal?
      = (listed.2.present.flatMap fun entry => literalsOf (entry.2.stage entry.1).pieces).map
          (shownLiteral print) := by
  rw [BuilderStruct.lexemes, List.filterMap_cons_none rfl, List.filterMap_flatMap, List.map_flatMap]
  exact flatMap_eq_of_forall₂ h.methods fun entry method hmethod =>
    hmethod.literals separator print

theorem BuilderStruct.comments_lexemes (builder : BuilderStruct) :
    (builder.lexemes separator print).filterMap Lexeme.comment?
      = builder.comments separator print := by
  have hfirst : Lexeme.comment? (.comment ("/// " ++ builder.comment print))
      = some ("/// " ++ builder.comment print) := rfl
  rw [lexemes, List.filterMap_cons_some hfirst, List.filterMap_flatMap]
  simp only [Method.comments_lexemes]
  rfl

theorem BuilderStruct.oneLine_of_mem_comments {builder : BuilderStruct} {line : String}
    (h : line ∈ builder.comments separator print) : OneLine line := by
  rcases List.mem_cons.mp h with rfl | h
  · rw [comment]
    split
    · decide
    · rw [keysUnder_eq]
      exact oneLine_escaped print _ (by decide) (by decide)
  · obtain ⟨method, -, hline⟩ := List.mem_flatMap.mp h
    rw [Method.comments] at hline
    split at hline
    · obtain rfl := List.mem_singleton.mp hline
      exact oneLine_escaped print _ (by decide) (by decide)
    · cases hline

/-- The literals of generated structs are those that the schema shows. -/
theorem Schema.literals_of_builders {rules : LetterRules} {schema : Schema} {rootName : String}
    {builders : List BuilderStruct} (h : schema.builders rules rootName = .ok builders) :
    (builders.flatMap (BuilderStruct.lexemes separator print)).filterMap Lexeme.literal?
      = schema.shownTexts.map (shownLiteral print) := by
  rw [List.filterMap_flatMap, shownTexts, List.map_flatMap]
  exact flatMap_eq_of_forall₂ (structs_of_builders h) fun listed builder hstruct =>
    hstruct.literals separator print

end

/-! ### The whole source -/

/-- Texts stay where they are put. Where source is generated, it is cut into
literals and comments. The literals are that of the separator, those of the
functions that methods call, and then one for each text that the schema's
levels show, in order; each is one literal, read back as its text. The comments
are those of the header and then those of the structs, one after the other. No
literal and no comment has a line break in it. This does not hang on which
characters are taken to be printable or combining. -/
theorem Schema.source_confines_texts {schema : Schema} {rootName separator text : String}
    {print : PrintRules}
    (haccepted : (schema.source .unicode rootName separator print).result = .ok text) :
    ∃ builders lexemes, schema.builders .unicode rootName = .ok builders
      ∧ text = linesText (moduleLines separator builders print)
      ∧ lexemes? text = some lexemes
      ∧ lexemes.filterMap Lexeme.literal?
          = shownLiteral print separator :: functionLiterals
            ++ schema.shownTexts.map (shownLiteral print)
      ∧ lexemes.filterMap Lexeme.comment?
          = headerComments ++ builders.flatMap (BuilderStruct.comments separator print)
      ∧ (∀ literal ∈ lexemes.filterMap Lexeme.literal?, OneLine literal.1)
      ∧ ∀ line ∈ lexemes.filterMap Lexeme.comment?, OneLine line := by
  obtain ⟨builders, hbuilders, rfl⟩ := exists_builders_of_source haccepted
  have hlexemes := lexemes?_moduleLines separator print (plain_of_builders hbuilders)
  have hliterals : (headerLexemes separator print
        ++ builders.flatMap (BuilderStruct.lexemes separator print)).filterMap Lexeme.literal?
      = shownLiteral print separator :: functionLiterals
        ++ schema.shownTexts.map (shownLiteral print) := by
    rw [List.filterMap_append, literals_of_builders separator print hbuilders]
    rfl
  have hcomments : (headerLexemes separator print
        ++ builders.flatMap (BuilderStruct.lexemes separator print)).filterMap Lexeme.comment?
      = headerComments ++ builders.flatMap (BuilderStruct.comments separator print) := by
    rw [List.filterMap_append, List.filterMap_flatMap]
    simp only [BuilderStruct.comments_lexemes]
    rfl
  refine ⟨builders, _, hbuilders, rfl, hlexemes, hliterals, hcomments, ?_, ?_⟩
  · intro literal hmem
    have hshown : ∀ shown, OneLine (shownLiteral print shown).1 := fun shown =>
      oneLine_rustLiteral shown print
    have hfunctions : ∀ written ∈ functionLiterals, OneLine written.1 := by decide
    rw [hliterals, List.cons_append, List.mem_cons, List.mem_append, List.mem_map] at hmem
    rcases hmem with rfl | hmem | ⟨shown, -, rfl⟩
    · exact hshown separator
    · exact hfunctions literal hmem
    · exact hshown shown
  · intro line hmem
    have hheader : ∀ line ∈ headerComments, OneLine line := by decide
    rw [hcomments, List.mem_append, List.mem_flatMap] at hmem
    rcases hmem with hmem | ⟨builder, -, hmem⟩
    · exact hheader line hmem
    · exact BuilderStruct.oneLine_of_mem_comments separator print hmem

/-- A key called like a piece of code, made of texts with a quote, a backslash,
line breaks and a combining character. -/
def Schema.quotedTexts : Schema :=
  Schema.empty.insert "a\"; fn b() \x7b\x7d //" (some (.key
    [.literal "\"\\", .literal "*/\r\n///", .literal "\u0301", .slot ⟨"id", .text⟩]))

/-- With a separator of a quote and a line break its builders show these texts
and no others. -/
theorem Schema.quotedTexts_confined :
    ∃ text, (quotedTexts.source .unicode "Keys" "\"\n").result = .ok text
      ∧ ∃ lexemes, lexemes? text = some lexemes
        ∧ (lexemes.filterMap Lexeme.literal?).map Prod.snd
          = ["\"\n", "NaN", "Infinity", "-Infinity", "0", "\"\\", "*/\r\n///", "\u0301"] := by
  have hsome : (quotedTexts.builders .unicode "Keys").toOption.isSome := by decide +kernel
  obtain ⟨text, haccepted⟩ := Schema.exists_source_of_isSome hsome "\"\n" .unicode
  obtain ⟨builders, lexemes, -, -, hlexemes, hliterals, -⟩ :=
    Schema.source_confines_texts haccepted
  have hshown : quotedTexts.shownTexts = ["\"\\", "*/\r\n///", "\u0301"] := by decide +kernel
  refine ⟨text, haccepted, lexemes, hlexemes, ?_⟩
  rw [hliterals, hshown]
  rfl

end KeyTree
