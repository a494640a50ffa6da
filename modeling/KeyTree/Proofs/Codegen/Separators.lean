import KeyTree.Proofs.Codegen.Outline

/-!
# `KeyTree.Proofs.Codegen.Separators`: source for different separators

The separator is put into source as text: in the constant that methods use at
run time, and in comments that show how keys look. `SameBut` says what two texts
have in common if they differ in these places only. Their lines can be put side
by side, one next to one, and a line differs from the one next to it only where
both hold the separator.

`Schema.source_same_but_separator` says so of the source for any two separators.
The structs are generated before the separator is looked at, so generation
fails for both or for none. It is escaped wherever it is written, so a
separator of several lines is written on one.
-/

set_option autoImplicit false

namespace KeyTree

/-- Lines side by side, of texts that were written for two separators. They are
the same line, or both hold the separator, or both are the comment of a key. A
comment shows the key's template and stands above the line that opens the
method of the key. -/
inductive SameBut (templates : List Template) (separator separator' : String)
    (print : PrintRules) : List String → List String → Prop
  | nil : SameBut templates separator separator' print [] []
  | line (line : String) {rest rest' : List String}
      (h : SameBut templates separator separator' print rest rest') :
      SameBut templates separator separator' print (line :: rest) (line :: rest')
  | constant {rest rest' : List String}
      (h : SameBut templates separator separator' print rest rest') :
      SameBut templates separator separator' print
        (separatorLine separator print :: rest) (separatorLine separator' print :: rest')
  | comment {template : Template} {key method opening : String} {rest rest' : List String}
      (hlisted : template ∈ templates) (hkey : template.path.getLast? = some key)
      (hname : LetterRules.unicode.snakeCase key = some method)
      (hopening : declared? opening = some (.method method "String"))
      (h : SameBut templates separator separator' print rest rest') :
      SameBut templates separator separator' print
        (indented (keyComment separator template.pieces print) :: opening :: rest)
        (indented (keyComment separator' template.pieces print) :: opening :: rest')

namespace SameBut

variable {templates : List Template} {separator separator' : String} {print : PrintRules}
  {lines lines' : List String}

/-- Lines are the same as themselves. -/
theorem refl (lines : List String) : SameBut templates separator separator' print lines lines := by
  induction lines with
  | nil => exact .nil
  | cons line rest ih => exact .line line ih

theorem append (h : SameBut templates separator separator' print lines lines')
    {more more' : List String} (hmore : SameBut templates separator separator' print more more') :
    SameBut templates separator separator' print (lines ++ more) (lines' ++ more') := by
  induction h with
  | nil => exact hmore
  | line line _ ih => exact .line line ih
  | constant _ ih => exact .constant ih
  | comment hlisted hkey hname hopening _ ih => exact .comment hlisted hkey hname hopening ih

/-- A block is the same but for what is inside. -/
theorem braced (head : String) {body body' : List String}
    (h : SameBut templates separator separator' print (body.map indented)
      (body'.map indented)) :
    SameBut templates separator separator' print (KeyTree.braced head body)
      (KeyTree.braced head body') := by
  rw [KeyTree.braced, KeyTree.braced]
  exact .line _ (h.append (.refl _))

/-- There are as many lines in both texts. -/
theorem length_eq (h : SameBut templates separator separator' print lines lines') :
    lines.length = lines'.length := by
  induction h with
  | nil => rfl
  | line line _ ih => rw [List.length_cons, List.length_cons, ih]
  | constant _ ih => rw [List.length_cons, List.length_cons, ih]
  | comment _ _ _ _ _ ih => simp only [List.length_cons, ih]

/-- Lines that differ declare nothing. -/
theorem declared_eq (h : SameBut templates separator separator' print lines lines') :
    lines.filterMap declared? = lines'.filterMap declared? := by
  induction h with
  | nil => rfl
  | line line _ ih => rw [List.filterMap_cons, List.filterMap_cons, ih]
  | constant _ ih =>
      rw [List.filterMap_cons_none (declared?_separatorLine separator print),
        List.filterMap_cons_none (declared?_separatorLine separator' print), ih]
  | comment _ _ _ _ _ ih =>
      rw [List.filterMap_cons_none (declared?_keyComment ..),
        List.filterMap_cons_none (declared?_keyComment ..), List.filterMap_cons,
        List.filterMap_cons, ih]

end SameBut

section

variable {templates : List Template} {rootName : String} (separator separator' : String)
  (print : PrintRules)

/-- The lines of a method are the same but for the comment of a key. -/
theorem sameBut_method {path : List String} {listed : String × Level.Entry} {method : Method}
    (hmethod : (listed.2.stage listed.1).Method .unicode method) (hworded : method.Worded)
    (hanswer : Level.Entry.Answers .unicode rootName templates path listed method.answer) :
    SameBut templates separator separator' print ((method.lines separator print).map indented)
      ((method.lines separator' print).map indented) := by
  have hname := hmethod.name
  rw [Level.Entry.name_stage] at hname
  have hopening := hworded.declared?_signature
  cases hheld : method.answer with
  | key pieces =>
      rw [hheld] at hanswer hopening
      rw [method.lines_of_key separator print hheld, method.lines_of_key separator' print hheld]
      cases hanswer with
      | @key key _ template hlisted hpath =>
          exact .comment hlisted (by rw [hpath, List.getLast?_concat]) hname hopening (.refl _)
  | level structName =>
      -- The separator is not looked at.
      rw [method.lines_of_level separator print hheld, method.lines_of_level separator' print hheld]
      exact .refl _

/-- The lines of a struct are the same but for the comments of its keys. -/
theorem sameBut_struct {listed : List String × Level} {builder : BuilderStruct}
    (h : Level.Generates .unicode rootName templates listed builder) :
    SameBut templates separator separator' print (builder.lines separator print)
      (builder.lines separator' print) := by
  have hmethods : SameBut templates separator separator' print
      ((builder.methods.flatMap fun method => "" :: method.lines separator print).map indented)
      ((builder.methods.flatMap fun method => "" :: method.lines separator' print).map
        indented) := by
    have hall := forall₂_and h.struct.methods h.answers
    have hworded := h.worded.methods
    generalize builder.methods = methods at hall hworded
    generalize listed.2.present = entries at hall
    induction hall with
    | nil => exact .nil
    | @cons entry method entries methods hfirst _ ih =>
        obtain ⟨hword, hwords⟩ := List.forall_mem_cons.mp hworded
        have hlines := sameBut_method separator separator' print hfirst.1 hword hfirst.2
        rw [List.flatMap_cons, List.flatMap_cons, List.map_append, List.map_append]
        exact .append (.line _ hlines) (ih hwords)
  rw [BuilderStruct.lines, BuilderStruct.lines]
  refine .append (.refl _) (.line _ (.braced _ ?_))
  rw [List.map_append, List.map_append]
  exact .append (.refl _) hmethods

/-- The lines in front of the structs are the same but for the constant. -/
theorem sameBut_headerLines :
    SameBut templates separator separator' print (headerLines separator print)
      (headerLines separator' print) :=
  .line _ (.line _ (.line _ (.constant (.refl _))))

/-- The blocks of a module are the same but for the comments of its keys. -/
theorem sameBut_blocks {levels : List (List String × Level)} {builders : List BuilderStruct}
    (h : List.Forall₂ (Level.Generates .unicode rootName templates) levels builders) :
    SameBut templates separator separator' print
      (builders.map fun builder => "" :: builder.lines separator print).flatten
      (builders.map fun builder => "" :: builder.lines separator' print).flatten := by
  induction h with
  | nil => exact .nil
  | cons hfirst _ ih =>
      exact .append (.line _ (sameBut_struct separator separator' print hfirst)) ih

end

/-- Source hangs on the separator in few places. Whatever two separators are,
generation fails for both with one error, or succeeds for both. Then the texts
have equally many lines, and read side by side these are the same, but for the
line of the constant and the comments of keys. So both texts declare the same
structs and methods in the same order. -/
theorem Schema.source_same_but_separator (schema : Schema)
    (rootName separator separator' : String) (print : PrintRules) :
    (∃ error, (schema.source .unicode rootName separator print).result = .error error
        ∧ (schema.source .unicode rootName separator' print).result = .error error)
      ∨ ∃ text text', (schema.source .unicode rootName separator print).result = .ok text
          ∧ (schema.source .unicode rootName separator' print).result = .ok text'
          ∧ SameBut schema.templates separator separator' print (text.splitOn "\n")
              (text'.splitOn "\n")
          ∧ (text.splitOn "\n").length = (text'.splitOn "\n").length
          ∧ declarations text = declarations text' := by
  cases hbuilders : schema.builders .unicode rootName with
  | error error =>
      refine .inl ⟨error, ?_, ?_⟩
      · rw [source, hbuilders]
        rfl
      · rw [source, hbuilders]
        rfl
  | ok builders =>
      have hgenerates := generates_of_builders hbuilders
      have hworded := worded_of_builders hbuilders
      have hlines : SameBut schema.templates separator separator' print
          ((linesText (moduleLines separator builders print)).splitOn "\n")
          ((linesText (moduleLines separator' builders print)).splitOn "\n") := by
        rw [splitOn_moduleLines separator print hworded,
          splitOn_moduleLines separator' print hworded]
        exact .append (.append (sameBut_headerLines separator separator' print)
          (sameBut_blocks separator separator' print hgenerates)) (.refl _)
      refine .inr ⟨_, _, ?_, ?_, hlines, hlines.length_eq, hlines.declared_eq⟩
      · rw [source, hbuilders]
        rfl
      · rw [source, hbuilders]
        rfl

end KeyTree
