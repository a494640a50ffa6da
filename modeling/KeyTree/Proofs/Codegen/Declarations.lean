import KeyTree.Proofs.Codegen.Confined
import KeyTree.Proofs.Codegen.Levels
import KeyTree.Proofs.Text.Split

/-!
# `KeyTree.Proofs.Codegen.Declarations`: what the lines of source declare

Generated source can be read line by line. `declared?` tells from a line alone
whether it declares a struct, the implementation of one, a constructor, or a
method with what it returns.

* `Unbroken`: the names in source are single words, so a line is read without
  knowing where a name ends (`unbroken_of_structNameAt?`).
* `declared?_of_front`, `declared?_of_apart`: what a line declares is told by
  how it starts.
* `BuilderStruct.declared_lines`: the lines of a struct declare the struct, its
  implementation and its methods, and nothing else.
* `splitOn_moduleLines`: the lines of a text are those that were written. No
  name and no text of a schema breaks a line.
-/

set_option autoImplicit false

namespace KeyTree

/-! ### Lines of a text -/

/-- Lines that end with line feeds are lines with line feeds between them, the
last of them empty. -/
theorem linesText_eq_intercalate (lines : List String) :
    linesText lines = (String.singleton '\n').intercalate (lines ++ [""]) := by
  induction lines with
  | nil => rfl
  | cons line rest ih =>
      have hcons : linesText (line :: rest) = line ++ "\n" ++ linesText rest := by
        simp [linesText, String.join_cons]
      obtain ⟨next, others, hnext⟩ := List.exists_cons_of_ne_nil
        (show rest ++ [""] ≠ [] by simp)
      rw [hcons, ih, List.cons_append, hnext, String.intercalate_cons_cons]
      rfl

/-- Lines that hold no line feed are read back from the text that they make. -/
theorem splitOn_linesText {lines : List String} (h : ∀ line ∈ lines, OneLine line) :
    (linesText lines).splitOn "\n" = lines ++ [""] := by
  have hfree : ∀ line ∈ lines ++ [""], '\n' ∉ line.toList := by
    intro line hmem hfeed
    rcases List.mem_append.mp hmem with hmem | hmem
    · exact (h line hmem '\n' hfeed).1 rfl
    · rw [List.mem_singleton.mp hmem] at hfeed
      cases hfeed
  show (linesText lines).splitOn (String.singleton '\n') = lines ++ [""]
  rw [splitOn_singleton, linesText_eq_intercalate]
  exact splitOn_intercalate_singleton (by simp) hfree

/-! ### Words -/

/-- A text that holds none of some characters. -/
def FreeOf (marks : List Char) (text : String) : Prop := ∀ c ∈ text.toList, c ∉ marks

instance (marks : List Char) (text : String) : Decidable (FreeOf marks text) :=
  List.decidableBAll (· ∉ marks) text.toList

theorem FreeOf.mono {marks others : List Char} {text : String} (h : FreeOf marks text)
    (hothers : others ⊆ marks) : FreeOf others text :=
  fun c hc hmem => h c hc (hothers hmem)

theorem freeOf_append {marks : List Char} {front back : String} (hfront : FreeOf marks front)
    (hback : FreeOf marks back) : FreeOf marks (front ++ back) :=
  forall_char_append hfront hback

/-- The characters that end a word of a declaration, or its line. -/
def wordEnds : List Char := ['\n', '\r', ' ', '(', ')', '>', ',', ':', '"']

/-- A text that stays one word in a declaration. -/
def Unbroken (text : String) : Prop := FreeOf wordEnds text

instance (text : String) : Decidable (Unbroken text) :=
  inferInstanceAs (Decidable (FreeOf wordEnds text))

theorem Unbroken.oneLine {text : String} (h : Unbroken text) : OneLine text := by
  intro c hc
  have hends := h c hc
  simp only [wordEnds, List.mem_cons, not_or] at hends
  exact ⟨hends.1, hends.2.1⟩

theorem Unbroken.not_mem {text : String} (h : Unbroken text) {c : Char} (hc : c ∈ wordEnds) :
    c ∉ text.toList := fun hmem => h c hmem hc

section

variable {name identifier : String}

/-- What ends a word is foreign to identifiers. -/
theorem foreign_wordEnds : ∀ d ∈ wordEnds, LetterRules.unicode.Foreign d ∧ d ≠ '_' := by
  have hends : ∀ d ∈ wordEnds, d.toNat ≠ 0 ∧ d.toNat < 128
      ∧ LetterRules.unicode.alphanumeric d = false ∧ d ≠ '_' :=
    List.all_iff_forall_prop.mp (by decide +kernel)
  intro d hd
  obtain ⟨hpos, hascii, hletter, hne⟩ := hends d hd
  exact ⟨LetterRules.foreign_of_ascii hpos hascii hletter, hne⟩

theorem unbroken_of_snakeCase (h : LetterRules.unicode.snakeCase name = some identifier) :
    Unbroken identifier := by
  intro c hc hend
  obtain ⟨hforeign, hne⟩ := foreign_wordEnds c hend
  exact hforeign.not_mem_snakeCase hne h hc

theorem unbroken_of_pascalCase (h : LetterRules.unicode.pascalCase name = some identifier) :
    Unbroken identifier := by
  intro c hc hend
  obtain ⟨hforeign, hne⟩ := foreign_wordEnds c hend
  exact hforeign.not_mem_pascalCase hne h hc

/-- The name of a struct is one word, wherever its level is. -/
theorem unbroken_of_structNameAt? {rootName : String} {path : List String}
    (h : structNameAt? .unicode rootName path = some name) : Unbroken name := by
  rw [structNameAt?] at h
  obtain ⟨root, hroot, hpath⟩ := Option.bind_eq_some_iff.mp h
  have hword := unbroken_of_pascalCase hroot
  clear h hroot
  induction path generalizing root with
  | nil =>
      obtain rfl := Option.some.inj hpath
      exact hword
  | cons key rest ih =>
      obtain ⟨child, hchild, hrest⟩ := Option.bind_eq_some_iff.mp hpath
      obtain ⟨suffix, hsuffix, rfl⟩ := Option.map_eq_some_iff.mp hchild
      refine ih _ hrest (forall_char_append hword fun c hc => ?_)
      rw [trimUnderscores, String.toList_ofList] at hc
      exact unbroken_of_pascalCase hsuffix c
        ((List.rdropWhile_prefix (· = '_') suffix.toList).subset hc)

end

/-! ### Declarations -/

/-- What a line of source declares. -/
inductive Declaration where
  | struct (name : String)
  /-- The implementation of a struct. -/
  | implementation (name : String)
  /-- A constant function, without a receiver. -/
  | constructor (name : String)
  /-- A method, and the type that it returns. -/
  | method (name answer : String)
  deriving DecidableEq, Repr

/-- The word that stands alone in front of the brace at the end of a line. -/
def wordOpening? (text : List Char) : Option String :=
  if text.dropWhile (· ≠ ' ') = " \x7b".toList then
    some (String.ofList (text.takeWhile (· ≠ ' ')))
  else none

/-- What stands in front of the parameters. -/
def functionName (text : List Char) : String := String.ofList (text.takeWhile (· ≠ '('))

/-- What stands behind the arrow. -/
def functionAnswer? (text : List Char) : Option String :=
  wordOpening? ((text.dropWhile (· ≠ '>')).drop 2)

/-- The fronts of lines that declare something, and what is read behind
them. -/
def declarationFronts : List (String × (List Char → Option Declaration)) :=
  [ ("pub struct ", fun text => (wordOpening? text).map .struct),
    ("impl ", fun text => (wordOpening? text).map .implementation),
    ("    pub const fn ", fun text => some (.constructor (functionName text))),
    ("    pub fn ", fun text => (functionAnswer? text).map (.method (functionName text))) ]

/-- What a line declares, if anything. -/
def declared? (line : String) : Option Declaration :=
  declarationFronts.findSome? fun front =>
    (line.toList.dropPrefix? front.1.toList).bind front.2

/-- What the lines of a text declare. -/
def declarations (text : String) : List Declaration := (text.splitOn "\n").filterMap declared?

section

variable {front back : List Char} {c : Char}

theorem decide_ne_of_not_mem (h : c ∉ front) : ∀ d ∈ front, decide (d ≠ c) = true := by
  intro d hd
  simp only [ne_eq, decide_eq_true_eq]
  rintro rfl
  exact h hd

/-- A text is cut at the first of some character. -/
theorem takeWhile_append_cons (h : c ∉ front) : (front ++ c :: back).takeWhile (· ≠ c) = front := by
  rw [List.takeWhile_append_of_pos (decide_ne_of_not_mem h)]
  simp

theorem dropWhile_append_cons (h : c ∉ front) :
    (front ++ c :: back).dropWhile (· ≠ c) = c :: back := by
  rw [List.dropWhile_append_of_pos (decide_ne_of_not_mem h)]
  simp

end

theorem wordOpening?_eq {name : String} (h : Unbroken name) :
    wordOpening? (name ++ " \x7b").toList = some name := by
  have hspace : ' ' ∉ name.toList := h.not_mem (by decide)
  have hlist : (name ++ " \x7b").toList = name.toList ++ ' ' :: ['{'] := by simp
  rw [wordOpening?, hlist, dropWhile_append_cons hspace, takeWhile_append_cons hspace]
  simp

/-! ### Fronts of lines -/

/-- Neither text starts with the other, so no line starts with both. -/
def Apart (front other : String) : Prop :=
  ¬ front.toList <+: other.toList ∧ ¬ other.toList <+: front.toList

instance (front other : String) : Decidable (Apart front other) :=
  inferInstanceAs (Decidable (_ ∧ _))

theorem dropPrefix?_of_apart {front other : String} (h : Apart front other) (rest : List Char) :
    (front.toList ++ rest).dropPrefix? other.toList = none := by
  cases hdrop : (front.toList ++ rest).dropPrefix? other.toList with
  | none => rfl
  | some behind =>
      obtain ⟨start, hstart, hsame⟩ := List.dropPrefix?_eq_some_iff.mp hdrop
      obtain rfl := eq_of_beq hsame
      rcases List.prefix_or_prefix_of_prefix (List.prefix_append front.toList rest)
        ⟨behind, hstart.symm⟩ with hprefix | hprefix
      · exact absurd hprefix h.1
      · exact absurd hprefix h.2

/-- A line that starts with something else declares nothing. -/
theorem declared?_of_apart {front : String}
    (h : ∀ other ∈ declarationFronts.map Prod.fst, Apart front other) (rest : String) :
    declared? (front ++ rest) = none := by
  rw [declared?, List.findSome?_eq_none_iff]
  intro other hmem
  rw [String.toList_append, dropPrefix?_of_apart (h other.1 (List.mem_map_of_mem hmem)),
    Option.bind_none]

theorem pairwise_declarationFronts : (declarationFronts.map Prod.fst).Pairwise Apart := by
  decide +kernel

/-- A line with one of the fronts declares what is read behind it. -/
theorem declared?_of_front {front : String} {read : List Char → Option Declaration}
    (h : (front, read) ∈ declarationFronts) (rest : String) :
    declared? (front ++ rest) = read rest.toList := by
  obtain ⟨before, after, hsplit⟩ := List.append_of_mem h
  have hapart := pairwise_declarationFronts
  rw [hsplit, List.map_append, List.map_cons, List.pairwise_append, List.pairwise_cons] at hapart
  obtain ⟨-, ⟨hafter, -⟩, hbefore⟩ := hapart
  -- No other front is one of this line.
  have hothers : ∀ other : String × (List Char → Option Declaration), Apart front other.1 →
      ((front.toList ++ rest.toList).dropPrefix? other.1.toList).bind other.2 = none := by
    intro other hother
    rw [dropPrefix?_of_apart hother, Option.bind_none]
  have hnone : before.findSome? (fun other =>
      ((front.toList ++ rest.toList).dropPrefix? other.1.toList).bind other.2) = none := by
    rw [List.findSome?_eq_none_iff]
    intro other hmem
    have hother := hbefore other.1 (List.mem_map_of_mem hmem) front List.mem_cons_self
    exact hothers other ⟨hother.2, hother.1⟩
  have hrest : after.findSome? (fun other =>
      ((front.toList ++ rest.toList).dropPrefix? other.1.toList).bind other.2) = none := by
    rw [List.findSome?_eq_none_iff]
    intro other hmem
    exact hothers other (hafter other.1 (List.mem_map_of_mem hmem))
  have hfront : (front.toList ++ rest.toList).dropPrefix? front.toList = some rest.toList :=
    List.dropPrefix?_append_of_beq rest.toList BEq.rfl
  rw [declared?, hsplit, String.toList_append, List.findSome?_append, hnone, List.findSome?_cons]
  simp only [hfront, hrest, Option.bind_some, Option.none_or]
  cases read rest.toList <;> rfl

theorem declared?_struct {name : String} (h : Unbroken name) :
    declared? ("pub struct " ++ name ++ " \x7b") = some (.struct name) := by
  rw [String.append_assoc, declared?_of_front (.head _), wordOpening?_eq h]
  rfl

theorem declared?_implementation {name : String} (h : Unbroken name) :
    declared? ("impl " ++ name ++ " \x7b") = some (.implementation name) := by
  rw [String.append_assoc, declared?_of_front (.tail _ (.head _)), wordOpening?_eq h]
  rfl

/-- A line that is not empty is moved in by four blanks. -/
theorem indented_append {front : String} (h : front ≠ "") (rest : String) :
    indented (front ++ rest) = ("    " ++ front) ++ rest := by
  have hne : front ++ rest ≠ "" := by simp [h]
  rw [indented, if_neg hne, String.append_assoc]

/-! ### Methods -/

/-- The type that a method returns. -/
def MethodAnswer.rustType : MethodAnswer → String
  | .key _ => "String"
  | .level structName => structName

/-- The line that opens a method, without its brace. -/
def Method.signature (method : Method) : String :=
  "pub fn " ++ method.name ++ "(&self" ++ String.join (method.parameters.map Parameter.source)
    ++ ") -> " ++ method.answer.rustType

/-- The comment of a method that answers a key. -/
def keyComment (separator : String) (pieces : List Piece) (print : PrintRules) : String :=
  "/// `" ++ rustEscaped (renderPieces separator pieces) print ++ "`"

section

variable (separator : String) (print : PrintRules)

theorem Method.lines_of_key {method : Method} {pieces : List Piece}
    (h : method.answer = .key pieces) :
    method.lines separator print = keyComment separator pieces print
      :: braced method.signature [segmentsCall "join_key" method.segments print] := by
  rw [Method.lines, signature, h]
  rfl

theorem Method.lines_of_level {method : Method} {structName : String}
    (h : method.answer = .level structName) :
    method.lines separator print = braced method.signature
      (braced structName
        ["prefix: " ++ segmentsCall "extend_prefix" method.segments print ++ ","]) := by
  rw [Method.lines, signature, h]
  rfl

end

/-- The names in a method are single words. -/
structure Method.Worded (method : Method) : Prop where
  name : Unbroken method.name
  parameters : ∀ parameter ∈ method.parameters, Unbroken parameter.name
  segments : ∀ parameter, .parameter parameter ∈ method.segments → Unbroken parameter.name
  answer : Unbroken method.answer.rustType

/-- The names in the method of a stage are identifiers, so they are single
words if what it returns is one. -/
theorem Stage.Method.worded {stage : Stage} {method : KeyTree.Method}
    (h : stage.Method .unicode method) (hanswer : Unbroken method.answer.rustType) :
    method.Worded where
  name := unbroken_of_snakeCase h.name
  parameters := by
    intro parameter hmem
    obtain ⟨slot, -, hslot⟩ := exists_mem_of_forall₂ h.parameters.flip hmem
    exact unbroken_of_snakeCase hslot.1
  segments := by
    intro parameter hmem
    obtain ⟨piece, -, hpiece⟩ := exists_mem_of_forall₂ h.segments.flip hmem
    cases piece with
    | literal text => cases hpiece
    | slot s =>
        obtain ⟨_, hslot, heq⟩ := hpiece
        obtain rfl := SegmentExpr.parameter.inj heq
        exact unbroken_of_snakeCase hslot.1
  answer := hanswer

namespace Method.Worded

variable {method : Method}

/-- The parameters of a method are on its line and in front of the bracket and
the arrow behind them. -/
theorem parameters_text (h : method.Worded) :
    FreeOf ['\n', '\r', ')', '>'] (String.join (method.parameters.map Parameter.source)) := by
  refine forall_char_join fun text htext => ?_
  obtain ⟨parameter, hparameter, rfl⟩ := List.mem_map.mp htext
  have hname : FreeOf ['\n', '\r', ')', '>'] parameter.name :=
    (h.parameters parameter hparameter).mono (by simp [wordEnds])
  have hkind : FreeOf ['\n', '\r', ')', '>'] parameter.kind.rustType := by
    cases parameter.kind <;> decide
  exact freeOf_append (freeOf_append (freeOf_append (by decide) hname) (by decide)) hkind

/-- The line that opens a method declares it. -/
theorem declared?_signature (h : method.Worded) :
    declared? (indented (method.signature ++ " \x7b"))
      = some (.method method.name method.answer.rustType) := by
  let parameters := String.join (method.parameters.map Parameter.source)
  let rest := method.name ++ ("(&self" ++ (parameters ++ (") -> "
    ++ (method.answer.rustType ++ " \x7b"))))
  have hline : indented (method.signature ++ " \x7b") = "    pub fn " ++ rest := by
    have hfront : method.signature ++ " \x7b" = "pub fn " ++ rest := by
      simp only [Method.signature, rest, parameters, String.append_assoc]
    rw [hfront, indented_append (by decide)]
    rfl
  -- The name ends at the bracket, and the first `>` is that of the arrow.
  have hbracket : rest.toList = method.name.toList ++ '(' :: ("&self" ++ (parameters ++ (") -> "
      ++ (method.answer.rustType ++ " \x7b")))).toList := by
    simp [rest]
  have harrow : rest.toList = (method.name ++ "(&self" ++ parameters ++ ") -").toList
      ++ '>' :: ' ' :: (method.answer.rustType ++ " \x7b").toList := by
    simp [rest]
  have hfront : '>' ∉ (method.name ++ "(&self" ++ parameters ++ ") -").toList := by
    have hname : FreeOf ['>'] method.name := h.name.mono (by simp [wordEnds])
    have hparameters : FreeOf ['>'] parameters := h.parameters_text.mono (by simp)
    have hall : FreeOf ['>'] (method.name ++ "(&self" ++ parameters ++ ") -") :=
      freeOf_append (freeOf_append (freeOf_append hname (by decide)) hparameters) (by decide)
    intro hmem
    exact hall '>' hmem List.mem_cons_self
  have hname : functionName rest.toList = method.name := by
    rw [functionName, hbracket, takeWhile_append_cons (h.name.not_mem (by decide)),
      String.ofList_toList]
  have hanswer : functionAnswer? rest.toList = some method.answer.rustType := by
    rw [functionAnswer?, harrow, dropWhile_append_cons hfront]
    exact wordOpening?_eq h.answer
  rw [hline, declared?_of_front (.tail _ (.tail _ (.tail _ (.head _)))), hname, hanswer]
  rfl

end Method.Worded

/-! ### What the lines of a struct declare -/

theorem declared?_empty : declared? "" = none := by decide +kernel

/-- A line that has been moved in twice declares nothing. -/
theorem declared?_indented_indented (line : String) :
    declared? (indented (indented line)) = none := by
  by_cases hline : line = ""
  · subst hline
    exact declared?_empty
  · have honce : indented line = "    " ++ line := by
      rw [indented, if_neg hline]
    rw [honce, indented_append (by decide)]
    exact declared?_of_apart (by decide +kernel) line

/-- A block declares what its first line does, and what is inside. -/
theorem declared_braced (head : String) (body : List String) :
    (braced head body).filterMap declared?
      = (declared? (head ++ " \x7b")).toList ++ (body.map indented).filterMap declared? := by
  have hclose : ["\x7d"].filterMap declared? = [] := by decide +kernel
  rw [braced, List.filterMap_append, hclose, List.append_nil, List.filterMap_cons]
  cases declared? (head ++ " \x7b") <;> rfl

/-- A block inside another declares what its first line does. -/
theorem declared_indented_braced (head : String) (body : List String) :
    ((braced head body).map indented).filterMap declared?
      = (declared? (indented (head ++ " \x7b"))).toList := by
  have hbody : ((body.map indented).map indented).filterMap declared? = [] := by
    rw [List.map_map, List.filterMap_map, List.filterMap_eq_nil_iff]
    intro line _
    exact declared?_indented_indented line
  have hclose : ["\x7d"].map indented = ["    \x7d"] := rfl
  have hnone : declared? "    \x7d" = none := by decide +kernel
  rw [braced, List.cons_append, List.map_cons, List.map_append, List.filterMap_cons,
    List.filterMap_append, hbody, hclose, List.filterMap_cons, hnone]
  cases declared? (indented (head ++ " \x7b")) <;> rfl

section

variable (separator : String) (print : PrintRules)

/-- The comment of a key declares nothing. -/
theorem declared?_keyComment (pieces : List Piece) :
    declared? (indented (keyComment separator pieces print)) = none := by
  have hline : indented (keyComment separator pieces print)
      = "    /// `" ++ (rustEscaped (renderPieces separator pieces) print ++ "`") := by
    rw [keyComment, String.append_assoc, indented_append (by decide)]
    rfl
  rw [hline]
  exact declared?_of_apart (by decide +kernel) _

/-- The lines of a method declare the method and nothing else. -/
theorem Method.declared_lines {method : Method} (h : method.Worded) :
    ((method.lines separator print).map indented).filterMap declared?
      = [.method method.name method.answer.rustType] := by
  cases hanswer : method.answer with
  | key pieces =>
      rw [method.lines_of_key separator print hanswer, List.map_cons,
        List.filterMap_cons_none (declared?_keyComment separator print pieces),
        declared_indented_braced, h.declared?_signature, hanswer]
      rfl
  | level structName =>
      rw [method.lines_of_level separator print hanswer, declared_indented_braced,
        h.declared?_signature, hanswer]
      rfl

/-- The names in a struct are single words. -/
structure BuilderStruct.Worded (builder : BuilderStruct) : Prop where
  name : Unbroken builder.name
  methods : ∀ method ∈ builder.methods, method.Worded

/-- What the lines of a struct declare. -/
def BuilderStruct.outline (builder : BuilderStruct) : List Declaration :=
  .struct builder.name :: .implementation builder.name
    :: (if builder.path.isEmpty then [.constructor "new"] else [])
    ++ builder.methods.map fun method => .method method.name method.answer.rustType

/-- The lines of a struct declare the struct, its implementation and its
methods, and nothing else. -/
theorem BuilderStruct.declared_lines {builder : BuilderStruct} (h : builder.Worded) :
    (builder.lines separator print).filterMap declared? = builder.outline := by
  have hcomment : declared? ("/// " ++ builder.comment print) = none :=
    declared?_of_apart (by decide +kernel) _
  have hderive : declared? "#[derive(Debug, Clone, PartialEq, Eq)]" = none := by decide +kernel
  have hfields : (["prefix: Vec<String>,"].map indented).filterMap declared? = [] := by
    decide +kernel
  have hconstructor : ((if builder.path.isEmpty then
        braced "pub const fn new() -> Self" ["Self \x7b prefix: Vec::new() \x7d"]
      else []).map indented).filterMap declared?
      = if builder.path.isEmpty then [.constructor "new"] else [] := by
    cases builder.path.isEmpty <;> decide +kernel
  have hmethods : ((builder.methods.flatMap fun method => "" :: method.lines separator print).map
        indented).filterMap declared?
      = builder.methods.map fun method => .method method.name method.answer.rustType := by
    have hall := h.methods
    generalize builder.methods = methods at hall
    induction methods with
    | nil => rfl
    | cons method rest ih =>
        obtain ⟨hmethod, hrest⟩ := List.forall_mem_cons.mp hall
        have hlines : (("" :: method.lines separator print).map indented).filterMap declared?
            = [.method method.name method.answer.rustType] := by
          rw [List.map_cons, indented, if_pos rfl, List.filterMap_cons_none declared?_empty,
            Method.declared_lines separator print hmethod]
        rw [List.flatMap_cons, List.map_append, List.filterMap_append, hlines, ih hrest]
        rfl
  rw [lines, List.filterMap_append, List.filterMap_cons_none hcomment,
    List.filterMap_cons_none hderive, List.filterMap_cons_none declared?_empty, declared_braced,
    declared_braced, declared?_struct h.name, declared?_implementation h.name, hfields,
    List.map_append, List.filterMap_append, hconstructor, hmethods]
  rfl

/-- The line that holds the separator declares nothing, whatever it is. -/
theorem declared?_separatorLine : declared? (separatorLine separator print) = none := by
  have hline : separatorLine separator print
      = "pub const SEPARATOR: &str = " ++ (rustLiteral separator print ++ ";") :=
    String.append_assoc ..
  exact (congrArg declared? hline).trans (declared?_of_apart (by decide +kernel) _)

theorem oneLine_separatorLine : OneLine (separatorLine separator print) :=
  oneLine_append (oneLine_append (by decide) (oneLine_rustLiteral separator print)) (by decide)

/-- The lines in front of the structs are single lines and declare nothing. -/
theorem headerLines_plain :
    ∀ line ∈ headerLines separator print, OneLine line ∧ declared? line = none := by
  have hseparator :=
    And.intro (oneLine_separatorLine separator print) (declared?_separatorLine separator print)
  have hfixed : ∀ line ∈ ["// Generated by keyschema-codegen. Do not edit.", "",
      "/// Separator joining key segments."] ++ ("" :: numberLines ++ "" :: functionLines),
      OneLine line ∧ declared? line = none := by
    decide +kernel
  have hlines : headerLines separator print
      = ["// Generated by keyschema-codegen. Do not edit.", "",
          "/// Separator joining key segments."]
        ++ separatorLine separator print :: ("" :: numberLines ++ "" :: functionLines) := rfl
  obtain ⟨hfirst, hrest⟩ := List.forall_mem_append.mp hfixed
  rw [hlines]
  exact List.forall_mem_append.mpr ⟨hfirst, List.forall_mem_cons.mpr ⟨hseparator, hrest⟩⟩

/-! ### Lines that are not broken -/

theorem oneLine_indented {line : String} (h : OneLine line) : OneLine (indented line) := by
  rw [indented]
  split
  · decide
  · exact oneLine_append (by decide) h

theorem oneLine_braced {head : String} {body : List String} (hhead : OneLine head)
    (hbody : ∀ line ∈ body, OneLine line) : ∀ line ∈ braced head body, OneLine line := by
  intro line hmem
  rw [braced, List.cons_append, List.mem_cons, List.mem_append, List.mem_map,
    List.mem_singleton] at hmem
  rcases hmem with rfl | ⟨inside, hinside, rfl⟩ | rfl
  · exact oneLine_append hhead (by decide)
  · exact oneLine_indented (hbody inside hinside)
  · decide

namespace Method.Worded

variable {method : Method}

theorem oneLine_signature (h : method.Worded) : OneLine method.signature := by
  have hparameters : OneLine (String.join (method.parameters.map Parameter.source)) := by
    intro c hc
    have hmarks := h.parameters_text c hc
    simp only [List.mem_cons, not_or] at hmarks
    exact ⟨hmarks.1, hmarks.2.1⟩
  have hname := oneLine_append (show OneLine "pub fn " by decide) h.name.oneLine
  exact oneLine_append (oneLine_append (oneLine_append (oneLine_append hname (by decide))
    hparameters) (by decide)) h.answer.oneLine

theorem oneLine_segmentsCall (h : method.Worded) {function : String}
    (hfunction : OneLine function) :
    OneLine (segmentsCall function method.segments print) := by
  have hsegments : ∀ text ∈ method.segments.map (SegmentExpr.source · print), OneLine text := by
    intro text htext
    obtain ⟨segment, hsegment, rfl⟩ := List.mem_map.mp htext
    cases segment with
    | literal text => exact oneLine_append (oneLine_rustLiteral text print) (by decide)
    | parameter parameter =>
        have hname := (h.segments parameter hsegment).oneLine
        obtain ⟨name, kind⟩ := parameter
        cases kind with
        | text => exact oneLine_append hname (by decide)
        | number => exact oneLine_append (oneLine_append (by decide) hname) (by decide)
        | boolean => exact oneLine_append hname (by decide)
  have hjoined := forall_char_intercalate (show OneLine ", " by decide) hsegments
  exact oneLine_append (oneLine_append (oneLine_append (oneLine_append (by decide) hfunction)
    (by decide)) hjoined) (by decide)

theorem oneLine_lines (h : method.Worded) :
    ∀ line ∈ method.lines separator print, OneLine line := by
  cases hanswer : method.answer with
  | key pieces =>
      rw [method.lines_of_key separator print hanswer]
      refine List.forall_mem_cons.mpr ⟨oneLine_escaped print _ (by decide) (by decide), ?_⟩
      refine oneLine_braced h.oneLine_signature (List.forall_mem_singleton.mpr ?_)
      exact h.oneLine_segmentsCall print (by decide)
  | level structName =>
      have hname : OneLine structName := by
        have hword := h.answer
        rw [hanswer] at hword
        exact hword.oneLine
      rw [method.lines_of_level separator print hanswer]
      refine oneLine_braced h.oneLine_signature (oneLine_braced hname ?_)
      refine List.forall_mem_singleton.mpr ?_
      exact oneLine_append (oneLine_append (by decide) (h.oneLine_segmentsCall print (by decide)))
        (by decide)

end Method.Worded

theorem BuilderStruct.Worded.oneLine_lines {builder : BuilderStruct} (h : builder.Worded) :
    ∀ line ∈ builder.lines separator print, OneLine line := by
  have hcomment : OneLine ("/// " ++ builder.comment print) :=
    builder.oneLine_of_mem_comments separator print List.mem_cons_self
  have hstruct : ∀ line ∈ braced ("pub struct " ++ builder.name) ["prefix: Vec<String>,"],
      OneLine line :=
    oneLine_braced (oneLine_append (by decide) h.name.oneLine) (by decide)
  have hconstructor : ∀ line ∈ (if builder.path.isEmpty then
        braced "pub const fn new() -> Self" ["Self \x7b prefix: Vec::new() \x7d"] else []),
      OneLine line := by
    cases builder.path.isEmpty <;> decide
  have hmethods : ∀ line ∈ builder.methods.flatMap (fun method =>
      "" :: method.lines separator print), OneLine line := by
    intro line hmem
    obtain ⟨method, hmethod, hline⟩ := List.mem_flatMap.mp hmem
    rcases List.mem_cons.mp hline with rfl | hline
    · decide
    · exact (h.methods method hmethod).oneLine_lines separator print line hline
  have himplementation := oneLine_braced
    (oneLine_append (show OneLine "impl " by decide) h.name.oneLine)
    (List.forall_mem_append.mpr ⟨hconstructor, hmethods⟩)
  rw [BuilderStruct.lines]
  exact List.forall_mem_append.mpr
    ⟨List.forall_mem_cons.mpr ⟨hcomment, List.forall_mem_cons.mpr ⟨by decide, hstruct⟩⟩,
      List.forall_mem_cons.mpr ⟨by decide, himplementation⟩⟩

end

/-- The lines of the source are those of the module. -/
theorem splitOn_moduleLines (separator : String) (print : PrintRules)
    {builders : List BuilderStruct} (hworded : ∀ builder ∈ builders, builder.Worded) :
    (linesText (moduleLines separator builders print)).splitOn "\n"
      = headerLines separator print
        ++ (builders.map fun builder => "" :: builder.lines separator print).flatten ++ [""] := by
  refine splitOn_linesText (List.forall_mem_append.mpr ⟨?_, ?_⟩)
  · exact fun line hmem => (headerLines_plain separator print line hmem).1
  · intro line hmem
    obtain ⟨builder, hbuilder, hline⟩ := List.mem_flatMap.mp hmem
    rcases List.mem_cons.mp hline with rfl | hline
    · decide
    · exact (hworded builder hbuilder).oneLine_lines separator print line hline

end KeyTree
