import KeyTree.Proofs.Codegen.Accepted
import KeyTree.Proofs.Text.Identifiers
import KeyTree.Proofs.Text.Lexemes

/-!
# `KeyTree.Proofs.Codegen.Lines`: the lines of generated source

What `lexemes?` reads from generated source can be told from the structs that
the source is written from: a comment for each struct and for each method that
makes a key, and a literal for each known segment. `lexemes?_moduleLines` says
so, for any structs whose names are plain code.

* `Level.Builds.plain`: the names of generated structs are. They are made of
  identifiers, which hold no quotes and no slashes.
* `LinesRead`: source is read line by line. A line ends in code and keeps what
  follows apart from it, so moving lines in does not matter.
* `Method.lexemes`, `BuilderStruct.lexemes`, `headerLexemes`: what is read from
  the parts of a module.
-/

set_option autoImplicit false

namespace KeyTree

open LexState (Reads)

/-! ### Identifiers are plain code -/

section

variable {name identifier : String}

theorem plainCode_of_snakeCase (h : LetterRules.unicode.snakeCase name = some identifier) :
    PlainCode identifier := by
  intro c hc hmark
  have hforeign := LetterRules.foreign_unicode c (List.mem_append_left ['_'] hmark)
  have hother : ∀ d ∈ ['"', '\'', '/'], d ≠ '_' := List.all_iff_forall_prop.mp (by decide)
  exact hforeign.not_mem_snakeCase (hother c hmark) h hc

theorem plainCode_of_pascalCase (h : LetterRules.unicode.pascalCase name = some identifier) :
    PlainCode identifier := by
  intro c hc hmark
  have hforeign := LetterRules.foreign_unicode c (List.mem_append_left ['_'] hmark)
  have hother : ∀ d ∈ ['"', '\'', '/'], d ≠ '_' := List.all_iff_forall_prop.mp (by decide)
  exact hforeign.not_mem_pascalCase (hother c hmark) h hc

theorem plainCode_childName {parent key child : String} (hparent : PlainCode parent)
    (h : childName? .unicode parent key = some child) : PlainCode child := by
  obtain ⟨suffix, hsuffix, rfl⟩ := Option.map_eq_some_iff.mp h
  refine plainCode_append hparent fun c hc => plainCode_of_pascalCase hsuffix c ?_
  rw [trimUnderscores, String.toList_ofList] at hc
  exact (List.rdropWhile_prefix (· = '_') suffix.toList).subset hc

end

/-- The names in a method are plain code. -/
structure Method.Plain (method : Method) : Prop where
  name : PlainCode method.name
  parameters : ∀ parameter ∈ method.parameters, PlainCode parameter.name
  segments : ∀ parameter, .parameter parameter ∈ method.segments → PlainCode parameter.name
  answer : ∀ structName, method.answer = .level structName → PlainCode structName

/-- The names in a struct are plain code. -/
structure BuilderStruct.Plain (builder : BuilderStruct) : Prop where
  name : PlainCode builder.name
  methods : ∀ method ∈ builder.methods, method.Plain

/-- The names in the method of a stage are identifiers, so it is plain if its
answer is. -/
theorem Stage.Method.plain {stage : Stage} {method : KeyTree.Method}
    (h : stage.Method .unicode method)
    (hanswer : ∀ structName, method.answer = .level structName → PlainCode structName) :
    method.Plain where
  name := plainCode_of_snakeCase h.name
  parameters := by
    intro parameter hmem
    obtain ⟨slot, -, hslot⟩ := exists_mem_of_forall₂ h.parameters.flip hmem
    exact plainCode_of_snakeCase hslot.1
  segments := by
    intro parameter hmem
    obtain ⟨piece, -, hpiece⟩ := exists_mem_of_forall₂ h.segments.flip hmem
    cases piece with
    | literal text => cases hpiece
    | slot s =>
        obtain ⟨_, hslot, heq⟩ := hpiece
        obtain rfl := SegmentExpr.parameter.inj heq
        exact plainCode_of_snakeCase hslot.1
  answer := hanswer

/-- The names in all methods and structs of a run are plain code, if the name
of the struct at hand is. -/
theorem Level.Builds.plain {level : Level} {place : LevelPlace} {members taken : List String}
    {out : LevelBuilders} (h : Builds .unicode place members taken level out)
    (hplace : PlainCode place.structName) :
    (∀ method ∈ out.methods, method.Plain) ∧ ∀ builder ∈ out.below, builder.Plain := by
  induction h with
  | nil => exact ⟨nofun, nofun⟩
  | absent hrest ih => exact ih hplace
  | key hmethod hfree hanswer hrest ih =>
      obtain ⟨hmethods, hbelow⟩ := ih hplace
      have hfirst := hmethod.plain fun structName hlevel => by
        rw [hanswer] at hlevel
        cases hlevel
      exact ⟨List.forall_mem_cons.mpr ⟨hfirst, hmethods⟩, hbelow⟩
  | deeper hbelow hmethod hfree hanswer hchild hnew hinner hrest ihi ihr =>
      have hplain := plainCode_childName hplace hchild
      obtain ⟨hinners, hdeeper⟩ := ihi hplain
      obtain ⟨hmethods, hothers⟩ := ihr hplace
      have hfirst := hmethod.plain fun structName hlevel => by
        rw [hanswer] at hlevel
        cases hlevel
        exact hplain
      refine ⟨List.forall_mem_cons.mpr ⟨hfirst, hmethods⟩, fun builder hbuilder => ?_⟩
      rcases List.mem_append.mp hbuilder with hbuilder | hbuilder
      · rcases List.mem_cons.mp hbuilder with rfl | hbuilder
        · exact ⟨hplain, hinners⟩
        · exact hdeeper builder hbuilder
      · exact hothers builder hbuilder

theorem Schema.plain_of_builders {schema : Schema} {rootName : String}
    {builders : List BuilderStruct} (h : schema.builders .unicode rootName = .ok builders) :
    ∀ builder ∈ builders, builder.Plain := by
  obtain ⟨root, out, hroot, hbuilds, rfl⟩ := exists_builds h
  have hplain := plainCode_of_pascalCase hroot
  obtain ⟨hmethods, hbelow⟩ := hbuilds.plain hplain
  exact List.forall_mem_cons.mpr ⟨⟨hplain, hmethods⟩, hbelow⟩

/-! ### Lines -/

/-- A line, read from code to code. -/
def LineReads (line : String) (lexemes : List Lexeme) : Prop :=
  (LexState.code true).Reads (line.toList ++ ['\n']) lexemes (.code true)

instance (line : String) (lexemes : List Lexeme) : Decidable (LineReads line lexemes) :=
  inferInstanceAs (Decidable (Reads _ _ _ _))

/-- The end of a line keeps what follows apart from it. -/
theorem lineReads_of_reads {line : String} {lexemes : List Lexeme} {apart : Bool}
    (h : (LexState.code true).Reads line.toList lexemes (.code apart)) :
    LineReads line lexemes := by
  have hend : (LexState.code apart).Reads ['\n'] [] (.code true) := rfl
  have hline := h.append hend
  rwa [List.append_nil] at hline

theorem lineReads_plain {line : String} (h : PlainCode line) : LineReads line [] :=
  lineReads_of_reads (reads_plain h true)

theorem lineReads_indented {line : String} {lexemes : List Lexeme} (h : LineReads line lexemes) :
    LineReads (indented line) lexemes := by
  rw [indented]
  split
  · rename_i hempty
    rwa [hempty] at h
  · have hspaces : (LexState.code true).Reads "    ".toList [] (.code true) := rfl
    rw [LineReads, String.toList_append, List.append_assoc]
    exact hspaces.append h

/-- Lines, and what is read from each of them. -/
inductive LinesRead : List String → List Lexeme → Prop
  | nil : LinesRead [] []
  | cons {line : String} {lines : List String} {first others : List Lexeme}
      (hline : LineReads line first) (hlines : LinesRead lines others) :
      LinesRead (line :: lines) (first ++ others)

namespace LinesRead

variable {lines : List String} {lexemes : List Lexeme}

theorem singleton {line : String} (h : LineReads line lexemes) : LinesRead [line] lexemes := by
  have hlines := LinesRead.cons h .nil
  rwa [List.append_nil] at hlines

theorem of_plain (h : ∀ line ∈ lines, PlainCode line) : LinesRead lines [] := by
  induction lines with
  | nil => exact .nil
  | cons line rest ih =>
      obtain ⟨hline, hrest⟩ := List.forall_mem_cons.mp h
      exact .cons (lineReads_plain hline) (ih hrest)

/-- A line of plain code in front. -/
theorem plain_cons {line : String} (hline : PlainCode line) (h : LinesRead lines lexemes) :
    LinesRead (line :: lines) lexemes := .cons (lineReads_plain hline) h

theorem append {others : List String} {more : List Lexeme} (h : LinesRead lines lexemes)
    (hothers : LinesRead others more) : LinesRead (lines ++ others) (lexemes ++ more) := by
  induction h with
  | nil => exact hothers
  | cons hline _ ih =>
      rw [List.append_assoc]
      exact .cons hline ih

theorem flatMap {α : Type} {list : List α} {linesOf : α → List String}
    {lexemesOf : α → List Lexeme} (h : ∀ a ∈ list, LinesRead (linesOf a) (lexemesOf a)) :
    LinesRead (list.flatMap linesOf) (list.flatMap lexemesOf) := by
  induction list with
  | nil => exact .nil
  | cons a rest ih =>
      obtain ⟨hfirst, hrest⟩ := List.forall_mem_cons.mp h
      exact hfirst.append (ih hrest)

theorem map_indented (h : LinesRead lines lexemes) : LinesRead (lines.map indented) lexemes := by
  induction h with
  | nil => exact .nil
  | cons hline _ ih => exact .cons (lineReads_indented hline) ih

theorem braced {head : String} (hhead : PlainCode head) (h : LinesRead lines lexemes) :
    LinesRead (KeyTree.braced head lines) lexemes := by
  have hopen : PlainCode (head ++ " \x7b") := plainCode_append hhead (by decide)
  have hclose : LinesRead ["\x7d"] [] := .singleton (lineReads_plain (by decide))
  have hbody := h.map_indented.append hclose
  rw [List.append_nil] at hbody
  exact .plain_cons hopen hbody

/-- Lines are read as the text that they make. -/
theorem reads (h : LinesRead lines lexemes) :
    (LexState.code true).Reads (linesText lines).toList lexemes (.code true) := by
  induction h with
  | nil => rfl
  | @cons line lines first others hline _ ih =>
      have htext : (linesText (line :: lines)).toList
          = (line.toList ++ ['\n']) ++ (linesText lines).toList := by
        simp [linesText]
      rw [htext]
      exact hline.append ih

end LinesRead

/-! ### Methods -/

section

variable (separator : String) (print : PrintRules)

/-- What is read from an expression: the literal of a known text. -/
def SegmentExpr.lexemes : SegmentExpr → List Lexeme
  | .literal text => [.literal (rustLiteral text print) text]
  | .parameter _ => []

/-- The comment of a method: what its key is, if it answers one. -/
def Method.comments (method : Method) : List String :=
  match method.answer with
  | .key pieces => ["/// `" ++ rustEscaped (renderPieces separator pieces) print ++ "`"]
  | .level _ => []

/-- What is read from a method: its comment, and the literals of its
segments. -/
def Method.lexemes (method : Method) : List Lexeme :=
  (method.comments separator print).map .comment
    ++ method.segments.flatMap (SegmentExpr.lexemes print)

theorem SegmentExpr.reads_source (segment : SegmentExpr)
    (h : ∀ parameter, segment = .parameter parameter → PlainCode parameter.name) :
    ∃ apart, (LexState.code true).Reads (segment.source print).toList (segment.lexemes print)
      (.code apart) := by
  cases segment with
  | literal text =>
      have hcall : PlainCode ".to_string()" := by decide
      have hread := (reads_rustLiteral text print).append (reads_plain hcall false)
      rw [← String.toList_append] at hread
      exact ⟨_, hread⟩
  | parameter parameter =>
      -- However the parameter is read, its source is plain code around its name.
      have hname := h parameter rfl
      have hsource : PlainCode (SegmentExpr.source (.parameter parameter) print) := by
        obtain ⟨name, kind⟩ := parameter
        cases kind with
        | text => exact plainCode_append hname (by decide)
        | number =>
            exact plainCode_append (plainCode_append (by decide) hname) (by decide)
        | boolean => exact plainCode_append hname (by decide)
      exact ⟨_, reads_plain hsource true⟩

/-- The comma behind an expression keeps the next one apart from it. -/
theorem reads_segments {segments : List SegmentExpr}
    (h : ∀ parameter, .parameter parameter ∈ segments → PlainCode parameter.name) :
    ∃ apart, (LexState.code true).Reads
      (", ".intercalate (segments.map (SegmentExpr.source · print))).toList
      (segments.flatMap (SegmentExpr.lexemes print)) (.code apart) := by
  induction segments with
  | nil => exact ⟨true, .nil _⟩
  | cons segment rest ih =>
      obtain ⟨between, hfirst⟩ := segment.reads_source print
        fun parameter heq => h parameter (heq ▸ List.mem_cons_self)
      obtain ⟨last, hrest⟩ := ih fun parameter hmem => h parameter (List.mem_cons_of_mem _ hmem)
      cases rest with
      | nil =>
          rw [List.map_singleton, String.intercalate_singleton, List.flatMap_singleton]
          exact ⟨between, hfirst⟩
      | cons next others =>
          have hcomma : (LexState.code between).Reads ", ".toList [] (.code true) := rfl
          rw [List.map_cons, List.map_cons, String.intercalate_cons_cons, String.toList_append,
            String.toList_append, List.append_assoc, List.flatMap_cons]
          exact ⟨last, hfirst.append (hcomma.append hrest)⟩

theorem reads_segmentsCall {function : String} (hfunction : PlainCode function)
    {segments : List SegmentExpr}
    (h : ∀ parameter, .parameter parameter ∈ segments → PlainCode parameter.name) :
    ∃ apart, (LexState.code true).Reads (segmentsCall function segments print).toList
      (segments.flatMap (SegmentExpr.lexemes print)) (.code apart) := by
  have hhead : PlainCode ("self::" ++ function ++ "(&self.prefix, &[") :=
    plainCode_append (plainCode_append (by decide) hfunction) (by decide)
  -- The bracket at its end keeps the first expression apart.
  have hopen : (LexState.code true).Reads ("self::" ++ function ++ "(&self.prefix, &[").toList []
      (.code true) := by
    have hread := reads_plain hhead true
    have hlast : (("self::" ++ function ++ "(&self.prefix, &[").toList.getLast?.map
        keepsApart).getD true = true := by
      rw [String.toList_append, List.getLast?_append_of_ne_nil _ (by decide)]
      rfl
    rwa [hlast] at hread
  obtain ⟨apart, hsegments⟩ := reads_segments print h
  have hclose := reads_plain (show PlainCode "])" by decide) apart
  exact ⟨_, reads_between hopen hsegments hclose⟩

theorem plainCode_head {method : Method} (h : method.Plain) {answer : String}
    (hanswer : PlainCode answer) :
    PlainCode ("pub fn " ++ method.name ++ "(&self"
      ++ String.join (method.parameters.map Parameter.source) ++ ") -> " ++ answer) := by
  have hparameters : PlainCode (String.join (method.parameters.map Parameter.source)) := by
    refine plainCode_join fun text htext => ?_
    obtain ⟨parameter, hparameter, rfl⟩ := List.mem_map.mp htext
    have hkind : PlainCode parameter.kind.rustType := by
      cases parameter.kind <;> decide
    exact plainCode_append (plainCode_append
      (plainCode_append (by decide) (h.parameters parameter hparameter)) (by decide)) hkind
  have hname := plainCode_append (show PlainCode "pub fn " by decide) h.name
  exact plainCode_append (plainCode_append (plainCode_append
    (plainCode_append hname (by decide)) hparameters) (by decide)) hanswer

/-- A comment around escaped text stays on its line. -/
theorem oneLine_escaped (text : String) {head tail : String} (hhead : OneLine head)
    (htail : OneLine tail) :
    OneLine (head ++ rustEscaped text print ++ tail) :=
  oneLine_append (oneLine_append hhead (oneLine_rustEscaped text print)) htail

theorem lineReads_escaped {head text tail : String} (hstart : ∃ rest, head = "//" ++ rest)
    (hhead : OneLine head) (htail : OneLine tail) :
    LineReads (head ++ rustEscaped text print ++ tail)
      [.comment (head ++ rustEscaped text print ++ tail)] := by
  have hline := oneLine_escaped print text hhead htail
  obtain ⟨rest, rfl⟩ := hstart
  refine reads_comment ⟨rest ++ rustEscaped text print ++ tail, ?_⟩ hline true
  rw [String.append_assoc, String.append_assoc, String.append_assoc]

theorem Method.linesRead {method : Method} (h : method.Plain) :
    LinesRead (method.lines separator print) (method.lexemes separator print) := by
  cases hanswer : method.answer with
  | key pieces =>
      have hcomment :
          LineReads ("/// `" ++ rustEscaped (renderPieces separator pieces) print ++ "`")
            [.comment ("/// `" ++ rustEscaped (renderPieces separator pieces) print ++ "`")] :=
        lineReads_escaped print ⟨"/ `", rfl⟩ (by decide) (by decide)
      obtain ⟨apart, hcall⟩ := reads_segmentsCall print
        (show PlainCode "join_key" by decide) h.segments
      have hbody := LinesRead.singleton (lineReads_of_reads hcall)
      -- The call is the only line in the braces, and the head of the method is plain.
      rw [lines, lexemes, comments, hanswer]
      exact .cons hcomment (hbody.braced (plainCode_head h (by decide)))
  | level structName =>
      have hname := h.answer structName hanswer
      obtain ⟨apart, hcall⟩ := reads_segmentsCall print
        (show PlainCode "extend_prefix" by decide) h.segments
      have hfield : LineReads ("prefix: " ++ segmentsCall "extend_prefix" method.segments print
          ++ ",") (method.segments.flatMap (SegmentExpr.lexemes print)) := by
        have hopen : (LexState.code true).Reads "prefix: ".toList [] (.code true) := rfl
        have hclose := reads_plain (show PlainCode "," by decide) apart
        exact lineReads_of_reads (reads_between hopen hcall hclose)
      have hbody := (LinesRead.singleton hfield).braced hname
      rw [lines, lexemes, comments, hanswer]
      exact hbody.braced (plainCode_head h hname)

/-! ### Structs and modules -/

/-- The comments of a struct: its own, and those of its methods. -/
def BuilderStruct.comments (builder : BuilderStruct) : List String :=
  ("/// " ++ builder.comment print) :: builder.methods.flatMap (Method.comments separator print)

/-- What is read from a struct. -/
def BuilderStruct.lexemes (builder : BuilderStruct) : List Lexeme :=
  .comment ("/// " ++ builder.comment print)
    :: builder.methods.flatMap (Method.lexemes separator print)

theorem keysUnder_eq (path : List String) :
    "/// " ++ ("Keys under `" ++ rustEscaped (dotted path) print ++ "`.")
      = "/// Keys under `" ++ rustEscaped (dotted path) print ++ "`." := by
  rw [← String.append_assoc, ← String.append_assoc]
  rfl

theorem BuilderStruct.lineReads_comment (builder : BuilderStruct) :
    LineReads ("/// " ++ builder.comment print) [.comment ("/// " ++ builder.comment print)] := by
  rw [comment]
  split
  · exact reads_comment ⟨"/ Root of the key tree.", rfl⟩ (by decide) true
  · rw [keysUnder_eq]
    exact lineReads_escaped print ⟨"/ Keys under `", rfl⟩ (by decide) (by decide)

theorem BuilderStruct.linesRead {builder : BuilderStruct} (h : builder.Plain) :
    LinesRead (builder.lines separator print) (builder.lexemes separator print) := by
  have hempty : PlainCode "" := by decide
  have hmethods := LinesRead.flatMap fun method hmethod =>
    LinesRead.plain_cons hempty (Method.linesRead separator print (h.methods method hmethod))
  have hconstructor : LinesRead (if builder.path.isEmpty then
      KeyTree.braced "pub const fn new() -> Self" ["Self \x7b prefix: Vec::new() \x7d"] else [])
      [] := by
    split
    · exact (LinesRead.singleton (lineReads_plain (by decide))).braced (by decide)
    · exact .nil
  have hfields : LinesRead ["prefix: Vec<String>,"] [] :=
    .singleton (lineReads_plain (by decide))
  have hstruct := hfields.braced (plainCode_append (show PlainCode "pub struct " by decide) h.name)
  have himpl := (hconstructor.append hmethods).braced
    (plainCode_append (show PlainCode "impl " by decide) h.name)
  have hblocks := hstruct.append (himpl.plain_cons hempty)
  exact .cons (builder.lineReads_comment print) (hblocks.plain_cons (by decide))

/-- The comments that every module starts with. -/
def headerComments : List String :=
  [ "// Generated by keyschema-codegen. Do not edit.", "/// Separator joining key segments.",
    "/// Numbers accepted by generated key methods." ]

/-- The literals of the functions that methods call, and what they stand
for. -/
def functionLiterals : List (String × String) :=
  [ ("\"NaN\"", "NaN"), ("\"Infinity\"", "Infinity"), ("\"-Infinity\"", "-Infinity"),
    ("\"0\"", "0") ]

/-- What is read from the lines in front of the structs. -/
def headerLexemes : List Lexeme :=
  [ .comment "// Generated by keyschema-codegen. Do not edit.",
    .comment "/// Separator joining key segments.",
    .literal (rustLiteral separator print) separator,
    .comment "/// Numbers accepted by generated key methods." ]
  ++ functionLiterals.map fun written => .literal written.1 written.2

theorem lineReads_separatorLine :
    LineReads (separatorLine separator print)
      [.literal (rustLiteral separator print) separator] := by
  have hname : (LexState.code true).Reads "pub const SEPARATOR: &str = ".toList []
      (.code true) := by
    decide +kernel
  have hend : (LexState.code false).Reads ";".toList [] (.code false) := rfl
  exact lineReads_of_reads (reads_between hname (reads_rustLiteral separator print) hend)

theorem linesRead_segmentMethod {expression : String} (h : PlainCode expression) :
    LinesRead (segmentMethod expression) [] :=
  (LinesRead.singleton (lineReads_plain h)).braced (plainCode_ofList (by decide))

theorem linesRead_integerImpls :
    LinesRead (braced "macro_rules! impl_integer_arg"
      ("($($ty:ty),*) => \x7b" ::
        ("$(" :: (braced "impl NumberArg for $ty" (segmentMethod "self.to_string()")).map indented
          ++ [")*"]).map indented
        ++ ["\x7d;"])) [] := by
  have hmethod : LinesRead (segmentMethod "self.to_string()") [] :=
    linesRead_segmentMethod (by decide)
  have himpl := (hmethod.braced (show PlainCode "impl NumberArg for $ty" by decide)).map_indented
  have hrepeat := (himpl.plain_cons (show PlainCode "$(" by decide)).append
    (.singleton (lineReads_plain (show PlainCode ")*" by decide)))
  have hrule := (hrepeat.map_indented.plain_cons
    (show PlainCode "($($ty:ty),*) => \x7b" by decide)).append
    (.singleton (lineReads_plain (show PlainCode "\x7d;" by decide)))
  exact hrule.braced (by decide)

theorem linesRead_numberLines :
    LinesRead numberLines [.comment "/// Numbers accepted by generated key methods."] := by
  have hempty : PlainCode "" := by decide
  have hcomment : LineReads "/// Numbers accepted by generated key methods."
      [.comment "/// Numbers accepted by generated key methods."] :=
    reads_comment ⟨"/ Numbers accepted by generated key methods.", rfl⟩ (by decide +kernel) true
  have htrait : LinesRead (braced "pub trait NumberArg" ["fn segment(self) -> String;"]) [] :=
    (LinesRead.singleton (lineReads_plain (by decide))).braced (by decide)
  have hcall : PlainCode
      "impl_integer_arg!(i8, i16, i32, i64, isize, u8, u16, u32, u64, usize);" :=
    plainCode_ofList (by decide)
  have hdouble : LinesRead (braced "impl NumberArg for f64"
      (segmentMethod "self::number_segment(self)")) [] :=
    (linesRead_segmentMethod (by decide)).braced (by decide)
  have hsingle : LinesRead (braced "impl NumberArg for f32"
      (segmentMethod
        "self::number_segment(self.to_string().parse().unwrap_or(f64::from(self)))")) [] :=
    (linesRead_segmentMethod (plainCode_ofList (by decide))).braced (by decide)
  have hintegers := linesRead_integerImpls.append
    ((hdouble.append (hsingle.plain_cons hempty)).plain_cons hempty |>.plain_cons hcall
      |>.plain_cons hempty)
  have hall := htrait.append (hintegers.plain_cons hempty)
  have hlines := LinesRead.cons hcomment hall
  simpa [numberLines] using hlines

theorem linesRead_functionLines :
    LinesRead functionLines
      (functionLiterals.map fun written => .literal written.1 written.2) := by
  have hempty : PlainCode "" := by decide
  have hallow : PlainCode "#[allow(dead_code)]" := by decide
  have hnan : LineReads "    \"NaN\".to_string()" [.literal "\"NaN\"" "NaN"] := by
    decide +kernel
  have hinfinite :
      LineReads "    if n > 0.0 \x7b \"Infinity\" \x7d else \x7b \"-Infinity\" \x7d.to_string()"
        [.literal "\"Infinity\"" "Infinity", .literal "\"-Infinity\"" "-Infinity"] := by
    decide +kernel
  have hzero : LineReads "    \"0\".to_string()" [.literal "\"0\"" "0"] := by
    decide +kernel
  have hend : LinesRead ["\x7d else \x7b", "    n.to_string()", "\x7d"] [] :=
    .of_plain (by decide)
  -- Each case of the number is a line of plain code and then its literals.
  have hcases := ((LinesRead.cons hzero hend).plain_cons
    (show PlainCode "\x7d else if n == 0.0 \x7b" by decide))
  have hcases := (LinesRead.cons hinfinite hcases).plain_cons
    (show PlainCode "\x7d else if n.is_infinite() \x7b" by decide)
  have hcases := (LinesRead.cons hnan hcases).plain_cons
    (show PlainCode "if n.is_nan() \x7b" by decide)
  have hnumber := hcases.braced (show PlainCode "fn number_segment(n: f64) -> String" by decide)
  have hjoin : LinesRead
      (braced "fn join_key(prefix: &[String], parts: &[String]) -> String"
        [ "let mut segments: Vec<&str> = prefix.iter().map(String::as_str).collect();",
          "segments.extend(parts.iter().map(String::as_str));",
          "segments.join(SEPARATOR)" ]) [] := by
    refine .braced (plainCode_ofList (by decide)) (.plain_cons (plainCode_ofList (by decide)) ?_)
    exact .plain_cons (plainCode_ofList (by decide)) (.singleton (lineReads_plain (by decide)))
  have hextend : LinesRead
      (braced "fn extend_prefix(prefix: &[String], parts: &[String]) -> Vec<String>"
        ["prefix.iter().chain(parts).cloned().collect()"]) [] :=
    (LinesRead.singleton (lineReads_plain (plainCode_ofList (by decide)))).braced
      (plainCode_ofList (by decide))
  have hblocks := hnumber.append (((hjoin.append
    ((hextend.plain_cons hallow).plain_cons hempty)).plain_cons hallow).plain_cons hempty)
  simpa [functionLines, functionLiterals] using hblocks.plain_cons hallow

theorem linesRead_headerLines :
    LinesRead (headerLines separator print) (headerLexemes separator print) := by
  have hempty : PlainCode "" := by decide
  have hgenerated : LineReads "// Generated by keyschema-codegen. Do not edit."
      [.comment "// Generated by keyschema-codegen. Do not edit."] :=
    reads_comment ⟨" Generated by keyschema-codegen. Do not edit.", rfl⟩ (by decide +kernel) true
  have hjoining : LineReads "/// Separator joining key segments."
      [.comment "/// Separator joining key segments."] :=
    reads_comment ⟨"/ Separator joining key segments.", rfl⟩ (by decide +kernel) true
  have hrest := linesRead_numberLines.append (linesRead_functionLines.plain_cons hempty)
  have hseparator := LinesRead.cons (lineReads_separatorLine separator print)
    (hrest.plain_cons hempty)
  have hlines := LinesRead.cons hgenerated
    ((LinesRead.cons hjoining hseparator).plain_cons hempty)
  simpa [headerLines, headerLexemes] using hlines

/-- A module whose names are plain holds the comments and literals of its
header and of its structs. -/
theorem lexemes?_moduleLines {builders : List BuilderStruct}
    (h : ∀ builder ∈ builders, builder.Plain) :
    lexemes? (linesText (moduleLines separator builders print))
      = some (headerLexemes separator print
          ++ builders.flatMap (BuilderStruct.lexemes separator print)) := by
  have hempty : PlainCode "" := by decide
  have hstructs := LinesRead.flatMap fun builder hbuilder =>
    LinesRead.plain_cons hempty (BuilderStruct.linesRead separator print (h builder hbuilder))
  have hmodule := ((linesRead_headerLines separator print).append hstructs).reads
  exact lexemes?_eq_of_reads hmodule

end

end KeyTree
