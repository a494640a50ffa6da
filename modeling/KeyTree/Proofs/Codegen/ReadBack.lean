import KeyTree.Proofs.Codegen.Reader

/-!
# `KeyTree.Proofs.Codegen.ReadBack`: what is read from generated source

A reader of generated source finds in it what it was written from. `shown` says
what that is, part by part: an expression shows the literal or the parameter, a
parameter its type, a method its comment and its body, and a struct its methods.

`SourceModule.read?_moduleLines` says that the source of a module of structs is
read as the module of what the structs show, whatever the separator is. Only
names are needed to be single words (`BuilderStruct.Worded`). Each lemma on the
way is about one step of the reader, with the lines or tokens that the writer
gives it.
-/

set_option autoImplicit false

namespace KeyTree

/-! ### Expressions -/

/-- What the expression for a segment shows. -/
def SegmentExpr.shown : SegmentExpr → SourceExpr
  | .literal text => .literal text
  | .parameter ⟨name, .number⟩ => .number name
  | .parameter ⟨name, _⟩ => .shown name

/-- The tokens of the expression for a segment. -/
def SegmentExpr.tokens : SegmentExpr → List CodeToken
  | .literal text => .literal text :: plainTokens ".to_string()"
  | .parameter ⟨name, .number⟩ =>
    plainTokens "self::NumberArg::segment(" ++ plainTokens name ++ plainTokens ")"
  | .parameter ⟨name, _⟩ => plainTokens name ++ plainTokens ".to_string()"

/-- The parameter of an expression has a name of one word. -/
def SegmentExpr.Worded (segment : SegmentExpr) : Prop :=
  ∀ parameter, segment = .parameter parameter → Unbroken parameter.name

theorem mem_plainTokens {text : String} {c : Char} :
    CodeToken.mark c ∈ plainTokens text ↔ c ∈ text.toList := by
  simp [plainTokens]

namespace SegmentExpr.Worded

variable {segment : SegmentExpr}

theorem tokenized (h : segment.Worded) (print : PrintRules) :
    Tokenized (segment.source print) segment.tokens := by
  have hcall : Tokenized ".to_string()" (plainTokens ".to_string()") := .of_free (by decide)
  cases segment with
  | literal text => exact (Tokenized.rustLiteral text print).append hcall
  | parameter parameter =>
      have hname : Tokenized parameter.name (plainTokens parameter.name) :=
        .of_free ((h parameter rfl).not_mem (by decide))
      obtain ⟨name, kind⟩ := parameter
      cases kind with
      | text => exact hname.append hcall
      | number =>
          have hfront : Tokenized "self::NumberArg::segment("
              (plainTokens "self::NumberArg::segment(") := .of_free (by decide)
          have hback : Tokenized ")" (plainTokens ")") := .of_free (by decide)
          exact (hfront.append hname).append hback
      | boolean => exact hname.append hcall

/-- Outside of its literals an expression holds no comma. -/
theorem comma_not_mem (h : segment.Worded) : CodeToken.mark ',' ∉ segment.tokens := by
  have hcall : ',' ∉ ".to_string()".toList := by decide
  have hshown : ∀ name : String, Unbroken name →
      CodeToken.mark ',' ∉ plainTokens name ++ plainTokens ".to_string()" := by
    intro name hname
    simp only [List.mem_append, mem_plainTokens, not_or]
    exact ⟨hname.not_mem (by decide), hcall⟩
  cases segment with
  | literal text =>
      simp only [SegmentExpr.tokens, List.mem_cons, mem_plainTokens, reduceCtorEq, false_or]
      exact hcall
  | parameter parameter =>
      have hname := h parameter rfl
      obtain ⟨name, kind⟩ := parameter
      cases kind with
      | text => exact hshown name hname
      | number =>
          simp only [SegmentExpr.tokens, List.mem_append, mem_plainTokens, not_or]
          exact ⟨⟨by decide, hname.not_mem (by decide)⟩, by decide⟩
      | boolean => exact hshown name hname

/-- An expression does not start with a blank. -/
theorem dropWhile_blank (h : segment.Worded) :
    segment.tokens.dropWhile (· = .mark ' ') = segment.tokens := by
  have hshown : ∀ name : String, Unbroken name →
      (plainTokens name ++ plainTokens ".to_string()").dropWhile (· = .mark ' ')
        = plainTokens name ++ plainTokens ".to_string()" := by
    intro name hname
    have hspace : ' ' ∉ name.toList := hname.not_mem (by decide)
    rw [plainTokens]
    cases hlist : name.toList with
    | nil => rfl
    | cons c rest =>
        rw [hlist, List.mem_cons, not_or] at hspace
        rw [List.map_cons, List.cons_append, List.dropWhile_cons_of_neg]
        simpa using Ne.symm hspace.1
  cases segment with
  | literal text => rfl
  | parameter parameter =>
      have hname := h parameter rfl
      obtain ⟨name, kind⟩ := parameter
      cases kind with
      | text => exact hshown name hname
      | number => rfl
      | boolean => exact hshown name hname

/-- The tokens of an expression are read as the expression. -/
theorem read? (h : segment.Worded) : SourceExpr.read? segment.tokens = some segment.shown := by
  -- Only the call of the trait has a colon.
  have hcolon : ∀ tokens : List CodeToken, CodeToken.mark ':' ∉ tokens →
      enclosed? (plainTokens "self::NumberArg::segment(") (plainTokens ")") tokens = none :=
    fun tokens => enclosed?_eq_none (mem_plainTokens.mpr (by decide))
  have hshown : ∀ name : String, Unbroken name →
      SourceExpr.read? (plainTokens name ++ plainTokens ".to_string()") = some (.shown name) := by
    intro name hname
    have hfree : CodeToken.mark ':' ∉ plainTokens name ++ plainTokens ".to_string()" := by
      rw [List.mem_append, mem_plainTokens, mem_plainTokens]
      exact not_or.mpr ⟨hname.not_mem (by decide), by decide⟩
    have hcall := enclosed?_append [] (plainTokens name) (plainTokens ".to_string()")
    rw [List.nil_append] at hcall
    rw [SourceExpr.read?, hcolon _ hfree]
    simp only [hcall, Option.bind_eq_bind, Option.bind_some]
    split
    · rename_i text htext
      cases hlist : name.toList <;> simp [plainTokens, hlist] at htext
    · simp
  cases segment with
  | literal text =>
      have hfree : CodeToken.mark ':' ∉ SegmentExpr.tokens (.literal text) := by
        rw [SegmentExpr.tokens, List.mem_cons, mem_plainTokens]
        simp
      have hcall := enclosed?_append [] [CodeToken.literal text] (plainTokens ".to_string()")
      rw [List.nil_append, List.singleton_append] at hcall
      rw [SourceExpr.read?, hcolon _ hfree]
      simp only [SegmentExpr.tokens, hcall, Option.bind_eq_bind, Option.bind_some]
      rfl
  | parameter parameter =>
      have hname := h parameter rfl
      obtain ⟨name, kind⟩ := parameter
      cases kind with
      | text => exact hshown name hname
      | number =>
          rw [SourceExpr.read?, SegmentExpr.tokens, enclosed?_append]
          simp [SegmentExpr.shown]
      | boolean => exact hshown name hname

end SegmentExpr.Worded

/-- Lists with two things between them are lists with the first of these between
them, and the second in front of all but the first. -/
theorem intercalate_pair {α : Type} (a b : α) (list : List α) (lists : List (List α)) :
    [a, b].intercalate (list :: lists) = [a].intercalate (list :: lists.map (b :: ·)) := by
  induction lists generalizing list with
  | nil => rfl
  | cons next others ih =>
      rw [List.intercalate_cons_cons, ih, List.map_cons, List.intercalate_cons_cons]
      cases others with
      | nil => simp
      | cons third rest => simp [List.intercalate_cons_cons]

/-- Where each part is read, all of them are. -/
theorem mapM_map_eq_some {α β γ : Type} {read : β → Option γ} {write : α → β} {shown : α → γ}
    {list : List α} (h : ∀ a ∈ list, read (write a) = some (shown a)) :
    (list.map write).mapM read = some (list.map shown) := by
  induction list with
  | nil => rfl
  | cons a rest ih =>
      obtain ⟨hfirst, hrest⟩ := List.forall_mem_cons.mp h
      rw [List.map_cons, List.mapM_cons, hfirst, ih hrest]
      rfl

/-- Expressions with commas between them are read one by one. -/
theorem expressions?_eq {segments : List SegmentExpr}
    (h : ∀ segment ∈ segments, segment.Worded) :
    expressions? ((plainTokens ", ").intercalate (segments.map SegmentExpr.tokens))
      = some (segments.map SegmentExpr.shown) := by
  cases segments with
  | nil => rfl
  | cons segment rest =>
      obtain ⟨hfirst, hrest⟩ := List.forall_mem_cons.mp h
      have hcomma : plainTokens ", " = [.mark ',', .mark ' '] := by decide
      have hparts : ∀ part ∈ segment.tokens :: (rest.map SegmentExpr.tokens).map (.mark ' ' :: ·),
          CodeToken.mark ',' ∉ part := by
        refine List.forall_mem_cons.mpr ⟨hfirst.comma_not_mem, fun part hpart => ?_⟩
        obtain ⟨tokens, htokens, rfl⟩ := List.mem_map.mp hpart
        obtain ⟨other, hother, rfl⟩ := List.mem_map.mp htokens
        simpa using (hrest other hother).comma_not_mem
      have hsplit := List.splitOn_intercalate _ hparts (List.cons_ne_nil _ _)
      rw [← intercalate_pair, ← hcomma, ← List.map_cons] at hsplit
      have hne :
          (plainTokens ", ").intercalate ((segment :: rest).map SegmentExpr.tokens) ≠ [] := by
        intro hempty
        -- Then there is one part, and it is empty, but no expression is.
        rw [hempty] at hsplit
        have htokens : [] = segment.tokens := (List.cons.inj hsplit).1
        have hread := hfirst.read?
        rw [← htokens] at hread
        cases hread
      have hothers : ((rest.map SegmentExpr.tokens).map (CodeToken.mark ' ' :: ·)).mapM
          (fun part => SourceExpr.read? (part.dropWhile (· = .mark ' ')))
          = some (rest.map SegmentExpr.shown) := by
        rw [List.map_map]
        refine mapM_map_eq_some fun other hother => ?_
        rw [Function.comp_apply, List.dropWhile_cons_of_pos (by simp),
          (hrest other hother).dropWhile_blank, (hrest other hother).read?]
      rw [expressions?, if_neg hne, hsplit, List.mapM_cons, hfirst.dropWhile_blank, hfirst.read?,
        hothers]
      rfl

/-! ### Bodies -/

section

variable (print : PrintRules)

/-- A line with the call that puts segments behind the prefix shows them. -/
theorem lineExpressions?_eq {segments : List SegmentExpr}
    (h : ∀ segment ∈ segments, segment.Worded) {front back : String}
    (hfront : '"' ∉ front.toList) (hback : '"' ∉ back.toList) :
    lineExpressions? front back
        (front ++ ", ".intercalate (segments.map (SegmentExpr.source · print)) ++ back)
      = some (segments.map SegmentExpr.shown) := by
  have hsegments := Tokenized.intercalate fun segment hmem => (h segment hmem).tokenized print
  have htokens := ((Tokenized.of_free hfront).append hsegments).append (.of_free hback)
  rw [lineExpressions?, htokens.tokens?_eq, Option.bind_eq_bind, Option.bind_some,
    enclosed?_append]
  exact expressions?_eq h

/-- The lines inside a method. -/
def Method.bodyLines (method : Method) : List String :=
  match method.answer with
  | .key _ => [segmentsCall "join_key" method.segments print]
  | .level structName =>
    [structName ++ " \x7b",
      "    prefix: " ++ segmentsCall "extend_prefix" method.segments print ++ ",", "\x7d"]

/-- What the body of a method shows. -/
def Method.shownBody (method : Method) : SourceBody :=
  match method.answer with
  | .key _ => .join (method.segments.map SegmentExpr.shown)
  | .level structName => .extend structName (method.segments.map SegmentExpr.shown)

theorem Method.Worded.read?_bodyLines {method : Method} (h : method.Worded) :
    SourceBody.read? (method.bodyLines print) = some method.shownBody := by
  have hsegments : ∀ segment ∈ method.segments, segment.Worded := by
    rintro segment hmem parameter rfl
    exact h.segments parameter hmem
  rw [bodyLines, shownBody]
  cases hanswer : method.answer with
  | key pieces =>
      have hcall := lineExpressions?_eq print hsegments
        (show '"' ∉ "self::join_key(&self.prefix, &[".toList by decide)
        (show '"' ∉ "])".toList by decide)
      have hread : lineExpressions? "self::join_key(&self.prefix, &[" "])"
          (segmentsCall "join_key" method.segments print)
          = some (method.segments.map SegmentExpr.shown) := hcall
      simp only [SourceBody.read?, hread, Option.map_some]
  | level structName =>
      have hcall := lineExpressions?_eq print hsegments
        (show '"' ∉ "    prefix: self::extend_prefix(&self.prefix, &[".toList by decide)
        (show '"' ∉ "]),".toList by decide)
      have hline : "    prefix: " ++ segmentsCall "extend_prefix" method.segments print ++ ","
          = "    prefix: self::extend_prefix(&self.prefix, &["
            ++ ", ".intercalate (method.segments.map (SegmentExpr.source · print)) ++ "])," := by
        rw [segmentsCall]
        simp only [String.append_assoc]
        rfl
      have hname : enclosed? [] " \x7b".toList (structName ++ " \x7b").toList
          = some structName.toList := by
        rw [String.toList_append]
        exact enclosed?_append [] structName.toList " \x7b".toList
      rw [← hline] at hcall
      simp only [SourceBody.read?, hname, hcall, Option.bind_eq_bind, Option.bind_some, if_true,
        String.ofList_toList]

end

/-! ### Methods -/

/-- What a parameter shows. -/
def Parameter.shown (parameter : Parameter) : SourceParameter :=
  ⟨parameter.name, parameter.kind.rustType⟩

theorem SourceParameter.read?_eq {parameter : Parameter} (h : Unbroken parameter.name) :
    SourceParameter.read? (" " ++ parameter.name ++ ": " ++ parameter.kind.rustType).toList
      = some parameter.shown := by
  have hcolon : ':' ∉ parameter.name.toList := h.not_mem (by decide)
  have hblank : (" " ++ parameter.name ++ ": " ++ parameter.kind.rustType).toList
      = [' '] ++ (parameter.name.toList ++ ':' :: ' ' :: parameter.kind.rustType.toList) := by
    simp
  have htype : (':' :: ' ' :: parameter.kind.rustType.toList).dropPrefix? ": ".toList
      = some parameter.kind.rustType.toList := by
    have hlist : ':' :: ' ' :: parameter.kind.rustType.toList
        = ": ".toList ++ parameter.kind.rustType.toList := by
      simp
    rw [hlist, List.dropPrefix?_append_of_beq _ BEq.rfl]
  rw [SourceParameter.read?, hblank, List.dropPrefix?_append_of_beq _ BEq.rfl, Option.bind_eq_bind,
    Option.bind_some, dropWhile_append_cons hcolon, htype, takeWhile_append_cons hcolon]
  simp only [Option.bind_some, String.ofList_toList]
  rfl

/-- Parameters behind commas are read one by one. -/
theorem parameters?_eq {parameters : List Parameter}
    (h : ∀ parameter ∈ parameters, Unbroken parameter.name) :
    parameters? (String.join (parameters.map Parameter.source)).toList
      = some (parameters.map Parameter.shown) := by
  let part (parameter : Parameter) : List Char :=
    (" " ++ parameter.name ++ ": " ++ parameter.kind.rustType).toList
  have hjoin : (String.join (parameters.map Parameter.source)).toList
      = [','].intercalate ([] :: parameters.map part) := by
    clear h
    induction parameters with
    | nil => rfl
    | cons parameter rest ih =>
        have hfirst : parameter.source.toList = ',' :: part parameter := by
          simp [Parameter.source, part]
        rw [List.map_cons, String.join_cons, String.toList_append, ih, hfirst, List.map_cons,
          List.intercalate_cons_cons]
        cases rest with
        | nil => simp
        | cons next others => simp [List.intercalate_cons_cons]
  have hfree : ∀ text ∈ [] :: parameters.map part, ',' ∉ text := by
    refine List.forall_mem_cons.mpr ⟨List.not_mem_nil, fun text htext => ?_⟩
    obtain ⟨parameter, hmem, rfl⟩ := List.mem_map.mp htext
    have hname : FreeOf [','] parameter.name := (h parameter hmem).mono (by simp [wordEnds])
    have hkind : FreeOf [','] parameter.kind.rustType := by
      cases parameter.kind <;> decide
    have hall : FreeOf [','] (" " ++ parameter.name ++ ": " ++ parameter.kind.rustType) :=
      freeOf_append (freeOf_append (freeOf_append (by decide) hname) (by decide)) hkind
    exact fun hcomma => hall ',' hcomma List.mem_cons_self
  rw [parameters?, hjoin, List.splitOn_intercalate _ hfree (List.cons_ne_nil _ _)]
  exact mapM_map_eq_some fun parameter hmem => SourceParameter.read?_eq (h parameter hmem)

section

variable (separator : String) (print : PrintRules)

/-- The comment of a method. -/
def Method.comment? (method : Method) : Option String :=
  match method.answer with
  | .key pieces => some (keyComment separator pieces print)
  | .level _ => none

/-- What a method shows. -/
def Method.shown (method : Method) : SourceMethod where
  comment := method.comment? separator print
  name := method.name
  parameters := method.parameters.map Parameter.shown
  answer := method.answer.rustType
  body := method.shownBody

section

variable {method : Method} {pieces : List Piece} {structName : String}

theorem Method.comment_shown_of_key (h : method.answer = .key pieces) :
    (method.shown separator print).comment = some (keyComment separator pieces print) := by
  rw [shown, comment?, h]

theorem Method.comment_shown_of_level (h : method.answer = .level structName) :
    (method.shown separator print).comment = none := by
  rw [shown, comment?, h]

theorem Method.body_shown_of_key (h : method.answer = .key pieces) :
    (method.shown separator print).body = .join (method.segments.map SegmentExpr.shown) := by
  rw [shown, shownBody, h]

theorem Method.body_shown_of_level (h : method.answer = .level structName) :
    (method.shown separator print).body
      = .extend structName (method.segments.map SegmentExpr.shown) := by
  rw [shown, shownBody, h]

end

/-- The item of a method, without its comment. -/
def Method.item (method : Method) : CodeItem :=
  ⟨method.signature ++ " \x7b", method.bodyLines print⟩

theorem Method.Worded.read?_item {method : Method} (h : method.Worded) :
    SourceMethod.read? (method.comment? separator print) (method.item print)
      = some (method.shown separator print) := by
  let parameters := String.join (method.parameters.map Parameter.source)
  let behind := parameters.toList ++ ')' :: (" -> " ++ method.answer.rustType).toList
  have hline : (method.signature ++ " \x7b").toList = "pub fn ".toList
      ++ (method.name.toList ++ '(' :: ("&self".toList ++ behind)) ++ " \x7b".toList := by
    simp [Method.signature, behind, parameters]
  have hname : '(' ∉ method.name.toList := h.name.not_mem (by decide)
  have hfree : ')' ∉ parameters.toList := fun hmem => h.parameters_text ')' hmem (by simp)
  have hself : ('(' :: ("&self".toList ++ behind)).dropPrefix? "(&self".toList = some behind :=
    List.dropPrefix?_append_of_beq behind BEq.rfl
  -- The first bracket behind the receiver closes the parameters.
  have hparameters : parameters? (behind.takeWhile (· ≠ ')'))
      = some (method.parameters.map Parameter.shown) := by
    rw [takeWhile_append_cons hfree]
    exact parameters?_eq h.parameters
  have hanswer : (behind.dropWhile (· ≠ ')')).dropPrefix? ") -> ".toList
      = some method.answer.rustType.toList := by
    rw [dropWhile_append_cons hfree, String.toList_append]
    exact List.dropPrefix?_append_of_beq _ BEq.rfl
  rw [SourceMethod.read?, item, hline, enclosed?_append]
  simp only [Option.bind_eq_bind, Option.bind_some, dropWhile_append_cons hname,
    takeWhile_append_cons hname, hself, hparameters, hanswer, h.read?_bodyLines print,
    String.ofList_toList]
  rfl

/-- The items of a method: its comment, if there is one, and the method. -/
def Method.items (method : Method) : List CodeItem :=
  (method.comment? separator print).toList.map (⟨·, []⟩) ++ [method.item print]

/-- The lines of a method are cut into its items. -/
theorem Method.cutInto_items (method : Method) :
    CutInto (method.lines separator print) (method.items separator print) := by
  have hmargin : AtMargin method.signature := by
    simp only [signature, String.append_assoc]
    exact AtMargin.append (by decide) _
  have hblock := CutInto.braced hmargin
  have hcall : ∀ function, segmentsCall function method.segments print ≠ "" := by
    intro function
    simp [segmentsCall]
  cases hanswer : method.answer with
  | key pieces =>
      have hcomment : CutInto [keyComment separator pieces print]
          [⟨keyComment separator pieces print, []⟩] := by
        have hlast : (keyComment separator pieces print).toList.getLast? = some '`' :=
          getLast?_toList_append _ (by decide)
        refine CutInto.line ?_ (by simp [hlast])
        rw [keyComment, String.append_assoc]
        exact AtMargin.append (by decide) _
      have hbody := hblock [segmentsCall "join_key" method.segments print]
      rw [List.filter_cons_of_pos (by simp [hcall]), List.filter_nil] at hbody
      rw [method.lines_of_key separator print hanswer, items, comment?, item, bodyLines, hanswer]
      exact hcomment.append hbody
  | level structName =>
      have hbody := hblock (braced structName
        ["prefix: " ++ segmentsCall "extend_prefix" method.segments print ++ ","])
      have hlines : (braced structName
          ["prefix: " ++ segmentsCall "extend_prefix" method.segments print ++ ","]).filter
            (· ≠ "") = method.bodyLines print := by
        rw [bodyLines, hanswer, braced, List.map_singleton, String.append_assoc,
          indented_append (by decide), ← String.append_assoc]
        simp
      rw [hlines] at hbody
      rw [method.lines_of_level separator print hanswer, items, comment?, item, hanswer]
      exact hbody

/-- A comment is no method, and belongs to what is below it. -/
theorem methodsFrom?_keyComment (pieces : List Piece) (rest : List CodeItem) :
    methodsFrom? none (⟨keyComment separator pieces print, []⟩ :: rest)
      = methodsFrom? (some (keyComment separator pieces print)) rest := by
  have hline : (keyComment separator pieces print).toList
      = "///".toList
          ++ (" `" ++ rustEscaped (renderPieces separator pieces) print ++ "`").toList := by
    simp [keyComment]
  have hnone : SourceMethod.read? none ⟨keyComment separator pieces print, []⟩ = none := by
    rw [SourceMethod.read?, enclosed?, hline, dropPrefix?_of_apart (by decide)]
    rfl
  have hother : (⟨keyComment separator pieces print, []⟩ : CodeItem) ≠ constructorItem := by
    simp [constructorItem]
  have hslashes : ((keyComment separator pieces print).toList.dropPrefix? "///".toList).isSome := by
    rw [hline, List.dropPrefix?_append_of_beq _ BEq.rfl]
    rfl
  rw [methodsFrom?, hnone]
  simp only [if_neg hother, hslashes, if_true]

/-- The items of a method are read as what the method shows. -/
theorem Method.Worded.methodsFrom?_append {method : Method} (h : method.Worded)
    (rest : List CodeItem) :
    methodsFrom? none (method.items separator print ++ rest)
      = (methodsFrom? none rest).map (method.shown separator print :: ·) := by
  have hread := h.read?_item separator print
  cases hanswer : method.answer with
  | key pieces =>
      have hcomment :
          method.comment? separator print = some (keyComment separator pieces print) := by
        rw [comment?, hanswer]
      have hitems : method.items separator print ++ rest
          = ⟨keyComment separator pieces print, []⟩ :: method.item print :: rest := by
        rw [items, hcomment]
        rfl
      rw [hcomment] at hread
      rw [hitems, methodsFrom?_keyComment, methodsFrom?, hread]
  | level structName =>
      have hcomment : method.comment? separator print = none := by
        rw [comment?, hanswer]
      have hitems : method.items separator print ++ rest = method.item print :: rest := by
        rw [items, hcomment]
        rfl
      rw [hcomment] at hread
      rw [hitems, methodsFrom?, hread]

/-! ### Structs -/

/-- What a struct shows. -/
def BuilderStruct.shown (builder : BuilderStruct) : SourceStruct where
  name := builder.name
  startsEmpty := builder.path.isEmpty
  methods := builder.methods.map (Method.shown separator print)

/-- The items inside the implementation of a struct. -/
def BuilderStruct.members (builder : BuilderStruct) : List CodeItem :=
  (if builder.path.isEmpty then [constructorItem] else [])
    ++ builder.methods.flatMap (Method.items separator print)

/-- The lines inside the implementation of a struct. -/
def BuilderStruct.memberLines (builder : BuilderStruct) : List String :=
  (if builder.path.isEmpty then
      braced "pub const fn new() -> Self" ["Self \x7b prefix: Vec::new() \x7d"]
    else [])
  ++ builder.methods.flatMap fun method => "" :: method.lines separator print

/-- The items of a struct. -/
def BuilderStruct.items (builder : BuilderStruct) : List CodeItem :=
  [ ⟨"/// " ++ builder.comment print, []⟩, ⟨"#[derive(Debug, Clone, PartialEq, Eq)]", []⟩,
    prefixItem builder.name,
    ⟨"impl " ++ builder.name ++ " \x7b",
      (builder.memberLines separator print).filter (· ≠ "")⟩ ]

theorem BuilderStruct.cutInto_members (builder : BuilderStruct) :
    CutInto (builder.memberLines separator print) (builder.members separator print) := by
  have hmethods : CutInto (builder.methods.flatMap fun method => "" :: method.lines separator print)
      (builder.methods.flatMap (Method.items separator print)) :=
    CutInto.flatMap fun method _ => (method.cutInto_items separator print).empty_cons
  refine CutInto.append ?_ hmethods
  cases builder.path.isEmpty <;> decide +kernel

/-- The lines of a struct are cut into its items. -/
theorem BuilderStruct.cutInto_items (builder : BuilderStruct) :
    CutInto (builder.lines separator print) (builder.items separator print) := by
  have hcomment : CutInto ["/// " ++ builder.comment print]
      [⟨"/// " ++ builder.comment print, []⟩] := by
    refine CutInto.line (AtMargin.append (by decide) _) ?_
    rw [comment]
    split
    · decide
    · rw [← String.append_assoc, getLast?_toList_append _ (by decide)]
      decide
  have hderive : CutInto ["#[derive(Debug, Clone, PartialEq, Eq)]"]
      [⟨"#[derive(Debug, Clone, PartialEq, Eq)]", []⟩] := by decide +kernel
  have hstruct : CutInto (braced ("pub struct " ++ builder.name) ["prefix: Vec<String>,"])
      [prefixItem builder.name] := CutInto.braced (AtMargin.append (by decide) _) _
  have himplementation : CutInto
      (braced ("impl " ++ builder.name) (builder.memberLines separator print))
      [⟨"impl " ++ builder.name ++ " \x7b",
        (builder.memberLines separator print).filter (· ≠ "")⟩] :=
    CutInto.braced (AtMargin.append (by decide) _) _
  exact hcomment.append (hderive.append (hstruct.append himplementation.empty_cons))

/-- The constructor is no method. -/
theorem read?_constructorItem (comment : Option String) :
    SourceMethod.read? comment constructorItem = none := by
  have henclosed :
      enclosed? "pub fn ".toList " \x7b".toList constructorItem.line.toList = none := by
    decide +kernel
  rw [SourceMethod.read?, henclosed]
  rfl

/-- Only the root has the constructor among its members. -/
theorem BuilderStruct.Worded.constructorItem_mem_iff {builder : BuilderStruct}
    (h : builder.Worded) :
    constructorItem ∈ builder.members separator print ↔ builder.path.isEmpty := by
  have hmethods : constructorItem ∉ builder.methods.flatMap (Method.items separator print) := by
    intro hmem
    obtain ⟨method, hmethod, hitem⟩ := List.mem_flatMap.mp hmem
    rcases List.mem_append.mp hitem with hitem | hitem
    · obtain ⟨comment, -, heq⟩ := List.mem_map.mp hitem
      cases congrArg CodeItem.inside heq
    · -- What is inside a method is read, and the constructor is not.
      have hread := (h.methods method hmethod).read?_item separator print
      rw [← List.mem_singleton.mp hitem, read?_constructorItem] at hread
      cases hread
  rw [members, List.mem_append, or_iff_left hmethods]
  cases builder.path.isEmpty <;> simp

/-- The members of a struct are read as the methods that it shows. -/
theorem BuilderStruct.Worded.methodsFrom?_members {builder : BuilderStruct} (h : builder.Worded) :
    methodsFrom? none (builder.members separator print)
      = some (builder.methods.map (Method.shown separator print)) := by
  have hmethods : methodsFrom? none (builder.methods.flatMap (Method.items separator print))
      = some (builder.methods.map (Method.shown separator print)) := by
    have hall := h.methods
    generalize builder.methods = methods at hall
    induction methods with
    | nil => rfl
    | cons method rest ih =>
        obtain ⟨hmethod, hrest⟩ := List.forall_mem_cons.mp hall
        rw [List.flatMap_cons, hmethod.methodsFrom?_append, ih hrest]
        rfl
  rw [members]
  cases builder.path.isEmpty with
  | false => exact hmethods
  | true =>
      rw [if_pos rfl, List.singleton_append, methodsFrom?, read?_constructorItem]
      simp only [if_true, hmethods]

theorem BuilderStruct.Worded.read?_eq {builder : BuilderStruct} (h : builder.Worded)
    {module : List CodeItem} (hdeclared : prefixItem builder.name ∈ module) :
    SourceStruct.read? module builder.name
        ((builder.memberLines separator print).filter (· ≠ ""))
      = some (builder.shown separator print) := by
  have hcut : CutInto ((builder.memberLines separator print).filter (· ≠ ""))
      (builder.members separator print) := by
    rw [CutInto, CutLines.read?_filter]
    exact builder.cutInto_members separator print
  rw [SourceStruct.read?, hcut.items?_eq, Option.bind_eq_bind, Option.bind_some,
    h.methodsFrom?_members]
  simp only [if_pos hdeclared, shown, h.constructorItem_mem_iff, Bool.decide_eq_true]
  rfl

/-! ### The module -/

/-- The constant in the header holds the separator. -/
theorem separator?_separatorLine :
    CodeItem.separator? ⟨separatorLine separator print, []⟩ = some separator := by
  have hfront := Tokenized.of_free (show '"' ∉ "pub const SEPARATOR: &str = ".toList by decide)
  have hback := Tokenized.of_free (show '"' ∉ ";".toList by decide)
  have htokens : tokens? (separatorLine separator print)
      = some (plainTokens "pub const SEPARATOR: &str = " ++ [.literal separator]
          ++ plainTokens ";") :=
    ((hfront.append (.rustLiteral separator print)).append hback).tokens?_eq
  simp only [CodeItem.separator?, htokens, enclosed?_append, Option.bind_eq_bind, Option.bind_some]

/-- Items that implement no struct are passed over. -/
theorem structsFrom?_append {module items : List CodeItem}
    (h : ∀ item ∈ items, item.implements? = none) (rest : List CodeItem) :
    structsFrom? module (items ++ rest) = structsFrom? module rest := by
  induction items with
  | nil => rfl
  | cons item others ih =>
      obtain ⟨hfirst, hothers⟩ := List.forall_mem_cons.mp h
      rw [List.cons_append, structsFrom?, hfirst]
      exact ih hothers

theorem implements?_of_apart {front : String} (h : Apart front "impl ") (back : String)
    (inside : List String) : CodeItem.implements? ⟨front ++ back, inside⟩ = none := by
  rw [CodeItem.implements?, String.toList_append, dropPrefix?_of_apart h]
  rfl

theorem exists_numberItems :
    ∃ items, CutInto numberLines items ∧ ∀ item ∈ items, item.implements? = none := by
  have hcomment := CutInto.line
    (show AtMargin "/// Numbers accepted by generated key methods." by decide) (by decide)
  have htrait := CutInto.braced (show AtMargin "pub trait NumberArg" by decide)
    ["fn segment(self) -> String;"]
  have hmacro := CutInto.braced (show AtMargin "macro_rules! impl_integer_arg" by decide)
    ("($($ty:ty),*) => \x7b" ::
      ("$(" :: (braced "impl NumberArg for $ty" (segmentMethod "self.to_string()")).map indented
        ++ [")*"]).map indented
      ++ ["\x7d;"])
  have hcall := CutInto.line
    (show AtMargin "impl_integer_arg!(i8, i16, i32, i64, isize, u8, u16, u32, u64, usize);"
      by decide) (by decide)
  have hdouble := CutInto.braced (show AtMargin "impl NumberArg for f64" by decide)
    (segmentMethod "self::number_segment(self)")
  have hsingle := CutInto.braced (show AtMargin "impl NumberArg for f32" by decide)
    (segmentMethod "self::number_segment(self.to_string().parse().unwrap_or(f64::from(self)))")
  refine ⟨_, (((hcomment.append htrait).append hmacro.empty_cons).append
    (hcall.append hdouble.empty_cons).empty_cons).append hsingle.empty_cons, ?_⟩
  decide +kernel

/-- The functions of a module hold those that bodies call. -/
theorem exists_functionItems :
    ∃ items, CutInto functionLines items ∧ (∀ item ∈ items, item.implements? = none)
      ∧ ∀ item ∈ calledItems, item ∈ items := by
  have hallow := CutInto.line (show AtMargin "#[allow(dead_code)]" by decide) (by decide)
  have hnumber := CutInto.braced (show AtMargin "fn number_segment(n: f64) -> String" by decide)
    [ "if n.is_nan() \x7b",
      "    \"NaN\".to_string()",
      "\x7d else if n.is_infinite() \x7b",
      "    if n > 0.0 \x7b \"Infinity\" \x7d else \x7b \"-Infinity\" \x7d.to_string()",
      "\x7d else if n == 0.0 \x7b",
      "    \"0\".to_string()",
      "\x7d else \x7b",
      "    n.to_string()",
      "\x7d" ]
  have hjoin := CutInto.braced
    (show AtMargin "fn join_key(prefix: &[String], parts: &[String]) -> String" by decide)
    [ "let mut segments: Vec<&str> = prefix.iter().map(String::as_str).collect();",
      "segments.extend(parts.iter().map(String::as_str));",
      "segments.join(SEPARATOR)" ]
  have hextend := CutInto.braced
    (show AtMargin "fn extend_prefix(prefix: &[String], parts: &[String]) -> Vec<String>" by decide)
    ["prefix.iter().chain(parts).cloned().collect()"]
  refine ⟨_, ((hallow.append hnumber).append (hallow.append hjoin).empty_cons).append
    (hallow.append hextend).empty_cons, ?_, ?_⟩
  · decide +kernel
  · decide +kernel

/-- The items of structs are read as what the structs show. -/
theorem structsFrom?_eq {module : List CodeItem} {builders : List BuilderStruct}
    (hworded : ∀ builder ∈ builders, builder.Worded)
    (hdeclared : ∀ builder ∈ builders, prefixItem builder.name ∈ module) :
    structsFrom? module (builders.flatMap (BuilderStruct.items separator print))
      = some (builders.map (BuilderStruct.shown separator print)) := by
  induction builders with
  | nil => rfl
  | cons builder rest ih =>
      obtain ⟨hword, hwords⟩ := List.forall_mem_cons.mp hworded
      obtain ⟨hfirst, hothers⟩ := List.forall_mem_cons.mp hdeclared
      have hbefore : ∀ item ∈ [⟨"/// " ++ builder.comment print, []⟩,
          ⟨"#[derive(Debug, Clone, PartialEq, Eq)]", []⟩, prefixItem builder.name],
          CodeItem.implements? item = none := by
        have hcomment := implements?_of_apart (show Apart "/// " "impl " by decide)
          (builder.comment print) []
        have hderive :
            CodeItem.implements? ⟨"#[derive(Debug, Clone, PartialEq, Eq)]", []⟩ = none := by
          decide +kernel
        have hstruct : (prefixItem builder.name).implements? = none := by
          rw [prefixItem, String.append_assoc]
          exact implements?_of_apart (show Apart "pub struct " "impl " by decide) _ _
        simp only [List.forall_mem_cons, hcomment, hderive, hstruct]
        simp
      have himplements : CodeItem.implements? ⟨"impl " ++ builder.name ++ " \x7b",
          (builder.memberLines separator print).filter (· ≠ "")⟩ = some builder.name := by
        rw [CodeItem.implements?, String.append_assoc, String.toList_append,
          List.dropPrefix?_append_of_beq _ BEq.rfl]
        exact wordOpening?_eq hword.name
      have hitems : (builder :: rest).flatMap (BuilderStruct.items separator print)
          = [⟨"/// " ++ builder.comment print, []⟩, ⟨"#[derive(Debug, Clone, PartialEq, Eq)]", []⟩,
              prefixItem builder.name]
            ++ ⟨"impl " ++ builder.name ++ " \x7b",
                (builder.memberLines separator print).filter (· ≠ "")⟩
              :: rest.flatMap (BuilderStruct.items separator print) := rfl
      rw [hitems, structsFrom?_append hbefore, structsFrom?, himplements]
      simp only [hword.read?_eq separator print hfirst, ih hwords hothers, Option.bind_eq_bind,
        Option.bind_some, List.map_cons]

/-- The header is cut into items. They hold the constant of the separator in
front of any other, implement no struct, and declare the functions that bodies
call. -/
theorem exists_headerItems :
    ∃ items, CutInto (headerLines separator print) items
      ∧ items.findSome? CodeItem.separator? = some separator
      ∧ (∀ item ∈ items, item.implements? = none) ∧ ∀ item ∈ calledItems, item ∈ items := by
  obtain ⟨numbers, hnumbers, hnone⟩ := exists_numberItems
  obtain ⟨functions, hfunctions, hnone', hcalled⟩ := exists_functionItems
  have hgenerated := CutInto.line
    (show AtMargin "// Generated by keyschema-codegen. Do not edit." by decide) (by decide)
  have hjoining := CutInto.line
    (show AtMargin "/// Separator joining key segments." by decide) (by decide)
  have hline : separatorLine separator print
      = "pub const SEPARATOR: &str = " ++ (rustLiteral separator print ++ ";") :=
    String.append_assoc ..
  have hseparator :
      CutInto [separatorLine separator print] [⟨separatorLine separator print, []⟩] := by
    have hlast : (separatorLine separator print).toList.getLast? = some ';' :=
      getLast?_toList_append _ (by decide)
    refine CutInto.line ?_ (by simp [hlast])
    rw [hline]
    exact AtMargin.append (by decide) _
  have hconstant : CodeItem.implements? ⟨separatorLine separator print, []⟩ = none := by
    rw [hline]
    exact implements?_of_apart (by decide) _ _
  have hcomments : ∀ item ∈ [⟨"// Generated by keyschema-codegen. Do not edit.", []⟩,
      ⟨"/// Separator joining key segments.", []⟩],
      CodeItem.separator? item = none ∧ item.implements? = none := by
    decide +kernel
  obtain ⟨⟨hfirst, hfirst'⟩, hsecond⟩ := List.forall_mem_cons.mp hcomments
  obtain ⟨hsecond, hsecond'⟩ := List.forall_mem_singleton.mp hsecond
  refine ⟨_, ((hgenerated.append hjoining.empty_cons).append hseparator).append
    (hnumbers.empty_cons.append hfunctions.empty_cons), ?_, ?_, ?_⟩
  · simp only [List.cons_append, List.nil_append, List.findSome?_cons, hfirst, hsecond,
      separator?_separatorLine]
  · simp only [List.cons_append, List.nil_append, List.forall_mem_cons, List.forall_mem_append]
    exact ⟨hfirst', hsecond', hconstant, hnone, hnone'⟩
  · exact fun item hmem => List.mem_append_right _ (List.mem_append_right _ (hcalled item hmem))

/-- Generated source is read as the module of what its structs show, with the
separator that it was generated for. -/
theorem SourceModule.read?_moduleLines {builders : List BuilderStruct}
    (hworded : ∀ builder ∈ builders, builder.Worded) :
    SourceModule.read? (linesText (moduleLines separator builders print))
      = some ⟨separator, builders.map (BuilderStruct.shown separator print)⟩ := by
  obtain ⟨header, hheader, hseparator, hnone, hcalled⟩ := exists_headerItems separator print
  have hstructs := CutInto.flatMap fun builder (_ : builder ∈ builders) =>
    (builder.cutInto_items separator print).empty_cons
  have hmodule := (hheader.append hstructs).append (show CutInto [""] [] from rfl)
  rw [List.append_nil] at hmodule
  have hdeclared : ∀ builder ∈ builders,
      prefixItem builder.name
        ∈ header ++ builders.flatMap (BuilderStruct.items separator print) := by
    intro builder hmem
    refine List.mem_append_right _ (List.mem_flatMap.mpr ⟨builder, hmem, ?_⟩)
    simp [BuilderStruct.items]
  have hread : structsFrom? (header ++ builders.flatMap (BuilderStruct.items separator print))
        (header ++ builders.flatMap (BuilderStruct.items separator print))
      = some (builders.map (BuilderStruct.shown separator print)) := by
    rw [structsFrom?_append hnone, structsFrom?_eq separator print hworded hdeclared]
  have hcalls : ∀ item ∈ calledItems,
      item ∈ header ++ builders.flatMap (BuilderStruct.items separator print) :=
    fun item hmem => List.mem_append_left _ (hcalled item hmem)
  rw [read?, splitOn_moduleLines separator print hworded, ← List.flatMap_def, hmodule.items?_eq,
    Option.bind_eq_bind, Option.bind_some, List.findSome?_append, hseparator]
  simp only [Option.some_or, hread, Option.bind_eq_bind, Option.bind_some, if_pos hcalls]

end

end KeyTree
