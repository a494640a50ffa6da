import KeyTree.Proofs.Codegen.Outline

/-!
# `KeyTree.Proofs.Codegen.Reader`: generated source, read as what it says

`SourceModule.read?` takes the text of generated source for what it says: the
separator, and the structs with their methods. Of a method it reads the comment,
the name, the parameters with their types, the type that is returned, and the
body, which is one of two calls with a list of expressions. It knows nothing of
the schema and of what the source was written from. It refuses what it does not
understand, so a method is never read as less than its lines say.

Three steps make up the reading.

* `CutLines.read?`: lines are cut at the margin. A line that opens a brace has
  the lines up to the closing one, which are moved in by one step.
* `tokens?`: a line of code is cut into characters and whole literals, each of
  them taken for its text.
* `SourceExpr.read?`, `SourceMethod.read?`, `SourceStruct.read?`: the parts of a
  module, each by the texts around it.

`SourceModule.read?_moduleLines` says what is read from the source of a module
of structs: what the structs hold. There is one lemma for each step, and the
names in source being single words is all that they ask for.
-/

set_option autoImplicit false

namespace KeyTree

/-! ### What is read -/

/-- An expression for a segment. -/
inductive SourceExpr where
  /-- A literal that is turned into a text. -/
  | literal (text : String)
  /-- A parameter that is turned into a text. -/
  | shown (parameter : String)
  /-- A parameter that the trait of numbers turns into a segment. -/
  | number (parameter : String)
  deriving DecidableEq, Repr

/-- A parameter behind the receiver, with its type. -/
structure SourceParameter where
  name : String
  type : String
  deriving DecidableEq, Repr

/-- What the body of a method does. -/
inductive SourceBody where
  /-- Joins the prefix and some segments. -/
  | join (segments : List SourceExpr)
  /-- Builds a struct from the prefix, extended by some segments. -/
  | extend (structName : String) (segments : List SourceExpr)
  deriving DecidableEq, Repr

/-- A method. -/
structure SourceMethod where
  /-- The line above the method. -/
  comment : Option String
  name : String
  parameters : List SourceParameter
  /-- The type that is returned. -/
  answer : String
  body : SourceBody
  deriving DecidableEq, Repr

/-- A struct with a prefix, and its methods. -/
structure SourceStruct where
  name : String
  /-- Whether it has a constructor that starts with an empty prefix. -/
  startsEmpty : Bool
  methods : List SourceMethod
  deriving DecidableEq, Repr

/-- A module. -/
structure SourceModule where
  /-- The text of the constant that joins segments. -/
  separator : String
  structs : List SourceStruct
  deriving DecidableEq, Repr

/-! ### Lines at the margin -/

/-- A line at the margin, and the lines in its braces, moved out. -/
structure CodeItem where
  line : String
  inside : List String
  deriving DecidableEq, Repr

/-- Lines that are cut at the margin. -/
structure CutLines where
  /-- The lines in front of the margin that are moved in, moved out. -/
  loose : List String
  items : List CodeItem
  deriving DecidableEq, Repr

/-- A line that is moved in by one step, moved out. -/
def movedOut? (line : String) : Option String :=
  (line.toList.dropPrefix? "    ".toList).map String.ofList

namespace CutLines

/-- Puts a line in front. Empty lines do not count. A line with a brace at its
end takes the lines that are moved in, and the closing brace has to follow. -/
def cons? (line : String) (cut : CutLines) : Option CutLines :=
  if line = "" then some cut
  else
    match movedOut? line with
    | some moved => some ⟨moved :: cut.loose, cut.items⟩
    | none =>
      if line.toList.getLast? = some '\x7b' then
        match cut.items with
        | ⟨"\x7d", []⟩ :: behind => some ⟨[], ⟨line, cut.loose⟩ :: behind⟩
        | _ => none
      else if cut.loose = [] then some ⟨[], ⟨line, []⟩ :: cut.items⟩
      else none

/-- Cuts lines at the margin. -/
def read? : List String → Option CutLines
  | [] => some ⟨[], []⟩
  | line :: rest => do (← read? rest).cons? line

end CutLines

/-- The items of lines that start at the margin. -/
def items? (lines : List String) : Option (List CodeItem) := do
  let cut ← CutLines.read? lines
  if cut.loose = [] then some cut.items else none

/-- Lines that start at the margin are cut into items. -/
def CutInto (lines : List String) (items : List CodeItem) : Prop :=
  CutLines.read? lines = some ⟨[], items⟩

instance (lines : List String) (items : List CodeItem) : Decidable (CutInto lines items) :=
  inferInstanceAs (Decidable (_ = _))

theorem movedOut?_indented {line : String} (h : line ≠ "") :
    movedOut? (indented line) = some line := by
  rw [movedOut?, indented, if_neg h, String.toList_append,
    List.dropPrefix?_append_of_beq _ BEq.rfl, Option.map_some, String.ofList_toList]

/-- A line that starts with something else than a blank. -/
def AtMargin (line : String) : Prop := line.toList.head?.any (· ≠ ' ') = true

instance (line : String) : Decidable (AtMargin line) := inferInstanceAs (Decidable (_ = true))

theorem AtMargin.append {front : String} (h : AtMargin front) (back : String) :
    AtMargin (front ++ back) := by
  rw [AtMargin] at h ⊢
  rw [String.toList_append]
  cases hlist : front.toList with
  | nil => simp [hlist] at h
  | cons c rest => simpa [hlist] using h

theorem AtMargin.ne_empty {line : String} (h : AtMargin line) : line ≠ "" := by
  rintro rfl
  cases h

theorem AtMargin.movedOut?_eq {line : String} (h : AtMargin line) : movedOut? line = none := by
  rw [movedOut?, Option.map_eq_none_iff, Option.eq_none_iff_forall_ne_some]
  intro rest hrest
  obtain ⟨start, hstart, hsame⟩ := List.dropPrefix?_eq_some_iff.mp hrest
  rw [AtMargin, hstart, eq_of_beq hsame] at h
  cases h

/-- The last character of a text is that of what is at its end. -/
theorem getLast?_toList_append (front : String) {back : String} (h : back ≠ "") :
    (front ++ back).toList.getLast? = back.toList.getLast? := by
  rw [String.toList_append, List.getLast?_append_of_ne_nil _ (by simpa using h)]

namespace CutLines

/-- A line is put in front in the same way where more items follow. -/
theorem cons?_append {line : String} {cut next : CutLines} (h : cut.cons? line = some next)
    (behind : List CodeItem) :
    cons? line ⟨cut.loose, cut.items ++ behind⟩ = some ⟨next.loose, next.items ++ behind⟩ := by
  rw [cons?] at h ⊢
  by_cases hempty : line = ""
  · simp only [if_pos hempty, Option.some.injEq] at h ⊢
    rw [h]
  simp only [if_neg hempty] at h ⊢
  cases hmoved : movedOut? line with
  | some moved =>
      simp only [hmoved, Option.some.injEq] at h ⊢
      subst h
      rfl
  | none =>
      simp only [hmoved] at h ⊢
      by_cases hopens : line.toList.getLast? = some '\x7b'
      · simp only [if_pos hopens] at h ⊢
        -- The brace was closed by an item that is still the first one.
        split at h
        · rename_i closed hitems
          rw [hitems]
          cases h
          rfl
        · cases h
      · simp only [if_neg hopens, Option.ite_none_right_eq_some] at h ⊢
        obtain ⟨hloose, hnext⟩ := h
        cases hnext
        exact ⟨hloose, rfl⟩

theorem read?_append {lines rest : List String} {cut : CutLines} {behind : List CodeItem}
    (h : read? lines = some cut) (hrest : CutInto rest behind) :
    read? (lines ++ rest) = some ⟨cut.loose, cut.items ++ behind⟩ := by
  induction lines generalizing cut with
  | nil =>
      cases h
      exact hrest
  | cons line others ih =>
      obtain ⟨next, hnext, hcons⟩ := Option.bind_eq_some_iff.mp h
      rw [List.cons_append, read?, ih hnext]
      exact cons?_append hcons behind

/-- Lines that are moved in are moved out again. -/
theorem read?_map_indented {rest : List String} {items : List CodeItem}
    (h : CutInto rest items) (lines : List String) :
    read? (lines.map indented ++ rest) = some ⟨lines.filter (· ≠ ""), items⟩ := by
  induction lines with
  | nil => exact h
  | cons line others ih =>
      rw [List.map_cons, List.cons_append, read?, ih, Option.bind_eq_bind, Option.bind_some, cons?]
      by_cases hline : line = ""
      · simp [hline, indented]
      · have hindented : indented line ≠ "" := by simp [indented, hline]
        rw [if_neg hindented, movedOut?_indented hline]
        simp [hline]

/-- Empty lines do not count. -/
theorem read?_filter (lines : List String) : read? (lines.filter (· ≠ "")) = read? lines := by
  induction lines with
  | nil => rfl
  | cons line rest ih =>
      by_cases hline : line = ""
      · subst hline
        rw [List.filter_cons_of_neg (by simp), ih, read?]
        cases read? rest with
        | none => rfl
        | some cut => rfl
      · rw [List.filter_cons_of_pos (by simpa using hline), read?, read?, ih]

end CutLines

namespace CutInto

variable {lines others : List String} {items behind : List CodeItem}

theorem items?_eq (h : CutInto lines items) : items? lines = some items := by
  have hread : CutLines.read? lines = some ⟨[], items⟩ := h
  rw [items?, hread]
  rfl

theorem append (h : CutInto lines items) (hothers : CutInto others behind) :
    CutInto (lines ++ others) (items ++ behind) := CutLines.read?_append h hothers

/-- An empty line in front does not count. -/
theorem empty_cons (h : CutInto lines items) : CutInto ("" :: lines) items :=
  append (show CutInto [""] [] from rfl) h

theorem flatMap {α : Type} {list : List α} {linesOf : α → List String}
    {itemsOf : α → List CodeItem} (h : ∀ a ∈ list, CutInto (linesOf a) (itemsOf a)) :
    CutInto (list.flatMap linesOf) (list.flatMap itemsOf) := by
  induction list with
  | nil => rfl
  | cons a rest ih =>
      obtain ⟨hfirst, hrest⟩ := List.forall_mem_cons.mp h
      exact hfirst.append (ih hrest)

/-- A line at the margin that opens nothing is an item. -/
theorem line {line : String} (hmargin : AtMargin line)
    (hopens : line.toList.getLast? ≠ some '\x7b') : CutInto [line] [⟨line, []⟩] := by
  rw [CutInto, CutLines.read?, CutLines.read?, Option.bind_eq_bind, Option.bind_some,
    CutLines.cons?, if_neg hmargin.ne_empty, hmargin.movedOut?_eq]
  simp only [if_neg hopens, if_true]

/-- A block is the item of its line, with the lines inside that are not empty. -/
theorem braced {head : String} (hmargin : AtMargin head) (body : List String) :
    CutInto (braced head body) [⟨head ++ " \x7b", body.filter (· ≠ "")⟩] := by
  have hclose : CutInto ["\x7d"] [⟨"\x7d", []⟩] := line (by decide) (by decide)
  have hopening := hmargin.append " \x7b"
  have hopens : (head ++ " \x7b").toList.getLast? = some '\x7b' :=
    getLast?_toList_append head (by decide)
  rw [CutInto, KeyTree.braced, List.cons_append, CutLines.read?,
    CutLines.read?_map_indented hclose, Option.bind_eq_bind, Option.bind_some, CutLines.cons?,
    if_neg hopening.ne_empty, hopening.movedOut?_eq]
  simp only [if_pos hopens]

end CutInto

/-! ### Lines of code -/

/-- A character of code, or a whole literal. -/
inductive CodeToken where
  | mark (c : Char)
  /-- A literal that stands for a text. -/
  | literal (text : String)
  deriving DecidableEq, Repr

/-- A text without literals. -/
def plainTokens (text : String) : List CodeToken := text.toList.map .mark

/-- The character of code. -/
def CodeToken.mark? : CodeToken → Option Char
  | mark c => some c
  | literal _ => none

/-- Cuts code into tokens, from outside of literals or from inside of one, of
which a text has been read. -/
def tokensFrom? : Option (EscapeState × List Char) → List Char → Option (List CodeToken)
  | none, [] => some []
  | some _, [] => none
  | none, c :: rest =>
    if c = '"' then tokensFrom? (some (.outside, [])) rest
    else (tokensFrom? none rest).map (.mark c :: ·)
  | some (escape, text), c :: rest =>
    if c = '"' ∧ escape.settled then
      (tokensFrom? none rest).map (.literal (String.ofList text) :: ·)
    else do
      let (next, chars) ← escape.step c
      tokensFrom? (some (next, text ++ chars)) rest

/-- The tokens of a line. -/
def tokens? (line : String) : Option (List CodeToken) := tokensFrom? none line.toList

/-- Whatever follows, a text is read as these tokens. -/
def Tokenized (text : String) (tokens : List CodeToken) : Prop :=
  ∀ rest, tokensFrom? none (text.toList ++ rest) = (tokensFrom? none rest).map (tokens ++ ·)

/-- The characters that spell a text, up to the quote behind them, are a literal
of the text. -/
theorem EscapeState.Spells.tokensFrom?_eq {escape next : EscapeState} {chars text : List Char}
    (h : Spells escape chars text next) (hsettled : next.settled) (value rest : List Char) :
    tokensFrom? (some (escape, value)) (chars ++ '"' :: rest)
      = (tokensFrom? none rest).map (.literal (String.ofList (value ++ text)) :: ·) := by
  induction h generalizing value with
  | nil escape =>
      rw [List.nil_append, tokensFrom?, if_pos ⟨rfl, hsettled⟩, List.append_nil]
  | cons hinside hstep _ ih =>
      rw [List.cons_append, tokensFrom?, if_neg hinside, hstep, Option.bind_eq_bind,
        Option.bind_some]
      simp only [ih hsettled, List.append_assoc]

namespace Tokenized

variable {front back text : String} {first second tokens : List CodeToken}

theorem append (hfront : Tokenized front first) (hback : Tokenized back second) :
    Tokenized (front ++ back) (first ++ second) := by
  intro rest
  rw [String.toList_append, List.append_assoc, hfront, hback, Option.map_map]
  simp only [Function.comp_def, List.append_assoc]

/-- Code without quotes is read character by character. -/
theorem of_free (h : '"' ∉ text.toList) : Tokenized text (plainTokens text) := by
  intro rest
  rw [plainTokens]
  generalize text.toList = chars at h
  induction chars with
  | nil => simp
  | cons c others ih =>
      rw [List.mem_cons, not_or] at h
      rw [List.cons_append, tokensFrom?, if_neg (Ne.symm h.1), ih h.2, Option.map_map]
      rfl

/-- A written literal is one token. -/
theorem rustLiteral (text : String) (print : PrintRules) :
    Tokenized (rustLiteral text print) [.literal text] := by
  intro rest
  have hinside := EscapeState.spells_escaped print text.toList
  have hlist : (KeyTree.rustLiteral text print).toList ++ rest
      = '"' :: (text.toList.flatMap (escapeChar .literal · print) ++ '"' :: rest) := by
    simp [KeyTree.rustLiteral]
  rw [hlist, tokensFrom?, if_pos rfl, hinside.tokensFrom?_eq rfl, List.nil_append,
    String.ofList_toList]
  rfl

theorem tokens?_eq (h : Tokenized text tokens) : tokens? text = some tokens := by
  have hread := h []
  rw [List.append_nil] at hread
  rw [tokens?, hread]
  simp [tokensFrom?]

/-- Texts with a comma and a blank between them. -/
theorem intercalate {α : Type} {list : List α} {textOf : α → String}
    {tokensOf : α → List CodeToken} (h : ∀ a ∈ list, Tokenized (textOf a) (tokensOf a)) :
    Tokenized (", ".intercalate (list.map textOf))
      ((plainTokens ", ").intercalate (list.map tokensOf)) := by
  induction list with
  | nil => exact of_free (show '"' ∉ "".toList by decide)
  | cons a rest ih =>
      obtain ⟨hfirst, hrest⟩ := List.forall_mem_cons.mp h
      cases rest with
      | nil =>
          rw [List.map_singleton, List.map_singleton, String.intercalate_singleton,
            List.intercalate_singleton]
          exact hfirst
      | cons b others =>
          have hcomma : Tokenized ", " (plainTokens ", ") := of_free (by decide)
          have hall := (hfirst.append hcomma).append (ih hrest)
          simpa only [List.map_cons, String.intercalate_cons_cons, List.intercalate_cons_cons,
            List.append_assoc] using hall

end Tokenized

/-- What stands between a front and a back. -/
def enclosed? {α : Type} [BEq α] (front back text : List α) : Option (List α) := do
  (← text.dropPrefix? front).dropSuffix? back

theorem enclosed?_append {α : Type} [BEq α] [ReflBEq α] (front text back : List α) :
    enclosed? front back (front ++ text ++ back) = some text := by
  rw [enclosed?, List.append_assoc, List.dropPrefix?_append_of_beq _ BEq.rfl, Option.bind_eq_bind,
    Option.bind_some]
  exact List.dropSuffix?_eq_some_iff.mpr ⟨back, rfl, BEq.rfl⟩

/-- A text that lacks something of the front does not start with it. -/
theorem enclosed?_eq_none {α : Type} [BEq α] [LawfulBEq α] {front back text : List α} {a : α}
    (hfront : a ∈ front) (htext : a ∉ text) : enclosed? front back text = none := by
  rw [enclosed?, Option.bind_eq_bind, Option.bind_eq_none_iff]
  intro rest hrest
  obtain ⟨start, rfl, hsame⟩ := List.dropPrefix?_eq_some_iff.mp hrest
  rw [← eq_of_beq hsame] at hfront
  exact absurd (List.mem_append_left rest hfront) htext

/-- The text of tokens without literals. -/
def word? (tokens : List CodeToken) : Option String :=
  (tokens.mapM CodeToken.mark?).map String.ofList

@[simp] theorem word?_plainTokens (text : String) : word? (plainTokens text) = some text := by
  have hchars : ∀ chars : List Char,
      (chars.map CodeToken.mark).mapM CodeToken.mark? = some chars := by
    intro chars
    induction chars with
    | nil => rfl
    | cons c rest ih => rw [List.map_cons, List.mapM_cons, ih]; rfl
  rw [word?, plainTokens, hchars, Option.map_some, String.ofList_toList]

/-! ### Expressions and bodies -/

/-- The expression that tokens are. -/
def SourceExpr.read? (tokens : List CodeToken) : Option SourceExpr :=
  match enclosed? (plainTokens "self::NumberArg::segment(") (plainTokens ")") tokens with
  | some name => (word? name).map .number
  | none => do
    match ← enclosed? [] (plainTokens ".to_string()") tokens with
    | [.literal text] => some (.literal text)
    | name => (word? name).map .shown

/-- The expressions between commas. Blanks in front of an expression do not
count. -/
def expressions? (tokens : List CodeToken) : Option (List SourceExpr) :=
  if tokens = [] then some []
  else (tokens.splitOn (.mark ',')).mapM fun part =>
    SourceExpr.read? (part.dropWhile (· = .mark ' '))

/-- The expressions of a line, between its front and its back. -/
def lineExpressions? (front back line : String) : Option (List SourceExpr) := do
  expressions? (← enclosed? (plainTokens front) (plainTokens back) (← tokens? line))

/-- The body that lines are. -/
def SourceBody.read? : List String → Option SourceBody
  | [call] => (lineExpressions? "self::join_key(&self.prefix, &[" "])" call).map .join
  | [opening, field, closing] => do
    let structName ← enclosed? [] " \x7b".toList opening.toList
    let segments ←
      lineExpressions? "    prefix: self::extend_prefix(&self.prefix, &[" "])," field
    if closing = "\x7d" then some (.extend (String.ofList structName) segments) else none
  | _ => none

/-! ### Methods and structs -/

/-- The parameter behind a comma. -/
def SourceParameter.read? (text : List Char) : Option SourceParameter := do
  let declared ← text.dropPrefix? [' ']
  let type ← (declared.dropWhile (· ≠ ':')).dropPrefix? ": ".toList
  some ⟨String.ofList (declared.takeWhile (· ≠ ':')), String.ofList type⟩

/-- The parameters behind the receiver. -/
def parameters? (text : List Char) : Option (List SourceParameter) :=
  match text.splitOn ',' with
  | [] :: others => others.mapM SourceParameter.read?
  | _ => none

/-- The method that an item is, below a comment. -/
def SourceMethod.read? (comment : Option String) (item : CodeItem) : Option SourceMethod := do
  let declared ← enclosed? "pub fn ".toList " \x7b".toList item.line.toList
  let behind ← (declared.dropWhile (· ≠ '(')).dropPrefix? "(&self".toList
  let parameters ← parameters? (behind.takeWhile (· ≠ ')'))
  let answer ← (behind.dropWhile (· ≠ ')')).dropPrefix? ") -> ".toList
  let body ← SourceBody.read? item.inside
  some ⟨comment, String.ofList (declared.takeWhile (· ≠ '(')), parameters,
    String.ofList answer, body⟩

/-- The constructor that starts with an empty prefix. -/
def constructorItem : CodeItem :=
  ⟨"pub const fn new() -> Self \x7b", ["Self \x7b prefix: Vec::new() \x7d"]⟩

/-- The methods that items are; a comment belongs to the method below it. -/
def methodsFrom? : Option String → List CodeItem → Option (List SourceMethod)
  | none, [] => some []
  | some _, [] => none
  | comment, item :: rest =>
    match SourceMethod.read? comment item with
    | some method => (methodsFrom? none rest).map (method :: ·)
    | none =>
      if item = constructorItem then methodsFrom? none rest
      else if (item.line.toList.dropPrefix? "///".toList).isSome then
        methodsFrom? (some item.line) rest
      else none

/-- A struct with a prefix and nothing else. -/
def prefixItem (name : String) : CodeItem :=
  ⟨"pub struct " ++ name ++ " \x7b", ["prefix: Vec<String>,"]⟩

/-- The name of the struct that an item implements. -/
def CodeItem.implements? (item : CodeItem) : Option String := do
  wordOpening? (← item.line.toList.dropPrefix? "impl ".toList)

/-- The struct of a name, where its implementation has some lines inside. -/
def SourceStruct.read? (module : List CodeItem) (name : String) (inside : List String) :
    Option SourceStruct := do
  let members ← items? inside
  let methods ← methodsFrom? none members
  if prefixItem name ∈ module then some ⟨name, constructorItem ∈ members, methods⟩ else none

/-- The structs that items implement. -/
def structsFrom? (module : List CodeItem) : List CodeItem → Option (List SourceStruct)
  | [] => some []
  | item :: rest =>
    match item.implements? with
    | none => structsFrom? module rest
    | some name => do
      let first ← SourceStruct.read? module name item.inside
      let others ← structsFrom? module rest
      some (first :: others)

/-- The functions that bodies call. -/
def calledItems : List CodeItem :=
  [ ⟨"fn join_key(prefix: &[String], parts: &[String]) -> String \x7b",
      [ "let mut segments: Vec<&str> = prefix.iter().map(String::as_str).collect();",
        "segments.extend(parts.iter().map(String::as_str));",
        "segments.join(SEPARATOR)" ]⟩,
    ⟨"fn extend_prefix(prefix: &[String], parts: &[String]) -> Vec<String> \x7b",
      ["prefix.iter().chain(parts).cloned().collect()"]⟩ ]

/-- The text of the constant that joins segments. -/
def CodeItem.separator? (item : CodeItem) : Option String := do
  let tokens ← tokens? item.line
  match ← enclosed? (plainTokens "pub const SEPARATOR: &str = ") (plainTokens ";") tokens with
  | [.literal text] => some text
  | _ => none

/-- The module that a text is, where the functions that bodies call are those
that they have to be. -/
def SourceModule.read? (text : String) : Option SourceModule := do
  let items ← items? (text.splitOn "\n")
  let separator ← items.findSome? CodeItem.separator?
  let structs ← structsFrom? items items
  if ∀ item ∈ calledItems, item ∈ items then some ⟨separator, structs⟩ else none

end KeyTree
