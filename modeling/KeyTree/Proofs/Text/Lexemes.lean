import KeyTree.Proofs.Decimal.Integer
import KeyTree.Proofs.Intercalate
import KeyTree.Text.Escape
import Mathlib.Data.Bool.AllAny
import Mathlib.Tactic.SplitIfs

/-!
# `KeyTree.Proofs.Text.Lexemes`: comments and literals of Rust source

`lexemes?` cuts Rust source into what it holds beside code: line comments and
string literals, with the escapes of a literal undone. It reads one character
after another, and what it knows of those before is its state (`LexState`).

Source where these rules do not say enough is refused. This is source with
block comments, with single quotes (a character or a lifetime), with a quote
directly behind a word (a literal of another kind), and with a carriage return
in a comment or a literal. So where there is an answer it is the language's.

* `Reads.append`: texts read one after the other are read as one text.
* `reads_plain`: code without quotes and slashes holds nothing.
* `reads_rustLiteral`: a written literal ends at its own closing quote, and
  stands for its text, whatever characters are escaped beside those that have
  to be.
* `reads_comment`: a comment of escaped text ends with its line.
-/

set_option autoImplicit false

namespace KeyTree

/-! ### The lexical rules -/

/-- What source holds beside code. -/
inductive Lexeme where
  /-- A line comment, from its slashes to the end of its line. -/
  | comment (line : String)
  /-- A string literal as it is written, with its quotes, and the text that it
  stands for. -/
  | literal (source value : String)
  deriving DecidableEq, Repr

namespace Lexeme

/-- The line of a comment. -/
def comment? : Lexeme → Option String
  | .comment line => some line
  | .literal .. => none

/-- A literal, and the text that it stands for. -/
def literal? : Lexeme → Option (String × String)
  | .comment _ => none
  | .literal source value => some (source, value)

end Lexeme

/-- How far an escape in a literal is read. -/
inductive EscapeState where
  /-- The place is in no escape. -/
  | outside
  /-- Behind a backslash. -/
  | backslash
  /-- Behind `\x`, and maybe one digit. -/
  | octet (digits : List Char)
  /-- Behind `\u`. -/
  | brace
  /-- Behind `\u` and an opening brace, and maybe some digits. -/
  | number (digits : List Char)
  /-- Behind a backslash at the end of a line, where blanks do not count. -/
  | blanks
  deriving DecidableEq, Repr

/-- The escapes of one letter, and the characters that they stand for. -/
def letterEscapes : List (Char × Char) :=
  [('0', '\x00'), ('t', '\t'), ('r', '\r'), ('n', '\n'), ('\\', '\\'), ('"', '"'), ('\'', '\'')]

/-- The character whose number is given by hexadecimal digits, if there is one
and its number is below a bound. -/
def charOfDigits? (bound : Nat) (digits : List Char) : Option Char := do
  let n ← readDigits? 16 digits
  if n < bound ∧ n.isValidChar then some (Char.ofNat n) else none

namespace EscapeState

/-- Whether a quote at the place ends the literal. -/
def settled : EscapeState → Bool
  | .outside | .blanks => true
  | _ => false

/-- A character outside of escapes. -/
def plainStep (c : Char) : Option (EscapeState × List Char) :=
  if c = '\\' then some (.backslash, [])
  else if c = '\r' then none
  else some (.outside, [c])

/-- Reads the next character of a literal; the text it stands for is what the
characters answered by all steps make. -/
def step : EscapeState → Char → Option (EscapeState × List Char)
  | .outside, c => plainStep c
  | .backslash, c =>
    if c = 'u' then some (.brace, [])
    else if c = 'x' then some (.octet [], [])
    else if c = '\n' then some (.blanks, [])
    else (letterEscapes.lookup c).map fun d => (.outside, [d])
  | .octet [], c => some (.octet [c], [])
  | .octet digits, c => (charOfDigits? 0x80 (digits ++ [c])).map fun d => (.outside, [d])
  | .brace, c => if c = '{' then some (.number [], []) else none
  | .number digits, c =>
    if c = '}' then (charOfDigits? 0x110000 digits).map fun d => (.outside, [d])
    else if c = '_' ∧ digits ≠ [] then some (.number digits, [])
    else if digits.length < 6 then some (.number (digits ++ [c]), [])
    else none
  | .blanks, c => if c ∈ [' ', '\t', '\n'] then some (.blanks, []) else plainStep c

end EscapeState

/-- Where in source a place is. -/
inductive LexState where
  /-- In code. The flag holds where a word, if it ended before the place, does
  not touch it. -/
  | code (apart : Bool)
  /-- In code, behind a slash. -/
  | slash
  /-- In a comment, of which this is read. -/
  | comment (read : List Char)
  /-- In a literal, of which this is read, and which stands for this text so
  far. -/
  | literal (source value : List Char) (escape : EscapeState)
  deriving DecidableEq, Repr

/-- The characters that keep what follows apart from a word before them. -/
def keepsApart (c : Char) : Bool := c ∈ ['\n', ' ', '(', '[', '{', ',', '=']

namespace LexState

/-- A character of code. -/
def codeStep (apart : Bool) (c : Char) : Option LexState :=
  if c = '"' then if apart then some (.literal ['"'] [] .outside) else none
  else if c = '\'' then none
  else if c = '/' then some .slash
  else some (.code (keepsApart c))

/-- Reads the next character, and answers what ends with it. -/
def step : LexState → Char → Option (LexState × List Lexeme)
  | .code apart, c => (codeStep apart c).map (·, [])
  | .slash, c =>
    if c = '/' then some (.comment ['/', '/'], [])
    else if c = '*' then none
    else (codeStep false c).map (·, [])
  | .comment read, c =>
    if c = '\n' then some (.code true, [.comment (String.ofList read)])
    else if c = '\r' then none
    else some (.comment (read ++ [c]), [])
  | .literal source value escape, c =>
    if c = '"' ∧ escape.settled then
      some (.code false, [.literal (String.ofList (source ++ [c])) (String.ofList value)])
    else (escape.step c).map fun (next, chars) =>
      (.literal (source ++ [c]) (value ++ chars) next, [])

/-- Reads a text. -/
def run : LexState → List Char → Option (LexState × List Lexeme)
  | state, [] => some (state, [])
  | state, c :: rest => do
    let (next, first) ← state.step c
    let (last, others) ← next.run rest
    some (last, first ++ others)

/-- What ends with the source. -/
def finish : LexState → Option (List Lexeme)
  | .code _ | .slash => some []
  | .comment read => some [.comment (String.ofList read)]
  | .literal .. => none

end LexState

/-- The comments and literals of a source, in order. -/
def lexemes? (source : String) : Option (List Lexeme) := do
  let (last, lexemes) ← (LexState.code true).run source.toList
  some (lexemes ++ (← last.finish))

/-! ### Texts read one after the other -/

namespace LexState

/-- From one state to another the text is read as these comments and
literals. -/
def Reads (state : LexState) (text : List Char) (lexemes : List Lexeme) (next : LexState) : Prop :=
  state.run text = some (next, lexemes)

instance (state : LexState) (text : List Char) (lexemes : List Lexeme) (next : LexState) :
    Decidable (state.Reads text lexemes next) := inferInstanceAs (Decidable (_ = _))

theorem Reads.nil (state : LexState) : state.Reads [] [] state := rfl

theorem Reads.cons {state middle next : LexState} {c : Char} {text : List Char}
    {first others : List Lexeme} (hstep : state.step c = some (middle, first))
    (hrest : middle.Reads text others next) : state.Reads (c :: text) (first ++ others) next := by
  have hrun : middle.run text = some (next, others) := hrest
  simp [Reads, run, hstep, hrun]

theorem Reads.append {state middle next : LexState} {front back : List Char}
    {first second : List Lexeme} (hfront : state.Reads front first middle)
    (hback : middle.Reads back second next) :
    state.Reads (front ++ back) (first ++ second) next := by
  induction front generalizing state first with
  | nil =>
      obtain ⟨rfl, rfl⟩ := Prod.mk.inj (Option.some.inj hfront)
      exact hback
  | cons c rest ih =>
      rw [Reads, run, Option.bind_eq_bind, Option.bind_eq_some_iff] at hfront
      obtain ⟨⟨between, started⟩, hstep, hfront⟩ := hfront
      obtain ⟨⟨last, others⟩, hrest, heq⟩ := Option.bind_eq_some_iff.mp hfront
      obtain ⟨rfl, rfl⟩ := Prod.mk.inj (Option.some.inj heq)
      rw [List.append_assoc]
      exact .cons hstep (ih hrest)

end LexState

open LexState (Reads)

/-- Source that is read back to code holds what is read. -/
theorem lexemes?_eq_of_reads {source : String} {lexemes : List Lexeme} {apart : Bool}
    (h : (LexState.code true).Reads source.toList lexemes (.code apart)) :
    lexemes? source = some lexemes := by
  have hrun : (LexState.code true).run source.toList = some (.code apart, lexemes) := h
  simp [lexemes?, hrun, LexState.finish]

/-! ### Texts put together -/

section

variable {P : Char → Prop}

theorem forall_char_append {front back : String} (hfront : ∀ c ∈ front.toList, P c)
    (hback : ∀ c ∈ back.toList, P c) : ∀ c ∈ (front ++ back).toList, P c := by
  intro c hc
  rw [String.toList_append, List.mem_append] at hc
  exact hc.elim (hfront c) (hback c)

theorem forall_char_join {texts : List String} (h : ∀ text ∈ texts, ∀ c ∈ text.toList, P c) :
    ∀ c ∈ (String.join texts).toList, P c := by
  intro c hc
  rw [String.toList_join, List.mem_flatMap] at hc
  obtain ⟨text, htext, hc⟩ := hc
  exact h text htext c hc

theorem forall_char_intercalate {between : String} {texts : List String}
    (hbetween : ∀ c ∈ between.toList, P c) (h : ∀ text ∈ texts, ∀ c ∈ text.toList, P c) :
    ∀ c ∈ (between.intercalate texts).toList, P c := by
  intro c hc
  rcases mem_toList_intercalate hc with hc | ⟨text, htext, hc⟩
  · exact hbetween c hc
  · exact h text htext c hc

end

/-! ### Code -/

/-- A text of code that holds no quotes and no slashes. -/
def PlainCode (text : String) : Prop := ∀ c ∈ text.toList, c ∉ ['"', '\'', '/']

instance (text : String) : Decidable (PlainCode text) :=
  List.decidableBAll (· ∉ ['"', '\'', '/']) text.toList

/-- For written-out texts this is decided without encoding them. -/
theorem plainCode_ofList {chars : List Char} (h : chars.all (· ∉ ['"', '\'', '/'])) :
    PlainCode (String.ofList chars) := by
  rw [PlainCode, String.toList_ofList]
  exact List.all_iff_forall_prop.mp h

theorem plainCode_append {front back : String} (hfront : PlainCode front)
    (hback : PlainCode back) : PlainCode (front ++ back) :=
  forall_char_append hfront hback

theorem plainCode_join {texts : List String} (h : ∀ text ∈ texts, PlainCode text) :
    PlainCode (String.join texts) := forall_char_join h

/-- Nothing is read from plain code. Whether what follows is apart from a word
hangs on the last character. -/
theorem reads_plain {text : String} (h : PlainCode text) (apart : Bool) :
    (LexState.code apart).Reads text.toList []
      (.code ((text.toList.getLast?.map keepsApart).getD apart)) := by
  have hchars : ∀ c ∈ text.toList, c ∉ ['"', '\'', '/'] := h
  generalize text.toList = chars at hchars
  induction chars generalizing apart with
  | nil => exact .nil _
  | cons c rest ih =>
      obtain ⟨hc, hrest⟩ := List.forall_mem_cons.mp hchars
      have hstep : (LexState.code apart).step c = some (.code (keepsApart c), []) := by
        simp only [List.mem_cons, List.not_mem_nil, or_false, not_or] at hc
        simp [LexState.step, LexState.codeStep, hc]
      have hlast : ((c :: rest).getLast?.map keepsApart).getD apart
          = (rest.getLast?.map keepsApart).getD (keepsApart c) := by
        cases rest with
        | nil => rfl
        | cons next others => rw [List.getLast?_cons_cons, List.getLast?_cons]; rfl
      rw [hlast]
      exact .cons hstep (ih (keepsApart c) hrest)

/-- Code around a text adds nothing to what is read from it. -/
theorem reads_between {state before behind next : LexState} {front text back : String}
    {lexemes : List Lexeme} (hfront : state.Reads front.toList [] before)
    (htext : before.Reads text.toList lexemes behind)
    (hback : behind.Reads back.toList [] next) :
    state.Reads (front ++ text ++ back).toList lexemes next := by
  have hall := (hfront.append htext).append hback
  rwa [List.nil_append, List.append_nil, ← String.toList_append, ← String.toList_append] at hall

/-! ### Comments -/

/-- A text without line breaks. -/
def OneLine (text : String) : Prop := ∀ c ∈ text.toList, c ≠ '\n' ∧ c ≠ '\r'

instance (text : String) : Decidable (OneLine text) :=
  List.decidableBAll (fun c => c ≠ '\n' ∧ c ≠ '\r') text.toList

theorem oneLine_append {front back : String} (hfront : OneLine front) (hback : OneLine back) :
    OneLine (front ++ back) := forall_char_append hfront hback

/-- The rest of a comment, up to the end of its line. -/
theorem reads_inComment {chars : List Char} (h : ∀ c ∈ chars, c ≠ '\n' ∧ c ≠ '\r')
    (read : List Char) :
    (LexState.comment read).Reads (chars ++ ['\n']) [.comment (String.ofList (read ++ chars))]
      (.code true) := by
  induction chars generalizing read with
  | nil =>
      have hstep : (LexState.comment read).step '\n'
          = some (.code true, [.comment (String.ofList read)]) := rfl
      rw [List.append_nil]
      exact .cons hstep (.nil _)
  | cons c rest ih =>
      obtain ⟨⟨hline, hreturn⟩, hrest⟩ := List.forall_mem_cons.mp h
      have hstep : (LexState.comment read).step c = some (.comment (read ++ [c]), []) := by
        simp [LexState.step, hline, hreturn]
      have hlater := ih hrest (read ++ [c])
      rw [List.append_assoc] at hlater
      exact .cons hstep hlater

/-- A comment ends with its line. -/
theorem reads_comment {line : String} (hstart : ∃ text, line = "//" ++ text)
    (h : OneLine line) (apart : Bool) :
    (LexState.code apart).Reads (line.toList ++ ['\n']) [.comment line] (.code true) := by
  obtain ⟨text, rfl⟩ := hstart
  rw [OneLine, String.toList_append] at h
  have hslashes : (LexState.code apart).Reads "//".toList [] (.comment "//".toList) := rfl
  have hrest := reads_inComment (fun c hc => h c (List.mem_append_right _ hc)) "//".toList
  rw [← String.toList_append, String.ofList_toList] at hrest
  rw [String.toList_append, List.append_assoc]
  exact hslashes.append hrest

/-! ### Literals -/

namespace EscapeState

/-- Inside a literal these characters do not end it, and stand for a text. -/
inductive Spells : EscapeState → List Char → List Char → EscapeState → Prop
  | nil (escape : EscapeState) : Spells escape [] [] escape
  | cons {escape middle next : EscapeState} {c : Char} {rest first others : List Char}
      (hinside : ¬ (c = '"' ∧ escape.settled)) (hstep : escape.step c = some (middle, first))
      (hrest : Spells middle rest others next) : Spells escape (c :: rest) (first ++ others) next

theorem Spells.append {escape middle next : EscapeState} {front back first second : List Char}
    (hfront : Spells escape front first middle) (hback : Spells middle back second next) :
    Spells escape (front ++ back) (first ++ second) next := by
  induction hfront with
  | nil => exact hback
  | cons hinside hstep _ ih =>
      rw [List.append_assoc]
      exact .cons hinside hstep (ih hback)

/-- Characters that spell a text are read into a literal. -/
theorem Spells.reads {escape next : EscapeState} {chars text : List Char}
    (h : Spells escape chars text next) (source value : List Char) :
    (LexState.literal source value escape).Reads chars []
      (.literal (source ++ chars) (value ++ text) next) := by
  induction h generalizing source value with
  | nil =>
      rw [List.append_nil, List.append_nil]
      exact .nil _
  | @cons escape middle next c rest first others hinside hstep _ ih =>
      have hread : (LexState.literal source value escape).step c
          = some (.literal (source ++ [c]) (value ++ first) middle, []) := by
        rw [LexState.step, if_neg hinside, hstep]
        rfl
      have hlater := ih (source ++ [c]) (value ++ first)
      rw [List.append_assoc, List.append_assoc] at hlater
      exact .cons hread hlater

/-- A letter behind a backslash stands for its character. -/
theorem spells_letter {letter c : Char} (h : (letter, c) ∈ letterEscapes) :
    Spells .outside ['\\', letter] [c] .outside := by
  have hletters : ∀ pair ∈ letterEscapes, step .backslash pair.1 = some (.outside, [pair.2]) :=
    List.all_iff_forall_prop.mp (by decide)
  have hbackslash : step .outside '\\' = some (.backslash, []) := rfl
  have hletter : ¬ (letter = '"' ∧ settled .backslash) := by simp [settled]
  exact .cons (by decide) hbackslash (.cons hletter (hletters _ h) (.nil _))

/-- Digits behind an opening brace are kept until the closing one. -/
theorem spells_digits {digits more : List Char} (hlength : (digits ++ more).length ≤ 6)
    (hdigits : ∀ c ∈ more, c ≠ '}' ∧ c ≠ '_') :
    Spells (.number digits) more [] (.number (digits ++ more)) := by
  induction more generalizing digits with
  | nil =>
      rw [List.append_nil]
      exact .nil _
  | cons c rest ih =>
      obtain ⟨⟨hbrace, hunderscore⟩, hrest⟩ := List.forall_mem_cons.mp hdigits
      have hroom : digits.length < 6 := by
        rw [List.length_append, List.length_cons] at hlength
        omega
      have hstep : step (.number digits) c = some (.number (digits ++ [c]), []) := by
        simp [step, hbrace, hunderscore, hroom]
      have hinside : ¬ (c = '"' ∧ settled (.number digits)) := by simp [settled]
      rw [List.append_cons] at hlength ⊢
      exact .cons hinside hstep (ih hlength hrest)

/-- A character is given by its number. -/
theorem spells_numberEscape (c : Char) : Spells .outside (numberEscape c) [c] .outside := by
  have hvalid : c.toNat.isValidChar := c.valid
  have hbound : c.toNat < 0x110000 := by
    rw [Nat.isValidChar] at hvalid
    omega
  have hlength : (Nat.toDigits 16 c.toNat).length ≤ 6 := by
    rw [Nat.length_toDigits_le_iff (by decide) (by decide)]
    omega
  have hdigits : ∀ d ∈ Nat.toDigits 16 c.toNat, d ≠ '}' ∧ d ≠ '_' := by
    have hall : ∀ digit < 16, Nat.digitChar digit ≠ '}' ∧ Nat.digitChar digit ≠ '_' := by decide
    intro d hd
    obtain ⟨digit, hdigit, rfl⟩ := exists_digitChar_of_mem_toDigits (by decide) hd
    exact hall digit hdigit
  have hbackslash : step .outside '\\' = some (.backslash, []) := rfl
  have hletter : step .backslash 'u' = some (.brace, []) := rfl
  have hbrace : step .brace '\x7b' = some (.number [], []) := rfl
  have hopen : Spells .outside ['\\', 'u', '\x7b'] [] (.number []) :=
    .cons (by decide) hbackslash (.cons (by decide) hletter (.cons (by decide) hbrace (.nil _)))
  have hclose : Spells (.number (Nat.toDigits 16 c.toNat)) ['}'] [c] .outside := by
    have hread : charOfDigits? 0x110000 (Nat.toDigits 16 c.toNat) = some c := by
      simp [charOfDigits?, readDigits?_toDigits, hbound, hvalid]
    have hstep : step (.number (Nat.toDigits 16 c.toNat)) '}' = some (.outside, [c]) := by
      rw [step, if_pos rfl, hread]
      rfl
    have hinside : ¬ ('}' = '"' ∧ settled (.number (Nat.toDigits 16 c.toNat))) := by
      simp [settled]
    exact .cons hinside hstep (.nil _)
  exact hopen.append ((spells_digits hlength hdigits).append hclose)

/-- In a literal a character stands for itself, escaped or not. -/
theorem spells_escapeChar (print : PrintRules) (c : Char) :
    Spells .outside (escapeChar .literal c print) [c] .outside := by
  unfold escapeChar
  split_ifs with hzero htab hreturn hline hbackslash hquote hsingle
  · subst hzero
    exact spells_letter (by decide)
  · subst htab
    exact spells_letter (by decide)
  · subst hreturn
    exact spells_letter (by decide)
  · subst hline
    exact spells_letter (by decide)
  · subst hbackslash
    exact spells_letter (by decide)
  · obtain ⟨rfl, -⟩ := hquote
    exact spells_letter (by decide)
  · obtain ⟨rfl, -⟩ := hsingle
    exact spells_letter (by decide)
  · exact spells_numberEscape c
  · exact spells_numberEscape c
  · -- What is left has no escape: it is no quote and no backslash.
    have hother : c ≠ '"' := fun heq => hquote ⟨heq, rfl⟩
    have hstep : step .outside c = some (.outside, [c]) := by
      simp [step, plainStep, hbackslash, hreturn]
    exact .cons (by simp [hother]) hstep (.nil _)

/-- Inside a literal an escaped text stands for the text. -/
theorem spells_escaped (print : PrintRules) (text : List Char) :
    Spells .outside (text.flatMap (escapeChar .literal · print)) text .outside := by
  induction text with
  | nil => exact .nil _
  | cons c rest ih => exact (spells_escapeChar print c).append ih

end EscapeState

/-- A written literal ends at its own closing quote, and stands for its
text. -/
theorem reads_rustLiteral (text : String) (print : PrintRules) :
    (LexState.code true).Reads (rustLiteral text print).toList
      [.literal (rustLiteral text print) text] (.code false) := by
  have hinside := EscapeState.spells_escaped print text.toList
  have hopen : (LexState.code true).Reads ['"'] [] (.literal ['"'] [] .outside) := rfl
  have hbody := hinside.reads ['"'] []
  generalize hchars : text.toList.flatMap (escapeChar .literal · print) = chars at hbody
  have hsource : rustLiteral text print = String.ofList (['"'] ++ chars ++ ['"']) := by
    rw [rustLiteral, hchars]
    rfl
  have hclose : (LexState.literal (['"'] ++ chars) ([] ++ text.toList) .outside).Reads ['"']
      [.literal (rustLiteral text print) text] (.code false) := by
    have hstep : (LexState.literal (['"'] ++ chars) ([] ++ text.toList) .outside).step '"'
        = some (.code false, [.literal (rustLiteral text print) text]) := by
      rw [hsource, LexState.step, if_pos ⟨rfl, rfl⟩, List.nil_append, String.ofList_toList]
    exact .cons hstep (.nil _)
  have hlist : (rustLiteral text print).toList = ['"'] ++ (chars ++ ['"']) := by
    rw [hsource, String.toList_ofList, List.append_assoc]
  rw [hlist]
  exact hopen.append (hbody.append hclose)

/-- An escaped quote does not end a literal, and slashes in it start no
comment. -/
example : lexemes? "x = \"a\\\"//\\n\"; // b"
    = some [.literal "\"a\\\"//\\n\"" "a\"//\n", .comment "// b"] := by
  decide +kernel

/-! ### No line breaks in escaped text -/

/-- No escape has a line break. -/
theorem no_break_of_mem_escapeChar {style : EscapeStyle} {c d : Char} {print : PrintRules}
    (h : d ∈ escapeChar style c print) : d ≠ '\n' ∧ d ≠ '\r' := by
  have hletter : ∀ letter ∈ letterEscapes.map Prod.fst, d ∈ ['\\', letter] →
      d ≠ '\n' ∧ d ≠ '\r' := by
    intro letter hletter hd
    have hletters : ∀ letter ∈ letterEscapes.map Prod.fst, letter ≠ '\n' ∧ letter ≠ '\r' :=
      List.all_iff_forall_prop.mp (by decide)
    rcases List.mem_cons.mp hd with rfl | hd
    · decide
    · rw [List.mem_singleton.mp hd]
      exact hletters letter hletter
  have hnumber : d ∈ numberEscape c → d ≠ '\n' ∧ d ≠ '\r' := by
    intro hd
    have hall : ∀ digit < 16, Nat.digitChar digit ≠ '\n' ∧ Nat.digitChar digit ≠ '\r' := by
      decide
    simp only [numberEscape, List.mem_cons, List.mem_append, List.cons_append, List.not_mem_nil,
      or_false] at hd
    rcases hd with rfl | rfl | rfl | hd | rfl
    · decide
    · decide
    · decide
    · obtain ⟨digit, hdigit, rfl⟩ := exists_digitChar_of_mem_toDigits (by decide) hd
      exact hall digit hdigit
    · decide
  unfold escapeChar at h
  split_ifs at h with hzero htab hreturn hline
  · exact hletter '0' (by decide) h
  · exact hletter 't' (by decide) h
  · exact hletter 'r' (by decide) h
  · exact hletter 'n' (by decide) h
  · exact hletter '\\' (by decide) h
  · exact hletter '"' (by decide) h
  · exact hletter '\'' (by decide) h
  · exact hnumber h
  · exact hnumber h
  · obtain rfl := List.mem_singleton.mp h
    exact ⟨hline, hreturn⟩

theorem oneLine_rustEscaped (text : String) (print : PrintRules) :
    OneLine (rustEscaped text print) := by
  intro d h
  rw [rustEscaped] at h
  split at h
  · cases h
  · rw [String.toList_ofList, List.mem_append, List.mem_flatMap] at h
    rcases h with h | ⟨c, -, h⟩
    · exact no_break_of_mem_escapeChar h
    · exact no_break_of_mem_escapeChar h

theorem oneLine_rustLiteral (text : String) (print : PrintRules) :
    OneLine (rustLiteral text print) := by
  intro d h
  rw [rustLiteral, String.toList_ofList, List.mem_append, List.mem_cons, List.mem_flatMap,
    List.mem_singleton] at h
  rcases h with (rfl | ⟨c, -, h⟩) | rfl
  · decide
  · exact no_break_of_mem_escapeChar h
  · decide

end KeyTree
