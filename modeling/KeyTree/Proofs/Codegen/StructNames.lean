import KeyTree.Proofs.Codegen.Accepted
import KeyTree.Proofs.Text.Identifiers

/-!
# `KeyTree.Proofs.Codegen.StructNames`: the names of structs and other types

No two structs of a generated module have one name. But a module names other
types too: its own trait `NumberArg`, and `String` and `Vec` of the standard
library. Generation knows nothing of these, so a struct can take such a name,
and the module does not compile (`Schema.numberArg_named_twice`).

`Schema.structNames_of_source` says when this happens, and that it happens
only then. The name of a struct is the name of the root struct and then what
each name on the way adds, and that never starts with a small letter
(`exists_trimUnderscores_eq_cons`). So a name of one word is the root's, and
`NumberArg` is the root's, or is made of `Number` and `Arg`.
-/

set_option autoImplicit false

namespace KeyTree

/-! ### Paths to names -/

section

variable {rules : LetterRules} {rootName name : String} {path : List String}

/-- The name of a struct below another is made of the name of that one. -/
theorem structNameAt?_concat_eq_some_iff {key : String} :
    structNameAt? rules rootName (path ++ [key]) = some name
      ↔ ∃ parent, structNameAt? rules rootName path = some parent
          ∧ childName? rules parent key = some name := by
  cases hparent : structNameAt? rules rootName path with
  | none =>
      rw [structNameAt?] at hparent ⊢
      cases hroot : rules.pascalCase rootName with
      | none => simp
      | some root =>
          rw [hroot, Option.bind_some] at hparent
          simp [hparent, List.foldlM_append]
  | some parent => simp [structNameAt?_append hparent]

/-- The names of the structs are those that lead to the levels. -/
theorem Schema.mem_structNames_iff {schema : Schema} {builders : List BuilderStruct}
    (h : schema.builders rules rootName = .ok builders) :
    name ∈ builders.map BuilderStruct.name
      ↔ ∃ listed ∈ schema.levels, structNameAt? rules rootName listed.1 = some name := by
  have hnames := Schema.structNames_of_builders h
  rw [List.mem_map]
  constructor
  · rintro ⟨builder, hbuilder, rfl⟩
    exact exists_mem_of_forall₂ hnames.flip hbuilder
  · rintro ⟨listed, hlisted, hname⟩
    obtain ⟨builder, hbuilder, hsame⟩ := exists_mem_of_forall₂ hnames hlisted
    exact ⟨builder, hbuilder, Option.some.inj (hsame.symm.trans hname)⟩

end

/-! ### Names of one word -/

/-- A text of one word has small letters only behind its first character. -/
def OneWord (text : String) : Prop := ∀ c ∈ text.toList.tail, c ∈ LetterRules.smallLetters

instance (text : String) : Decidable (OneWord text) :=
  List.decidableBAll (· ∈ LetterRules.smallLetters) text.toList.tail

section

variable {rootName name : String} {path : List String}

/-- The name of a struct below another starts with that one's name, and what
stands behind it starts with no small letter. -/
theorem exists_toList_childName {parent key : String}
    (h : childName? .unicode parent key = some name) :
    ∃ c rest, name.toList = parent.toList ++ c :: rest ∧ c ∉ LetterRules.smallLetters := by
  obtain ⟨suffix, hsuffix, rfl⟩ := Option.map_eq_some_iff.mp h
  obtain ⟨c, rest, hlist, hc⟩ := LetterRules.exists_trimUnderscores_eq_cons hsuffix
  exact ⟨c, rest, by rw [String.toList_append, hlist], hc⟩

theorem toList_structNameAt?_ne_nil (h : structNameAt? .unicode rootName path = some name) :
    name.toList ≠ [] := by
  rcases List.eq_nil_or_concat path with rfl | ⟨front, key, rfl⟩
  · rw [structNameAt?_nil] at h
    obtain ⟨front, c, u, rest, -, -, -, hlist⟩ := LetterRules.exists_toList_pascalCase h
    simp [hlist]
  · rw [List.concat_eq_append, structNameAt?_concat_eq_some_iff] at h
    obtain ⟨parent, -, hchild⟩ := h
    obtain ⟨c, rest, hlist, -⟩ := exists_toList_childName hchild
    simp [hlist]

/-- Only the root struct has a name of one word. -/
theorem eq_nil_of_oneWord (hword : OneWord name)
    (h : structNameAt? .unicode rootName path = some name) : path = [] := by
  rcases List.eq_nil_or_concat path with rfl | ⟨front, key, rfl⟩
  · rfl
  rw [List.concat_eq_append, structNameAt?_concat_eq_some_iff] at h
  obtain ⟨parent, hparent, hchild⟩ := h
  obtain ⟨c, rest, hlist, hc⟩ := exists_toList_childName hchild
  obtain ⟨first, others, hfirst⟩ :=
    List.exists_cons_of_ne_nil (toList_structNameAt?_ne_nil hparent)
  -- What the last name adds starts inside the word.
  have htail : c ∈ name.toList.tail := by simp [hlist, hfirst]
  exact absurd (hword c htail) hc

/-- A part of `NumberArg` that is followed by no small letter is `Number`. -/
theorem eq_number_of_append {front rest : List Char} {c : Char} (hne : front ≠ [])
    (hc : c ∉ LetterRules.smallLetters) (h : "NumberArg".toList = front ++ c :: rest) :
    front = "Number".toList := by
  have hlength : front.length < "NumberArg".toList.length := by
    rw [h, List.length_append, List.length_cons]
    omega
  have hpos : 0 < front.length := List.length_pos_iff.mpr hne
  have hfront : front = "NumberArg".toList.take front.length := by
    rw [h, List.take_left]
  have hnext : "NumberArg".toList[front.length]? = some c := by
    rw [h, List.getElem?_append_right (Nat.le_refl _), Nat.sub_self, List.getElem?_cons_zero]
  -- Behind the first character only `A` is no small letter.
  have hplaces : ∀ n < 9, 0 < n → n ≠ 6 →
      "NumberArg".toList[n]?.all (· ∈ LetterRules.smallLetters) = true := by
    decide
  have hsix : front.length = 6 := by
    by_contra hother
    have hsmall := hplaces _ hlength hpos hother
    rw [hnext] at hsmall
    exact hc (by simpa using hsmall)
  rw [hfront, hsix]
  decide

/-- The name `NumberArg` is that of the root struct, or that of a struct one
name below a root struct `Number`. -/
theorem structNameAt?_eq_numberArg_iff :
    structNameAt? .unicode rootName path = some "NumberArg"
      ↔ (path = [] ∧ LetterRules.unicode.pascalCase rootName = some "NumberArg")
        ∨ ∃ key, path = [key] ∧ LetterRules.unicode.pascalCase rootName = some "Number"
            ∧ (LetterRules.unicode.pascalCase key).map trimUnderscores = some "Arg" := by
  constructor
  · intro h
    rcases List.eq_nil_or_concat path with rfl | ⟨front, key, rfl⟩
    · rw [structNameAt?_nil] at h
      exact .inl ⟨rfl, h⟩
    rw [List.concat_eq_append, structNameAt?_concat_eq_some_iff] at h
    obtain ⟨parent, hparent, hchild⟩ := h
    obtain ⟨c, rest, hlist, hc⟩ := exists_toList_childName hchild
    have hnumber : parent = "Number" :=
      String.toList_inj.mp
        (eq_number_of_append (toList_structNameAt?_ne_nil hparent) hc hlist)
    subst hnumber
    -- `Number` is one word itself.
    obtain rfl := eq_nil_of_oneWord (by decide) hparent
    rw [structNameAt?_nil] at hparent
    obtain ⟨suffix, hsuffix, hname⟩ := Option.map_eq_some_iff.mp hchild
    have harg : trimUnderscores suffix = "Arg" := by
      have hsame : "Number" ++ trimUnderscores suffix = "Number" ++ "Arg" := hname
      exact (String.append_right_inj "Number").mp hsame
    exact .inr ⟨key, rfl, hparent, by rw [hsuffix, Option.map_some, harg]⟩
  · rintro (⟨rfl, hroot⟩ | ⟨key, rfl, hroot, harg⟩)
    · rwa [structNameAt?_nil]
    · obtain ⟨suffix, hsuffix, hname⟩ := Option.map_eq_some_iff.mp harg
      have hroot : structNameAt? .unicode rootName [] = some "Number" := by
        rwa [structNameAt?_nil]
      refine structNameAt?_concat_eq_some_iff.mpr ⟨"Number", hroot, ?_⟩
      rw [childName?, hsuffix, Option.map_some, hname]
      rfl

end

/-- The structs of a generated module have different names. One of them is
called `String` or `Vec` exactly if the root is; one is called `NumberArg`
exactly if the root is, or if the root is called `Number` and has a branch or
gate whose name adds `Arg`. Nothing is rejected for these names. -/
theorem Schema.structNames_of_source {schema : Schema} {rootName separator text : String}
    {print : PrintRules}
    (haccepted : (schema.source .unicode rootName separator print).result = .ok text) :
    ∃ builders, schema.builders .unicode rootName = .ok builders
      ∧ text = linesText (moduleLines separator builders print)
      ∧ (builders.map BuilderStruct.name).Nodup
      ∧ (∀ name ∈ ["String", "Vec"], name ∈ builders.map BuilderStruct.name
          ↔ LetterRules.unicode.pascalCase rootName = some name)
      ∧ ("NumberArg" ∈ builders.map BuilderStruct.name
          ↔ LetterRules.unicode.pascalCase rootName = some "NumberArg"
            ∨ (LetterRules.unicode.pascalCase rootName = some "Number"
              ∧ ∃ key below, ([key], below) ∈ schema.levels
                ∧ (LetterRules.unicode.pascalCase key).map trimUnderscores = some "Arg")) := by
  obtain ⟨builders, hbuilders, htext⟩ := exists_builders_of_source haccepted
  have hroot : ([], schema.level) ∈ schema.levels := List.mem_cons_self
  refine ⟨builders, hbuilders, htext, nodup_structNames hbuilders, fun name hname => ?_, ?_⟩
  · have hword : OneWord name := by
      have hall : ∀ name ∈ ["String", "Vec"], OneWord name := by decide
      exact hall name hname
    rw [mem_structNames_iff hbuilders]
    constructor
    · rintro ⟨⟨path, level⟩, hlevel, hat⟩
      obtain rfl := eq_nil_of_oneWord hword hat
      rwa [structNameAt?_nil] at hat
    · intro hpascal
      exact ⟨_, hroot, by rwa [structNameAt?_nil]⟩
  · rw [mem_structNames_iff hbuilders]
    constructor
    · rintro ⟨⟨path, level⟩, hlevel, hat⟩
      rcases structNameAt?_eq_numberArg_iff.mp hat with ⟨-, hpascal⟩ | ⟨key, rfl, hpascal, harg⟩
      · exact .inl hpascal
      · exact .inr ⟨hpascal, key, level, hlevel, harg⟩
    · rintro (hpascal | ⟨hpascal, key, below, hlevel, harg⟩)
      · exact ⟨_, hroot, by rwa [structNameAt?_nil]⟩
      · exact ⟨_, hlevel, structNameAt?_eq_numberArg_iff.mpr (.inr ⟨key, rfl, hpascal, harg⟩)⟩

/-- A branch whose name adds `Arg`. -/
def Schema.argBranch : Schema := Schema.empty.insert "arg" (some (.branch .empty))

/-- Below a root `Number` it takes the name of the trait. -/
theorem Schema.argBranch_structNames :
    ∃ text, (argBranch.source .unicode "number" ":").result = .ok text
      ∧ ∃ builders, text = linesText (moduleLines ":" builders)
        ∧ (builders.map BuilderStruct.name).Nodup
        ∧ "NumberArg" ∈ builders.map BuilderStruct.name
        ∧ "String" ∉ builders.map BuilderStruct.name := by
  have hsome : (argBranch.builders .unicode "number").toOption.isSome := by decide +kernel
  have hroot : LetterRules.unicode.pascalCase "number" = some "Number" := by decide +kernel
  have harg : (LetterRules.unicode.pascalCase "arg").map trimUnderscores = some "Arg" := by
    decide +kernel
  obtain ⟨text, haccepted⟩ := Schema.exists_source_of_isSome hsome ":" .unicode
  obtain ⟨builders, -, htext, hnodup, hstandard, htrait⟩ :=
    Schema.structNames_of_source haccepted
  have hlevel : (["arg"], Level.nil) ∈ argBranch.levels := by decide +kernel
  refine ⟨text, haccepted, builders, htext, hnodup, ?_, ?_⟩
  · exact htrait.mpr (.inr ⟨hroot, "arg", .nil, hlevel, harg⟩)
  · rw [hstandard "String" (by decide), hroot]
    decide

/-- A module of an empty schema is accepted where the root is called like the
trait, and declares the name twice. -/
theorem Schema.numberArg_named_twice :
    (Schema.empty.source .unicode "number_arg" ":").result
        = .ok (linesText (moduleLines ":" [⟨"NumberArg", [], []⟩]))
      ∧ "pub trait NumberArg \x7b" ∈ moduleLines ":" [⟨"NumberArg", [], []⟩]
      ∧ "pub struct NumberArg \x7b" ∈ moduleLines ":" [⟨"NumberArg", [], []⟩] := by
  have hroot : LetterRules.unicode.pascalCase "number_arg" = some "NumberArg" := by
    decide +kernel
  have hbuilders :
      Schema.empty.builders .unicode "number_arg" = .ok [⟨"NumberArg", [], []⟩] := by
    rw [Schema.builders, identifierFor, hroot]
    rfl
  refine ⟨by simp [Schema.source, hbuilders], ?_, ?_⟩
  · decide +kernel
  · decide +kernel

end KeyTree
