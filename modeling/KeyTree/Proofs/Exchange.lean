import KeyTree.Proofs.Integers
import KeyTree.Proofs.Json.Compact
import KeyTree.Proofs.Schema.Entries

/-!
# `KeyTree.Proofs.Exchange`: arguments as JSON, there and back

A value is written without a mark of what it is, so reading has to tell it anew
from the text: quotes make a text, and of the whole numbers those that fit the
signed range are signed. An unsigned number that fits it comes back signed
(`Value.ComesBackAs`); everything else comes back as it was, and nothing changes
its segment or its kind.

* `Value.findSome?_trials`: what is read is what the first kind of value makes of
  the text that accepts it, in a fixed order.
* `Reader.map_tokens`: an object whose fields are each read is read as a map, by
  induction on its fields.
* `Arguments.read_toJson`: arguments without doubles are read back from their
  compact text, each value as `Value.reread` has it.
* `Arguments.come_back_from_json`: what this keeps, name by name.
-/

set_option autoImplicit false

namespace KeyTree

open Json

/-! ### Maps with other values -/

/-- Other values under the same names leave the order as it is. -/
theorem NamesOrdered.map {α β : Type} {entries : List (String × α)} (h : NamesOrdered entries)
    (f : α → β) : NamesOrdered (entries.map fun entry => (entry.1, f entry.2)) := by
  induction entries with
  | nil => exact trivial
  | cons entry rest ih =>
      refine ⟨?_, ih h.2⟩
      rw [List.map_map]
      exact h.1

namespace NameMap

variable {α β : Type}

/-- The map with a function applied to each of its values. -/
def mapValues (f : α → β) (map : NameMap α) : NameMap β :=
  ⟨map.entries.map fun entry => (entry.1, f entry.2), map.ordered.map f⟩

@[simp] theorem names_mapValues (f : α → β) (map : NameMap α) :
    (map.mapValues f).entries.map Prod.fst = map.entries.map Prod.fst := by
  rw [mapValues, List.map_map]
  rfl

@[simp] theorem find?_mapValues (f : α → β) (map : NameMap α) (name : String) :
    (map.mapValues f).find? name = (map.find? name).map f :=
  lookup_map_entries (fun _ => f) map.entries name

/-- Maps in which every name finds the same are equal. -/
theorem ext_find? {map other : NameMap α} (h : ∀ name, map.find? name = other.find? name) :
    map = other := by
  have hentries : map.entries = other.entries := map.ordered.ext other.ordered h
  cases map
  cases other
  cases hentries
  rfl

theorem find?_eq_some_iff {map : NameMap α} {name : String} {value : α} :
    map.find? name = some value ↔ (name, value) ∈ map.entries :=
  lookup_eq_some_iff_mem map.ordered.nodup name value

/-- The entries of a map, inserted one after another, give the map again. -/
theorem ofList_entries (map : NameMap α) : ofList map.entries = map := by
  have hfold : (ofList map.entries).entries
      = map.entries.foldl (fun held entry => insertNamed entry.1 entry.2 held) [] :=
    (List.foldl_hom NameMap.entries fun _ _ => rfl).symm
  have hentries : (ofList map.entries).entries = map.entries :=
    hfold.trans (@foldl_insertNamed_of_ordered _ [] map.entries map.ordered)
  exact ext_find? fun name => congrArg (List.lookup name) hentries

end NameMap

namespace Json

/-! ### Reading fields -/

/-- A whole number of 64 bits is written as one token, which gives it back. -/
theorem exists_scalar_of_integer {n : Int} (hlow : -0x8000000000000000 ≤ n)
    (hhigh : n < 0x10000000000000000) :
    ∃ token : Token, (Json.number (.integer n)).tokens = [token] ∧ token ≠ .null
      ∧ token.scalar = .ok (.number (.integer n)) := by
  obtain ⟨parts, htokens, -, hvalue⟩ := exists_token_of_integer n
  refine ⟨.number parts, htokens, nofun, ?_⟩
  rw [Token.scalar, hvalue hlow hhigh]
  rfl

/-- Each further field has its tokens. -/
theorem length_le_moreFields (fields : List (String × Json)) :
    fields.length ≤ (moreFields fields).length := by
  induction fields with
  | nil => exact Nat.zero_le _
  | cons field rest ih =>
      rw [moreFields, List.length_append, List.length_cons, List.length_cons]
      omega

namespace Reader

section

variable {σ : Type} {onField : String → σ → Reader σ} {put : σ → String × Json → σ} {room : Nat}

/-- Reading a field, from the colon on, takes it in, and leaves what follows. -/
def TakesIn (onField : String → σ → Reader σ) (put : σ → String × Json → σ) (room : Nat)
    (field : String × Json) : Prop :=
  ∀ (state : σ) (rest : List Token),
    onField field.1 state room (.colon :: (field.2.tokens ++ rest)) = .ok (put state field, rest)

/-- From the name of a field on, this field and all further ones are taken in. -/
theorem fieldsFrom_tokens {field : String × Json} {others : List (String × Json)}
    (h : ∀ taken ∈ field :: others, TakesIn onField put room taken) {fuel : Nat}
    (hfuel : others.length ≤ fuel) (state : σ) (rest : List Token) :
    fieldsFrom onField room (fuel + 1) state (.text (some field.1) :: .colon ::
        (field.2.tokens ++ (moreFields others ++ .closeObject :: rest)))
      = .ok ((field :: others).foldl put state, rest) := by
  induction others generalizing field state fuel with
  | nil =>
      have hfield := h field List.mem_cons_self state (.closeObject :: rest)
      simp [fieldsFrom, Token.name, hfield, moreFields, bind, Except.bind]
  | cons next others ih =>
      cases fuel with
      | zero => exact absurd hfuel (Nat.not_succ_le_zero _)
      | succ left =>
          obtain ⟨hfirst, hothers⟩ := List.forall_mem_cons.mp h
          -- Behind the first field stand a comma and the name of the next one.
          have htokens : moreFields (next :: others) ++ .closeObject :: rest
              = .comma :: .text (some next.1) :: .colon ::
                (next.2.tokens ++ (moreFields others ++ .closeObject :: rest)) := by
            simp [moreFields]
          have hfield := hfirst state (moreFields (next :: others) ++ .closeObject :: rest)
          have hmore := ih hothers (Nat.le_of_succ_le_succ hfuel) (put state field)
          rw [htokens] at hfield ⊢
          simp only [fieldsFrom, Token.name, hfield, bind, Except.bind]
          exact hmore

/-- A written object is taken in field by field. -/
theorem fields_tokens {fields : List (String × Json)}
    (h : ∀ field ∈ fields, TakesIn onField put room field) (start : σ) (rest : List Token) :
    Reader.fields onField start (room + 1) ((Json.object fields).tokens ++ rest)
      = .ok (fields.foldl put start, rest) := by
  cases fields with
  | nil => rfl
  | cons field others =>
      have hlength := length_le_moreFields others
      have htokens : (Json.object (field :: others)).tokens ++ rest
          = .openObject :: .text (some field.1) :: .colon ::
            (field.2.tokens ++ (moreFields others ++ .closeObject :: rest)) := by
        simp [tokens]
      rw [htokens]
      refine fieldsFrom_tokens h ?_ start rest
      simp
      omega

end

/-- An object is read as a map if each of its values is read. -/
theorem map_tokens {α : Type} {reader : Reader α} {value : Json → α} {room : Nat}
    {fields : List (String × Json)}
    (h : ∀ field ∈ fields, ∀ rest : List Token,
      reader room (field.2.tokens ++ rest) = .ok (value field.2, rest)) (rest : List Token) :
    Reader.map reader (room + 1) ((Json.object fields).tokens ++ rest)
      = .ok (.ofList (fields.map fun field => (field.1, value field.2)), rest) := by
  rw [NameMap.ofList, List.foldl_map]
  refine fields_tokens (fun field hfield held behind => ?_) NameMap.empty rest
  have hvalue := h field hfield behind
  simp [afterColon, expect, hvalue, bind, Except.bind]

end Reader

end Json

namespace Value

/-! ### Trials

Nothing in the text says which kind of value it is. One may try the kinds one
after another and take the first that accepts. -/

/-- The kinds, in the order in which they are tried. A whole number would be accepted
as a double, too, by `widen`. -/
def trials (widen : Int → Double) : List (Json → Option Value) :=
  [ fun
    | .boolean b => some (boolean b)
    | _ => none,
    fun
    | .number (.integer n) =>
      if -0x8000000000000000 ≤ n ∧ n < 0x8000000000000000 then some (signed (Int64.ofInt n))
      else none
    | _ => none,
    fun
    | .number (.integer n) =>
      if 0 ≤ n ∧ n < 0x10000000000000000 then some (unsigned (UInt64.ofNat n.toNat)) else none
    | _ => none,
    fun
    | .number (.integer n) => some (number (widen n))
    | .number (.double x) => some (number x)
    | _ => none,
    fun
    | .text s => some (text s)
    | _ => none ]

/-- The first kind that accepts is the one that is read. The whole numbers that JSON
numbers hold never come to be doubles, whatever they would be as such. -/
theorem findSome?_trials (widen : Int → Double) {json : Json}
    (h : ∀ n, json = .number (.integer n) → -0x8000000000000000 ≤ n ∧ n < 0x10000000000000000) :
    (trials widen).findSome? (fun trial => trial json) = ofJson? json := by
  cases json with
  | number held =>
      cases held with
      | double x => rfl
      | integer n =>
          obtain ⟨hlow, hhigh⟩ := h n rfl
          by_cases hsigned : n < 0x8000000000000000
          · simp [trials, ofJson?, ofInt?, hlow, hsigned]
          · have hpos : 0 ≤ n := by omega
            simp [trials, ofJson?, ofInt?, hsigned, hpos, hhigh]
  | _ => rfl

/-! ### Values -/

/-- What a value comes back as: an unsigned number is signed if it fits. -/
def reread : Value → Value
  | unsigned n => ofUInt64 n
  | value => value

/-- The value comes back as the other one. An unsigned number that fits the signed
range is the same number there; everything else comes back as it was. -/
inductive ComesBackAs : Value → Value → Prop
  | same {value : Value} (h : ∀ n, value = unsigned n → 0x7fffffffffffffff < n.toNat) :
      ComesBackAs value value
  | signed {n : UInt64} {x : Int64} (h : x.toInt = n.toNat) :
      ComesBackAs (unsigned n) (signed x)

theorem comesBackAs_reread (value : Value) : value.ComesBackAs value.reread := by
  cases value with
  | unsigned n =>
      have hexact := exact_ofUInt64 n
      show ComesBackAs (unsigned n) (ofUInt64 n)
      -- Which of the two it is, the exact value of the number tells.
      generalize ofUInt64 n = back at hexact ⊢
      generalize hn : (n.toNat : Int) = m at hexact
      cases hexact with
      | signed x => exact .signed hn.symm
      | unsigned x h =>
          obtain rfl : n = x := UInt64.toNat_inj.mp (Int.ofNat_inj.mp hn)
          refine .same fun other heq => ?_
          cases heq
          omega
  | _ => exact .same nofun

namespace ComesBackAs

variable {value back : Value}

theorem segment_eq (h : value.ComesBackAs back) : back.segment = value.segment := by
  cases h with
  | same _ => rfl
  | @signed n x h =>
      show integerText x.toInt = integerText n.toNat
      rw [h]

theorem kind_eq (h : value.ComesBackAs back) : back.kind = value.kind := by
  cases h with
  | same _ => rfl
  | signed _ => rfl

/-- It is the same value unless it is an unsigned number that fits the signed range. -/
theorem eq_iff (h : value.ComesBackAs back) :
    back = value ↔ ∀ n, value = unsigned n → 0x7fffffffffffffff < n.toNat := by
  cases h with
  | same h => exact iff_of_true rfl h
  | @signed n x h =>
      have hhigh := Int64.toInt_lt x
      refine iff_of_false nofun fun hbig => ?_
      have hn := hbig n rfl
      omega

/-- A text comes back as this text, and nothing else comes back as a text. -/
theorem eq_text_iff (h : value.ComesBackAs back) (s : String) :
    back = text s ↔ value = text s := by
  cases h with
  | same _ => rfl
  | signed _ => exact iff_of_false nofun nofun

end ComesBackAs

/-- A value that is no double is taken from what it is written as. -/
theorem ofJson?_toJson {value : Value} (h : ∀ x, value ≠ number x) :
    ofJson? value.toJson = some value.reread := by
  cases value with
  | boolean b => rfl
  | signed n => exact ofInt?_eq_some_iff.mpr (.signed n)
  | unsigned n => exact ofInt?_eq_some_iff.mpr (exact_ofUInt64 n)
  | number x => exact absurd rfl (h x)
  | text s => rfl

/-- It is written as one token, which is what was written. -/
theorem exists_scalar {value : Value} (h : ∀ x, value ≠ number x) :
    ∃ token : Token, value.toJson.tokens = [token] ∧ token ≠ .null
      ∧ token.scalar = .ok value.toJson := by
  cases value with
  | boolean b => exact ⟨.boolean b, rfl, nofun, rfl⟩
  | signed n =>
      have hlow := Int64.le_toInt n
      have hhigh := Int64.toInt_lt n
      exact exists_scalar_of_integer (by omega) (by omega)
  | unsigned n =>
      have hhigh := UInt64.toNat_lt n
      exact exists_scalar_of_integer (by omega) (by omega)
  | number x => exact absurd rfl (h x)
  | text s => exact ⟨.text (some s), rfl, nofun, rfl⟩

theorem whole_toJson {value : Value} (h : ∀ x, value ≠ number x) : value.toJson.Whole := by
  cases value with
  | boolean b => exact .boolean b
  | signed n => exact .integer n.toInt
  | unsigned n => exact .integer n.toNat
  | number x => exact absurd rfl (h x)
  | text s => exact .text s

end Value

namespace Arguments

/-! ### Arguments -/

/-- What stands in the field of a name: null if it has no value. -/
def fieldJson (value : Option Value) : Json := (value.map Value.toJson).getD .null

/-- A field is read as it was written, but for what values come back as. -/
theorem optional_reader_tokens {value : Option Value} (h : ∀ x, value ≠ some (.number x))
    (room : Nat) (rest : List Token) :
    Reader.optional Value.reader room ((fieldJson value).tokens ++ rest)
      = .ok (Value.ofJson? (fieldJson value), rest) := by
  cases value with
  | none => rfl
  | some value =>
      have hvalue : ∀ x, value ≠ .number x := fun x heq => h x (congrArg some heq)
      obtain ⟨token, htokens, hnull, hscalar⟩ := Value.exists_scalar hvalue
      have hany := Reader.any_scalar hscalar room rest
      have hof := Value.ofJson?_toJson hvalue
      have hread : Value.reader room (token :: rest) = .ok (value.reread, rest) := by
        simp [Value.reader, Reader.accept, hany, hof, bind, Except.bind]
      show Reader.optional Value.reader room (value.toJson.tokens ++ rest)
        = .ok (Value.ofJson? value.toJson, rest)
      rw [htokens, List.singleton_append, hof, Reader.optional, hread]
      · rfl
      · intro behind heq
        exact hnull (List.cons.inj heq).1

/-- What a field holds is what its value comes back as. -/
theorem ofJson?_fieldJson {value : Option Value} (h : ∀ x, value ≠ some (.number x)) :
    Value.ofJson? (fieldJson value) = value.map Value.reread := by
  cases value with
  | none => rfl
  | some value => exact Value.ofJson?_toJson fun x heq => h x (congrArg some heq)

theorem whole_fieldJson {value : Option Value} (h : ∀ x, value ≠ some (.number x)) :
    (fieldJson value).Whole := by
  cases value with
  | none => exact .null
  | some value => exact Value.whole_toJson fun x heq => h x (congrArg some heq)

theorem value?_eq_some_iff {args : Arguments} {name : String} {value : Value} :
    args.value? name = some value ↔ (name, some value) ∈ args.entries := by
  rw [value?, Option.join_eq_some_iff]
  exact NameMap.find?_eq_some_iff

/-- What arguments come back as, value by value. -/
def reread (args : Arguments) : Arguments := args.mapValues (Option.map Value.reread)

theorem find?_reread (args : Arguments) (name : String) :
    args.reread.find? name = (args.find? name).map (Option.map Value.reread) :=
  NameMap.find?_mapValues _ args name

theorem value?_reread (args : Arguments) (name : String) :
    args.reread.value? name = (args.value? name).map Value.reread := by
  rw [value?, value?, find?_reread]
  rcases args.find? name with _ | _ | _ <;> rfl

/-- They are the same arguments if no unsigned number fits the signed range. -/
theorem reread_eq_self_iff {args : Arguments} :
    args.reread = args
      ↔ ∀ name n, args.value? name = some (.unsigned n) → 0x7fffffffffffffff < n.toNat := by
  constructor
  · intro heq name n hheld
    have hsame := args.value?_reread name
    rw [heq, hheld] at hsame
    exact (Value.comesBackAs_reread (.unsigned n)).eq_iff.mp (Option.some.inj hsame).symm n rfl
  · intro hbig
    refine NameMap.ext_find? fun name => ?_
    rw [find?_reread]
    rcases hheld : args.find? name with _ | _ | value
    · rfl
    · rfl
    · have hsame : value.reread = value := by
        refine value.comesBackAs_reread.eq_iff.mpr fun n hn => hbig name n ?_
        rw [value?, hheld, hn]
        rfl
      rw [Option.map_some, Option.map_some, hsame]

/-- Arguments without doubles are read back from their text. -/
theorem read_toJson {args : Arguments} (h : ∀ name x, args.value? name ≠ some (.number x)) :
    reader.read args.toJson.compact = .ok args.reread := by
  have hvalue : ∀ entry ∈ args.entries, ∀ x, entry.2 ≠ some (.number x) := by
    rintro ⟨name, value⟩ hmem x rfl
    exact h name x (value?_eq_some_iff.mpr hmem)
  have hfields : args.toJson
      = .object (args.entries.map fun entry => (entry.1, fieldJson entry.2)) := rfl
  have hwhole : args.toJson.Whole := by
    refine .object (List.forall_mem_map.mpr fun entry hmem => ?_)
    exact whole_fieldJson (hvalue entry hmem)
  have htaken : ∀ field ∈ args.entries.map (fun entry => (entry.1, fieldJson entry.2)),
      ∀ rest : List Token, Reader.optional Value.reader 126 (field.2.tokens ++ rest)
        = .ok (Value.ofJson? field.2, rest) :=
    List.forall_mem_map.mpr fun entry hmem => optional_reader_tokens (hvalue entry hmem) 126
  -- One of the levels that may be opened is the object itself.
  have hmap := Reader.map_tokens htaken []
  have hback : (args.entries.map fun entry => (entry.1, fieldJson entry.2)).map
        (fun field => (field.1, Value.ofJson? field.2))
      = args.reread.entries := by
    rw [List.map_map]
    refine List.map_congr_left fun entry hmem => ?_
    exact congrArg (Prod.mk entry.1) (ofJson?_fieldJson (hvalue entry hmem))
  rw [← hfields, hback, NameMap.ofList_entries, List.append_nil] at hmap
  have hread : reader depthLimit args.toJson.tokens = .ok (args.reread, []) := hmap
  rw [Reader.read, scan_compact hwhole, hread]
  rfl

/-- Arguments that hold no doubles come back from their compact text, whatever their
names and texts spell. The names are the same, and so are those without a value.
Each value comes back with the same segment and of the same kind: a text as the
same text, an unsigned number that fits the signed range as the same number there,
everything else as it was. So the arguments are the same if no unsigned number
fits the signed range, and only then. -/
theorem come_back_from_json {args : Arguments} (h : ∀ name x, args.value? name ≠ some (.number x)) :
    ∃ again : Arguments, reader.read args.toJson.compact = .ok again
      ∧ again.entries.map Prod.fst = args.entries.map Prod.fst
      ∧ (∀ name, again.find? name = some none ↔ args.find? name = some none)
      ∧ (∀ name value, args.value? name = some value →
          ∃ back, again.value? name = some back ∧ value.ComesBackAs back
            ∧ back.segment = value.segment ∧ back.kind = value.kind)
      ∧ (again = args ↔
          ∀ name n, args.value? name = some (.unsigned n) → 0x7fffffffffffffff < n.toNat)
      ∧ ∀ name s, again.value? name = some (.text s) ↔ args.value? name = some (.text s) := by
  refine ⟨args.reread, read_toJson h, NameMap.names_mapValues _ args, fun name => ?_,
    fun name value hheld => ?_, reread_eq_self_iff, fun name s => ?_⟩
  · simp [find?_reread]
  · have hback := value.comesBackAs_reread
    refine ⟨value.reread, ?_, hback, hback.segment_eq, hback.kind_eq⟩
    rw [value?_reread, hheld]
    rfl
  · rw [value?_reread]
    cases args.value? name with
    | none => exact iff_of_false nofun nofun
    | some value =>
        rw [Option.map_some, Option.some.injEq, Option.some.injEq]
        exact value.comesBackAs_reread.eq_text_iff s

/-- Of these arguments only the unsigned seven comes back otherwise. The text that
spells a number stays a text, under a name that has to be escaped. -/
theorem seven_comes_back_signed :
    let args : Arguments := NameMap.ofList [("\n\"", some (.text "12")), ("id", some (.unsigned 7)),
      ("page", none), ("top", some (.unsigned 0x8000000000000000))]
    ∃ again : Arguments, reader.read args.toJson.compact = .ok again
      ∧ again.value? "\n\"" = some (.text "12") ∧ again.value? "id" = some (.signed 7)
      ∧ again.find? "page" = some none ∧ again.value? "top" = args.value? "top"
      ∧ again ≠ args := by
  intro args
  have hentries : args.entries = [("\n\"", some (.text "12")), ("id", some (.unsigned 7)),
      ("page", none), ("top", some (.unsigned 0x8000000000000000))] := by decide
  obtain ⟨again, hread, -, hnull, hvalues, hsame, htext⟩ := @come_back_from_json args (by
    intro name x hvalue
    have hmem := value?_eq_some_iff.mp hvalue
    simp [hentries] at hmem)
  refine ⟨again, hread, (htext _ _).mpr (by decide), ?_, (hnull _).mpr (by decide), ?_, ?_⟩
  · obtain ⟨back, hback, hcomes, -⟩ := hvalues "id" (.unsigned 7) (by decide)
    rw [hback]
    cases hcomes with
    | same h => exact absurd (h 7 rfl) (by decide)
    | @signed _ x h => rw [Int64.toInt_inj.mp (show x.toInt = Int64.toInt 7 from h)]
  · obtain ⟨back, hback, hcomes, -⟩ := hvalues "top" (.unsigned 0x8000000000000000) (by decide)
    have hkept := hcomes.eq_iff.mpr fun n hn => by
      cases hn
      decide
    rw [hback, hkept]
    decide
  · intro heq
    exact absurd (hsame.mp heq "id" 7 (by decide)) (by decide)

end Arguments

end KeyTree
