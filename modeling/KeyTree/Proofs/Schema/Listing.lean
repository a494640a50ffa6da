import Mathlib.Data.List.Forall2
import KeyTree.Proofs.Schema.Paths
import KeyTree.Proofs.Text.ByteOrder

/-!
# `KeyTree.Proofs.Schema.Listing`: the listing of all keys

`Level.templates` lists the keys of a schema on one walk, with three stacks
for the names, the pieces and the slots on the way. If one of them were not
taken back on the way up, only templates further on would show it. So the
listing is held against the entries in their places (`Level.Placed`), which
are known one by one.

* `Template.Describes`: what a template says of a key in its place.
* `forall₂_templatesFrom`: the templates describe the keys, one after the
  other. The induction carries that the slots among the pieces in front are
  those of the gates around.
* `eq_of_path_isPrefix`: no path leads to a key through a key.

`Schema.templates_list_keys` puts these together, with the order of the paths.
-/

set_option autoImplicit false

namespace KeyTree

/-! ### Templates of keys in their places -/

/-- The entry is a key. -/
def Level.Placed.isKey (placed : Level.Placed) : Bool :=
  match placed.entry with
  | .key _ => true
  | .branch _ | .gate _ _ => false

/-- The template is about this key. It has the key's path, the slots of the
gates around the key, and as its own slots those of the key. Its pieces are the
key's, behind others that hold the slots of the gates. -/
structure Template.Describes (template : Template) (placed : Level.Placed) : Prop where
  path : template.path = placed.path
  inherited : template.inherited = placed.inherited
  key : ∃ front pieces, placed.entry = .key pieces ∧ template.own = slotsOf pieces
    ∧ template.pieces = front ++ pieces ∧ slotsOf front = placed.inherited

namespace Level

/-- The templates describe the keys that are placed in the level and below, one
after the other, if the pieces in front hold the slots of the gates around. -/
theorem forall₂_templatesFrom (level : Level) (path : List String) {stem : List Piece}
    {inherited : List Slot} (hstem : slotsOf stem = inherited) :
    List.Forall₂ Template.Describes (level.templatesFrom path stem inherited)
      ((level.placedFrom path inherited).filter Placed.isKey) := by
  induction level generalizing path stem inherited with
  | nil => exact .nil
  | absent name rest ih => exact ih path hstem
  | key name pieces rest ih =>
      have hfirst : Template.Describes ⟨path ++ [name], inherited, slotsOf pieces, stem ++ pieces⟩
          ⟨path ++ [name], inherited, .key pieces⟩ :=
        ⟨rfl, rfl, stem, pieces, rfl, rfl, rfl, hstem⟩
      exact .cons hfirst (ih path hstem)
  | branch name below rest ihb ihr =>
      rw [placedFrom, List.filter_append]
      refine List.rel_append (ihb (path ++ [name]) ?_) (ihr path hstem)
      simpa using hstem
  | gate name slots behind rest ihb ihr =>
      rw [placedFrom, List.filter_append]
      refine List.rel_append (ihb (path ++ [name]) ?_) (ihr path hstem)
      rw [slotsOf_append, hstem, slotsOf_gatePieces]

/-- In a level in name order the paths of the templates strictly increase. -/
theorem pairwise_path_templates {level : Level} (h : level.Ordered) :
    level.templates.Pairwise fun template next => template.path < next.path := by
  have hplaced := (pairwise_path_placedFrom h [] []).filter Placed.isKey
  have hpaths : level.templates.map Template.path
      = ((level.placedFrom [] []).filter Placed.isKey).map Placed.path := by
    have hstem : slotsOf [] = [] := rfl
    have hdescribe := (forall₂_templatesFrom level [] hstem).imp
      fun _ _ hlisted => hlisted.path
    rw [← List.forall₂_eq_eq_eq, List.forall₂_map_left_iff, List.forall₂_map_right_iff]
    exact hdescribe
  rw [← List.pairwise_map, hpaths, List.pairwise_map]
  exact hplaced

/-- The path of a template leads to a key. -/
theorem hasKeyAt_of_mem_templates {level : Level} (h : level.Ordered) {template : Template}
    (hlisted : template ∈ level.templates) : level.HasKeyAt template.path := by
  obtain ⟨stages, hleads, rfl⟩ := (mem_templates_iff_leads h template).mp hlisted
  rw [Template.path_ofStages]
  clear hlisted
  induction hleads with
  | key hentry => exact .of_key hentry
  | deeper hentry hbelow hleads ih =>
      rw [List.map_cons, Entry.name_stage]
      exact .behind hentry hbelow (ih (ordered_of_below? h hentry hbelow))

/-- A path that leads to a key does not go on to another key. -/
theorem HasKeyAt.eq_of_isPrefix {level : Level} {path longer : List String}
    (h : level.HasKeyAt path) (hlonger : level.HasKeyAt longer) (hstarts : path <+: longer) :
    path = longer := by
  obtain ⟨stages, pieces, hkey⟩ := h
  obtain ⟨others, more, hfound⟩ := hlonger
  by_contra hne
  -- On the way to the second key there are branches and gates only.
  obtain ⟨_, entry, inner, hentry, hbelow⟩ :=
    exists_below_of_prefix hfound hstarts (ne_nil_of_entryAt? hkey) hne
  cases hkey.symm.trans hentry
  cases hbelow

/-- If the path of a template starts with that of another, it is the same. -/
theorem eq_of_path_isPrefix {level : Level} (h : level.Ordered) {template longer : Template}
    (hlisted : template ∈ level.templates) (hlonger : longer ∈ level.templates)
    (hstarts : template.path <+: longer.path) : template = longer := by
  have hkey := hasKeyAt_of_mem_templates h hlisted
  have hpath : template.path = longer.path :=
    hkey.eq_of_isPrefix (hasKeyAt_of_mem_templates h hlonger) hstarts
  have hfound := (mem_templates_iff_templateAt? h _ template).mp ⟨hlisted, hpath⟩
  have hother := (mem_templates_iff_templateAt? h _ longer).mp ⟨hlonger, rfl⟩
  exact Option.some.inj (hfound.symm.trans hother)

end Level

/-- A schema's templates list its keys. There is one template for each key that
the schema leads to through present entries, in the order of the keys, and none
besides. The paths strictly increase, name by name in the order of bytes, so they
all differ, and none goes on where another ends. The slots among the pieces of a
template are, in order, those of the gates around the key, the outermost first,
and then the key's own. -/
theorem Schema.templates_list_keys (schema : Schema) :
    (∃ keys : List Level.Placed, keys.Nodup
        ∧ (∀ placed, placed ∈ keys ↔ schema.level.Reaches placed ∧ placed.isKey)
        ∧ List.Forall₂ Template.Describes schema.templates keys)
      ∧ schema.templates.Pairwise (fun template next =>
          template.path.map utf8 < next.path.map utf8)
      ∧ (∀ template ∈ schema.templates, ∀ longer ∈ schema.templates,
          template.path <+: longer.path → template = longer)
      ∧ ∀ template ∈ schema.templates,
          slotsOf template.pieces = template.inherited ++ template.own := by
  have hordered := schema.ordered
  refine ⟨⟨(schema.level.placedFrom [] []).filter Level.Placed.isKey, ?_, fun placed => ?_, ?_⟩,
    ?_, fun template hlisted longer => Level.eq_of_path_isPrefix hordered hlisted,
    fun template => Schema.slotsOf_pieces⟩
  · have hpairwise := (Level.pairwise_path_placedFrom hordered [] []).filter Level.Placed.isKey
    apply hpairwise.imp
    intro placed next hlt heq
    subst heq
    exact List.lt_irrefl placed.path hlt
  · rw [List.mem_filter, Level.mem_placedFrom_iff]
    simp only [Level.Placed.under_nil, exists_eq_right']
  · exact Level.forall₂_templatesFrom schema.level [] rfl
  · exact (Level.pairwise_path_templates hordered).imp fun {template next} hlt =>
      (path_lt_iff_utf8_lt template.path next.path).mp hlt

end KeyTree
