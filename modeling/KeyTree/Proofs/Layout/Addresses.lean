import KeyTree.Proofs.Command.Render
import KeyTree.Proofs.Schema.Listing

/-!
# `KeyTree.Proofs.Layout.Addresses`: keys by their dotted paths

A layout lists its keys under dotted paths, where the names are joined, and
`render` finds a key by a dotted path, which it splits. Joining undoes
splitting for every text (`dotted_splitOn`). Splitting undoes joining where no
name has a dot, also if names are empty (`splitOn_dotted`).

So in a schema whose names have no dots the entry that a layout finds under a
text and the key that `render` finds by it are the same
(`Document.find?_layout_faithful`). Where names have dots, the layout finds the
first of the keys that share a dotted path.
-/

set_option autoImplicit false

namespace KeyTree

/-! ### Joining and splitting -/

/-- What a text is split into at its dots makes the text when it is joined. -/
theorem dotted_splitOn (text : String) : dotted (text.splitOn ".") = text := by
  show (String.singleton '.').intercalate (text.splitOn (String.singleton '.')) = text
  rw [splitOn_singleton]
  apply String.toList_injective
  rw [String.toList_intercalate, List.map_map]
  have hlists : String.toList ∘ String.ofList = id := funext fun _ => String.toList_ofList
  rw [hlists, List.map_id, String.toList_singleton]
  exact List.intercalate_splitOn '.'

/-- Names without dots are found again in their dotted path. There has to be
one, as no text is split into nothing. -/
theorem splitOn_dotted {path : List String} (hne : path ≠ [])
    (hfree : ∀ name ∈ path, '.' ∉ name.toList) : (dotted path).splitOn "." = path := by
  show ((String.singleton '.').intercalate path).splitOn (String.singleton '.') = path
  rw [splitOn_singleton]
  exact splitOn_intercalate_singleton hne hfree

/-! ### Schemas without dots -/

/-- The names of a level and of all levels below it, also of entries that are
absent. -/
def Level.everyName : Level → List String
  | .nil => []
  | .absent name rest => name :: rest.everyName
  | .key name _ rest => name :: rest.everyName
  | .branch name below rest => name :: below.everyName ++ rest.everyName
  | .gate name _ behind rest => name :: behind.everyName ++ rest.everyName

/-- No name of the schema has a dot. Names may be empty. -/
def Schema.DotFree (schema : Schema) : Prop :=
  ∀ name ∈ schema.level.everyName, '.' ∉ name.toList

instance (schema : Schema) : Decidable schema.DotFree :=
  inferInstanceAs (Decidable (∀ name ∈ schema.level.everyName, '.' ∉ name.toList))

/-- The path of a template is made of names of the level, behind the names that
lead there. -/
theorem Level.mem_everyName_of_mem_path {level : Level} {path : List String}
    {stem : List Piece} {inherited : List Slot} {template : Template}
    (h : template ∈ level.templatesFrom path stem inherited) {name : String}
    (hname : name ∈ template.path) : name ∈ path ∨ name ∈ level.everyName := by
  -- What an entry adds to the path is its own name, whatever kind it is.
  have hdeeper : ∀ (key : String) (front inner rest : List String),
      name ∈ front ++ [key] ∨ name ∈ inner → name ∈ front ∨ name ∈ key :: inner ++ rest := by
    intro key front inner rest hin
    simp only [List.cons_append, List.mem_append, List.mem_cons, List.not_mem_nil,
      or_false] at hin ⊢
    tauto
  induction level generalizing path stem inherited with
  | nil => cases h
  | absent key rest ih => exact (ih h).imp_right (List.mem_cons_of_mem key)
  | key key pieces rest ih =>
      rcases List.mem_cons.mp h with rfl | h
      · exact hdeeper key path [] _ (.inl hname)
      · exact (ih h).imp_right (List.mem_cons_of_mem key)
  | branch key below rest ihb ihr =>
      rcases List.mem_append.mp h with h | h
      · exact hdeeper key path _ _ (ihb h)
      · exact (ihr h).imp_right (List.mem_append_right _)
  | gate key slots behind rest ihb ihr =>
      rcases List.mem_append.mp h with h | h
      · exact hdeeper key path _ _ (ihb h)
      · exact (ihr h).imp_right (List.mem_append_right _)

namespace Schema

variable {schema : Schema} {template : Template}

/-- In a schema without dots the path of a template is found again in its
dotted path. -/
theorem DotFree.splitOn_dottedPath (h : schema.DotFree) (hlisted : template ∈ schema.templates) :
    template.dottedPath.splitOn "." = template.path := by
  apply splitOn_dotted
  · obtain ⟨name, entry, -, hentry⟩ := Level.mem_templates_iff.mp hlisted
    obtain ⟨rest, hpath⟩ := Level.Entry.path_of_mem_templates hentry
    rw [hpath]
    exact List.cons_ne_nil name rest
  · intro name hname
    rcases Level.mem_everyName_of_mem_path hlisted hname with hin | hin
    · cases hin
    · exact h name hin

/-- A text is the dotted path of a template if it is split into its path. -/
theorem DotFree.dottedPath_eq_iff (h : schema.DotFree) (hlisted : template ∈ schema.templates)
    (word : String) : template.dottedPath = word ↔ template.path = word.splitOn "." := by
  constructor
  · rintro rfl
    exact (h.splitOn_dottedPath hlisted).symm
  · intro hpath
    rw [Template.dottedPath, hpath, dotted_splitOn]

/-- In a schema without dots all dotted paths differ. -/
theorem DotFree.nodup_dottedPaths (h : schema.DotFree) :
    (schema.templates.map Template.dottedPath).Nodup := by
  rw [List.Nodup, List.pairwise_map]
  refine (Level.pairwise_path_templates schema.ordered).imp_of_mem ?_
  intro template next hlisted hnext hlt hsame
  have hpath := (h.dottedPath_eq_iff hlisted next.dottedPath).mp hsame
  rw [h.splitOn_dottedPath hnext] at hpath
  rw [hpath] at hlt
  exact List.lt_irrefl next.path hlt

/-- Without dots, looking for a dotted path is looking for a path. -/
theorem DotFree.find?_dottedPath (h : schema.DotFree) (word : String) :
    schema.templates.find? (·.dottedPath = word)
      = schema.templates.find? (·.path = word.splitOn ".") := by
  rw [← List.head?_filter, ← List.head?_filter]
  congr 1
  apply List.filter_congr
  intro template hlisted
  exact decide_eq_decide.mpr (h.dottedPath_eq_iff hlisted word)

/-- The entry that a layout finds is that of the first template with the dotted
path. -/
theorem find?_layout (schema : Schema) (separator word : String) :
    (Layout.ofSchema schema separator).find? word
      = (schema.templates.find? (·.dottedPath = word)).map (Template.toEntry separator) := by
  rw [Layout.find?, Layout.ofSchema, List.find?_map]
  rfl

/-- A layout finds the entry of the template that the text is split into. -/
theorem DotFree.find?_layout_eq_some_iff (h : schema.DotFree)
    (hlisted : template ∈ schema.templates) (separator word : String) :
    (Layout.ofSchema schema separator).find? word = some (template.toEntry separator)
      ↔ template.path = word.splitOn "." := by
  rw [find?_layout, Option.map_eq_some_iff]
  constructor
  · rintro ⟨found, hfound, hentry⟩
    -- Entries that are the same have the same dotted path.
    have hsame : found.dottedPath = template.dottedPath := congrArg LayoutEntry.path hentry
    have hword : found.dottedPath = word := by simpa using List.find?_some hfound
    exact (h.dottedPath_eq_iff hlisted word).mp (hsame.symm.trans hword)
  · intro hpath
    refine ⟨template, ?_, rfl⟩
    rw [h.find?_dottedPath]
    exact find?_templates_eq_some_iff.mpr ⟨hlisted, hpath⟩

/-- A layout finds nothing if no template has the path that the text is split
into. -/
theorem DotFree.find?_layout_eq_none_iff (h : schema.DotFree) (separator word : String) :
    (Layout.ofSchema schema separator).find? word = none
      ↔ ∀ template ∈ schema.templates, template.path ≠ word.splitOn "." := by
  rw [find?_layout, Option.map_eq_none_iff, h.find?_dottedPath, List.find?_eq_none]
  simp only [decide_eq_true_eq, ne_eq]

/-- An entry is found exactly if it is of a template that has the dotted path
while none listed before it has. -/
theorem find?_layout_eq_first_iff (schema : Schema) (separator word : String)
    (entry : LayoutEntry) :
    (Layout.ofSchema schema separator).find? word = some entry
      ↔ ∃ front template back, schema.templates = front ++ template :: back
          ∧ template.dottedPath = word ∧ (∀ other ∈ front, other.dottedPath ≠ word)
          ∧ entry = template.toEntry separator := by
  rw [find?_layout, Option.map_eq_some_iff]
  constructor
  · rintro ⟨template, hfound, rfl⟩
    obtain ⟨hpath, front, back, hsplit, hfront⟩ := List.find?_eq_some_iff_append.mp hfound
    refine ⟨front, template, back, hsplit, of_decide_eq_true hpath, ?_, rfl⟩
    intro other hother
    simpa using hfront other hother
  · rintro ⟨front, template, back, hsplit, hpath, hfront, rfl⟩
    refine ⟨template, List.find?_eq_some_iff_append.mpr ⟨decide_eq_true hpath, front, back,
      hsplit, ?_⟩, rfl⟩
    intro other hother
    simpa using hfront other hother

end Schema

/-! ### Keys on the command line -/

namespace Command

/-- What comes of rendering one template with the values that are assigned to
its slots. -/
def renderTemplate (document : Document) (template : Template) (assignments : List String) :
    Report :=
  let key : Except Failure String := do
    let args ← assignments.foldlM (addAssignment template) .empty
    ((document.compile.result.resolve template.path args).result).mapError .resolve
  match key with
  | .ok key => .done (key ++ "\n")
  | .error failure => .failed failure

/-- A key is rendered from the template with its path. -/
theorem render_eq (document : Document) (path assignments : List String) :
    render document path assignments
      = match document.schema.templates.find? (·.path = path) with
        | none => .failed (.noKey (dotted path))
        | some template => renderTemplate document template assignments := by
  rw [render, renderKey]
  cases hfound : document.schema.templates.find? (·.path = path) with
  | none => rfl
  | some template =>
      obtain ⟨-, rfl⟩ := Schema.find?_templates_eq_some_iff.mp hfound
      rfl

/-- The words of a command line ask for a key of the document by a dotted path.
They are read as a request whose file is loaded, and which with the separator
of the request is the document. -/
structure AsksFor (words : List String) (request : KeyRequest) (word : String)
    (directory : Directory) (document : Document) : Prop where
  read : Invocation.ofWords words = .ok request.invocation
  key : request.key = .dotted word
  loads : ∃ loaded,
    ((Document.load request.file : StateM Directory _).run directory).1.result = .ok loaded
      ∧ document = { loaded with separator := request.separator.getD loaded.separator }

/-- What such a command line prints is what `render` says. It changes no file. -/
theorem AsksFor.run_eq {words : List String} {request : KeyRequest} {word : String}
    {directory : Directory} {document : Document}
    (h : AsksFor words request word directory document) :
    (run words : StateM Directory Outcome).run directory
      = ((render document (word.splitOn ".") request.assignments).outcome, directory) := by
  obtain ⟨loaded, hload, rfl⟩ := h.loads
  have hpath : request.key.path = word.splitOn "." := by
    rw [h.key]
    exact (splitOn_singleton word '.').symm
  rw [run_eq_render h.read hload, hpath]

end Command

/-! ### Layouts and the command line -/

namespace Document

open Command (AsksFor Outcome Report renderTemplate run)

/-- Dotted paths are faithful where no name has a dot. Then no two templates
have one dotted path, and a layout finds the entry of a template under a text
if and only if the text is split into the template's path; it finds nothing if
there is no such template. A command line that asks for a key by the text
renders the template whose entry is found, or is told that there is no key.
Whatever the names are, the layout finds the entry of the first template that
has the text as its dotted path. -/
theorem find?_layout_faithful (document : Document) :
    (document.schema.DotFree →
      (document.schema.templates.map Template.dottedPath).Nodup
        ∧ ∀ word,
          (∀ template ∈ document.schema.templates,
              document.layout.find? word = some (template.toEntry document.separator)
                ↔ template.path = word.splitOn ".")
          ∧ (document.layout.find? word = none
              ↔ ∀ template ∈ document.schema.templates, template.path ≠ word.splitOn ".")
          ∧ ∀ words request directory, AsksFor words request word directory document →
              (document.layout.find? word = none →
                (run words : StateM Directory Outcome).run directory
                  = ((Report.failed (.noKey word)).outcome, directory))
              ∧ ∀ template ∈ document.schema.templates,
                  document.layout.find? word = some (template.toEntry document.separator) →
                  (run words : StateM Directory Outcome).run directory
                    = ((renderTemplate document template request.assignments).outcome, directory))
      ∧ ∀ word entry, document.layout.find? word = some entry
          ↔ ∃ front template back, document.schema.templates = front ++ template :: back
              ∧ template.dottedPath = word ∧ (∀ other ∈ front, other.dottedPath ≠ word)
              ∧ entry = template.toEntry document.separator := by
  refine ⟨fun hfree => ⟨hfree.nodup_dottedPaths, fun word => ?_⟩,
    document.schema.find?_layout_eq_first_iff document.separator⟩
  have hsome : ∀ template ∈ document.schema.templates,
      document.layout.find? word = some (template.toEntry document.separator)
        ↔ template.path = word.splitOn "." :=
    fun template hlisted => hfree.find?_layout_eq_some_iff hlisted document.separator word
  have hnone : document.layout.find? word = none
      ↔ ∀ template ∈ document.schema.templates, template.path ≠ word.splitOn "." :=
    hfree.find?_layout_eq_none_iff document.separator word
  refine ⟨hsome, hnone, fun words request directory hasks => ⟨fun hmissing => ?_, ?_⟩⟩
  · have hfind : document.schema.templates.find? (·.path = word.splitOn ".") = none := by
      rw [List.find?_eq_none]
      simpa using hnone.mp hmissing
    rw [hasks.run_eq, Command.render_eq, hfind, dotted_splitOn]
  · intro template hlisted hentry
    have hfind : document.schema.templates.find? (·.path = word.splitOn ".") = some template :=
      Schema.find?_templates_eq_some_iff.mpr ⟨hlisted, (hsome template hlisted).mp hentry⟩
    rw [hasks.run_eq, Command.render_eq, hfind]

/-- Names that are empty, at either end of a path and alone. -/
def emptyNames : Document where
  separator := ":"
  schema := Schema.empty.insert "" (some (.branch
    ((Schema.empty.insert "" (some (.key [.literal "both"]))).insert "a"
      (some (.branch (Schema.empty.insert "" (some (.key [.literal "around"]))))))))

/-- Their keys are found under texts of dots, by the layout and on the command
line; under the empty text there is none. -/
theorem emptyNames_found :
    let directory : Directory := ⟨[], [(["n.json"], emptyNames.toText .json)]⟩
    emptyNames.schema.DotFree
      ∧ (emptyNames.layout.find? ".a.").map LayoutEntry.template = some ":a:around"
      ∧ (run ["render", "--", "n.json", ".a."] : StateM Directory Outcome).run directory
        = (⟨0, ":a:around\n", ""⟩, directory)
      ∧ emptyNames.layout.find? "" = none := by
  intro directory
  have hfree : emptyNames.schema.DotFree := by decide
  obtain ⟨-, hfound⟩ := (find?_layout_faithful emptyNames).1 hfree
  let around : Template :=
    ⟨["", "a", ""], [], [], [.literal "", .literal "a", .literal "around"]⟩
  have hlisted : around ∈ emptyNames.schema.templates := by decide
  have hsplit : ".a.".splitOn "." = ["", "a", ""] := by
    have hdots := splitOn_singleton ".a." '.'
    rwa [show (".a.".toList.splitOn '.').map String.ofList = ["", "a", ""] by decide] at hdots
  obtain ⟨hsome, -, hrun⟩ := hfound ".a."
  have hentry := (hsome around hlisted).mpr hsplit.symm
  have hasks : AsksFor ["render", "--", "n.json", ".a."] ⟨"n.json", none, .dotted ".a.", []⟩ ".a."
      directory emptyNames := by
    let request : Command.KeyRequest := ⟨"n.json", none, .dotted ".a.", []⟩
    have hread : Command.Invocation.ofWords request.words = .ok request.invocation :=
      Command.KeyRequest.ofWords_words (by decide)
    have hreload : emptyNames.schema.level.Reloadable :=
      ⟨by decide, ⟨by decide, trivial, trivial⟩, trivial⟩
    exact ⟨hread, rfl, emptyNames, Command.load_written hreload (by decide), rfl⟩
  refine ⟨hfree, by rw [hentry]; decide, ?_, ?_⟩
  · rw [(hrun _ _ directory hasks).2 around hlisted hentry]
    rfl
  · have hempty : "".splitOn "." = [""] := by
      have hdots := splitOn_singleton "" '.'
      rwa [show ("".toList.splitOn '.').map String.ofList = [""] by decide] at hdots
    rw [(hfound "").2.1, hempty]
    decide

end Document

end KeyTree
