import KeyTree.Layout.Basic

/-!
# `KeyTree.Proofs.Layout.Fingerprint`: what a fingerprint tells apart

The text behind a fingerprint has a line for the separator and, in sorted
order, a line of path and template for each key. Nothing in it is escaped,
so it says what the layout is only as far as its lines can be told apart.

* `Layout.Plain`: no separator, path or template holds a line feed, and no
  path holds a tab.
* `Layout.readsBack_iff_plain`: the plain layouts are exactly those whose
  text, read line by line, gives the separator and the rows back.
* `Layout.Plain.sameRendering_iff`: a plain layout renders the same as just
  those plain layouts that share its text.
* `Layout.exists_empty_collision`: no condition on one layout alone is
  enough. Every layout shares its text with a layout without keys.
* `Layout.hashed_alike_iff_sameRendering`: the above for the layouts of
  schemas, with the fingerprint as a digest of the hashed bytes.
-/

set_option autoImplicit false

namespace KeyTree

/-! ### Lines of a text -/

/-- The lines of a text, each ended by a line feed; what follows the last
one is no line. -/
def endedLines : List Char → List (List Char)
  | [] => []
  | c :: rest =>
    if c = '\n' then [] :: endedLines rest
    else match endedLines rest with
      | [] => []
      | line :: others => (c :: line) :: others

/-- A line is read up to its line feed. -/
theorem endedLines_append {line : List Char} (h : '\n' ∉ line) (rest : List Char) :
    endedLines (line ++ '\n' :: rest) = line :: endedLines rest := by
  induction line with
  | nil => simp [endedLines]
  | cons c others ih =>
      have hc : c ≠ '\n' := fun hc => h (hc ▸ List.mem_cons_self)
      rw [List.cons_append, endedLines, if_neg hc, ih fun hmem => h (List.mem_cons_of_mem c hmem)]

/-- No line holds a line feed. -/
theorem not_mem_of_mem_endedLines {text line : List Char} (h : line ∈ endedLines text) :
    '\n' ∉ line := by
  induction text generalizing line with
  | nil => cases h
  | cons c rest ih =>
      rw [endedLines] at h
      split at h
      · rcases List.mem_cons.mp h with rfl | h
        · exact List.not_mem_nil
        · exact ih h
      · rename_i hc
        cases hrest : endedLines rest with
        | nil => simp [hrest] at h
        | cons first others =>
            rw [hrest] at h ih
            rcases List.mem_cons.mp h with rfl | h
            · rw [List.mem_cons, not_or]
              exact ⟨Ne.symm hc, ih List.mem_cons_self⟩
            · exact ih (List.mem_cons_of_mem first h)

/-- Lines that hold no line feed are read back from the text they make. -/
theorem endedLines_flatMap {lines : List (List Char)} (h : ∀ line ∈ lines, '\n' ∉ line) :
    endedLines (lines.flatMap (· ++ ['\n'])) = lines := by
  induction lines with
  | nil => rfl
  | cons line rest ih =>
      obtain ⟨hline, hrest⟩ := List.forall_mem_cons.mp h
      rw [List.flatMap_cons, List.append_assoc, List.singleton_append, endedLines_append hline,
        ih hrest]

/-- Where there is a line, the text ends with a line feed. -/
theorem exists_flatMap_ended (line : List Char) (others : List (List Char)) :
    ∃ text, (line :: others).flatMap (· ++ ['\n']) = text ++ ['\n'] := by
  induction others generalizing line with
  | nil => exact ⟨line, by simp⟩
  | cons next rest ih =>
      obtain ⟨text, htext⟩ := ih next
      exact ⟨line ++ '\n' :: text, by rw [List.flatMap_cons, htext]; simp⟩

/-! ### Rows -/

/-- The row that a line stands for: what is in front of its first tab, and
what is behind it. -/
def readRow (line : List Char) : String × String :=
  (String.ofList (line.takeWhile (· ≠ '\t')), String.ofList ((line.dropWhile (· ≠ '\t')).drop 1))

/-- The path and the template of a key. -/
def LayoutEntry.row (entry : LayoutEntry) : String × String := (entry.path, entry.template)

/-- The line of a row. -/
def rowLine (row : String × String) : String := row.1 ++ "\t" ++ row.2

theorem toList_rowLine (row : String × String) :
    (rowLine row).toList = row.1.toList ++ '\t' :: row.2.toList := by
  simp [rowLine]

/-- A row is read back from its line if the path holds no tab. -/
theorem readRow_rowLine {row : String × String} (h : '\t' ∉ row.1.toList) :
    readRow (rowLine row).toList = row := by
  have hpath : ∀ c ∈ row.1.toList, decide (c ≠ '\t') = true := fun c hc =>
    decide_eq_true fun heq => h (heq ▸ hc)
  rw [toList_rowLine, readRow, List.takeWhile_append_of_pos hpath,
    List.dropWhile_append_of_pos hpath]
  simp

/-- A row whose text is safe to put on a line: the path ends at the first
tab, and nothing ends the line early. -/
structure PlainRow (row : String × String) : Prop where
  path_no_feed : '\n' ∉ row.1.toList
  path_no_tab : '\t' ∉ row.1.toList
  template_no_feed : '\n' ∉ row.2.toList

/-- The line of a plain row holds no line feed. -/
theorem PlainRow.not_mem_line {row : String × String} (h : PlainRow row) :
    '\n' ∉ (rowLine row).toList := by
  rw [toList_rowLine, List.mem_append, List.mem_cons]
  rintro (hpath | htab | htemplate)
  · exact h.path_no_feed hpath
  · exact absurd htab (by decide)
  · exact h.template_no_feed htemplate

/-- Every row that is read from a line is plain. -/
theorem plainRow_readRow {line : List Char} (h : '\n' ∉ line) : PlainRow (readRow line) where
  path_no_feed := by
    rw [readRow, String.toList_ofList]
    exact fun hmem => h ((List.takeWhile_prefix _).subset hmem)
  path_no_tab := by
    rw [readRow, String.toList_ofList]
    intro hmem
    have hall := List.all_eq_true.mp (List.all_takeWhile (l := line) (p := (· ≠ '\t')))
    simpa using hall _ hmem
  template_no_feed := by
    rw [readRow, String.toList_ofList]
    exact fun hmem => h ((List.dropWhile_suffix _).subset (List.mem_of_mem_drop hmem))

/-! ### The text of a layout -/

namespace Layout

/-- The text whose digest is the fingerprint. -/
def hashedText (layout : Layout) : String := fingerprintText layout.separator layout.entries

/-- The bytes that are hashed. -/
def hashedBytes (layout : Layout) : List UInt8 := layout.hashedText.toUTF8.data.toList

/-- The rows of a layout, one for each key. -/
def rows (layout : Layout) : List (String × String) := layout.entries.map LayoutEntry.row

/-- Two layouts render the same: they have one separator, and the same rows
equally often. -/
def SameRendering (a b : Layout) : Prop := a.separator = b.separator ∧ a.rows.Perm b.rows

/-- The rows of a layout in the order of their lines. -/
def sortedLines (layout : Layout) : List String :=
  (layout.rows.map rowLine).mergeSort (fun a b => decide (a ≤ b))

theorem sortedLines_perm (layout : Layout) :
    layout.sortedLines.Perm (layout.rows.map rowLine) :=
  List.mergeSort_perm _ _

/-- The hashed text: the separator and the sorted lines, each ended by a
line feed. -/
theorem toList_hashedText (layout : Layout) :
    layout.hashedText.toList
      = (layout.separator.toList :: layout.sortedLines.map String.toList).flatMap
          (· ++ ['\n']) := by
  have hlines : layout.entries.map LayoutEntry.line = layout.rows.map rowLine := by
    rw [rows, List.map_map]
    rfl
  rw [hashedText, fingerprintText, hlines, String.toList_join]
  simp [sortedLines, List.flatMap_map]

theorem hashedBytes_eq_iff {a b : Layout} :
    a.hashedBytes = b.hashedBytes ↔ a.hashedText = b.hashedText := by
  constructor
  · intro h
    rw [hashedBytes, hashedBytes, String.toUTF8_eq_toByteArray, String.toUTF8_eq_toByteArray] at h
    exact String.toByteArray_inj.mp (ByteArray.ext (Array.toList_inj.mp h))
  · intro h
    rw [hashedBytes, hashedBytes, h]

/-- The lines stand in the order of their texts. -/
theorem pairwise_sortedLines (layout : Layout) : layout.sortedLines.Pairwise (· ≤ ·) := by
  have htrans : ∀ x y z : String, decide (x ≤ y) = true → decide (y ≤ z) = true →
      decide (x ≤ z) = true := by
    intro x y z hxy hyz
    rw [decide_eq_true_eq] at hxy hyz ⊢
    exact String.le_trans hxy hyz
  have htotal : ∀ x y : String, (decide (x ≤ y) || decide (y ≤ x)) = true := by
    intro x y
    rw [Bool.or_eq_true, decide_eq_true_eq, decide_eq_true_eq]
    exact String.le_total x y
  exact (List.pairwise_mergeSort htrans htotal (layout.rows.map rowLine)).imp of_decide_eq_true

/-- Lines that are the same up to their order are sorted alike. -/
theorem sortedLines_eq_of_perm {a b : Layout} (h : a.rows.Perm b.rows) :
    a.sortedLines = b.sortedLines := by
  have hperm : a.sortedLines.Perm b.sortedLines :=
    a.sortedLines_perm.trans ((h.map rowLine).trans b.sortedLines_perm.symm)
  exact hperm.eq_of_pairwise (fun _ _ _ _ => String.le_antisymm) a.pairwise_sortedLines
    b.pairwise_sortedLines

/-- Layouts that render the same are hashed alike, in whatever order their
keys are listed. -/
theorem SameRendering.hashedText_eq {a b : Layout} (h : a.SameRendering b) :
    a.hashedText = b.hashedText := by
  rw [← String.toList_inj, toList_hashedText, toList_hashedText, h.1, sortedLines_eq_of_perm h.2]

/-! ### Reading a layout back -/

/-- A hashed text, read line by line: the separator and the rows. -/
def readText (text : String) : Option (String × List (String × String)) :=
  match endedLines text.toList with
  | [] => none
  | first :: lines => some (String.ofList first, lines.map readRow)

/-- A layout can be read back: its text has a line for the separator and one
for each row. -/
def ReadsBack (layout : Layout) : Prop :=
  ∃ rows, readText layout.hashedText = some (layout.separator, rows) ∧ rows.Perm layout.rows

/-- A layout whose texts are safe to put on lines. -/
structure Plain (layout : Layout) : Prop where
  separator : '\n' ∉ layout.separator.toList
  rows : ∀ row ∈ layout.rows, PlainRow row

/-- Whether a layout is plain depends on what it renders only. -/
theorem Plain.of_sameRendering {a b : Layout} (ha : a.Plain) (h : a.SameRendering b) :
    b.Plain where
  separator := h.1 ▸ ha.separator
  rows := fun row hrow => ha.rows row (h.2.mem_iff.mpr hrow)

/-- A plain layout is read back. -/
theorem Plain.readsBack {layout : Layout} (h : layout.Plain) : layout.ReadsBack := by
  have hline : ∀ line ∈ layout.sortedLines, ∃ row, PlainRow row ∧ rowLine row = line := by
    intro line hmem
    obtain ⟨row, hrow, rfl⟩ := List.mem_map.mp (layout.sortedLines_perm.mem_iff.mp hmem)
    exact ⟨row, h.rows row hrow, rfl⟩
  have hfeed : ∀ line ∈ layout.separator.toList :: layout.sortedLines.map String.toList,
      '\n' ∉ line := by
    refine List.forall_mem_cons.mpr ⟨h.separator, fun line hmem => ?_⟩
    obtain ⟨text, htext, rfl⟩ := List.mem_map.mp hmem
    obtain ⟨row, hrow, rfl⟩ := hline text htext
    exact hrow.not_mem_line
  -- The rows are read in the order of their lines, which only permutes them.
  refine ⟨layout.sortedLines.map (readRow ∘ String.toList), ?_, ?_⟩
  · rw [readText, toList_hashedText, endedLines_flatMap hfeed]
    simp
  · have hread : (layout.rows.map rowLine).map (readRow ∘ String.toList) = layout.rows := by
      rw [List.map_map, List.map_congr_left (g := id), List.map_id]
      exact fun row hrow => readRow_rowLine (h.rows row hrow).path_no_tab
    have hperm := layout.sortedLines_perm.map (readRow ∘ String.toList)
    rwa [hread] at hperm

/-- What is read from a text is always plain. -/
theorem ReadsBack.plain {layout : Layout} (h : layout.ReadsBack) : layout.Plain := by
  obtain ⟨rows, hread, hperm⟩ := h
  rw [readText] at hread
  cases hlines : endedLines layout.hashedText.toList with
  | nil => simp [hlines] at hread
  | cons first lines =>
      -- Neither the separator nor a row can hold what ended its line.
      have hfeed : ∀ line ∈ first :: lines, '\n' ∉ line := fun line hline =>
        not_mem_of_mem_endedLines (hlines ▸ hline)
      simp only [hlines, Option.some.injEq, Prod.mk.injEq] at hread
      obtain ⟨hseparator, rfl⟩ := hread
      constructor
      · rw [← hseparator, String.toList_ofList]
        exact hfeed first List.mem_cons_self
      · intro row hrow
        obtain ⟨line, hline, rfl⟩ := List.mem_map.mp (hperm.mem_iff.mpr hrow)
        exact plainRow_readRow (hfeed line (List.mem_cons_of_mem first hline))

/-- The plain layouts are those that are read back. -/
theorem readsBack_iff_plain (layout : Layout) : layout.ReadsBack ↔ layout.Plain :=
  ⟨ReadsBack.plain, Plain.readsBack⟩

/-- Two layouts with one text that are both read back render the same. -/
theorem ReadsBack.sameRendering {a b : Layout} (ha : a.ReadsBack) (hb : b.ReadsBack)
    (h : a.hashedText = b.hashedText) : a.SameRendering b := by
  obtain ⟨rowsA, hreadA, hpermA⟩ := ha
  obtain ⟨rowsB, hreadB, hpermB⟩ := hb
  rw [h, hreadB, Option.some.injEq, Prod.mk.injEq] at hreadA
  obtain ⟨hseparator, rfl⟩ := hreadA
  exact ⟨hseparator.symm, hpermA.symm.trans hpermB⟩

/-- A plain layout renders the same as just those plain layouts that share
its text. -/
theorem Plain.sameRendering_iff {a b : Layout} (ha : a.Plain) :
    a.SameRendering b ↔ a.hashedBytes = b.hashedBytes ∧ b.Plain := by
  rw [hashedBytes_eq_iff]
  constructor
  · intro h
    exact ⟨h.hashedText_eq, ha.of_sameRendering h⟩
  · rintro ⟨htext, hb⟩
    exact ha.readsBack.sameRendering hb.readsBack htext

/-! ### Layouts of schemas -/

@[simp] theorem rows_ofSchema_empty (separator : String) :
    (ofSchema Schema.empty separator).rows = [] := rfl

@[simp] theorem separator_ofSchema (schema : Schema) (separator : String) :
    (ofSchema schema separator).separator = separator := rfl

/-- No condition on one layout alone is enough: every layout is hashed like
a layout without keys, whose separator is the rest of the text. -/
theorem exists_empty_collision (layout : Layout) :
    ∃ separator, (ofSchema Schema.empty separator).hashedText = layout.hashedText := by
  obtain ⟨text, htext⟩ := exists_flatMap_ended layout.separator.toList
    (layout.sortedLines.map String.toList)
  refine ⟨String.ofList text, ?_⟩
  rw [← String.toList_inj, toList_hashedText, toList_hashedText, htext]
  simp [sortedLines]

/-- What the fingerprint of a schema's layout tells apart. It is the digest
of the hashed bytes, and layouts that render the same are hashed alike.
Conversely, a layout that is hashed like a plain one renders the same just
if it is plain itself; the plain layouts are those whose text can be read
back. The second condition cannot go: every layout with a key is hashed
like one that renders differently. -/
theorem hashed_alike_iff_sameRendering (schema other : Schema) (separator separator' : String) :
    let a := ofSchema schema separator
    let b := ofSchema other separator'
    a.fingerprint = Sha256.hex a.hashedBytes
      ∧ (a.SameRendering b → a.hashedBytes = b.hashedBytes)
      ∧ (a.Plain → (a.SameRendering b ↔ a.hashedBytes = b.hashedBytes ∧ b.Plain))
      ∧ (a.Plain ↔ a.ReadsBack)
      ∧ (schema.templates ≠ [] → ∃ longer,
          (ofSchema Schema.empty longer).hashedBytes = a.hashedBytes
            ∧ ¬ (ofSchema Schema.empty longer).SameRendering a) := by
  intro a b
  refine ⟨rfl, ?_, Plain.sameRendering_iff, a.readsBack_iff_plain.symm, ?_⟩
  · intro h
    exact hashedBytes_eq_iff.mpr h.hashedText_eq
  · intro hkeys
    obtain ⟨longer, htext⟩ := exists_empty_collision a
    refine ⟨longer, hashedBytes_eq_iff.mpr htext, fun hsame => hkeys ?_⟩
    -- Equal rows would leave the schema without templates.
    have hrows : a.rows = [] := by simpa using hsame.2
    simpa [a, rows, ofSchema] using hrows

/-- A tab that stands in the name of a key, and not in its template, leaves
the line of the key as it is. -/
theorem tab_in_name_collision :
    let a := ofSchema (Schema.empty.insert "k\tx" (some (.key [.literal "v"]))) ":"
    let b := ofSchema (Schema.empty.insert "k" (some (.key [.literal "x\tv"]))) ":"
    a.fingerprint = b.fingerprint ∧ ¬ a.SameRendering b := by
  intro a b
  have ha : a.entries = [⟨"k\tx", "v", []⟩] := by decide
  have hb : b.entries = [⟨"k", "x\tv", []⟩] := by decide
  have htext : a.hashedText = b.hashedText := by
    rw [hashedText, hashedText, ha, hb]
    simp [fingerprintText, LayoutEntry.line, a, b]
  constructor
  · show textDigest a.hashedText = textDigest b.hashedText
    rw [htext]
  · intro hsame
    have hrows := hsame.2
    rw [rows, rows, ha, hb] at hrows
    simp [LayoutEntry.row] at hrows

end Layout

end KeyTree
