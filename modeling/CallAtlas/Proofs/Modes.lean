import CallAtlas.Proofs.Links
import Mathlib.Algebra.GroupWithZero.Nat
import Mathlib.Data.List.Perm.Basic

/-!
# Both modes show the same sections

Notes by file and notes by declaration are two arrangements of one set of sections. Grouping by file takes the registered
declarations apart into lists that are disjoint and together hold all of them, and sorting keeps what a list holds; so in
either mode every registered declaration has its section exactly once, and it is the same text in both.
-/

namespace CallAtlas

/-! ## Grouping by a key -/

section Keys

variable {α β : Type} [LinearOrder β] {key : α → β}

/-- The groups of some keys hold together what has one of the keys. -/
theorem perm_flatMap_filter (key : α → β) {keys : List β} (distinct : keys.Nodup) (given : List α) :
    (keys.flatMap fun k => given.filter fun a => key a = k).Perm (given.filter fun a => key a ∈ keys) := by
  induction keys with
  | nil => simp
  | cons k keys ih =>
    obtain ⟨new, distinct⟩ := List.nodup_cons.1 distinct
    let those := given.filter fun a => key a ∈ k :: keys
    have first : those.filter (fun a => key a = k) = given.filter fun a => key a = k := by
      rw [List.filter_filter]
      refine List.filter_congr fun a _ => ?_
      by_cases h : key a = k <;> simp [h]
    have others : those.filter (fun a => !decide (key a = k)) = given.filter fun a => key a ∈ keys := by
      rw [List.filter_filter]
      refine List.filter_congr fun a _ => ?_
      by_cases h : key a = k
      · simp [h, new]
      · simp [h]
    have parts := List.filter_append_perm (fun a => decide (key a = k)) those
    rw [first, others] at parts
    rw [List.flatMap_cons]
    exact ((ih distinct).append_left _).trans parts

theorem nodup_eraseDups (keys : List β) : keys.eraseDups.Nodup := by
  match keys with
  | [] => exact List.nodup_nil
  | k :: keys =>
    rw [List.eraseDups_cons, List.nodup_cons]
    refine ⟨?_, nodup_eraseDups _⟩
    rw [List.mem_eraseDups, List.mem_filter]
    simp
termination_by keys.length
decreasing_by exact Nat.lt_succ_of_le (List.length_filter_le _ _)

end Keys

namespace Note

/-- How the note of a file opens. -/
def fileOpening (path : String) : String := "---\ntags:\n  - file\n---\n# " ++ Path.base path ++ "\n\n"

/-- How the note of a declaration opens, with its path as it is shown. -/
def unitOpening (u : Callable) (shown : String) : String :=
  "---\ntags:\n  - method\n---\n# " ++ u.declaringDisplay ++ "::" ++ u.name ++ "\n**Path**: `" ++ shown ++ "`\n\n"

theorem ofFile_eq (path : String) (sections : List String) :
    ofFile path sections =
      { filename := nameForFile path, text := fileOpening path ++ String.join sections, units := sections.length } := by
  have front : "---\ntags:\n  - file\n---\n# " = "---" ++ ("\n" ++ ("tags:" ++ ("\n" ++ ("  - file" ++ ("\n" ++ ("---" ++
      ("\n" ++ "# "))))))) := by decide
  have back : "\n\n" = "\n" ++ "\n" := by decide
  have tag : "  - " ++ "file" = "  - file" := by decide
  have opening : textOf (openingLines "file" ++ ["# " ++ Path.base path, ""]) = fileOpening path := by
    unfold textOf openingLines fileOpening
    rw [front, back, tag]
    simp only [List.cons_append, List.nil_append, String.intercalate_cons_cons, String.intercalate_singleton,
      String.append_assoc, String.empty_append]
  rw [ofFile, opening]

theorem ofUnit_eq (u : Callable) (text shown : String) :
    ofUnit u text shown = { filename := nameForUnit u, text := unitOpening u shown ++ text, units := 1 } := by
  have front : "---\ntags:\n  - method\n---\n# " = "---" ++ ("\n" ++ ("tags:" ++ ("\n" ++ ("  - method" ++ ("\n" ++
      ("---" ++ ("\n" ++ "# "))))))) := by decide
  have middle : "\n**Path**: `" = "\n" ++ "**Path**: `" := by decide
  have back : "`\n\n" = "`" ++ ("\n" ++ "\n") := by decide
  have tag : "  - " ++ "method" = "  - method" := by decide
  have opening : textOf (openingLines "method" ++
      ["# " ++ u.declaringDisplay ++ "::" ++ u.name, "**Path**: `" ++ shown ++ "`", ""]) = unitOpening u shown := by
    unfold textOf openingLines unitOpening
    rw [front, middle, back, tag]
    simp only [List.cons_append, List.nil_append, String.intercalate_cons_cons, String.intercalate_singleton,
      String.append_assoc, String.empty_append]
  rw [ofUnit, opening]

/-! ## Notes by file -/

/-- The notes are those of the files that declare something, by rising path; each shows the declarations of its file in
order, with the text of `sectionOf` for each. -/
structure ByFile (s : Survey) (sectionOf : Callable → String) (files : List (String × List Callable))
    (notes : List Note) : Prop where
  paths : ∀ path, path ∈ files.map (·.1) ↔ ∃ u ∈ s.register.units, u.path = path
  rising : (files.map (·.1)).Pairwise (· < ·)
  units : ∀ file ∈ files,
    StablySorted Callable.sortKey (s.register.units.filter fun u => u.path = file.1) file.2
  /-- No registered declaration is missing or repeated. -/
  partition : (files.flatMap (·.2)).Perm s.register.units
  texts : notes = files.map fun file =>
    { filename := nameForFile file.1
      text := fileOpening file.1 ++ String.join (file.2.map sectionOf)
      units := file.2.length }
  total : (notes.map (·.units)).sum = s.register.units.length

theorem mem_paths_iff {s : Survey} {path : String} : path ∈ s.paths ↔ ∃ u ∈ s.register.units, u.path = path := by
  rw [Survey.paths, List.mem_mergeSort, List.mem_eraseDups, List.mem_map]

theorem paths_rising (s : Survey) : s.paths.Pairwise (· < ·) := by
  have sorted : StablySorted id _ s.paths :=
    stablySorted_mergeSort (fun a b => decide_eq_true_iff) (s.register.units.map (·.path)).eraseDups
  have distinct : s.paths.Nodup := sorted.perm.nodup_iff.2 (nodup_eraseDups _)
  exact (sorted.rising.and distinct).imp fun h => lt_of_le_of_ne h.1 h.2

theorem map_fst_unitsPerFile (s : Survey) : s.unitsPerFile.map (·.1) = s.paths := by
  rw [Survey.unitsPerFile, List.map_map]
  exact List.map_id _

/-- The files take the registered declarations apart. -/
theorem perm_unitsPerFile (s : Survey) : (s.unitsPerFile.flatMap (·.2)).Perm s.register.units := by
  have distinct : s.paths.Nodup := (paths_rising s).imp fun h => ne_of_lt h
  have groups := perm_flatMap_filter (fun u : Callable => u.path) distinct s.register.units
  have all : (s.register.units.filter fun u => u.path ∈ s.paths) = s.register.units := by
    refine List.filter_eq_self.2 fun u hu => ?_
    exact decide_eq_true (mem_paths_iff.2 ⟨u, hu, rfl⟩)
  rw [all] at groups
  rw [Survey.unitsPerFile, List.flatMap_map]
  refine List.Perm.trans (List.Perm.flatMap_left _ fun path _ => ?_) groups
  have same : (s.register.units.filter fun u => u.path == path) = s.register.units.filter fun u => u.path = path :=
    List.filter_congr fun u _ => rfl
  rw [← same]
  exact Callable.perm_sort _

theorem byFile_fileNotes (r : CodeBase) (s : Survey) :
    ByFile s (surveySection r s) s.unitsPerFile (fileNotes r s) := by
  have notes : fileNotes r s = s.unitsPerFile.map fun file =>
      { filename := nameForFile file.1
        text := fileOpening file.1 ++ String.join (file.2.map (surveySection r s))
        units := file.2.length } := by
    refine List.map_congr_left fun file _ => ?_
    dsimp only
    rw [ofFile_eq, List.length_map]
  constructor
  case paths =>
    intro path
    rw [map_fst_unitsPerFile, mem_paths_iff]
  case rising =>
    rw [map_fst_unitsPerFile]
    exact paths_rising s
  case units =>
    intro file mem
    obtain ⟨path, -, rfl⟩ := List.mem_map.1 mem
    exact Callable.stablySorted_sort _
  case partition => exact perm_unitsPerFile s
  case texts => exact notes
  case total =>
    rw [notes, List.map_map, ← (perm_unitsPerFile s).length_eq, List.length_flatMap]
    rfl

/-! ## Notes by declaration -/

/-- The notes are those of the registered declarations, one for each, by the name of the note and then in order; each
shows the text of `sectionOf`. -/
structure ByUnit (current : String) (s : Survey) (sectionOf : Callable → String) (units : List Callable)
    (notes : List Note) : Prop where
  sorted : StablySorted (fun u => toLex (nameForUnit u, u.sortKey)) s.register.units units
  texts : notes = units.map fun u =>
    { filename := nameForUnit u, text := unitOpening u (shownPath current s u) ++ sectionOf u, units := 1 }
  total : notes.length = s.register.units.length

theorem stablySorted_unitsByNote (s : Survey) :
    StablySorted (fun u => toLex (nameForUnit u, u.sortKey)) s.register.units (unitsByNote s) := by
  refine stablySorted_mergeSort (fun a b => ?_) _
  rw [Prod.Lex.toLex_le_toLex, ← Callable.le_iff]
  rcases lt_trichotomy (nameForUnit a) (nameForUnit b) with h | h | h
  · simp [compare_lt_iff_lt.2 h, h]
  · simp [h]
  · simp [compare_gt_iff_gt.2 h, h.not_gt, h.ne']

theorem byUnit_unitNotes (current : String) (r : CodeBase) (s : Survey) :
    ByUnit current s (surveySection r s) (unitsByNote s) (unitNotes current r s) := by
  have sorted := stablySorted_unitsByNote s
  constructor
  case sorted => exact sorted
  case texts => exact List.map_congr_left fun u _ => ofUnit_eq u _ _
  case total => rw [unitNotes, List.length_map, sorted.perm.length_eq]

/-! ## The same text -/

/-- Both lists of notes show the text as the section of `u`: one among the sections of its file, the other alone. -/
structure ShownAlike (current : String) (s : Survey) (u : Callable) (text : String) (byFile byUnit : List Note) :
    Prop where
  inFile : ∃ note ∈ byFile, ∃ before after, note.filename = nameForFile u.path ∧
    note.text = fileOpening u.path ++ (before ++ text ++ after)
  alone : ∃ note ∈ byUnit, note.filename = nameForUnit u ∧
    note.text = unitOpening u (shownPath current s u) ++ text

theorem shownAlike {current : String} {s : Survey} {sectionOf : Callable → String}
    {files : List (String × List Callable)} {units : List Callable} {byFile byUnit : List Note}
    (hf : ByFile s sectionOf files byFile) (hu : ByUnit current s sectionOf units byUnit) {u : Callable}
    (mem : u ∈ s.register.units) : ShownAlike current s u (sectionOf u) byFile byUnit := by
  constructor
  · obtain ⟨file, hfile, inFile⟩ := List.mem_flatMap.1 (hf.partition.mem_iff.2 mem)
    have path : u.path = file.1 := by
      have kept := List.mem_filter.1 ((hf.units file hfile).perm.mem_iff.1 inFile)
      exact of_decide_eq_true kept.2
    obtain ⟨before, after, joined⟩ := exists_join (List.mem_map_of_mem (f := sectionOf) inFile)
    refine ⟨_, hf.texts ▸ List.mem_map_of_mem hfile, before, after, ?_, ?_⟩
    · rw [path]
    · rw [path, joined]
  · exact ⟨_, hu.texts ▸ List.mem_map_of_mem (hu.sorted.perm.mem_iff.2 mem), rfl, rfl⟩

/-- **Neither mode loses, repeats or changes a section.** -/
theorem modes_keep_sections (current : String) (r : CodeBase) (s : Survey) :
    (∃ files, ByFile s (surveySection r s) files (render current .perFile r s)) ∧
      (∃ units, ByUnit current s (surveySection r s) units (render current .perUnit r s)) ∧
      ∀ u ∈ s.register.units, ShownAlike current s u (surveySection r s u) (render current .perFile r s)
        (render current .perUnit r s) := by
  have byFile := byFile_fileNotes r s
  have byUnit := byUnit_unitNotes current r s
  exact ⟨⟨_, byFile⟩, ⟨_, byUnit⟩, fun u mem => shownAlike byFile byUnit mem⟩

end Note

end CallAtlas
