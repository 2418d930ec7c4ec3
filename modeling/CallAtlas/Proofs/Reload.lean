import CallAtlas.Proofs.Ways
import CallAtlas.Proofs.WorkspaceSurvey

/-!
# Loading a workspace again

Changes that write no file of a source name do not matter to a workspace. The same source files are found, because only
files of such names are looked for; each holds the same bytes; and the packages around them are the same, because a
directory is a package through a file that has a source name itself.
-/

namespace CallAtlas

namespace Files.Tree

variable {t u : Tree} {mayWrite : Location → Prop} {path : String} {exclude : List String} {root : Location}

/-- No file of a source name may be written. -/
def SparesSources (mayWrite : Location → Prop) : Prop :=
  ∀ place name, mayWrite place → place.getLast? = some name → isSource name = false

/-! ## Finding the files -/

/-- The entries of a kind stay where they are if an entry of another kind is put where none of the kind is. -/
theorem map_filter_put {kind : Location × Entry → Bool} {place : Location} {entry : Entry}
    (old : ∀ e ∈ t.entries, e.1 = place → kind e = false) (new : kind (place, entry) = false) :
    ((t.put place entry).entries.filter kind).map (·.1) = (t.entries.filter kind).map (·.1) := by
  unfold put
  split
  · split
    · dsimp only
      generalize t.entries = entries at old
      induction entries with
      | nil => rfl
      | cons e entries ih =>
        obtain ⟨first, others⟩ := List.forall_mem_cons.1 old
        have unfolded : replace (e :: entries) place entry =
            (if e.1 == place then (place, entry) else e) :: replace entries place entry := rfl
        rw [unfolded]
        by_cases here : e.1 = place
        · rw [if_pos (beq_iff_eq.2 here), List.filter_cons_of_neg (by simp [new]),
            List.filter_cons_of_neg (by simp [first here]), ih others]
        · rw [if_neg (by simpa using here), List.filter_cons, List.filter_cons]
          split
          · rw [List.map_cons, List.map_cons, ih others]
          · exact ih others
    · dsimp only
      rw [List.filter_append, List.filter_cons_of_neg (by simp [new]), List.filter_nil, List.append_nil]
  · rfl

theorem isSourceBelow_iff {e : Location × Entry} :
    isSourceBelow exclude root e = true ↔ e.2 ≠ .directory ∧ ∃ way name, e.1 = root ++ way ++ [name] ∧
      isSource name = true ∧ ∀ directory ∈ way, isPruned exclude directory = false := by
  obtain ⟨place, entry⟩ := e
  simp only [isSourceBelow, Bool.and_eq_true, bne_iff_ne, List.isPrefixOf_iff_prefix]
  constructor
  · rintro ⟨⟨⟨rest, rfl⟩, other⟩, kept⟩
    rw [List.drop_left] at kept
    split at kept
    · rename_i name directories way
      rw [List.reverse_eq_cons_iff] at way
      simp only [Bool.and_eq_true, Bool.not_eq_true', List.any_eq_false, Bool.not_eq_true] at kept
      refine ⟨other, directories.reverse, name, by rw [way, List.append_assoc], kept.1, fun directory mem => ?_⟩
      exact kept.2 directory (List.mem_reverse.1 mem)
    · cases kept
  · rintro ⟨other, way, name, rfl, source, unpruned⟩
    refine ⟨⟨⟨way ++ [name], (List.append_assoc _ _ _).symm⟩, other⟩, ?_⟩
    rw [List.append_assoc, List.drop_left, List.reverse_append]
    simpa [source] using unpruned

theorem isSource_of_isSourceBelow {e : Location × Entry} (h : isSourceBelow exclude root e = true) :
    e.2 ≠ .directory ∧ ∃ name, e.1.getLast? = some name ∧ isSource name = true := by
  obtain ⟨other, way, name, place, source, -⟩ := isSourceBelow_iff.1 h
  exact ⟨other, name, by rw [place, List.getLast?_concat], source⟩

/-- Without links every entry of a source name that is no directory is a source file. -/
theorem sourcesBelow_eq (plain : t.Plain) (exclude : List String) (root : Location) :
    t.sourcesBelow exclude root = (t.entries.filter (isSourceBelow exclude root)).map (·.1) := by
  rw [sourcesBelow]
  congr 1
  refine List.filter_congr fun ⟨place, entry⟩ mem => ?_
  cases below : isSourceBelow exclude root (place, entry) with
  | false => rfl
  | true =>
    obtain ⟨-, way, name, rfl, -⟩ := isSourceBelow_iff.1 below
    cases entry with
    | link target => exact absurd ((mem_entries_iff (by simp)).1 mem) (plain.noLinks _ _)
    | file bytes => rfl
    | directory => rfl

theorem filter_isSourceBelow_change (h : Change mayWrite t u) (spares : SparesSources mayWrite) :
    (u.entries.filter (isSourceBelow exclude root)).map (·.1) =
      (t.entries.filter (isSourceBelow exclude root)).map (·.1) := by
  cases h with
  | @directory place name inside free proper =>
    refine map_filter_put (fun e mem here => ?_) ?_
    · obtain ⟨standing, entry⟩ := e
      obtain rfl : standing = place ++ [name] := here
      rw [(mem_entries_iff (by simp)).1 mem] at free
      cases free
    · refine Bool.eq_false_iff.2 fun below => ?_
      exact (isSource_of_isSourceBelow below).1 rfl
  | @file place name bytes inside noDirectory proper allowed =>
    have other : ∀ entry, isSourceBelow exclude root (place ++ [name], entry) = false := by
      intro entry
      refine Bool.eq_false_iff.2 fun below => ?_
      obtain ⟨-, last, isLast, source⟩ := isSource_of_isSourceBelow below
      rw [spares _ last allowed isLast] at source
      cases source
    refine map_filter_put (fun e _ here => ?_) (other _)
    obtain ⟨standing, entry⟩ := e
    cases here
    exact other entry

theorem sourcesBelow_changes (plain : t.Plain) (h : Changes mayWrite t u) (spares : SparesSources mayWrite) :
    u.sourcesBelow exclude root = t.sourcesBelow exclude root := by
  rw [sourcesBelow_eq (plain.changes h), sourcesBelow_eq plain]
  induction h with
  | refl => rfl
  | tail _ step ih => rw [filter_isSourceBelow_change step spares, ih]

theorem absolute_changes (changes : Changes mayWrite t u) (path : String) : u.absolute path = t.absolute path := by
  rw [absolute, absolute, currentPath, currentPath, changes.current]

/-- A path that leads to a directory or a file still does. -/
theorem reaches_changes (plain : t.Plain) (changes : Changes mayWrite t u) (h : t.exists? path = true) :
    (∃ place, t.Reaches path (.taken place .directory) ∧ u.Reaches path (.taken place .directory)) ∨
      ∃ place old new, t.Reaches path (.taken place (.file old)) ∧ u.Reaches path (.taken place (.file new)) := by
  obtain ⟨place, entry, reaches⟩ := (exists?_iff plain).1 h
  cases entry with
  | link target => exact absurd (reaches.stands plain) (plain.noLinks _ _)
  | directory => exact Or.inl ⟨place, reaches, reaches.directory_stays changes⟩
  | file bytes =>
    obtain ⟨new, -, reaches'⟩ := reaches.file_stays changes
    exact Or.inr ⟨place, bytes, new, reaches, reaches'⟩

theorem exists?_changes (plain : t.Plain) (changes : Changes mayWrite t u) (h : t.exists? path = true) :
    u.exists? path = true := by
  rw [exists?_iff (plain.changes changes)]
  rcases reaches_changes plain changes h with ⟨place, -, reaches⟩ | ⟨place, -, new, -, reaches⟩
  · exact ⟨place, _, reaches⟩
  · exact ⟨place, _, reaches⟩

theorem isDirectory_changes (plain : t.Plain) (changes : Changes mayWrite t u) (h : t.exists? path = true) :
    u.isDirectory path = t.isDirectory path := by
  have plain' := plain.changes changes
  rw [isDirectory, isDirectory]
  rcases reaches_changes plain changes h with ⟨place, was, is⟩ | ⟨place, old, new, was, is⟩
  · rw [(entry?_eq_some_iff plain).2 ⟨place, was⟩, (entry?_eq_some_iff plain').2 ⟨place, is⟩]
  · rw [(entry?_eq_some_iff plain).2 ⟨place, was⟩, (entry?_eq_some_iff plain').2 ⟨place, is⟩]
    rfl

/-- A path that leads somewhere leads to the same source files. -/
theorem sources_changes (plain : t.Plain) (changes : Changes mayWrite t u) (spares : SparesSources mayWrite)
    (h : t.exists? path = true) : u.sources exclude path = t.sources exclude path := by
  have plain' := plain.changes changes
  rw [sources, sources, absolute_changes changes]
  rcases reaches_changes plain changes h with ⟨place, was, is⟩ | ⟨place, old, new, was, is⟩
  · rw [(find_eq_ok_iff plain true).2 was, (find_eq_ok_iff plain' true).2 is]
    dsimp only
    rw [sourcesBelow_changes plain changes spares]
  · rw [(find_eq_ok_iff plain true).2 was, (find_eq_ok_iff plain' true).2 is]

/-! ## Reading the files -/

/-- A file at a path of a source name has a source name. -/
theorem Reaches.isSource_last {bytes : List UInt8} (h : t.Reaches path (.taken root (.file bytes)))
    (source : isSource path = true) : ∃ name, root.getLast? = some name ∧ isSource name = true := by
  rw [isSource, Path.extension, ← Path.splitExtension_baseChars] at source
  have nonempty : Path.baseChars path.toList ≠ [] := by
    intro none
    rw [none] at source
    exact absurd source (by decide)
  have leads := h.leads
  rw [names, Path.parts_of_base nonempty, List.map_append] at leads
  refine ⟨_, (leads.last_name (by simp)).1, ?_⟩
  rw [isSource, Path.extension, String.toList_ofList]
  exact source

theorem toList_intercalate (names : List String) :
    ("/".intercalate names).toList = Text.joinWith ['/'] (names.map String.toList) := by
  rw [String.toList_intercalate, Text.joinWith]
  rfl

theorem isPart_of_names {way : List String} (h : way.all isName = true) :
    ∀ part ∈ way.map String.toList, part ≠ [] ∧ '/' ∉ part := by
  intro part mem
  obtain ⟨name, inside, rfl⟩ := List.mem_map.1 mem
  exact isName_iff.1 (List.all_eq_true.1 h name inside)

/-- A file below a directory is found by the way to it, joined to a path of the directory. -/
theorem Reaches.below (h : t.Reaches path (.taken root .directory)) (plain : t.Plain) {way : List String}
    {bytes : List UInt8} (nonempty : way ≠ []) (found : t.get? (root ++ way) = some (.file bytes)) :
    t.Reaches (Path.join path ("/".intercalate way)) (.taken (root ++ way) (.file bytes)) := by
  have proper : ∀ name ∈ way, ProperName name := fun name mem =>
    plain.proper _ _ found name (List.mem_append_right _ mem)
  have allNames : way.all isName = true := List.all_eq_true.2 fun name mem => (proper name mem).isName
  have parts := isPart_of_names allNames
  have head := head?_intercalate_ne allNames nonempty
  have ways : names (Path.join path ("/".intercalate way)) = names path ++ way := by
    rw [names, toList_join, Path.parts_joinChars _ head, toList_intercalate, Path.parts_joinWith parts, List.map_append,
      List.map_map]
    simp [names]
  have startEq : t.start (Path.join path ("/".intercalate way)) = t.start path := by
    rw [start, start, toList_join, Path.isAbsolute_joinChars _ head]
  constructor
  case noNull =>
    rw [toList_join, Path.mem_joinChars _ head (by decide)]
    rintro (null | null)
    · exact h.noNull null
    · rw [toList_intercalate, Path.mem_iff_mem_parts (by decide), Path.parts_joinWith parts] at null
      obtain ⟨part, mem, null⟩ := null
      obtain ⟨name, inWay, rfl⟩ := List.mem_map.1 mem
      exact (proper name inWay).noNull null
  case nonempty =>
    intro none
    rw [names, none] at ways
    simp [Path.parts_nil, nonempty] at ways
  case leads =>
    rw [startEq, ways]
    exact h.leads.append (leads_of_get? plain found (h.stands plain))
  case noFile =>
    intro slash
    have some : ("/".intercalate way).toList ≠ [] := by
      intro none
      rw [toList_intercalate] at none
      have parts := Path.parts_joinWith parts
      rw [none, Path.parts_nil] at parts
      exact nonempty (List.map_eq_nil_iff.1 parts.symm)
    rw [toList_join, Path.getLast?_joinChars _ head some, toList_intercalate] at slash
    exact absurd slash (Path.getLast?_joinWith_ne parts)

/-- Every source file that is found is a file of a source name. -/
theorem exists_of_mem_sources (plain : t.Plain) (whole : t.absolute path = path) {file : String}
    (h : file ∈ t.sources exclude path) :
    ∃ place bytes name, t.Reaches file (.taken place (.file bytes)) ∧ place.getLast? = some name ∧
      isSource name = true := by
  unfold sources at h
  split at h
  · rename_i place bytes found
    have reaches := (find_eq_ok_iff plain true).1 found
    split at h
    · rename_i source
      cases List.mem_singleton.1 h
      rw [whole]
      obtain ⟨name, last⟩ := reaches.isSource_last source
      exact ⟨place, bytes, name, reaches, last⟩
    · cases h
  · rename_i place found
    have reaches := (find_eq_ok_iff plain true).1 found
    dsimp only at h
    rw [List.mem_mergeSort, whole] at h
    obtain ⟨standing, below, rfl⟩ := List.mem_map.1 h
    obtain ⟨⟨way, rfl⟩, nonempty, -⟩ := way_of_mem_sourcesBelow below
    rw [List.drop_left] at nonempty ⊢
    rw [sourcesBelow_eq plain] at below
    obtain ⟨⟨standing, entry⟩, mem, same⟩ := List.mem_map.1 below
    obtain ⟨entryMem, kind⟩ := List.mem_filter.1 mem
    obtain rfl : standing = place ++ way := same
    have there := (mem_entries_iff (by simp [nonempty])).1 entryMem
    obtain ⟨noDirectory, name, last⟩ := isSource_of_isSourceBelow kind
    cases entry with
    | directory => exact absurd rfl noDirectory
    | link target => exact absurd there (plain.noLinks _ _)
    | file bytes => exact ⟨_, bytes, name, reaches.below plain nonempty there, last⟩
  · cases h

/-- A source file that is found can be read, and holds the same bytes after the changes. -/
theorem readBytes_changes (plain : t.Plain) (changes : Changes mayWrite t u) (spares : SparesSources mayWrite)
    (whole : t.absolute path = path) {file : String} (h : file ∈ t.sources exclude path) :
    u.readBytes file = t.readBytes file := by
  obtain ⟨place, bytes, name, reaches, last, source⟩ := exists_of_mem_sources plain whole h
  have spared : ¬mayWrite place := by
    intro allowed
    rw [spares place name allowed last] at source
    cases source
  obtain ⟨new, there, reaches'⟩ := reaches.file_stays changes
  cases (reaches.stands plain).symm.trans ((changes.file_iff spared new).1 there)
  rw [(readBytes_eq_ok_iff plain).2 ⟨place, reaches⟩, (readBytes_eq_ok_iff (plain.changes changes)).2 ⟨place, reaches'⟩]

/-! ## Packages -/

theorem names_straight (straight : Path.Straight path.toList) : ∀ name ∈ names path, name ≠ "." ∧ name ≠ ".." := by
  intro name mem
  obtain ⟨part, inPath, rfl⟩ := List.mem_map.1 mem
  obtain ⟨notHere, notUp⟩ := straight part inPath
  exact ⟨fun same => notHere (String.ofList_injective same), fun same => notUp (String.ofList_injective same)⟩

/-- On a straight path of a source name the same file is found. -/
theorem isPackageDirectory_changes (plain : t.Plain) (changes : Changes mayWrite t u)
    (spares : SparesSources mayWrite) {directory : String} (straight : Path.Straight directory.toList) :
    u.isPackageDirectory directory = t.isPackageDirectory directory := by
  have plain' := plain.changes changes
  have isName : isName packageFile = true := by decide
  rw [isPackageDirectory, isPackageDirectory, Bool.eq_iff_iff, isFile_iff plain, isFile_iff plain']
  constructor
  · rintro ⟨place, bytes, reaches⟩
    have last : place.getLast? = some packageFile := (reaches.last_name isName (by simp)).1
    have spared : ¬mayWrite place := by
      intro allowed
      exact absurd (spares place packageFile allowed last) (by decide)
    have there := (changes.file_iff spared bytes).1 (reaches.stands plain')
    have straightJoin : Path.Straight (Path.join directory packageFile).toList := by
      rw [toList_join]
      exact straight.joinChars (by decide) (by decide)
    obtain ⟨rfl, -⟩ := reaches.leads.straight (plain'.start _) (names_straight straightJoin)
    rw [start_eq changes.current] at there
    refine ⟨_, bytes, reaches.noNull, reaches.nonempty, leads_of_get? plain there (plain.start _), ?_⟩
    exact fun slash => absurd slash (getLast?_join_ne isName directory)
  · rintro ⟨place, bytes, reaches⟩
    obtain ⟨new, -, reaches'⟩ := reaches.file_stays changes
    exact ⟨place, new, reaches'⟩

theorem packageChain_changes (plain : t.Plain) (changes : Changes mayWrite t u) (spares : SparesSources mayWrite)
    (rounds : Nat) {directory : String} (straight : Path.Straight directory.toList) :
    u.packageChain rounds directory = t.packageChain rounds directory := by
  induction rounds generalizing directory with
  | zero => rfl
  | succ rounds ih =>
    have above : Path.Straight (Path.directory directory).toList := by
      rw [Path.directory, String.toList_ofList]
      exact straight.directoryChars
    rw [packageChain, packageChain, isPackageDirectory_changes plain changes spares straight, ih above]

theorem isAbsolute_currentPath (t : Tree) : Path.isAbsolute t.currentPath.toList = true := by
  rw [currentPath, pathOf, String.toList_append]
  rfl

theorem absolute_spec (t : Tree) (path : String) :
    Path.Straight (t.absolute path).toList ∧ t.absolute (t.absolute path) = t.absolute path := by
  obtain ⟨straight, -, again⟩ := Path.absoluteChars_spec t.isAbsolute_currentPath path.toList
  rw [absolute, absolute, Path.absolute, Path.absolute, String.toList_ofList, again]
  exact ⟨straight, rfl⟩

theorem moduleName_changes (plain : t.Plain) (changes : Changes mayWrite t u) (spares : SparesSources mayWrite)
    (file : String) : u.moduleName file = t.moduleName file := by
  have straight : Path.Straight (Path.directory (t.absolute file)).toList := by
    rw [Path.directory, String.toList_ofList]
    exact (t.absolute_spec file).1.directoryChars
  unfold moduleName
  rw [absolute_changes changes]
  dsimp only
  rw [packageChain_changes plain changes spares _ straight]

end Files.Tree

/-! ## The index -/

namespace Workspace

open Files.Tree

variable {codecs : Source.Codecs} {t u : Files.Tree} {mayWrite : Files.Location → Prop} {exclude : List String}
  {guesses : Bool} {path : String} {w : Index}

theorem ofFile_eq {assembly : String} {id : ModuleId} (h : u.readBytes id.path = t.readBytes id.path) :
    ModuleEntry.ofFile codecs u assembly id = ModuleEntry.ofFile codecs t assembly id := by
  rw [ModuleEntry.ofFile, ModuleEntry.ofFile, sourceText, sourceText, h]

/-- What was loaded is loaded again after changes that spare the source files. -/
theorem load_changes (plain : t.Plain) (changes : Files.Tree.Changes mayWrite t u) (spares : SparesSources mayWrite)
    (h : load codecs t exclude guesses path = .ok w) : load codecs u exclude guesses path = .ok w := by
  obtain ⟨found, some, modules, indexed, whole⟩ := (Index.load_eq_ok_iff rfl rfl).1 h
  have root := absolute_changes changes path
  have project : projectAt u (t.absolute path) = projectAt t (t.absolute path) := by
    rw [projectAt, projectAt, isDirectory_changes plain changes found]
  refine (Index.load_eq_ok_iff root (sources_changes plain changes spares found)).2 ⟨?_, some, modules, ?_, ?_⟩
  · exact exists?_changes plain changes found
  · rw [← indexed]
    refine mapM_congr fun file mem => ?_
    rw [Index.moduleOf, Index.moduleOf, project, moduleName_changes plain changes spares]
    exact ofFile_eq (readBytes_changes plain changes spares (t.absolute_spec path).2 mem)
  · rw [project]
    exact whole

end Workspace

end CallAtlas
