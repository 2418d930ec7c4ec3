import CallAtlas.Proofs.Reload
import Mathlib.Data.List.DropRight
import Mathlib.Data.List.Sort
import Mathlib.Data.String.Basic

/-!
# Finding the modules of a directory

What a search for modules gives, said in terms of locations alone: the files of a source name that no pruned directory is
around, in the order of their paths, each under its own name behind those of the packages around it. The packages around a
place are the longest row of directories up from it that all hold a package file, which may leave the directory that is
searched. As the files are in order at the end, it does not matter in which order the entries are listed.
-/

namespace CallAtlas.Files.Tree

variable {t u : Tree} {path : String} {place : Location} {exclude : List String}

/-! ## The location of a path -/

theorem step_name {name : String} (fits : Fits name) (place : Location) :
    Path.step true (place.map String.toList).reverse name.toList = ((place ++ [name]).map String.toList).reverse := by
  have notHere : name.toList ≠ Path.here := fun same => fits.notHere (String.toList_inj.1 same)
  have notUp : name.toList ≠ Path.up := fun same => fits.notUp (String.toList_inj.1 same)
  simp [Path.step, notHere, notUp]

theorem step_up (noUp : ∀ name ∈ place, name ≠ "..") :
    Path.step true (place.map String.toList).reverse "..".toList = (place.dropLast.map String.toList).reverse := by
  rcases List.eq_nil_or_concat place with rfl | ⟨above, name, rfl⟩
  · rfl
  · rw [List.concat_eq_append] at noUp ⊢
    have other : name.toList ≠ Path.up := fun same => noUp name (by simp) (String.toList_inj.1 same)
    have unfolded : Path.step true (name.toList :: (above.map String.toList).reverse) "..".toList =
        if name.toList == Path.up then Path.up :: name.toList :: (above.map String.toList).reverse
        else (above.map String.toList).reverse := rfl
    rw [List.map_append, List.reverse_append, List.dropLast_concat]
    exact unfolded.trans (if_neg (by simpa using other))

/-- A way through the tree goes where the steps on the text of the path go. -/
theorem Leads.foldl_step {names : List String} {standing : Location} {entry : Entry}
    (h : t.Leads place names (.taken standing entry)) (noUp : ∀ name ∈ place, name ≠ "..") :
    (names.map String.toList).foldl (Path.step true) (place.map String.toList).reverse =
      (standing.map String.toList).reverse := by
  generalize reached : Spot.taken standing entry = goal at h
  induction h with
  | done =>
    cases reached
    rfl
  | stay _ ih => exact ih noUp reached
  | up _ ih =>
    rw [List.map_cons, List.foldl_cons, step_up noUp]
    exact ih (fun name mem => noUp name (List.dropLast_subset _ mem)) reached
  | enter fits _ _ ih =>
    rw [List.map_cons, List.foldl_cons, step_name fits]
    refine ih ?_ reached
    simpa [or_imp, forall_and, fits.notUp] using noUp
  | file fits _ =>
    cases reached
    exact step_name fits _
  | free => cases reached

theorem map_toList_names (path : String) : (names path).map String.toList = Path.parts path.toList := by
  simp [names]

theorem Plain.noUp (plain : t.Plain) {entry : Entry} (stands : t.get? place = some entry) : ∀ name ∈ place, name ≠ ".." :=
  fun name mem => (plain.proper _ _ stands name mem).notUp

theorem names_currentPath (plain : t.Plain) : names t.currentPath = t.current := by
  have parts := isPart_of_names (all_isName_of_get? plain.current)
  have chars : t.currentPath.toList = '/' :: ("/".intercalate t.current).toList := by
    rw [currentPath, pathOf, String.toList_append]
    rfl
  rw [names, chars, Path.parts_cons, toList_intercalate, Path.parts_joinWith parts]
  simp

/-- The whole path of something that is there is absolute, has the names of its location, and ends in the last of them. -/
theorem absolute_of_reaches (plain : t.Plain) {entry : Entry} (h : t.Reaches path (.taken place entry)) :
    Path.isAbsolute (t.absolute path).toList = true ∧ names (t.absolute path) = place ∧
      (place ≠ [] → Path.baseChars (t.absolute path).toList ≠ []) := by
  have leads := h.leads
  -- the path from the root, which is put into its shortest form
  obtain ⟨chars, shortest, absolute, steps⟩ : ∃ chars, (t.absolute path).toList = Path.normalizeChars chars ∧
      Path.isAbsolute chars = true ∧
      (Path.parts chars).foldl (Path.step true) [] = (place.map String.toList).reverse := by
    rw [Tree.absolute, Path.absolute, String.toList_ofList, Path.absoluteChars]
    by_cases absolute : Path.isAbsolute path.toList = true
    · rw [start, if_pos absolute] at leads
      have steps := leads.foldl_step (by simp)
      rw [map_toList_names] at steps
      exact ⟨path.toList, by rw [if_pos absolute], absolute, steps⟩
    · rw [start, if_neg absolute] at leads
      have head : path.toList.head? ≠ some '/' := by simpa [Path.isAbsolute] using absolute
      have toCurrent : t.Leads [] t.current (.taken t.current .directory) := leads_of_get? plain plain.current rfl
      have first := toCurrent.foldl_step (by simp)
      have second := leads.foldl_step (plain.noUp plain.current)
      refine ⟨_, by rw [if_neg absolute], ?_, ?_⟩
      · rw [Path.isAbsolute_joinChars _ head, isAbsolute_currentPath]
      · rw [Path.parts_joinChars _ head, List.foldl_append, ← map_toList_names, ← map_toList_names,
          names_currentPath plain, ← second, ← first]
        rfl
  have normal : Path.normalParts chars = place.map String.toList := by
    rw [Path.normalParts, absolute, steps, List.reverse_reverse]
  obtain ⟨parts, -, again⟩ := Path.parts_normalizeChars absolute
  rw [shortest, names, shortest, parts, normal]
  refine ⟨again, by simp, fun nonempty => Path.baseChars_normalizeChars_ne absolute ?_⟩
  rw [normal]
  simpa using nonempty

/-! ## Packages -/

/-- A directory with a package file, by its location. -/
def isPackageAt (t : Tree) (place : Location) : Bool :=
  match t.get? (place ++ [packageFile]) with
  | some (.file _) => true
  | _ => false

/-- The packages around a place: the longest row of directories up from it, its own directory included, that all hold a
package file. They are given from the outermost on. -/
def packagesAround (t : Tree) (place : Location) : List Location := place.inits.rtakeWhile t.isPackageAt

/-- The name of a directory. The root has the empty one. -/
def ownName (place : Location) : String := place.getLastD ""

theorem packagesAround_nil (t : Tree) : t.packagesAround [] = if t.isPackageAt [] then [[]] else [] :=
  List.rtakeWhile_concat t.isPackageAt [] []

theorem packagesAround_concat (t : Tree) (place : Location) (name : String) :
    t.packagesAround (place ++ [name]) =
      if t.isPackageAt (place ++ [name]) then t.packagesAround place ++ [place ++ [name]] else [] := by
  rw [packagesAround, List.inits_append]
  exact List.rtakeWhile_concat t.isPackageAt place.inits (place ++ [name])

/-- The names of an absolute path lead to the directory that is there. -/
theorem reaches_of_names (plain : t.Plain) {directory : String} (absolute : Path.isAbsolute directory.toList = true)
    (stands : t.get? (names directory) = some .directory) : t.Reaches directory (.taken (names directory) .directory) where
  noNull := by
    rw [Path.mem_iff_mem_parts (by decide)]
    rintro ⟨part, mem, null⟩
    have proper := plain.proper _ _ stands _ (List.mem_map_of_mem mem)
    exact proper.noNull (by rwa [String.toList_ofList])
  nonempty := by
    intro none
    rw [none] at absolute
    cases absolute
  leads := by
    rw [start, if_pos absolute]
    exact leads_of_get? plain stands rfl
  noFile := by simp

theorem isPackageDirectory_eq (plain : t.Plain) {directory : String}
    (h : t.Reaches directory (.taken place .directory)) : t.isPackageDirectory directory = t.isPackageAt place := by
  have reaches := h.join plain (by decide : ProperName packageFile)
  rw [isPackageDirectory, Bool.eq_iff_iff, isFile_iff plain]
  constructor
  · rintro ⟨standing, bytes, file⟩
    have spot := reaches.unique plain file
    unfold spotIn at spot
    unfold isPackageAt
    split at spot <;> cases spot
    rename_i found
    rw [found]
  · intro package
    unfold isPackageAt at package
    split at package
    · rename_i bytes found
      rw [spotIn, found] at reaches
      exact ⟨_, bytes, reaches⟩
    · cases package

theorem names_directory (h : Path.baseChars path.toList ≠ []) :
    names path = names (Path.directory path) ++ [Path.base path] := by
  rw [names, names, Path.directory, String.toList_ofList, Path.parts_directoryChars, Path.parts_of_base h, List.map_append]
  rfl

/-- A path on the way up from a file: the absolute path of a directory, which ends in its last name if it has any. -/
structure IsAbove (t : Tree) (directory : String) : Prop where
  absolute : Path.isAbsolute directory.toList = true
  stands : t.get? (names directory) = some .directory
  ends : Path.baseChars directory.toList = [] → names directory = []

theorem isAbove_directory (plain : t.Plain) (absolute : Path.isAbsolute path.toList = true)
    (nonempty : Path.baseChars path.toList ≠ []) {entry : Entry} (stands : t.get? (names path) = some entry) :
    t.IsAbove (Path.directory path) where
  absolute := by
    rw [Path.directory, String.toList_ofList]
    exact Path.isAbsolute_directoryChars absolute
  stands := by
    rw [names_directory nonempty] at stands
    exact plain.inside _ _ _ stands
  ends := by
    rw [names, Path.directory, String.toList_ofList]
    exact fun none => congrArg (List.map _) (Path.parts_directoryChars_of_base none)

theorem length_directory_lt (h : Path.baseChars path.toList ≠ []) : (Path.directory path).length < path.length := by
  rw [Path.directory, String.length_ofList]
  exact Path.length_directoryChars_lt h

/-- The names of the packages around a directory are those of its location. The paths on the way up get shorter, so all
of them are met. -/
theorem packageChain_eq (plain : t.Plain) {rounds : Nat} {directory : String} (above : t.IsAbove directory)
    (enough : directory.length < rounds) :
    t.packageChain rounds directory = ((t.packagesAround (names directory)).map ownName).reverse := by
  induction rounds generalizing directory with
  | zero => exact absurd enough (Nat.not_lt_zero _)
  | succ rounds ih =>
    rw [packageChain, isPackageDirectory_eq plain (reaches_of_names plain above.absolute above.stands)]
    dsimp only
    by_cases none : Path.baseChars directory.toList = []
    · rw [above.ends none, packagesAround_nil, Path.base, none]
      cases t.isPackageAt [] <;> rfl
    · have named : Path.base directory ≠ "" := fun empty => none (String.ofList_injective empty)
      have shorter := length_directory_lt none
      have chain := ih (isAbove_directory plain above.absolute none above.stands) (by omega)
      rw [names_directory none, packagesAround_concat, chain]
      cases t.isPackageAt (names (Path.directory directory) ++ [Path.base directory]) with
      | false => rfl
      | true => simp [named, ownName]

/-- The name of a module, from the location of its file. -/
theorem moduleName_of_reaches (plain : t.Plain) {name : String} {bytes : List UInt8}
    (h : t.Reaches path (.taken (place ++ [name]) (.file bytes))) :
    t.moduleName path = ".".intercalate ((t.packagesAround place).map ownName ++
      if name = packageFile then [] else [Path.stem name]) := by
  obtain ⟨absolute, located, ends⟩ := absolute_of_reaches plain h
  have nonempty := ends (by simp)
  have stands : t.get? (names (t.absolute path)) = some (.file bytes) := by
    rw [located]
    exact h.stands plain
  have above := isAbove_directory plain absolute nonempty stands
  have split := (names_directory nonempty).symm.trans located
  obtain ⟨directory, base⟩ := List.append_inj' split (by simp)
  unfold moduleName
  dsimp only
  rw [packageChain_eq plain above (length_directory_lt nonempty), directory, List.singleton_inj.1 base,
    List.reverse_reverse]
  simp

/-! ## Source files -/

theorem toList_append_py (stem : String) : (stem ++ ".py").toList = stem.toList ++ '.' :: ['p', 'y'] := String.toList_append

theorem isSource_iff {name : String} (h : isName name = true) :
    isSource name = true ↔ ∃ stem, name = stem ++ ".py" ∧ ∃ c ∈ stem.toList, c ≠ '.' := by
  have slash := (isName_iff.1 h).2
  rw [isSource, beq_iff_eq, Path.extension]
  constructor
  · intro extension
    have chars : (Path.splitExtension name.toList).2 = '.' :: ['p', 'y'] := String.ofList_injective extension
    obtain ⟨stem, whole, solid⟩ := Path.exists_stem_of_splitExtension slash chars
    refine ⟨String.ofList stem, String.toList_inj.1 ?_, by rwa [String.toList_ofList]⟩
    rw [toList_append_py, String.toList_ofList, whole]
  · rintro ⟨stem, rfl, solid⟩
    rw [toList_append_py] at slash ⊢
    rw [Path.splitExtension_append slash solid (by decide)]

theorem stem_append_py {stem : String} (h : isName (stem ++ ".py") = true) (solid : ∃ c ∈ stem.toList, c ≠ '.') :
    Path.stem (stem ++ ".py") = stem := by
  have slash := (isName_iff.1 h).2
  rw [toList_append_py] at slash
  rw [Path.stem, toList_append_py, Path.splitExtension_append slash solid (by decide), String.ofList_toList]

theorem isPruned_eq_false_iff {name : String} :
    isPruned exclude name = false ↔ name ∉ exclude ∧ name.toList.head? ≠ some '.' := by
  simp [isPruned]

/-- The source files below a directory, by location. -/
theorem mem_sourcesBelow_iff (plain : t.Plain) {found : Location} :
    found ∈ t.sourcesBelow exclude place ↔ ∃ way name bytes, found = place ++ way ++ [name] ∧
      t.get? found = some (.file bytes) ∧ isSource name = true ∧ ∀ directory ∈ way, isPruned exclude directory = false := by
  rw [sourcesBelow_eq plain]
  constructor
  · intro mem
    obtain ⟨⟨standing, entry⟩, kept, rfl⟩ := List.mem_map.1 mem
    obtain ⟨there, below⟩ := List.mem_filter.1 kept
    obtain ⟨other, way, name, rfl, source, unpruned⟩ := isSourceBelow_iff.1 below
    have stands := (mem_entries_iff (by simp)).1 there
    cases entry with
    | directory => exact absurd rfl other
    | link target => exact absurd stands (plain.noLinks _ _)
    | file bytes => exact ⟨way, name, bytes, rfl, stands, source, unpruned⟩
  · rintro ⟨way, name, bytes, rfl, stands, source, unpruned⟩
    refine List.mem_map.2 ⟨(_, .file bytes), List.mem_filter.2 ⟨(mem_entries_iff (by simp)).2 stands, ?_⟩, rfl⟩
    exact isSourceBelow_iff.2 ⟨by simp, way, name, rfl, source, unpruned⟩

/-- The path of what is found below a directory, joined to a path of that. -/
def pathBelow (root : String) (place found : Location) : String := Path.join root ("/".intercalate (found.drop place.length))

theorem sources_of_directory (found : t.find true path = .ok (.taken place .directory)) :
    t.sources exclude path = ((t.sourcesBelow exclude place).map (pathBelow (t.absolute path) place)).mergeSort := by
  rw [sources, found]
  rfl

/-- A source file that is found is reached by its path. -/
theorem reaches_pathBelow (plain : t.Plain) (h : t.Reaches path (.taken place .directory)) {way : Location} {name : String}
    {bytes : List UInt8} (stands : t.get? (place ++ way ++ [name]) = some (.file bytes)) :
    t.Reaches (pathBelow (t.absolute path) place (place ++ way ++ [name]))
      (.taken (place ++ way ++ [name]) (.file bytes)) := by
  obtain ⟨absolute, located, -⟩ := absolute_of_reaches plain h
  have there := reaches_of_names plain absolute (by rw [located]; exact h.stands plain)
  rw [List.append_assoc] at stands ⊢
  rw [located] at there
  rw [pathBelow, List.drop_left]
  exact there.below plain (by simp) stands

/-! ## Any order of the entries -/

/-- Paths in order do not show which order they were in before. -/
theorem mergeSort_eq_of_perm {paths others : List String} (h : paths.Perm others) :
    paths.mergeSort = others.mergeSort := by
  refine List.Perm.eq_of_pairwise' (List.pairwise_mergeSort' (· ≤ ·) _) (List.pairwise_mergeSort' (· ≤ ·) _) ?_
  exact ((List.mergeSort_perm _ _).trans h).trans (List.mergeSort_perm _ _).symm

theorem increasing_sources (found : t.find true path = .ok (.taken place .directory)) :
    (t.sources exclude path).Pairwise (· < ·) := by
  have sorted : (t.sources exclude path).Pairwise (· ≤ ·) := by
    rw [sources_of_directory found]
    exact List.pairwise_mergeSort' (· ≤ ·) _
  refine (sorted.and (nodup_sources t exclude path)).imp fun ⟨le, other⟩ => ?_
  by_contra notBefore
  exact other (String.le_antisymm le (String.not_lt.1 notBefore))

section Permuted

variable (entries : u.entries.Perm t.entries)
include entries

theorem get?_of_perm : u.get? = t.get? := by
  funext place
  by_cases root : place = []
  · rw [root]
    rfl
  · refine Option.ext fun entry => ?_
    rw [← mem_entries_iff root, ← mem_entries_iff root, entries.mem_iff]

theorem walkTo_of_perm : u.walkTo = t.walkTo := by
  funext follow jump place names
  induction names generalizing place with
  | nil => rfl
  | cons name rest ih => simp only [walkTo, ih, get?_of_perm entries]

theorem walk_of_perm : u.walk = t.walk := by
  funext follow links
  induction links with
  | zero => rw [walk, walk, walkTo_of_perm entries]
  | succ links ih => rw [walk, walk, walkTo_of_perm entries, ih]

variable (current : u.current = t.current)
include current

theorem find_of_perm : u.find = t.find := by
  funext follow path
  rw [find, find, walk_of_perm entries, current]

theorem sourcesBelow_of_perm : (u.sourcesBelow exclude place).Perm (t.sourcesBelow exclude place) := by
  have links : u.isDirectoryLink = t.isDirectoryLink := by
    funext e
    rw [isDirectoryLink, isDirectoryLink, isDirectory, isDirectory, entry?, entry?, find_of_perm entries current]
  rw [sourcesBelow, sourcesBelow, links]
  exact (entries.filter _).map _

theorem packageChain_of_perm (rounds : Nat) (directory : String) :
    u.packageChain rounds directory = t.packageChain rounds directory := by
  induction rounds generalizing directory with
  | zero => rfl
  | succ rounds ih =>
    have package : u.isPackageDirectory directory = t.isPackageDirectory directory := by
      rw [isPackageDirectory, isPackageDirectory, isFile, isFile, entry?, entry?, find_of_perm entries current]
    rw [packageChain, packageChain, package, ih]

/-- The order of the entries does not matter. -/
theorem modules_of_perm : u.modules exclude path = t.modules exclude path := by
  have absolute : u.absolute = t.absolute := by
    funext path
    rw [Tree.absolute, Tree.absolute, currentPath, currentPath, current]
  have found : u.sources exclude path = t.sources exclude path := by
    rw [sources, sources, find_of_perm entries current, absolute]
    split
    · rfl
    · exact mergeSort_eq_of_perm ((sourcesBelow_of_perm entries current).map _)
    · rfl
  rw [modules, modules, found]
  refine List.map_congr_left fun file _ => ?_
  rw [moduleName, moduleName, absolute, packageChain_of_perm entries current]

end Permuted

/-! ## The search, directory by directory -/

/-- The source files that a search from a directory meets: the source files among its entries, in the order in which they
are listed, and those met in the directories among them that are not pruned. It goes `depth` levels down. -/
def searched (list : Location → List (String × Entry)) (exclude : List String) (depth : Nat) (place : Location) :
    List Location :=
  match depth with
  | 0 => []
  | depth + 1 => (list place).flatMap fun child =>
    if child.2 == .directory then
      if isPruned exclude child.1 then [] else searched list exclude depth (place ++ [child.1])
    else if isSource child.1 then [place ++ [child.1]] else []

/-- An entry as a child of a directory. -/
def childAt? (place : Location) (e : Location × Entry) : Option (String × Entry) :=
  match e.1.getLast? with
  | some name => if e.1.dropLast == place then some (name, e.2) else none
  | none => none

theorem children_eq (t : Tree) (place : Location) : t.children place = t.entries.filterMap (childAt? place) := rfl

theorem childAt?_eq_some_iff {e : Location × Entry} {child : String × Entry} :
    childAt? place e = some child ↔ e = (place ++ [child.1], child.2) := by
  obtain ⟨standing, entry⟩ := e
  rcases List.eq_nil_or_concat standing with rfl | ⟨above, name, rfl⟩
  · simp [childAt?]
  · obtain ⟨name', entry'⟩ := child
    simp only [childAt?, List.concat_eq_append, List.getLast?_concat, List.dropLast_concat]
    by_cases here : above = place
    · simp [here]
    · simp [here]

theorem mem_children_iff {child : String × Entry} :
    child ∈ t.children place ↔ t.get? (place ++ [child.1]) = some child.2 := by
  rw [children_eq, List.mem_filterMap]
  simp only [childAt?_eq_some_iff, exists_eq_right]
  exact mem_entries_iff (by simp)

theorem children_distinct (t : Tree) (place : Location) : (t.children place).Pairwise fun a b => a.1 ≠ b.1 := by
  rw [children_eq, List.pairwise_filterMap]
  have distinct : t.entries.Pairwise fun e e' => e.1 ≠ e'.1 := List.pairwise_map.1 t.distinct
  refine distinct.imp fun {e e'} other child at' child' at'' same => other ?_
  rw [childAt?_eq_some_iff.1 at', childAt?_eq_some_iff.1 at'', same]

section Search

variable {list : Location → List (String × Entry)} (lists : ∀ place, (list place).Perm (t.children place))
include lists

/-- What a search meets lies at the end of a way that it may go; the first name of the way is the child it enters. -/
theorem mem_searched_iff (plain : t.Plain) {depth : Nat} {found : Location} :
    found ∈ searched list exclude depth place ↔ ∃ way name bytes, way.length < depth ∧ found = place ++ way ++ [name] ∧
      t.get? found = some (.file bytes) ∧ isSource name = true ∧ ∀ directory ∈ way, isPruned exclude directory = false := by
  induction depth generalizing place with
  | zero => simp [searched]
  | succ depth ih =>
    simp only [searched, List.mem_flatMap, (lists place).mem_iff, mem_children_iff]
    constructor
    · rintro ⟨⟨name, entry⟩, stands, met⟩
      cases entry with
      | link target => exact absurd stands (plain.noLinks _ _)
      | file bytes =>
        simp only [beq_iff_eq, reduceCtorEq, if_false] at met
        split at met
        · rename_i source
          cases List.mem_singleton.1 met
          exact ⟨[], name, bytes, Nat.succ_pos _, by simp, stands, source, by simp⟩
        · cases met
      | directory =>
        simp only [beq_self_eq_true, if_true] at met
        split at met
        · cases met
        · rename_i kept
          obtain ⟨way, base, bytes, short, rfl, there, source, unpruned⟩ := ih.1 met
          refine ⟨name :: way, base, bytes, Nat.succ_lt_succ short, by simp, there, source, ?_⟩
          exact List.forall_mem_cons.2 ⟨Bool.eq_false_iff.2 kept, unpruned⟩
    · rintro ⟨way, name, bytes, short, rfl, stands, source, unpruned⟩
      cases way with
      | nil => exact ⟨(name, .file bytes), by simpa using stands, by simp [source]⟩
      | cons directory way =>
        obtain ⟨kept, unpruned⟩ := List.forall_mem_cons.1 unpruned
        have entered : place ++ directory :: way ++ [name] = place ++ [directory] ++ way ++ [name] := by simp
        -- the child is a directory, as something stands below it
        have inside : t.get? (place ++ [directory]) = some .directory := by
          rw [entered, List.append_assoc] at stands
          exact plain.directory_of_below (by simp) stands
        refine ⟨(directory, .directory), inside, ?_⟩
        simp only [beq_self_eq_true, if_true, kept, Bool.false_eq_true, if_false]
        exact ih.2 ⟨way, name, bytes, Nat.lt_of_succ_lt_succ short, entered, stands, source, unpruned⟩

theorem nodup_searched (plain : t.Plain) (depth : Nat) (place : Location) :
    (searched list exclude depth place).Nodup := by
  induction depth generalizing place with
  | zero => exact List.nodup_nil
  | succ depth ih =>
    rw [searched, List.nodup_flatMap]
    constructor
    · intro child _
      split
      · split
        · exact List.nodup_nil
        · exact ih _
      · split <;> simp
    · have distinct := (List.Perm.pairwise_iff (fun other => other.symm) (lists place)).2 (children_distinct t place)
      refine distinct.imp fun {a b} other found met met' => other ?_
      -- what is met through a child lies below its name
      have below : ∀ child : String × Entry, found ∈ (if child.2 == .directory then
          if isPruned exclude child.1 then [] else searched list exclude depth (place ++ [child.1])
          else if isSource child.1 then [place ++ [child.1]] else []) → found[place.length]? = some child.1 := by
        intro child met
        split at met
        · split at met
          · cases met
          · obtain ⟨way, name, -, -, rfl, -⟩ := (mem_searched_iff lists plain).1 met
            simp
        · split at met
          · cases List.mem_singleton.1 met
            simp
          · cases met
      exact Option.some.inj ((below a met).symm.trans (below b met'))

/-- The search meets each source file once. -/
theorem searched_perm (plain : t.Plain) {depth : Nat} (deep : ∀ e ∈ t.entries, e.1.length ≤ depth) :
    (searched list exclude depth place).Perm (t.sourcesBelow exclude place) := by
  rw [List.perm_ext_iff_of_nodup (nodup_searched lists plain depth place) nodup_sourcesBelow]
  intro found
  rw [mem_searched_iff lists plain, mem_sourcesBelow_iff plain]
  constructor
  · rintro ⟨way, name, bytes, -, met⟩
    exact ⟨way, name, bytes, met⟩
  · rintro ⟨way, name, bytes, rfl, stands, kept⟩
    have short := deep _ ((mem_entries_iff (by simp)).2 stands)
    simp only [List.length_append, List.length_singleton] at short
    exact ⟨way, name, bytes, by omega, rfl, stands, kept⟩

end Search

/-! ## What is found -/

/-- The modules below a directory, which stands at `place` and has the path `root`. -/
structure ListsModules (t : Tree) (exclude : List String) (root : String) (place : Location)
    (modules : List (String × String)) : Prop where
  /-- They are the files with a stem before `.py` that no directory below the root hides, each under its name in the
  packages around it. -/
  mem_iff : ∀ name file, (name, file) ∈ modules ↔ ∃ way stem bytes,
    t.get? (place ++ way ++ [stem ++ ".py"]) = some (.file bytes) ∧ (∃ c ∈ stem.toList, c ≠ '.') ∧
    (∀ directory ∈ way, directory ∉ exclude ∧ directory.toList.head? ≠ some '.') ∧
    file = Path.join root ("/".intercalate (way ++ [stem ++ ".py"])) ∧
    name = ".".intercalate ((t.packagesAround (place ++ way)).map ownName ++ if stem = "__init__" then [] else [stem])
  increasing : (modules.map (·.2)).Pairwise (· < ·)

theorem mem_modules_iff (plain : t.Plain) (found : t.find true path = .ok (.taken place .directory)) {name file : String} :
    (name, file) ∈ t.modules exclude path ↔ ∃ way base bytes,
      t.get? (place ++ way ++ [base]) = some (.file bytes) ∧ isSource base = true ∧
      (∀ directory ∈ way, isPruned exclude directory = false) ∧
      file = Path.join (t.absolute path) ("/".intercalate (way ++ [base])) ∧
      name = ".".intercalate ((t.packagesAround (place ++ way)).map ownName ++
        if base = packageFile then [] else [Path.stem base]) := by
  have reaches := (find_eq_ok_iff plain true).1 found
  have joined : ∀ (way : Location) base, pathBelow (t.absolute path) place (place ++ way ++ [base]) =
      Path.join (t.absolute path) ("/".intercalate (way ++ [base])) := by
    intro way base
    rw [pathBelow, List.append_assoc, List.drop_left]
  rw [modules, sources_of_directory found, List.mem_map]
  simp only [List.mem_mergeSort, List.mem_map, mem_sourcesBelow_iff plain, Prod.mk.injEq]
  constructor
  · rintro ⟨_, ⟨_, ⟨way, base, bytes, rfl, stands, source, unpruned⟩, rfl⟩, rfl, rfl⟩
    refine ⟨way, base, bytes, stands, source, unpruned, joined way base, ?_⟩
    exact moduleName_of_reaches plain (reaches_pathBelow plain reaches stands)
  · rintro ⟨way, base, bytes, stands, source, unpruned, rfl, rfl⟩
    refine ⟨_, ⟨_, ⟨way, base, bytes, rfl, stands, source, unpruned⟩, rfl⟩, ?_, joined way base⟩
    exact moduleName_of_reaches plain (reaches_pathBelow plain reaches stands)

theorem listsModules_modules (plain : t.Plain) (found : t.find true path = .ok (.taken place .directory)) :
    t.ListsModules exclude (t.absolute path) place (t.modules exclude path) where
  mem_iff name file := by
    have named : ∀ {way : Location} {base bytes}, t.get? (place ++ way ++ [base]) = some (.file bytes) → isName base = true :=
      fun stands => (plain.proper _ _ stands _ (by simp)).isName
    have own : ∀ {stem : String}, isName (stem ++ ".py") = true → (∃ c ∈ stem.toList, c ≠ '.') →
        (if stem ++ ".py" = packageFile then [] else [Path.stem (stem ++ ".py")]) =
          if stem = "__init__" then [] else [stem] := by
      intro stem name solid
      have whole : packageFile = "__init__" ++ ".py" := by decide
      simp only [stem_append_py name solid, whole, String.append_left_inj]
    rw [mem_modules_iff plain found]
    simp only [isPruned_eq_false_iff]
    constructor
    · rintro ⟨way, base, bytes, stands, source, unpruned, rfl, rfl⟩
      obtain ⟨stem, rfl, solid⟩ := (isSource_iff (named stands)).1 source
      exact ⟨way, stem, bytes, stands, solid, unpruned, rfl, by rw [own (named stands) solid]⟩
    · rintro ⟨way, stem, bytes, stands, solid, unpruned, rfl, rfl⟩
      refine ⟨way, stem ++ ".py", bytes, stands, (isSource_iff (named stands)).2 ⟨stem, rfl, solid⟩, unpruned, rfl, ?_⟩
      rw [own (named stands) solid]
  increasing := by
    have files : (t.modules exclude path).map (·.2) = t.sources exclude path := by
      rw [modules, List.map_map]
      exact List.map_id' _
    rw [files]
    exact increasing_sources found

/-- **Discovery is exact**: the modules of a directory in a tree without links are just the source files below it that are
not hidden, each once and in the order of their paths. They are the same for any order of the entries, and for a search
from directory to directory in any order. -/
theorem modules_found_exactly (plain : t.Plain) (found : t.find true path = .ok (.taken place .directory))
    (exclude : List String) :
    t.ListsModules exclude (t.absolute path) place (t.modules exclude path) ∧
      (∀ u : Tree, u.entries.Perm t.entries → u.current = t.current → u.modules exclude path = t.modules exclude path) ∧
      ∀ list : Location → List (String × Entry), (∀ place, (list place).Perm (t.children place)) →
        ∀ depth, (∀ e ∈ t.entries, e.1.length ≤ depth) →
          (((searched list exclude depth place).map (pathBelow (t.absolute path) place)).mergeSort.map fun file =>
            (t.moduleName file, file)) = t.modules exclude path := by
  refine ⟨listsModules_modules plain found, fun u entries current => modules_of_perm entries current, ?_⟩
  intro list lists depth deep
  rw [modules, sources_of_directory found, mergeSort_eq_of_perm ((searched_perm lists plain deep).map _)]

namespace Sample

/-- A package in a package, and below it three directories that are none. -/
def nested : Tree :=
  [["proj", "__init__.py"], ["proj", "lib", "__init__.py"], ["proj", "lib", "core.py"], ["proj", "lib", "docs", "c.py"],
    ["proj", "lib", "build", "b.py"], ["proj", "lib", ".x", "a.py"]].foldl
      (fun t place => t.place ("W" :: place) (.file [])) (.empty ["W"])

theorem plain_nested : nested.Plain := plain_of_all _ (by decide +kernel) (by decide +kernel)

end Sample

theorem modules_found_exactly_nested :
    Sample.nested.ListsModules defaultExcludes "/W/proj/lib" ["W", "proj", "lib"]
        (Sample.nested.modules defaultExcludes "proj/lib") ∧
      ("proj.lib.core", "/W/proj/lib/core.py") ∈ Sample.nested.modules defaultExcludes "proj/lib" ∧
      ("c", "/W/proj/lib/docs/c.py") ∈ Sample.nested.modules defaultExcludes "proj/lib" := by
  have found : Sample.nested.find true "proj/lib" = .ok (.taken ["W", "proj", "lib"] .directory) := by decide +kernel
  have whole : Sample.nested.absolute "proj/lib" = "/W/proj/lib" := by decide +kernel
  have listed := (modules_found_exactly Sample.plain_nested found defaultExcludes).1
  rw [whole] at listed
  refine ⟨listed, (listed.mem_iff _ _).2 ⟨[], "core", [], ?_⟩, (listed.mem_iff _ _).2 ⟨["docs"], "c", [], ?_⟩⟩
  · exact ⟨by decide +kernel, ⟨'c', by decide, by decide⟩, by decide, by decide +kernel, by decide +kernel⟩
  · exact ⟨by decide +kernel, ⟨'c', by decide, by decide⟩, by decide, by decide +kernel, by decide +kernel⟩

end CallAtlas.Files.Tree
