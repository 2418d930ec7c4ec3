import CallAtlas.Proofs.Finding
import CallAtlas.Workspace.Imports
import Mathlib.Logic.Function.Iterate

/-!
# Relative imports

A module is named by the directories around its file, and a relative import is resolved from the name of the module that it
stands in, without a look at the directories. The two agree: as many directories up as there are points, and then down
along the parts of what is imported, lies the file of the module that the import is resolved to. Only the package file
itself is not to be imported by its own name, as the module that it defines is named by its directory.
-/

namespace CallAtlas

namespace Path

open Text

/-! ## Paths in their shortest form -/

/-- A name as it stands in a path in its shortest form. -/
def IsProper (part : Part) : Prop := (part ≠ [] ∧ '/' ∉ part) ∧ part ≠ here ∧ part ≠ up

/-- An absolute path in its shortest form. -/
def IsShortest (path : List Char) : Prop := ∃ slashes pieces, (slashes = ['/'] ∨ slashes = ['/', '/']) ∧
  (∀ part ∈ pieces, IsProper part) ∧ path = slashes ++ joinWith ['/'] pieces

variable {current path directory name slashes : List Char} {pieces : List Part}

theorem IsProper.head?_ne (h : IsProper name) : name.head? ≠ some '/' := fun first => h.1.2 (List.mem_of_mem_head? first)

theorem isShortest_absoluteChars (absolute : isAbsolute current = true) (path : List Char) :
    IsShortest (absoluteChars current path) := by
  have whole := isAbsolute_seen absolute path
  exact ⟨_, _, leadingSlashes_of_absolute whole, normalParts_spec whole, normalizeChars_eq whole⟩

theorem IsShortest.absoluteChars_eq (h : IsShortest path) (current : List Char) : absoluteChars current path = path := by
  obtain ⟨slashes, pieces, leading, proper, rfl⟩ := h
  have parts_eq : parts (slashes ++ joinWith ['/'] pieces) = pieces := by
    rw [parts_append_leading leading, parts_joinWith fun part mem => (proper part mem).1]
  have absolute : isAbsolute (slashes ++ joinWith ['/'] pieces) = true := by rcases leading with rfl | rfl <;> rfl
  have straight : Straight (slashes ++ joinWith ['/'] pieces) := fun part mem => (proper part (parts_eq ▸ mem)).2
  have first := head?_joinWith_ne fun part mem => (proper part mem).1
  rw [absoluteChars, if_pos absolute, normalizeChars_eq absolute, leadingSlashes_append leading first,
    normalParts_of_straight straight, parts_eq]

theorem headChars_concat (front : List Char) (slash : '/' ∉ name) :
    headChars (front ++ '/' :: name) = front ++ ['/'] ∧ baseChars (front ++ '/' :: name) = name := by
  have back : (front ++ '/' :: name).reverse = name.reverse ++ '/' :: front.reverse := by simp
  have free : ∀ c ∈ name.reverse, (c != '/') = true := by
    intro c mem
    simpa using fun same : c = '/' => slash (same ▸ List.mem_reverse.1 mem)
  rw [headChars, baseChars, back, List.dropWhile_append_of_pos free, List.takeWhile_append_of_pos free]
  simp

/-- Joining is undone by taking the directory, if that ends in a slash only where it has nothing else. -/
theorem directoryChars_joinChars (ends : (∃ front, directory = front ++ ['/'] ∧ directory.all (· == '/') = true) ∨
    ∃ front c, directory = front ++ [c] ∧ c ≠ '/') (proper : IsProper name) :
    directoryChars (joinChars directory name) = directory ∧ baseChars (joinChars directory name) = name := by
  have unfolded : ∀ path, directoryChars path = if (headChars path).all (· == '/') then headChars path
      else ((headChars path).reverse.dropWhile (· == '/')).reverse := fun _ => rfl
  rcases ends with ⟨front, rfl, all⟩ | ⟨front, c, rfl, other⟩
  · have joined : joinChars (front ++ ['/']) name = front ++ '/' :: name := by simp [joinChars, proper.head?_ne]
    obtain ⟨head, base⟩ := headChars_concat front proper.1.2
    rw [joined, unfolded, head, if_pos all]
    exact ⟨rfl, base⟩
  · have joined : joinChars (front ++ [c]) name = front ++ [c] ++ '/' :: name := by
      simp [joinChars, proper.head?_ne, other]
    obtain ⟨head, base⟩ := headChars_concat (front ++ [c]) proper.1.2
    rw [joined, unfolded, head, if_neg (by simp [other])]
    exact ⟨by simp [other], base⟩

theorem ends_of_pieces (slashes : List Char) (proper : ∀ part ∈ pieces, IsProper part) (some : pieces ≠ []) :
    ∃ front c, slashes ++ joinWith ['/'] pieces = front ++ [c] ∧ c ≠ '/' := by
  have last := getLast?_joinWith_ne fun part mem => (proper part mem).1
  rcases List.eq_nil_or_concat (joinWith ['/'] pieces) with empty | ⟨front, c, ends⟩
  · have parts := parts_joinWith fun part mem => (proper part mem).1
    rw [empty] at parts
    exact absurd parts.symm some
  · rw [ends, List.concat_eq_append, List.getLast?_concat] at last
    exact ⟨slashes ++ front, c, by rw [ends, List.concat_eq_append, List.append_assoc], fun same => last (by rw [same])⟩

theorem joinChars_pieces (leading : slashes = ['/'] ∨ slashes = ['/', '/']) (proper : ∀ part ∈ pieces, IsProper part)
    (added : IsProper name) :
    joinChars (slashes ++ joinWith ['/'] pieces) name = slashes ++ joinWith ['/'] (pieces ++ [name]) := by
  by_cases none : pieces = []
  · subst none
    rw [List.nil_append, joinWith_nil, joinWith_singleton, List.append_nil]
    rcases leading with rfl | rfl <;> simp [joinChars, added.head?_ne]
  · obtain ⟨front, c, ends, other⟩ := ends_of_pieces slashes proper none
    rw [joinWith_append none (List.cons_ne_nil _ _), joinWith_singleton, ← List.append_assoc, ends]
    simp [joinChars, added.head?_ne, other]

theorem IsShortest.joinChars (h : IsShortest directory) (added : IsProper name) :
    IsShortest (joinChars directory name) ∧ directoryChars (Path.joinChars directory name) = directory ∧
      baseChars (Path.joinChars directory name) = name := by
  obtain ⟨slashes, pieces, leading, proper, rfl⟩ := h
  refine ⟨⟨slashes, pieces ++ [name], leading, ?_, joinChars_pieces leading proper added⟩,
    directoryChars_joinChars ?_ added⟩
  · exact List.forall_mem_append.2 ⟨proper, List.forall_mem_singleton.2 added⟩
  · by_cases none : pieces = []
    · subst none
      rw [joinWith_nil, List.append_nil]
      rcases leading with rfl | rfl
      · exact Or.inl ⟨[], rfl, rfl⟩
      · exact Or.inl ⟨['/'], rfl, rfl⟩
    · exact Or.inr (ends_of_pieces slashes proper none)

theorem IsShortest.directoryChars (h : IsShortest path) : IsShortest (directoryChars path) := by
  obtain ⟨slashes, pieces, leading, proper, rfl⟩ := h
  rcases List.eq_nil_or_concat pieces with rfl | ⟨front, name, rfl⟩
  · rw [joinWith_nil, List.append_nil]
    rcases leading with rfl | rfl
    · exact ⟨['/'], [], Or.inl rfl, by simp, rfl⟩
    · exact ⟨['/', '/'], [], Or.inr rfl, by simp, rfl⟩
  · rw [List.concat_eq_append] at proper ⊢
    obtain ⟨proper, added⟩ := List.forall_mem_append.1 proper
    have added := List.forall_mem_singleton.1 added
    have above : IsShortest (slashes ++ joinWith ['/'] front) := ⟨slashes, front, leading, proper, rfl⟩
    rw [← joinChars_pieces leading proper added, (above.joinChars added).2.1]
    exact above

end Path

namespace Files.Tree

variable {t : Tree} {directory file : String}

/-! ## The names of the packages around a directory -/

/-- The names of the packages around a directory, outermost first. -/
def packageNames (t : Tree) (directory : String) : List String :=
  (t.packageChain (directory.length + 1) directory).reverse

/-- The paths on the way up get shorter, so more rounds than the path has characters do not matter. -/
theorem packageChain_of_lt {rounds others : Nat} (enough : directory.length < rounds) (also : directory.length < others) :
    t.packageChain rounds directory = t.packageChain others directory := by
  induction rounds generalizing directory others with
  | zero => exact absurd enough (Nat.not_lt_zero _)
  | succ rounds ih =>
    obtain _ | others := others
    · exact absurd also (Nat.not_lt_zero _)
    · rw [packageChain, packageChain]
      dsimp only
      by_cases none : Path.baseChars directory.toList = []
      · -- the root has no name, which ends the chain on either side
        rw [Path.base, none]
        rfl
      · have shorter := length_directory_lt none
        have enough : (Path.directory directory).length < rounds := by omega
        have also : (Path.directory directory).length < others := by omega
        rw [ih enough also]

/-- A package is named behind the packages around it. -/
theorem packageNames_eq (package : t.isPackageDirectory directory = true) (named : Path.base directory ≠ "") :
    t.packageNames directory = t.packageNames (Path.directory directory) ++ [Path.base directory] := by
  have nonempty : Path.baseChars directory.toList ≠ [] := fun none => named (congrArg String.ofList none)
  have shorter := length_directory_lt nonempty
  rw [packageNames, packageChain, package]
  dsimp only
  rw [packageChain_of_lt shorter (Nat.lt_succ_self _)]
  simp [named, packageNames]

/-- The name of a module, from the path of its file. -/
theorem moduleName_eq (nonempty : Path.base (t.absolute file) ≠ "") :
    t.moduleName file = ".".intercalate (t.packageNames (Path.directory (t.absolute file)) ++
      if Path.base (t.absolute file) = packageFile then [] else [Path.stem (Path.base (t.absolute file))]) := by
  have some : Path.baseChars (t.absolute file).toList ≠ [] := fun none => nonempty (congrArg String.ofList none)
  unfold moduleName
  dsimp only
  rw [packageChain_of_lt (length_directory_lt some) (Nat.lt_succ_self _)]
  simp [packageNames]

/-- A name that can stand between the points of a dotted name, in a path too. -/
def IsModulePart (name : String) : Prop := isName name = true ∧ '.' ∉ name.toList

instance (name : String) : Decidable (IsModulePart name) := inferInstanceAs (Decidable (_ ∧ _))

/-- A directory that is a package inside packages, `n` of them with itself. The root has no name, so it does not count. -/
def InPackages (t : Tree) : Nat → String → Prop
  | 0, _ => True
  | n + 1, directory => t.isPackageDirectory directory = true ∧ IsModulePart (Path.base directory) ∧
    t.InPackages n (Path.directory directory)

/-- From a directory along names to the file of a module: into packages by their names, and at last to the package itself
or to a file in it. -/
inductive LeadsToModule (t : Tree) : String → List String → String → Prop where
  | package {directory : String} (holds : t.isFile (Path.join directory packageFile) = true) :
      t.LeadsToModule directory [] (Path.join directory packageFile)
  | module {directory name : String} (holds : t.isFile (Path.join directory (name ++ ".py")) = true)
      (other : name ++ ".py" ≠ packageFile) : t.LeadsToModule directory [name] (Path.join directory (name ++ ".py"))
  | enter {directory name target : String} {rest : List String}
      (holds : t.isPackageDirectory (Path.join directory name) = true)
      (leads : t.LeadsToModule (Path.join directory name) rest target) : t.LeadsToModule directory (name :: rest) target

theorem IsModulePart.isProper {name : String} (h : IsModulePart name) : Path.IsProper name.toList := by
  refine ⟨isName_iff.1 h.1, fun same => h.2 ?_, fun same => h.2 ?_⟩ <;> rw [same] <;> decide

theorem IsModulePart.append_py {name : String} (h : IsModulePart name) :
    Path.IsProper (name ++ ".py").toList ∧ Path.stem (name ++ ".py") = name := by
  obtain ⟨nonempty, slash⟩ := isName_iff.1 h.1
  obtain ⟨c, cs, chars⟩ := List.exists_cons_of_ne_nil nonempty
  have isName : isName (name ++ ".py") = true := by
    rw [isName_iff, toList_append_py]
    exact ⟨by simp, by simpa using slash⟩
  have solid : ∃ c ∈ name.toList, c ≠ '.' := by
    have first : c ∈ name.toList := by simp [chars]
    exact ⟨c, first, fun point => h.2 (point ▸ first)⟩
  refine ⟨⟨isName_iff.1 isName, fun same => ?_, fun same => ?_⟩, stem_append_py isName solid⟩
  · simpa [toList_append_py, Path.here] using congrArg List.length same
  · simpa [toList_append_py, Path.up] using congrArg List.length same

theorem IsModulePart.ne_empty {name : String} (h : IsModulePart name) : name ≠ "" := by
  rintro rfl
  exact (isName_iff.1 h.1).1 rfl

/-- Joining a name to the shortest path of a directory. -/
theorem join_spec {name : String} (shortest : Path.IsShortest directory.toList) (proper : Path.IsProper name.toList) :
    t.absolute (Path.join directory name) = Path.join directory name ∧ Path.IsShortest (Path.join directory name).toList ∧
      Path.directory (Path.join directory name) = directory ∧ Path.base (Path.join directory name) = name := by
  obtain ⟨again, above, last⟩ := shortest.joinChars proper
  have chars : (Path.join directory name).toList = Path.joinChars directory.toList name.toList := String.toList_ofList
  refine ⟨?_, by rwa [chars], ?_, ?_⟩
  · rw [absolute, Path.absolute, chars, again.absoluteChars_eq, Path.join]
  · rw [Path.directory, chars, above, String.ofList_toList]
  · rw [Path.base, chars, last, String.ofList_toList]

/-- The module that names lead to is named by the packages around the directory and by them. -/
theorem LeadsToModule.moduleName_eq {names : List String} {target : String} (h : t.LeadsToModule directory names target)
    (shortest : Path.IsShortest directory.toList) (parts : ∀ name ∈ names, IsModulePart name) :
    t.moduleName target = ".".intercalate (t.packageNames directory ++ names) := by
  -- the names around the directory grow by each package that is entered
  induction h with
  | @package directory _ =>
    have proper : Path.IsProper packageFile.toList := ⟨⟨by decide, by decide⟩, by decide, by decide⟩
    obtain ⟨whole, -, above, last⟩ := join_spec (t := t) shortest proper
    rw [Tree.moduleName_eq (by rw [whole, last]; decide), whole, above, last, if_pos rfl]
  | @module directory name _ other =>
    obtain ⟨proper, stem⟩ := (parts name List.mem_cons_self).append_py
    obtain ⟨whole, -, above, last⟩ := join_spec (t := t) shortest proper
    rw [Tree.moduleName_eq ?_, whole, above, last, if_neg other, stem]
    rw [whole, last]
    exact fun empty => proper.1.1 (by rw [empty]; rfl)
  | @enter directory name target rest holds _ ih =>
    obtain ⟨part, parts⟩ := List.forall_mem_cons.1 parts
    obtain ⟨-, further, above, last⟩ := join_spec (t := t) shortest part.isProper
    have named := packageNames_eq holds (by rw [last]; exact part.ne_empty)
    rw [ih further parts, named, above, last, List.append_assoc, List.singleton_append]

end Files.Tree

/-! ## Names of modules -/

namespace Workspace

open Files Files.Tree

variable {t : Tree} {directory file stem : String}

theorem dottedInit_intercalate (names : List String) {name : String} (point : '.' ∉ name.toList) :
    Text.dottedInit (".".intercalate (names ++ [name])) = ".".intercalate names := by
  unfold Text.dottedInit
  by_cases none : names = []
  · subst none
    rw [List.nil_append, String.intercalate_singleton, String.intercalate_nil]
    cases cut : Text.cutLast? '.' name.toList with
    | none => rfl
    | some found =>
      rw [Text.cutLast?_eq_some cut] at point
      simp at point
  · have chars : (".".intercalate (names ++ [name])).toList = (".".intercalate names).toList ++ '.' :: name.toList := by
      rw [String.intercalate_append_of_ne_nil none (List.cons_ne_nil _ _), String.intercalate_singleton,
        String.toList_append, String.toList_append, List.append_assoc]
      rfl
    rw [chars, Text.cutLast?_append_of_not_mem _ point]
    exact String.ofList_toList

/-- The package of a module is the directory of its file. -/
theorem package_eq {m : ModuleId} (name : m.name = t.moduleName file) (path : m.path = t.absolute file)
    (source : Path.base m.path = stem ++ ".py") (own : IsModulePart stem) :
    m.package = ".".intercalate (t.packageNames (Path.directory m.path)) := by
  obtain ⟨proper, stem_eq⟩ := own.append_py
  have nonempty : Path.base m.path ≠ "" := by
    rw [source]
    exact fun empty => proper.1.1 (by rw [empty]; rfl)
  have unfolded : m.package = if Path.base m.path = packageFile then m.name else Text.dottedInit m.name :=
    if_congr beq_iff_eq rfl rfl
  rw [unfolded, name, moduleName_eq (path ▸ nonempty), ← path]
  by_cases same : Path.base m.path = packageFile
  · rw [if_pos same, if_pos same, List.append_nil]
  · rw [if_neg same, if_neg same, source, stem_eq, dottedInit_intercalate _ own.2]

/-- As many packages up as are around the directory, the next one is the next directory. -/
theorem packageUp_eq {m : ModuleId} {n levels : Nat} (start : m.package = ".".intercalate (t.packageNames directory))
    (inside : t.InPackages n directory) (le : levels ≤ n) :
    m.packageUp levels = ".".intercalate (t.packageNames (Path.directory^[levels] directory)) ∧
      t.InPackages (n - levels) (Path.directory^[levels] directory) := by
  induction levels with
  | zero => exact ⟨start, inside⟩
  | succ levels ih =>
    obtain ⟨up, further⟩ := ih (by omega)
    obtain ⟨more, left⟩ : ∃ more, n - levels = more + 1 := ⟨n - levels - 1, by omega⟩
    rw [left] at further
    obtain ⟨package, part, above⟩ := further
    rw [Function.iterate_succ_apply', ModuleId.packageUp, up, packageNames_eq package part.ne_empty,
      dottedInit_intercalate _ part.2, show n - (levels + 1) = more by omega]
    exact ⟨rfl, above⟩

theorem intercalate_ne_empty {names : List String} {name : String} (mem : name ∈ names) (named : name ≠ "") :
    ".".intercalate names ≠ "" := by
  obtain ⟨first, rest, rfl⟩ := List.exists_cons_of_ne_nil (List.ne_nil_of_mem mem)
  by_cases none : rest = []
  · subst none
    rw [String.intercalate_singleton, ← List.mem_singleton.1 mem]
    exact named
  · rw [String.intercalate_cons_of_ne_nil none]
    intro empty
    simpa using congrArg String.toList empty

/-- What is imported is named behind the package that the points lead up to. -/
theorem importBase_eq {m : ModuleId} {levels : Nat} {module : Option String} {packages names : List String}
    (up : m.packageUp levels = ".".intercalate packages) (some : m.packageUp levels ≠ "")
    (written : module.getD "" = ".".intercalate names) (named : ∀ name ∈ names, name ≠ "") :
    m.importBase module (levels + 1) = ".".intercalate (packages ++ names) := by
  unfold ModuleId.importBase
  dsimp only
  cases names with
  | nil =>
    rw [List.append_nil, ← up]
    obtain _ | text := module
    · rfl
    · exact if_pos (beq_iff_eq.2 written)
  | cons name rest =>
    have behind : ".".intercalate (name :: rest) ≠ "" :=
      intercalate_ne_empty List.mem_cons_self (named name List.mem_cons_self)
    obtain _ | text := module
    · exact absurd written.symm behind
    · have written : text = ".".intercalate (name :: rest) := written
      have packaged : packages ≠ [] := by
        rintro rfl
        exact some (up.trans String.intercalate_nil)
      rw [← written] at behind
      dsimp only
      rw [if_neg (mt beq_iff_eq.1 behind), if_neg (mt beq_iff_eq.1 some), up, written,
        String.intercalate_append_of_ne_nil packaged (List.cons_ne_nil _ _)]

theorem isShortest_above (t : Tree) (file : String) (levels : Nat) :
    Path.IsShortest (Path.directory^[levels] (t.absolute file)).toList := by
  induction levels with
  | zero =>
    rw [Function.iterate_zero_apply, absolute, Path.absolute, String.toList_ofList]
    exact Path.isShortest_absoluteChars t.isAbsolute_currentPath _
  | succ levels ih =>
    rw [Function.iterate_succ_apply', Path.directory, String.toList_ofList]
    exact ih.directoryChars

/-- **Relative imports and discovery agree**: in a file inside `n` packages, an import with up to `n` points is resolved to
the name of the module that lies so many directories up and then along the parts of what is imported. -/
theorem relative_imports_name_modules {m : ModuleId} {n level : Nat} {module : Option String} {names : List String}
    {target : String} (name : m.name = t.moduleName file) (path : m.path = t.absolute file)
    (source : Path.base m.path = stem ++ ".py") (own : IsModulePart stem)
    (inside : t.InPackages n (Path.directory m.path)) (relative : 1 ≤ level) (le : level ≤ n)
    (written : module.getD "" = ".".intercalate names) (parts : ∀ name ∈ names, IsModulePart name)
    (leads : t.LeadsToModule (Path.directory^[level] m.path) names target) :
    m.importBase module level = t.moduleName target := by
  obtain ⟨levels, rfl⟩ : ∃ levels, level = levels + 1 := ⟨level - 1, by omega⟩
  obtain ⟨up, further⟩ := packageUp_eq (package_eq name path source own) inside (Nat.le_of_succ_le le)
  obtain ⟨more, left⟩ : ∃ more, n - levels = more + 1 := ⟨n - levels - 1, by omega⟩
  rw [left] at further
  obtain ⟨package, part, -⟩ := further
  -- the package that is reached has a name, so what is imported stands behind a point
  have some : m.packageUp levels ≠ "" := by
    rw [up, packageNames_eq package part.ne_empty]
    exact intercalate_ne_empty (List.mem_append_right _ (List.mem_singleton_self _)) part.ne_empty
  have shortest := isShortest_above t file (levels + 1)
  rw [← path] at shortest
  rw [importBase_eq up some written fun name mem => (parts name mem).ne_empty, leads.moduleName_eq shortest parts]
  rfl

/-- Two packages up and down again, in the inner one of two packages. -/
theorem relative_imports_name_modules_nested :
    (ModuleId.mk (Sample.nested.moduleName "proj/lib/core.py") "/W/proj/lib/core.py").importBase (some "lib.core") 2 =
        Sample.nested.moduleName "/W/proj/lib/core.py" ∧
      Sample.nested.moduleName "/W/proj/lib/core.py" = "proj.lib.core" := by
  have whole : "/W/proj/lib/core.py" = Sample.nested.absolute "proj/lib/core.py" := by decide +kernel
  have source : Path.base "/W/proj/lib/core.py" = "core" ++ ".py" := by decide +kernel
  have own : IsModulePart "core" := by decide +kernel
  have inside : Sample.nested.InPackages 2 (Path.directory "/W/proj/lib/core.py") :=
    ⟨by decide +kernel, by decide +kernel, by decide +kernel, by decide +kernel, trivial⟩
  have written : (some "lib.core").getD "" = ".".intercalate ["lib", "core"] := by decide +kernel
  have parts : ∀ name ∈ ["lib", "core"], IsModulePart name := by decide +kernel
  have above : Path.directory^[2] "/W/proj/lib/core.py" = "/W/proj" := by decide +kernel
  have below : Path.join (Path.join "/W/proj" "lib") ("core" ++ ".py") = "/W/proj/lib/core.py" := by decide +kernel
  have leads : Sample.nested.LeadsToModule "/W/proj" ["lib", "core"] "/W/proj/lib/core.py" := by
    rw [← below]
    exact .enter (by decide +kernel) (.module (by decide +kernel) (by decide))
  refine ⟨?_, by decide +kernel⟩
  -- with the module as a variable, its name is not computed to see that it is that name
  generalize same : ModuleId.mk (Sample.nested.moduleName "proj/lib/core.py") "/W/proj/lib/core.py" = m
  have name : m.name = Sample.nested.moduleName "proj/lib/core.py" := by rw [← same]
  have path : m.path = "/W/proj/lib/core.py" := by rw [← same]
  rw [← path] at whole source inside above
  rw [← above] at leads
  exact relative_imports_name_modules name whole source own inside (by decide) le_rfl written parts leads

/-- The package file has the name of its package, and not the one by which it is imported here. -/
theorem package_file_by_its_own_name :
    Sample.nested.isFile (Path.join (Path.directory "/W/proj/lib/core.py") ("__init__" ++ ".py")) = true ∧
      (ModuleId.mk (Sample.nested.moduleName "proj/lib/core.py") "/W/proj/lib/core.py").importBase (some "__init__") 1 =
        "proj.lib.__init__" ∧
      Sample.nested.moduleName (Path.join (Path.directory "/W/proj/lib/core.py") ("__init__" ++ ".py")) = "proj.lib" := by
  decide +kernel

end Workspace

end CallAtlas
