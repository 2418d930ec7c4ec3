import CallAtlas.Proofs.Reload
import CallAtlas.Proofs.Spellings

/-!
# Each document for itself

What a document declares, and the calls in the bodies of its declarations, are those of its file: they depend on the bytes
of the file, its path, the name of its module and the name of the project, and on nothing else. Workspaces that agree in
these have the same module for the file, however their other files are called and whatever is in them, although all of
them share one table of modules, one of classes and one of methods.
-/

namespace CallAtlas.Workspace.Index

/-- Both workspaces show the same declarations of a file, and the same calls in each. -/
structure SameDocument (w w' : Index) (file : String) : Prop where
  /-- The units in their order with all their fields, or the same gap. -/
  declared : w.declaredAt file = w'.declaredAt file
  /-- The whole of each declaration, with the statements of its body. -/
  declaration : ∀ u, (w.declaration? file u).map (·.2) = (w'.declaration? file u).map (·.2)
  sites : ∀ u, w.sitesOf file u = w'.sitesOf file u

theorem sameDocument_of_moduleAt? {w w' : Index} {file : String} (same : w.moduleAt? file = w'.moduleAt? file) :
    w.SameDocument w' file := by
  have found : ∀ u, w.declaration? file u = w'.declaration? file u := fun u => by
    rw [declaration?, declaration?, same]
  constructor
  · rw [declaredAt, declaredAt, same]
  · exact fun u => by rw [found]
  · exact fun u => by rw [sitesOf, sitesOf, found]

/-- A project has its name as its assembly. -/
theorem assembly_projectAt (tree : Files.Tree) (root : String) :
    (projectAt tree root).assembly = (projectAt tree root).name := by
  unfold projectAt
  split <;> rfl

/-- A loaded workspace has the index of each file that is found under its path. -/
theorem exists_moduleAt?_of_load {codecs : Source.Codecs} {tree : Files.Tree} {exclude : List String} {guesses : Bool}
    {path : String} {w : Index} (loaded : load codecs tree exclude guesses path = .ok w) {name file : String}
    (there : (name, file) ∈ tree.modules exclude (tree.absolute path)) :
    ∃ m, w.moduleAt? file = some m ∧
      ModuleEntry.ofFile codecs tree w.project.name { name, path := file } = .ok m := by
  have indexes := indexes_of_load loaded
  obtain ⟨found, mem, same⟩ := List.mem_map.1 there
  obtain ⟨rfl, rfl⟩ := Prod.mk.inj same
  obtain ⟨-, -, modules, run, rfl⟩ := (load_eq_ok_iff rfl rfl).1 loaded
  obtain ⟨m, read⟩ := exists_mapM_iff.1 ⟨modules, run⟩ found mem
  have inside := mem_mapM run mem read
  have located : m.id.path = found := congrArg (·.path) (ModuleEntry.ofFile_cases read).1
  rw [moduleOf, assembly_projectAt] at read
  refine ⟨m, ?_, read⟩
  rw [← located]
  exact indexes.moduleAt?_eq inside

/-- **Declarations are local to their file**: in any two loaded workspaces with one project name, a file of the same path
and module name that holds the same bytes has the same declarations, in the same order and with all they say, and the same
calls in each of them. -/
theorem declarations_local {codecs : Source.Codecs} {tree tree' : Files.Tree} {exclude exclude' : List String}
    {guesses guesses' : Bool} {path path' : String} {w w' : Index} (loaded : load codecs tree exclude guesses path = .ok w)
    (loaded' : load codecs tree' exclude' guesses' path' = .ok w') (project : w.project.name = w'.project.name)
    {name file : String} (there : (name, file) ∈ tree.modules exclude (tree.absolute path))
    (there' : (name, file) ∈ tree'.modules exclude' (tree'.absolute path'))
    (bytes : tree.readBytes file = tree'.readBytes file) : w.SameDocument w' file := by
  obtain ⟨m, found, read⟩ := exists_moduleAt?_of_load loaded there
  obtain ⟨m', found', read'⟩ := exists_moduleAt?_of_load loaded' there'
  have same : ModuleEntry.ofFile codecs tree w'.project.name { name, path := file } =
      ModuleEntry.ofFile codecs tree' w'.project.name { name, path := file } := ofFile_eq bytes
  have entry : m = m' := Except.ok.inj ((read.symm.trans (project ▸ same)).trans read')
  exact sameDocument_of_moduleAt? (found.trans (entry ▸ found'.symm))

namespace Sample

/-- The class `C`, which a method of it calls. -/
def selfCall : String := "class C:\n def m(self): C()\n"

def alone : Files.Tree := treeOf [("a.py", selfCall)]

/-- Beside a file that cannot be parsed, and one of the same module name with another class `C`. -/
def crowded : Files.Tree :=
  (treeOf [("a.py", selfCall), ("b.py", "(")]).place ["W", "proj", "x", "a.py"]
    (.file (Text.encodeUtf8 "class C: pass\n".toList))

theorem sources_crowded :
    crowded.sources Files.defaultExcludes root = ["/W/proj/a.py", "/W/proj/b.py", "/W/proj/x/a.py"] := by
  have found : crowded.find true root = .ok (.taken ["W", "proj"] .directory) := by decide +kernel
  exact sources_of_pairwise found (by decide +kernel) (by decide)

theorem sources_alone : alone.sources Files.defaultExcludes root = ["/W/proj/a.py"] := by
  have found : alone.find true root = .ok (.taken ["W", "proj"] .directory) := by decide +kernel
  exact sources_of_pairwise found (by decide +kernel) (by decide)

end Sample

theorem declarations_local_crowded :
    ∃ w w', load Source.usualCodecs Sample.alone Files.defaultExcludes false Sample.root = .ok w ∧
      load Source.usualCodecs Sample.crowded Files.defaultExcludes false Sample.root = .ok w' ∧
      (w.class? "a.C").map (·.module.path) = some "/W/proj/a.py" ∧
      (w'.class? "a.C").map (·.module.path) = some "/W/proj/x/a.py" ∧
      w.SameDocument w' "/W/proj/a.py" := by
  have whole : Sample.alone.absolute Sample.root = Sample.root := by decide +kernel
  have whole' : Sample.crowded.absolute Sample.root = Sample.root := by decide +kernel
  obtain ⟨w, loaded, checked⟩ := Sample.exists_load
    (fun w => w.project.name == "proj" && (w.class? "a.C").map (·.module.path) == some "/W/proj/a.py") whole
    Sample.sources_alone (by decide +kernel) (by decide) (by decide +kernel)
  obtain ⟨w', loaded', checked'⟩ := Sample.exists_load
    (fun w => w.project.name == "proj" && (w.class? "a.C").map (·.module.path) == some "/W/proj/x/a.py") whole'
    Sample.sources_crowded (by decide +kernel) (by decide) (by decide +kernel)
  obtain ⟨name, path⟩ := Bool.and_eq_true_iff.1 checked
  obtain ⟨name', path'⟩ := Bool.and_eq_true_iff.1 checked'
  have there : ("a", "/W/proj/a.py") ∈ Sample.alone.modules Files.defaultExcludes Sample.root := by
    rw [Files.Tree.modules, Sample.sources_alone]
    decide +kernel
  have there' : ("a", "/W/proj/a.py") ∈ Sample.crowded.modules Files.defaultExcludes Sample.root := by
    rw [Files.Tree.modules, Sample.sources_crowded]
    decide +kernel
  refine ⟨w, w', loaded, loaded', eq_of_beq path, eq_of_beq path', ?_⟩
  exact declarations_local loaded loaded' ((eq_of_beq name).trans (eq_of_beq name').symm) (whole ▸ there)
    (whole' ▸ there') (by decide +kernel)

end CallAtlas.Workspace.Index
