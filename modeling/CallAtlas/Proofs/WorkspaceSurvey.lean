import CallAtlas.Proofs.Declared
import CallAtlas.Proofs.Discovery
import CallAtlas.Proofs.Resolution
import CallAtlas.Proofs.Survey
import CallAtlas.Source.CodecNames
import CallAtlas.Workspace.Load

/-!
# Surveys of a workspace

A loaded workspace and the survey of it fit together without loss. Files have different paths and functions of a file
start at different places, so no two declarations are one; the index answers for each of them; and what a call in them
counts for is declared itself, or out of scope. A survey then passes over files only, registers every declaration in
scope, and keeps every call that it found. It comes to its end exactly if the type arguments of the calls can be written
out.
-/

namespace CallAtlas.Workspace

open Source Callable

namespace Index

/-- The workspace holds a module for each of the files, as its text has it. -/
structure Indexes (codecs : Codecs) (tree : Files.Tree) (files : List String) (w : Index) : Prop where
  paths : w.modules.map (·.id.path) = files
  distinct : files.Nodup
  reads : ∀ m ∈ w.modules, m.Reads codecs tree w.project.assembly

/-- The index of the module in a source file of the project at `root`. -/
def moduleOf (codecs : Codecs) (tree : Files.Tree) (root file : String) : Except LoadFault ModuleEntry :=
  ModuleEntry.ofFile codecs tree (projectAt tree root).assembly { name := tree.moduleName file, path := file }

variable {codecs : Codecs} {tree : Files.Tree} {exclude files : List String} {guesses : Bool} {path root : String}
  {w : Index} {m : ModuleEntry}

/-- Loading asks for something at the path, for source files, and for a module of each of them. -/
theorem load_eq (whole : tree.absolute path = root) (found : tree.sources exclude root = files) :
    load codecs tree exclude guesses path =
      if tree.exists? root = false then .error (.unloadable root "path does not exist")
      else if files = [] then .error (.unloadable root "no Python source files found")
      else (files.mapM (moduleOf codecs tree root)).map fun modules =>
        ({ project := projectAt tree root, modules, guesses } : Index).withOrders := by
  have modules : ((tree.modules exclude root).mapM fun file =>
      ModuleEntry.ofFile codecs tree (projectAt tree root).assembly { name := file.1, path := file.2 }) =
        files.mapM (moduleOf codecs tree root) := by
    rw [Files.Tree.modules, found, List.mapM_map]
    refine congrArg (fun step => files.mapM step) (funext fun file => ?_)
    rw [Function.comp_apply, moduleOf]
  have empty : (tree.modules exclude root).isEmpty = files.isEmpty := by
    rw [Files.Tree.modules, found, List.isEmpty_map]
  unfold load
  simp only [whole, modules, empty]
  cases tree.exists? root with
  | false => rfl
  | true =>
    cases files with
    | nil => rfl
    | cons file rest => cases (file :: rest).mapM (moduleOf codecs tree root) <;> rfl

/-- A workspace is loaded exactly if there is something at the path, it has source files, and each of them gives a
module. -/
theorem load_eq_ok_iff (whole : tree.absolute path = root) (found : tree.sources exclude root = files) :
    load codecs tree exclude guesses path = .ok w ↔
      tree.exists? root = true ∧ files ≠ [] ∧ ∃ modules, files.mapM (moduleOf codecs tree root) = .ok modules ∧
        ({ project := projectAt tree root, modules, guesses } : Index).withOrders = w := by
  rw [load_eq whole found]
  cases tree.exists? root with
  | false => simp
  | true =>
    rw [if_neg (by simp)]
    by_cases none : files = []
    · simp [none]
    · rw [if_neg none]
      cases files.mapM (moduleOf codecs tree root) <;> simp [none, Except.map]

/-- Each module of a workspace is the index of a file. -/
theorem ofFile_of_load (h : load codecs tree exclude guesses path = .ok w) (hm : m ∈ w.modules) :
    ModuleEntry.ofFile codecs tree w.project.assembly m.id = .ok m := by
  obtain ⟨-, -, modules, run, rfl⟩ := (load_eq_ok_iff rfl rfl).1 h
  obtain ⟨file, -, indexed⟩ := mem_of_mapM run hm
  rw [(ModuleEntry.ofFile_cases indexed).1]
  exact indexed

theorem indexes_of_load (h : load codecs tree exclude guesses path = .ok w) :
    w.Indexes codecs tree (tree.sources exclude (tree.absolute path)) := by
  obtain ⟨-, -, modules, run, rfl⟩ := (load_eq_ok_iff rfl rfl).1 h
  have paths := map_of_mapM run fun file m e => congrArg (·.path) (ModuleEntry.reads_of_ofFile e).1
  constructor
  · exact paths.trans (List.map_id _)
  · exact tree.nodup_sources exclude _
  · intro m hm
    obtain ⟨file, -, e⟩ := mem_of_mapM run hm
    exact (ModuleEntry.reads_of_ofFile e).2

/-- The document of a module. -/
def documentOf (w : Index) (m : ModuleEntry) : Document := { path := m.id.path, project := w.project }

theorem listed_codeBase (w : Index) : w.codeBase.listed = w.modules.map w.documentOf := by
  simp [CodeBase.listed, codeBase, answers, documents, documentOf]

namespace Indexes

theorem moduleAt?_eq (h : w.Indexes codecs tree files) (hm : m ∈ w.modules) : w.moduleAt? m.id.path = some m := by
  have distinct : (w.modules.map (·.id.path)).Nodup := h.paths ▸ h.distinct
  cases found : w.moduleAt? m.id.path with
  | none => exact absurd (beq_self_eq_true _) (List.find?_eq_none.1 found m hm)
  | some other =>
    have same : (other.id.path == m.id.path) = true := by simpa using List.find?_some found
    rw [List.inj_on_of_nodup_map distinct (mem_of_moduleAt? found) hm (eq_of_beq same)]

theorem declaredAt_eq (h : w.Indexes codecs tree files) (hm : m ∈ w.modules) :
    w.declaredAt m.id.path =
      m.fault.elim (.ok (m.declarations.map (·.unit))) fun fault => .error (.gap fault.kind) := by
  rw [declaredAt, h.moduleAt?_eq hm]
  dsimp only
  cases m.fault <;> rfl

theorem isGap_declaredAt (h : w.Indexes codecs tree files) (hm : m ∈ w.modules) :
    isGap (w.declaredAt m.id.path) = (bodyAt? codecs tree m.id.path).isNone := by
  rw [h.declaredAt_eq hm, ← (h.reads m hm).fault]
  cases m.fault <;> rfl

theorem declaredIn_eq (h : w.Indexes codecs tree files) (hm : m ∈ w.modules) :
    w.codeBase.declaredIn (w.documentOf m) = m.declarations.map fun d => (d.unit, w.documentOf m) := by
  change (answers (w.declaredAt m.id.path)).map _ = _
  rw [h.declaredAt_eq hm]
  cases faulty : m.fault with
  | none => simp [answers]
  | some fault =>
    have read := (h.reads m hm).fault
    rw [faulty] at read
    have items := (h.reads m hm).empty (Option.isNone_iff_eq_none.1 read.symm)
    simp [answers, ModuleEntry.declarations, items]

/-- The code base has the declarations of all modules. -/
theorem declarations_eq (h : w.Indexes codecs tree files) :
    w.codeBase.declarations = w.modules.flatMap fun m => m.declarations.map fun d => (d.unit, w.documentOf m) := by
  rw [CodeBase.declarations, listed_codeBase, List.flatMap_map]
  exact List.flatMap_congr fun m hm => h.declaredIn_eq hm

theorem mem_declarations_iff (h : w.Indexes codecs tree files) {e : Sighting} :
    e ∈ w.codeBase.declarations ↔ ∃ m ∈ w.modules, ∃ d ∈ m.declarations, e = (d.unit, w.documentOf m) := by
  rw [h.declarations_eq]
  simp only [List.mem_flatMap, List.mem_map, eq_comm]

theorem declared_of_declares (h : w.Indexes codecs tree files) {u : Callable} (declared : w.Declares u) :
    ∃ document, (u, document) ∈ w.codeBase.declarations := by
  obtain ⟨d, hd, rfl⟩ := declared
  obtain ⟨m, hm, hd⟩ := List.mem_flatMap.1 hd
  exact ⟨w.documentOf m, h.mem_declarations_iff.2 ⟨m, hm, d, hd, rfl⟩⟩

/-- No two declarations of the workspace are one. -/
theorem declaresOnce (h : w.Indexes codecs tree files)
    (starts : ∀ file ∈ files, ∀ body, bodyAt? codecs tree file = some body → StartsDiffer body) :
    w.codeBase.DeclaresOnce := by
  have paths : w.modules.Pairwise fun m m' => m.id.path ≠ m'.id.path := by
    have distinct := h.distinct
    rw [← h.paths] at distinct
    exact List.pairwise_map.1 distinct
  have identities : (w.codeBase.declarations.map (·.1)).map (·.identity) =
      w.modules.flatMap fun m => (m.declarations.map (·.unit)).map (·.identity) := by
    simp only [h.declarations_eq, List.map_flatMap, List.map_map]
    rfl
  unfold CodeBase.DeclaresOnce Distinct
  rw [identities, List.nodup_flatMap]
  constructor
  · intro m hm
    have file : m.id.path ∈ files := h.paths ▸ List.mem_map_of_mem hm
    exact (h.reads m hm).distinct (starts _ file)
  · refine paths.imp_of_mem fun {m m'} hm hm' apart => ?_
    intro i mem mem'
    simp only [List.map_map, List.mem_map] at mem mem'
    obtain ⟨d, hd, rfl⟩ := mem
    obtain ⟨d', hd', same⟩ := mem'
    refine apart ?_
    rw [← ((h.reads m hm).identity hd).1, ← ((h.reads m' hm').identity hd').1]
    exact congrArg (·.path) same.symm

/-- The index finds the declaration of each unit again. -/
theorem declaration?_of_mem (h : w.Indexes codecs tree files) {e : Sighting} (he : e ∈ w.codeBase.declarations) :
    ∃ m ∈ w.modules, ∃ d, w.declaration? e.2.path e.1 = some (m, d) := by
  obtain ⟨m, hm, d, hd, rfl⟩ := h.mem_declarations_iff.1 he
  have known : (m.declarations.find? (·.unit.sameAs d.unit)).isSome := by
    rw [List.find?_isSome]
    exact ⟨d, hd, sameAs_refl _⟩
  obtain ⟨d', found⟩ := Option.isSome_iff_exists.1 known
  refine ⟨m, hm, d', ?_⟩
  change (w.moduleAt? m.id.path).bind _ = _
  rw [h.moduleAt?_eq hm]
  change (m.declarations.find? (·.unit.sameAs d.unit)).bind _ = _
  rw [found]
  rfl

end Indexes

end Index

/-! ## Calls -/

/-- The type arguments that a call gives, if any, can be written out. -/
def CallSite.IsWritable (site : CallSite) : Prop :=
  ∀ value index, site.function = .subscript value index → ∃ text, index.text = .ok text

namespace Index

variable {codecs : Codecs} {tree : Files.Tree} {exclude files : List String} {guesses : Bool} {path : String} {w : Index}
  {m : ModuleEntry} {d : Declaration} {document : Document} {u t : Callable}

theorem exists_call?_iff {context : Context} {site : CallSite} :
    (∃ result, w.call? context site = .ok result) ↔ site.IsWritable := by
  obtain ⟨start, function⟩ := site
  unfold call? CallSite.IsWritable
  split
  · rename_i value index same
    subst same
    constructor
    · rintro ⟨result, h⟩ _ _ same
      cases same
      obtain ⟨text, written, -⟩ := bind_eq_ok.1 h
      exact ⟨text, written⟩
    · intro h
      obtain ⟨text, written⟩ := h value index rfl
      exact ⟨_, bind_eq_ok.2 ⟨text, written, rfl⟩⟩
  · rename_i other
    constructor
    · intro _ value index same
      exact absurd same (other value index)
    · intro _
      exact ⟨_, rfl⟩

/-- What the calls in a known declaration refer to: their resolutions, or a text that cannot be written out. -/
theorem calls_eq (found : w.declaration? document.path u = some (m, d)) :
    w.codeBase.calls document u = ((sitesIn d).mapM (w.call? (contextOf m d))).mapError .unwritable := by
  change (·.map (·.2)) <$> w.resolvedCalls document.path u = _
  rw [resolvedCalls, found, ← map_snd_mapM]
  dsimp only
  cases (sitesIn d).mapM fun site => do return (site, ← w.call? (contextOf m d) site) <;> rfl

theorem isGap_calls (found : w.declaration? document.path u = some (m, d)) :
    isGap (w.codeBase.calls document u) = false := by
  rw [calls_eq found]
  cases (sitesIn d).mapM (w.call? (contextOf m d)) <;> rfl

theorem settled_calls_iff (found : w.declaration? document.path u = some (m, d)) :
    Settled (w.codeBase.calls document u) ↔ ∀ site ∈ sitesIn d, site.IsWritable := by
  have answered : isAnswer (w.codeBase.calls document u) = true ↔
      ∃ resolutions, (sitesIn d).mapM (w.call? (contextOf m d)) = .ok resolutions := by
    rw [calls_eq found]
    cases (sitesIn d).mapM (w.call? (contextOf m d)) <;> simp [isAnswer, Except.mapError]
  rw [settled_iff, isGap_calls found, answered, exists_mapM_iff]
  simp only [exists_call?_iff, Bool.false_eq_true, or_false]

/-- One of the calls in the unit `u` of a document counts for `t`. -/
def CallsTo (w : Index) (document : Document) (u t : Callable) : Prop :=
  ∃ m d, w.declaration? document.path u = some (m, d) ∧ ∃ site ∈ sitesIn d, ∃ r,
    w.call? (contextOf m d) site = .ok (some r) ∧ r.unit? = some t

theorem callsTo_of_refers (found : w.declaration? document.path u = some (m, d))
    (h : w.codeBase.Refers document u t) : w.CallsTo document u t := by
  obtain ⟨resolutions, answered, r, mem, counts⟩ := h
  rw [calls_eq found] at answered
  cases run : (sitesIn d).mapM (w.call? (contextOf m d)) with
  | error fault =>
    rw [run] at answered
    cases answered
  | ok found' =>
    rw [run] at answered
    cases answered
    obtain ⟨site, hsite, called⟩ := mem_of_mapM run mem
    exact ⟨m, d, found, site, hsite, r, called, counts⟩

theorem accounts_of_callsTo (h : w.CallsTo document u t) : w.Accounts t := by
  obtain ⟨m, d, found, site, -, r, called, counts⟩ := h
  obtain ⟨m', hm, found⟩ := Option.bind_eq_some_iff.1 found
  obtain ⟨d', -, same⟩ := Option.bind_eq_some_iff.1 found
  cases same
  exact accounts_of_call? (mem_of_moduleAt? hm) called counts

/-- A call that counts for something in scope counts for a declaration of the workspace. -/
theorem declares_of_callsTo (h : w.CallsTo document u t) {extent : Extent} (inScope : extent.contains t = true) :
    w.Declares t :=
  (accounts_of_callsTo h).declares inScope

theorem sitesOf_eq (found : w.declaration? document.path u = some (m, d)) :
    w.sitesOf document.path u = .ok (sitesIn d) := by
  rw [sitesOf, found]

/-- The type arguments of all calls in declarations in scope can be written out. -/
def Writable (w : Index) : Prop :=
  ∀ e ∈ w.codeBase.declarations, w.codeBase.extent.contains e.1 = true →
    ∀ sites, w.sitesOf e.2.path e.1 = .ok sites → ∀ site ∈ sites, site.IsWritable

theorem settled_declaredAt (w : Index) (path : String) : Settled (w.declaredAt path) := by
  intro fault h
  unfold declaredAt at h
  split at h
  · cases h
  · split at h <;> cases h

/-- Only type arguments can keep a survey of the workspace from its end. -/
theorem Indexes.onlyGaps_iff (h : w.Indexes codecs tree files) : w.codeBase.OnlyGaps ↔ w.Writable := by
  constructor
  · intro only e he inScope sites known
    obtain ⟨m, -, d, found⟩ := h.declaration?_of_mem he
    cases (sitesOf_eq found).symm.trans known
    exact (settled_calls_iff found).1 (only.declarations e he inScope)
  · intro writable
    constructor
    · intro project _ fault unwritable
      cases unwritable
    · exact fun document _ => w.settled_declaredAt document.path
    · intro e he inScope
      obtain ⟨m, -, d, found⟩ := h.declaration?_of_mem he
      exact (settled_calls_iff found).2 (writable e he inScope _ (sitesOf_eq found))

/-! ## Without loss -/

/-- The workspace can answer for everything it declares. -/
structure Answerable (w : Index) : Prop where
  /-- The identities of the units declared over all documents differ. -/
  distinct : ((w.codeBase.declarations.map (·.1)).map (·.identity)).Nodup
  /-- The calls in a declared unit are known. -/
  sites : ∀ e ∈ w.codeBase.declarations, ∃ sites, w.sitesOf e.2.path e.1 = .ok sites
  noGap : ∀ e ∈ w.codeBase.declarations, isGap (w.codeBase.calls e.2 e.1) = false
  /-- What a call counts for is declared, if it is in scope. -/
  targets : ∀ e ∈ w.codeBase.declarations, ∀ t, w.CallsTo e.2 e.1 t → w.codeBase.extent.contains t = true →
    ∃ document, (t, document) ∈ w.codeBase.declarations

/-- The survey `s` passes over nothing of the workspace but files that cannot be read and parsed. -/
structure KeptBy (codecs : Codecs) (tree : Files.Tree) (files : List String) (w : Index) (s : Survey) : Prop where
  projectsSkipped : s.projectsSkipped = 0
  declarationsSkipped : s.declarationsSkipped = 0
  documentsSkipped : s.documentsSkipped = files.countP fun file => (bodyAt? codecs tree file).isNone
  /-- Every declaration in scope is registered, in order and with its document. -/
  register : s.register = w.codeBase.declarations.filter fun e => w.codeBase.extent.contains e.1
  /-- No declaration found is dropped as one that was registered before. -/
  found : s.register = s.outcomes.flatMap fun o => o.units.map fun u => (u, o.document)
  /-- No call found is dropped because one of its ends is not registered. -/
  calls : Survey.registeredCalls s.register s.outcomes = s.outcomes.flatMap (·.calls)
  graph : s.graph = .ofCalls (s.outcomes.flatMap (·.calls))
  targets : ∀ e ∈ w.codeBase.declarations, ∀ t, w.CallsTo e.2 e.1 t → w.codeBase.extent.contains t = true →
    s.register.has t = true

theorem Indexes.answerable (h : w.Indexes codecs tree files) (once : w.codeBase.DeclaresOnce) : w.Answerable := by
  constructor
  case distinct => exact once
  case sites =>
    intro e he
    obtain ⟨m, -, d, found⟩ := h.declaration?_of_mem he
    exact ⟨_, sitesOf_eq found⟩
  case noGap =>
    intro e he
    obtain ⟨m, -, d, found⟩ := h.declaration?_of_mem he
    exact isGap_calls found
  case targets =>
    intro e he t calls inScope
    exact h.declared_of_declares (declares_of_callsTo calls inScope)

/-- A declaration in scope is sighted, once all calls are answered. -/
theorem Answerable.sightings_eq (h : w.Answerable) (only : w.codeBase.OnlyGaps) :
    w.codeBase.sightings = w.codeBase.declarations.filter fun e => w.codeBase.extent.contains e.1 := by
  refine List.filter_congr fun e he => ?_
  cases inScope : w.codeBase.extent.contains e.1 with
  | false => simp [CodeBase.isSighted, CodeBase.isAsked, inScope]
  | true =>
    have answered : isAnswer (w.codeBase.calls e.2 e.1) = true := by
      have settled := settled_iff.1 (only.declarations e he inScope)
      simpa [h.noGap e he] using settled
    simp [CodeBase.isSighted, CodeBase.isAsked, inScope, answered]

theorem Indexes.keptBy (h : w.Indexes codecs tree files) (once : w.codeBase.DeclaresOnce) {s : Survey}
    (run : Survey.ofCodeBase w.codeBase = .ok s) : w.KeptBy codecs tree files s := by
  have tells := Survey.tells_of_eq_ok run
  have answerable := h.answerable once
  have sightings := answerable.sightings_eq (Survey.exists_ofCodeBase_iff.1 ⟨s, run⟩)
  have register : s.register = w.codeBase.sightings := tells.register_of_once once
  have registered : ∀ e ∈ w.codeBase.sightings, s.register.has e.1 = true := by
    intro e he
    exact Register.has_iff.2 ⟨e, register ▸ he, rfl⟩
  have targets : ∀ e ∈ w.codeBase.declarations, ∀ t, w.CallsTo e.2 e.1 t → w.codeBase.extent.contains t = true →
      s.register.has t = true := by
    intro e he t calls inScope
    obtain ⟨document, declared⟩ := answerable.targets e he t calls inScope
    refine registered (t, document) ?_
    rw [sightings]
    exact List.mem_filter.2 ⟨declared, inScope⟩
  have calls : Survey.registeredCalls s.register s.outcomes = s.outcomes.flatMap (·.calls) := by
    refine List.filter_eq_self.2 fun call mem => ?_
    rw [tells.calls] at mem
    obtain ⟨e, he, mem⟩ := List.mem_flatMap.1 mem
    obtain ⟨caller, refers, inScope⟩ := CodeBase.mem_callsAt_iff.1 mem
    have declared : e ∈ w.codeBase.declarations := (List.mem_filter.1 he).1
    obtain ⟨m, -, d, found⟩ := h.declaration?_of_mem declared
    rw [caller, registered e he, targets e declared call.2 (callsTo_of_refers found refers) inScope]
    rfl
  constructor
  case projectsSkipped => exact tells.projects
  case declarationsSkipped =>
    rw [tells.declarations, List.countP_eq_zero]
    intro e he
    simp [CodeBase.isPassed, answerable.noGap e he]
  case documentsSkipped =>
    rw [tells.documents, listed_codeBase, ← h.paths, List.countP_map, List.countP_map]
    exact List.countP_congr fun m hm => by
      change isGap (w.declaredAt m.id.path) = true ↔ _
      rw [h.isGap_declaredAt hm]
      rfl
  case register => rw [register, sightings]
  case found => rw [register, tells.found]
  case calls => exact calls
  case graph =>
    rw [tells.graph, ← tells.calls]
    exact congrArg CallGraph.ofCalls calls
  case targets => exact targets

/-- **Surveys of a workspace lose nothing**: for every workspace that can be loaded, if the functions of each file start
at different places, the workspace can answer for everything it declares; a survey of it comes to its end exactly if the
type arguments of all calls in scope can be written out; and it then keeps everything. -/
theorem surveyed_without_loss (loaded : load codecs tree exclude guesses path = .ok w)
    (starts : ∀ file ∈ tree.sources exclude (tree.absolute path), ∀ body, bodyAt? codecs tree file = some body →
      StartsDiffer body) :
    w.Answerable ∧ ((∃ s, Survey.ofCodeBase w.codeBase = .ok s) ↔ w.Writable) ∧
      ∀ s, Survey.ofCodeBase w.codeBase = .ok s →
        w.KeptBy codecs tree (tree.sources exclude (tree.absolute path)) s := by
  have indexes := indexes_of_load loaded
  have once := indexes.declaresOnce starts
  refine ⟨indexes.answerable once, ?_, fun s run => indexes.keptBy once run⟩
  rw [Survey.exists_ofCodeBase_iff]
  exact indexes.onlyGaps_iff

/-! A workspace of two files: in the first one `f` calls itself, and the second one cannot be parsed. -/

namespace Sample

/-- The files of a project at `/W/proj`. -/
def treeOf (files : List (String × String)) : Files.Tree :=
  files.foldl (fun t file => t.place ["W", "proj", file.1] (.file (Text.encodeUtf8 file.2.toList)))
    (.empty ["W"])

def root : String := "/W/proj"

def project : Files.Tree := treeOf [("a.py", "def f(): f()\n"), ("b.py", "(\n")]

/-- Where the file names are in order, sorting leaves them alone. -/
theorem sources_of_pairwise {tree : Files.Tree} {exclude place files : List String} {path : String}
    (found : tree.find true path = .ok (.taken place .directory))
    (ways : ((tree.sourcesBelow exclude place).map fun found =>
      Path.join (tree.absolute path) ("/".intercalate (found.drop place.length))) = files)
    (sorted : files.Pairwise fun a b => decide (a ≤ b) = true) : tree.sources exclude path = files := by
  unfold Files.Tree.sources
  rw [found]
  dsimp only
  rw [ways]
  exact List.mergeSort_of_pairwise sorted

theorem sources_project : project.sources Files.defaultExcludes root = ["/W/proj/a.py", "/W/proj/b.py"] := by
  have found : project.find true root = .ok (.taken ["W", "proj"] .directory) := by decide +kernel
  exact sources_of_pairwise found (by decide +kernel) (by decide)

theorem absolute_root : project.absolute root = root := by decide +kernel

theorem starts_project : ∀ file ∈ project.sources Files.defaultExcludes (project.absolute root),
    ∀ body, bodyAt? usualCodecs project file = some body → StartsDiffer body := by
  rw [absolute_root, sources_project]
  have each : (["/W/proj/a.py", "/W/proj/b.py"].all fun file =>
      (bodyAt? usualCodecs project file).all fun body => decide (StartsDiffer body)) = true := by
    decide +kernel
  intro file mem body read
  have one := List.all_eq_true.1 each file mem
  rw [read] at one
  exact of_decide_eq_true one

theorem surveyed_project : ∃ w s, load usualCodecs project Files.defaultExcludes false root = .ok w ∧
    Survey.ofCodeBase w.codeBase = .ok s := by
  have run : ((["/W/proj/a.py", "/W/proj/b.py"].mapM (moduleOf usualCodecs project root)).toOption.any fun modules =>
      (Survey.ofCodeBase (withOrders { project := projectAt project root, modules }).codeBase).toOption.isSome) =
        true := by
    decide +kernel
  obtain ⟨modules, indexed, run⟩ := exists_ok_of_any run
  obtain ⟨s, surveyed⟩ := Option.isSome_iff_exists.1 run
  refine ⟨_, s, (load_eq_ok_iff absolute_root sources_project).2 ⟨?_, ?_, modules, indexed, rfl⟩,
    eq_ok_of_toOption surveyed⟩
  · decide +kernel
  · decide

end Sample

theorem surveyed_without_loss_sample :
    ∃ w s, load usualCodecs Sample.project Files.defaultExcludes false Sample.root = .ok w ∧
      Survey.ofCodeBase w.codeBase = .ok s ∧ w.Answerable ∧ w.Writable ∧
      w.KeptBy usualCodecs Sample.project
        (Sample.project.sources Files.defaultExcludes (Sample.project.absolute Sample.root)) s := by
  obtain ⟨w, s, loaded, run⟩ := Sample.surveyed_project
  obtain ⟨answerable, ends, kept⟩ := surveyed_without_loss loaded Sample.starts_project
  exact ⟨w, s, loaded, run, answerable, ends.1 ⟨s, run⟩, kept s run⟩

/-- A workspace with a type argument that cannot be written out: its field holds a character that would have to be
escaped. -/
def Sample.unwritable : Files.Tree := Sample.treeOf [("a.py", "def f(x):\n    x[f\"\x7b'\x7f'\x7d\"]()\n")]

/-- Such a workspace can be loaded but not surveyed. -/
theorem survey_stops_at_type_argument :
    ∃ w, load usualCodecs Sample.unwritable Files.defaultExcludes false Sample.root = .ok w ∧
      Survey.ofCodeBase w.codeBase = .error .backslashInField := by
  have run : ((load usualCodecs Sample.unwritable Files.defaultExcludes false Sample.root).toOption.any fun w =>
      decide (Survey.ofCodeBase w.codeBase = .error .backslashInField)) = true := by
    decide +kernel
  obtain ⟨w, loaded, stopped⟩ := exists_ok_of_any run
  exact ⟨w, loaded, of_decide_eq_true stopped⟩

end Index

end CallAtlas.Workspace
