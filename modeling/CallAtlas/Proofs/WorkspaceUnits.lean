import CallAtlas.Proofs.Enumeration
import CallAtlas.Proofs.WorkspaceSurvey

/-!
# One unit for each identity

A unit that a workspace speaks of is the unit of an item in one of its modules, or lies outside of the workspace. That
of an item is known by the path of its module and the place where its definition starts, and two definitions of a file
start at different places; so units of one identity are one unit. A workspace is thus a code base whose notes do not
depend on the order in which it is gone through.
-/

namespace CallAtlas

open Source

namespace Workspace

/-! ## Where definitions start -/

/-- Where a definition of a function or a class starts. -/
def definitionStart? : Node → Option Position
  | .stmt (.functionDef f) => some f.span.start
  | .stmt (.classDef c) => some c.span.start
  | _ => none

/-- No two definitions of functions and classes in a body start at one place. -/
def DefinitionsApart (body : List Stmt) : Prop := ((walkModule body).filterMap definitionStart?).Nodup

instance (body : List Stmt) : Decidable (DefinitionsApart body) := inferInstanceAs (Decidable (List.Nodup _))

theorem functions_sublist_starts (nodes : List Node) :
    ((functionsIn nodes).map (·.span.start)).Sublist (nodes.filterMap definitionStart?) := by
  induction nodes with
  | nil => exact .slnil
  | cons x nodes ih =>
    cases x with
    | expr e => exact ih
    | stmt s =>
      cases s with
      | functionDef f => exact ih.cons_cons f.span.start
      | classDef c => exact ih.cons c.span.start
      | _ => exact ih

theorem DefinitionsApart.startsDiffer {body : List Stmt} (h : DefinitionsApart body) : StartsDiffer body :=
  h.sublist (functions_sublist_starts _)

/-- Where the definition of an item starts. -/
def Item.start : Item → Position
  | .declaration d => d.function.span.start
  | .class c => c.span.start

/-- The unit of an item: that of a declaration, or the constructor that a class has without declaring one. -/
def Item.unit (w : Index) : Item → Callable
  | .declaration d => d.unit
  | .class c => w.implicitConstructor c

/-- The unit and its identity have this place. -/
structure LiesAt (u : Callable) (path : String) (start : Position) : Prop where
  unitPath : u.path = path
  unitStart : u.span.start = start
  identityPath : u.identity.path = path
  identityStart : ModuleEntry.startOf u.identity = start

theorem Place.liesAt_declaration {p : Place} {f : Function} {d : Declaration} (h : p.declaration f = .ok d) :
    LiesAt d.unit p.module.path d.function.span.start := by
  obtain ⟨signature, -, rfl⟩ := bind_pure_eq_ok.1 h
  exact ⟨rfl, rfl, rfl, rfl⟩

/-- There is no file without a path. -/
theorem bodyAt?_empty (codecs : Codecs) (tree : Files.Tree) : bodyAt? codecs tree "" = none := rfl

namespace ModuleEntry

variable {codecs : Codecs} {tree : Files.Tree} {assembly : String} {m : ModuleEntry}

theorem mem_items_of_declaration {d : Declaration} (hd : d ∈ m.declarations) : .declaration d ∈ m.items := by
  obtain ⟨item, mem, made⟩ := List.mem_filterMap.1 hd
  cases item with
  | declaration => cases made; exact mem
  | _ => cases made

theorem mem_items_of_class {c : ClassEntry} (hc : c ∈ m.classes) : .class c ∈ m.items := by
  obtain ⟨item, mem, made⟩ := List.mem_filterMap.1 hc
  cases item with
  | declaration => cases made
  | _ => cases made; exact mem

theorem Reads.exists_node (h : m.Reads codecs tree assembly) {item : Item} (mem : item ∈ m.items) :
    m.id.path ≠ "" ∧ ∃ x, item.IsMadeOf assembly m.id x := by
  cases read : bodyAt? codecs tree m.id.path with
  | none =>
    rw [h.empty read] at mem
    cases mem
  | some body =>
    refine ⟨fun none => ?_, (h.items body read).exists_node mem⟩
    rw [none, bodyAt?_empty] at read
    cases read

theorem Reads.liesAt (h : m.Reads codecs tree assembly) (w : Index) {item : Item} (mem : item ∈ m.items) :
    LiesAt (item.unit w) m.id.path item.start := by
  obtain ⟨-, x, made⟩ := h.exists_node mem
  cases made with
  | function _ module declared =>
    rw [← module]
    exact Place.liesAt_declaration declared
  | entry c module =>
    rw [← module]
    exact ⟨rfl, rfl, rfl, rfl⟩

theorem Reads.nodup_starts (h : m.Reads codecs tree assembly)
    (apart : ∀ body, bodyAt? codecs tree m.id.path = some body → DefinitionsApart body) :
    (m.items.map Item.start).Nodup := by
  cases read : bodyAt? codecs tree m.id.path with
  | none =>
    rw [h.empty read]
    exact List.nodup_nil
  | some body =>
    have starts : (m.items.filterMap (some ∘ Item.start)).Subperm ((walkModule body).filterMap definitionStart?) := by
      refine (h.items body read).subperm fun item x made => ?_
      cases made with
      | function _ _ declared =>
        rw [definitionStart?, ← (Place.declaration_eq_ok declared).1]
        rfl
      | entry => rfl
    rw [List.filterMap_eq_map] at starts
    obtain ⟨some, perm, sublist⟩ := starts
    exact perm.nodup_iff.1 ((apart body read).sublist sublist)

end ModuleEntry

namespace Index

variable {codecs : Codecs} {tree : Files.Tree} {files : List String} {w : Index} {a b u : Callable}

/-- What is accounted for is the unit of an item, or lies outside. -/
theorem Accounts.cases (h : w.Accounts u) :
    (∃ m ∈ w.modules, ∃ item ∈ m.items, u = item.unit w) ∨ ∃ name, u = outsideUnit name := by
  rcases h with ⟨d, hd, rfl⟩ | ⟨c, hc, rfl⟩ | outside
  · obtain ⟨m, hm, hd⟩ := List.mem_flatMap.1 hd
    exact Or.inl ⟨m, hm, _, ModuleEntry.mem_items_of_declaration hd, rfl⟩
  · obtain ⟨m, hm, hc⟩ := List.mem_flatMap.1 hc
    exact Or.inl ⟨m, hm, _, ModuleEntry.mem_items_of_class hc, rfl⟩
  · exact Or.inr outside

/-- All that a workspace speaks of is accounted for. -/
theorem Indexes.accounts_of_spoken (h : w.Indexes codecs tree files) (mem : u ∈ w.codeBase.spoken) : w.Accounts u := by
  obtain ⟨e, he, mem⟩ := List.mem_flatMap.1 mem
  rcases List.mem_cons.1 mem with rfl | mem
  · obtain ⟨m, hm, d, hd, rfl⟩ := h.mem_declarations_iff.1 he
    exact Or.inl (declares_of_mem hm hd)
  · obtain ⟨o, answered, counts⟩ := List.mem_filterMap.1 mem
    obtain ⟨r, rfl, counts⟩ := Option.bind_eq_some_iff.1 counts
    obtain ⟨resolutions, answered, given⟩ := mem_answers_iff.1 answered
    obtain ⟨m, -, d, found⟩ := h.declaration?_of_mem he
    exact accounts_of_callsTo (callsTo_of_refers found ⟨resolutions, answered, r, given, counts⟩)

/-- The definitions of each of the files start at different places. -/
def ApartIn (codecs : Codecs) (tree : Files.Tree) (files : List String) : Prop :=
  ∀ file ∈ files, ∀ body, bodyAt? codecs tree file = some body → DefinitionsApart body

namespace Indexes

theorem item_eq (h : w.Indexes codecs tree files) (apart : ApartIn codecs tree files) {m m' : ModuleEntry}
    (hm : m ∈ w.modules) (hm' : m' ∈ w.modules) {item item' : Item} (mem : item ∈ m.items) (mem' : item' ∈ m'.items)
    (path : m.id.path = m'.id.path) (start : item.start = item'.start) : item = item' := by
  have distinct : (w.modules.map (·.id.path)).Nodup := h.paths ▸ h.distinct
  cases List.inj_on_of_nodup_map distinct hm hm' path
  have file : m.id.path ∈ files := h.paths ▸ List.mem_map_of_mem hm
  exact List.inj_on_of_nodup_map ((h.reads m hm).nodup_starts (apart _ file)) mem mem' start

/-- Units of one identity are one. -/
theorem unit_eq (h : w.Indexes codecs tree files) (apart : ApartIn codecs tree files) (ha : w.Accounts a)
    (hb : w.Accounts b) (same : a.identity = b.identity) : a = b := by
  -- what lies outside has no path
  have inside : ∀ m ∈ w.modules, ∀ item ∈ m.items, ∀ name, (item.unit w).identity ≠ (outsideUnit name).identity := by
    intro m hm item mem name same
    have path := (h.reads m hm).liesAt w mem |>.identityPath
    rw [same] at path
    exact ((h.reads m hm).exists_node mem).1 path.symm
  rcases ha.cases with ⟨m, hm, item, mem, rfl⟩ | ⟨name, rfl⟩
  · rcases hb.cases with ⟨m', hm', item', mem', rfl⟩ | ⟨name, rfl⟩
    · have lies := (h.reads m hm).liesAt w mem
      have lies' := (h.reads m' hm').liesAt w mem'
      have path := (lies.identityPath.symm.trans (congrArg _ same)).trans lies'.identityPath
      have start := (lies.identityStart.symm.trans (congrArg _ same)).trans lies'.identityStart
      rw [h.item_eq apart hm hm' mem mem' path start]
    · exact absurd same (inside m hm item mem name)
  · rcases hb.cases with ⟨m', hm', item', mem', rfl⟩ | ⟨name', rfl⟩
    · exact absurd same.symm (inside m' hm' item' mem' name)
    · have names : name = name' := congrArg (·.qualname) same
      rw [names]

theorem orderly (h : w.Indexes codecs tree files) (apart : ApartIn codecs tree files) : w.codeBase.Orderly := by
  constructor
  case once => exact h.declaresOnce fun file mem body read => (apart file mem body read).startsDiffer
  case places =>
    intro e he f hf path line column
    obtain ⟨m, hm, d, hd, rfl⟩ := h.mem_declarations_iff.1 (List.mem_filter.1 he).1
    obtain ⟨m', hm', d', hd', rfl⟩ := h.mem_declarations_iff.1 (List.mem_filter.1 hf).1
    have mem := ModuleEntry.mem_items_of_declaration hd
    have mem' := ModuleEntry.mem_items_of_declaration hd'
    have lies := (h.reads m hm).liesAt w mem
    have lies' := (h.reads m' hm').liesAt w mem'
    have path : m.id.path = m'.id.path := (lies.unitPath.symm.trans path).trans lies'.unitPath
    have start : Position.mk _ _ = Position.mk _ _ := congr (congrArg Position.mk line) column
    have start := (lies.unitStart.symm.trans start).trans lies'.unitStart
    cases h.item_eq apart hm hm' mem mem' path start
    rfl
  case fields =>
    intro a ha b hb same
    rw [h.unit_eq apart (h.accounts_of_spoken ha) (h.accounts_of_spoken hb) same]

end Indexes

end Index

end Workspace

/-- **The notes do not show the order of enumeration**: whatever the order in which an orderly code base lists its
projects and the documents of each, the notes are the same, and so is which of them win. Every workspace that can be
loaded is an orderly code base, if the definitions of each file start at different places. -/
theorem notes_ignore_enumeration :
    (∀ (r : CodeBase) projects documents, r.Orderly → r.Reorders projects documents →
      r.SameNotes (r.listing projects documents)) ∧
    ∀ codecs tree exclude guesses path w, Workspace.load codecs tree exclude guesses path = .ok w →
      Workspace.Index.ApartIn codecs tree (tree.sources exclude (tree.absolute path)) → w.codeBase.Orderly := by
  refine ⟨fun r projects documents orderly order => order.sameNotes orderly, ?_⟩
  intro codecs tree exclude guesses path w loaded apart
  exact (Workspace.Index.indexes_of_load loaded).orderly apart

namespace Survey.Sample

/-- The documents of the sample the other way round. -/
def reversed (project : Project) : Except Refusal (List Document) :=
  if project = app then .ok [document "c.py", document "b.py", document "a.py"] else .error (.gap "not listed")

theorem orderly : (codeBase []).Orderly := by
  constructor
  · decide
  · decide
  · decide

theorem reorders : (codeBase []).Reorders [lost, app] reversed := by
  refine ⟨by decide, fun project _ => ?_⟩
  change Shuffled (if project = app then _ else _) (if project = app then _ else _)
  by_cases own : project = app
  · rw [if_pos own, if_pos own]
    exact .answered (by decide)
  · rw [if_neg own, if_neg own]
    exact .refused _

end Survey.Sample

theorem Workspace.Index.Sample.apart_project :
    ApartIn usualCodecs project (project.sources Files.defaultExcludes (project.absolute root)) := by
  rw [absolute_root, sources_project]
  have each : (["/W/proj/a.py", "/W/proj/b.py"].all fun file =>
      (bodyAt? usualCodecs project file).all fun body => decide (DefinitionsApart body)) = true := by
    decide +kernel
  intro file mem body read
  have one := List.all_eq_true.1 each file mem
  rw [read] at one
  exact of_decide_eq_true one

theorem notes_ignore_enumeration_sample :
    (Survey.Sample.codeBase []).Orderly ∧
      (Survey.Sample.codeBase []).Reorders [Survey.Sample.lost, Survey.Sample.app] Survey.Sample.reversed ∧
      (Survey.Sample.codeBase []).SameNotes
        ((Survey.Sample.codeBase []).listing [Survey.Sample.lost, Survey.Sample.app] Survey.Sample.reversed) ∧
      ∃ w, Workspace.load usualCodecs Workspace.Index.Sample.project Files.defaultExcludes false
        Workspace.Index.Sample.root = .ok w ∧ w.codeBase.Orderly := by
  refine ⟨Survey.Sample.orderly, Survey.Sample.reorders, ?_, ?_⟩
  · exact notes_ignore_enumeration.1 _ _ _ Survey.Sample.orderly Survey.Sample.reorders
  · obtain ⟨w, s, loaded, -⟩ := Workspace.Index.Sample.surveyed_project
    exact ⟨w, loaded, notes_ignore_enumeration.2 _ _ _ _ _ w loaded Workspace.Index.Sample.apart_project⟩

end CallAtlas
