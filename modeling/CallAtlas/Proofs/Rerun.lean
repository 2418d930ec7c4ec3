import CallAtlas.Proofs.Phases
import CallAtlas.Proofs.Reload
import CallAtlas.Proofs.WorkspaceSurvey

/-!
# Running twice

A second run right after the first one changes nothing. Notes have names that no source file has, so the first run spares
the source files and makes no package, and the second one finds the code base as it was. It writes up the same notes then,
finds each of them stored, and leaves it alone.
-/

namespace CallAtlas

open Files Number

/-! ## The names of notes -/

namespace Files

theorem toList_sanitize (name : String) :
    (sanitize name).toList = name.toList.map fun c => if isForbidden c then '_' else c := by
  rw [sanitize, String.toList_ofList, sanitizeWith]
  generalize name.toList = chars
  induction chars with
  | nil => rfl
  | cons c chars ih =>
    rw [List.flatMap_cons, List.map_cons, ih]
    split <;> rfl

theorem isForbidden_of_mem_sanitize {name : String} {c : Char} (mem : c ∈ (sanitize name).toList) :
    isForbidden c = false := by
  rw [toList_sanitize] at mem
  obtain ⟨old, -, rfl⟩ := List.mem_map.1 mem
  split
  · rfl
  · rename_i allowed
    exact Bool.eq_false_iff.2 allowed

theorem toList_sanitize_note (base : String) :
    (sanitize (base ++ ".md")).toList = (sanitize base).toList ++ ['.', 'm', 'd'] := by
  rw [toList_sanitize, toList_sanitize, String.toList_append, List.map_append]
  rfl

/-- The name of a note is one part of a path, and no source file has it. -/
theorem sanitize_note (base : String) :
    isName (sanitize (base ++ ".md")) = true ∧ isSource (sanitize (base ++ ".md")) = false := by
  constructor
  · rw [isName_iff]
    exact ⟨by simp [toList_sanitize_note], fun slash => absurd (isForbidden_of_mem_sanitize slash) (by decide)⟩
  · -- an extension is the end of its path, and this one ends otherwise
    refine Bool.eq_false_iff.2 fun source => ?_
    obtain ⟨front, whole⟩ := Path.splitExtension_suffix (sanitize (base ++ ".md")).toList
    have extension : (Path.splitExtension (sanitize (base ++ ".md")).toList).2 = ['.', 'p', 'y'] := by
      rw [isSource, Path.extension, beq_iff_eq] at source
      exact String.ofList_injective source
    rw [extension, toList_sanitize_note] at whole
    have last := congrArg List.getLast? whole
    simp at last

end Files

theorem Note.names_of_mem_render {current : String} {mode : Mode} {codeBase : CodeBase} {survey : Survey} {n : Note}
    (h : n ∈ Note.render current mode codeBase survey) : isName n.filename = true ∧ isSource n.filename = false := by
  cases mode with
  | perFile =>
    obtain ⟨⟨path, units⟩, -, rfl⟩ := List.mem_map.1 h
    exact sanitize_note _
  | perUnit =>
    obtain ⟨u, -, rfl⟩ := List.mem_map.1 h
    exact sanitize_note _

/-! ## Phases that succeed -/

/-- A terminal that cannot fail: a phase can be opened, its clock shows floating-point numbers, and the memory in use can
be shown. -/
structure Terminal.Ready (c : Terminal) : Prop where
  isOpen : ∃ phases, c.phases = some phases
  clock : c.clock.IsReal
  memory : (memoryAmount? c.memoryUse).isSome = true

namespace RunStep

variable {α β : Type} {step : RunStep α} {next : α → RunStep β} {s s' : RunState} {a : α} {tree : Tree}

/-- The step leaves a terminal that is ready ready. -/
def KeepsReady (step : RunStep α) : Prop := ∀ s, s.terminal.Ready → (step s).1.terminal.Ready

theorem Quiet.keepsReady_inPhase (h : Quiet step) (name : String) : KeepsReady (inPhase name step) := by
  intro s ready
  obtain ⟨phases, isOpen⟩ := ready.isOpen
  obtain ⟨opened, closed, ⟨result, back, memory, real⟩ | ⟨notReal, -⟩⟩ := inPhase_spec h name isOpen
  · rw [result]
    exact ⟨⟨phases, back⟩, real ready.clock, memory ▸ ready.memory⟩
  · exact absurd ready.clock notReal

theorem KeepsReady.andThen (h : KeepsReady step) (h' : ∀ a, KeepsReady (next a)) : KeepsReady (step.andThen next) := by
  intro s ready
  have first := h s ready
  unfold RunStep.andThen
  split
  · rename_i mid a result
    rw [result] at first
    exact h' a mid first
  · rename_i mid fault result
    rw [result] at first
    exact first

theorem keepsReady_value (a : α) : KeepsReady (value a) := fun _ => id

theorem inPhase_of_ready (ready : s.terminal.Ready) (quiet : Quiet step) (name : String)
    (h : ∀ terminal, ∃ mid, step { s with terminal } = (mid, .ok a) ∧ mid.tree = tree) :
    ∃ s', inPhase name step s = (s', .ok a) ∧ s'.tree = tree ∧ s'.terminal.Ready := by
  have ready' := quiet.keepsReady_inPhase name s ready
  obtain ⟨phases, isOpen⟩ := ready.isOpen
  obtain ⟨opened, closed, ⟨result, -⟩ | ⟨notReal, -⟩⟩ := inPhase_spec quiet name isOpen
  · obtain ⟨mid, done, same⟩ := h opened
    rw [done] at result
    rw [result] at ready'
    exact ⟨_, result, same, ready'⟩
  · exact absurd ready.clock notReal

theorem inPhase_eq_ok {name : String} (h : inPhase name step s = (s', .ok a)) :
    ∃ terminal mid, step { s with terminal } = (mid, .ok a) ∧ s'.tree = mid.tree := by
  cases began : s.terminal.begin name with
  | error fault =>
    rw [inPhase, began] at h
    cases h
  | ok terminal =>
    rw [inPhase_of_begin began] at h
    cases result : step { s with terminal } with
    | mk mid r =>
      rw [result, close] at h
      split at h
      · cases h
        exact ⟨terminal, mid, result, rfl⟩
      · cases h

theorem Quiet.andThen (h : Quiet step) (h' : ∀ a, Quiet (next a)) : Quiet (step.andThen next) := by
  intro s
  have first := h s
  unfold RunStep.andThen
  split
  · rename_i mid a result
    rw [result] at first
    obtain ⟨phases, clock, memory⟩ := h' a mid
    exact ⟨phases.trans first.1, clock.trans first.2.1, memory.trans first.2.2⟩
  · rename_i mid fault result
    rw [result] at first
    exact first

end RunStep

open RunStep

theorem writeNotes_quiet (outDir : String) (p : Progress) (notes : List Note) : Quiet (writeNotes outDir p notes) := by
  induction notes generalizing p with
  | nil => exact fun _ => ⟨rfl, rfl, rfl⟩
  | cons n notes ih =>
    refine Quiet.andThen (fun s => ?_) ih
    unfold writeNote
    split
    · exact ⟨rfl, rfl, rfl⟩
    · split <;> exact ⟨rfl, rfl, rfl⟩

theorem writeStep_quiet (plan : Plan) (survey : Survey) (notes : List Note) : Quiet (writeStep plan survey notes) :=
  (writeNotes_quiet _ _ _).andThen fun _ _ =>
    ⟨Terminal.phases_detail .., Terminal.clock_detail .., Terminal.memoryUse_detail ..⟩

/-! ## What is written up -/

/-- What a run finds in the files and writes up: a survey and the notes on it. -/
def Renders (plan : Plan) (loader : Loader) (tree : Tree) (prepared : Survey × List Note) : Prop :=
  ∃ codeBase log, loader tree = .ok (codeBase, log) ∧ codeBase.projectsRefusal = none ∧
    Survey.ofCodeBase codeBase = .ok prepared.1 ∧ Note.refusal? plan.mode codeBase prepared.1 = none ∧
    Note.render tree.currentPath plan.mode codeBase prepared.1 = prepared.2

theorem Renders.names {plan : Plan} {loader : Loader} {tree : Tree} {prepared : Survey × List Note}
    (h : Renders plan loader tree prepared) :
    ∀ n ∈ prepared.2, isName n.filename = true ∧ isSource n.filename = false := by
  obtain ⟨codeBase, _, _, _, _, _, rendered⟩ := h
  rw [← rendered]
  exact fun n => Note.names_of_mem_render

section Steps

variable {plan : Plan} {loader : Loader} {s s' mid : RunState} {codeBase : CodeBase} {survey : Survey}
  {notes : List Note} {prepared : Survey × List Note}

theorem loadStep_eq_ok (h : loadStep loader s = (s', .ok codeBase)) : ∃ log, loader s.tree = .ok (codeBase, log) := by
  unfold loadStep at h
  split at h
  · rename_i log found
    cases h
    exact ⟨log, found⟩
  · cases h

theorem surveyStep_eq_ok (h : surveyStep codeBase s = (s', .ok survey)) :
    codeBase.projectsRefusal = none ∧ Survey.ofCodeBase codeBase = .ok survey := by
  unfold surveyStep at h
  split at h
  · cases h
  · rename_i told
    split at h
    · rename_i found
      cases h
      exact ⟨told, found⟩
    · cases h

theorem renderStep_eq_ok {mode : Mode} (h : renderStep mode codeBase survey s = (s', .ok notes)) :
    Note.refusal? mode codeBase survey = none ∧ Note.render s.tree.currentPath mode codeBase survey = notes := by
  have result := congrArg Prod.snd h
  unfold renderStep at result
  dsimp only at result
  split at result
  · cases result
  · rename_i none
    exact ⟨none, Except.ok.inj result⟩

theorem renders_of_prepare (h : prepare plan loader s = (mid, .ok prepared)) : Renders plan loader s.tree prepared := by
  obtain ⟨s₁, codeBase, load, h⟩ := andThen_eq_ok h
  obtain ⟨s₂, survey, build, h⟩ := andThen_eq_ok h
  obtain ⟨s₃, notes, render, done⟩ := andThen_eq_ok h
  cases done
  have tree₁ := (loadStep_quiet loader).1.inPhase "load" s
  have tree₂ := (surveyStep_quiet codeBase).1.inPhase "build" s₁
  rw [load] at tree₁
  rw [build] at tree₂
  obtain ⟨_, _, load, -⟩ := inPhase_eq_ok load
  obtain ⟨_, _, build, -⟩ := inPhase_eq_ok build
  obtain ⟨_, _, render, -⟩ := inPhase_eq_ok render
  obtain ⟨log, loaded⟩ := loadStep_eq_ok load
  obtain ⟨projects, surveyed⟩ := surveyStep_eq_ok build
  obtain ⟨noRefusal, rendered⟩ := renderStep_eq_ok render
  dsimp only at rendered
  rw [tree₂, tree₁] at rendered
  exact ⟨codeBase, log, loaded, projects, surveyed, noRefusal, rendered⟩

theorem prepare_of_renders (ready : s.terminal.Ready) (h : Renders plan loader s.tree prepared) :
    ∃ mid, prepare plan loader s = (mid, .ok prepared) ∧ mid.tree = s.tree ∧ mid.terminal.Ready := by
  obtain ⟨codeBase, log, loaded, projects, surveyed, noRefusal, rendered⟩ := h
  have load : ∀ terminal, ∃ mid, loadStep loader { s with terminal } = (mid, .ok codeBase) ∧ mid.tree = s.tree := by
    intro terminal
    rw [loadStep, loaded]
    exact ⟨_, rfl, rfl⟩
  obtain ⟨s₁, load, tree₁, ready₁⟩ := inPhase_of_ready ready (loadStep_quiet loader).2 "load" load
  have build : ∀ terminal, ∃ mid, surveyStep codeBase { s₁ with terminal } = (mid, .ok prepared.1) ∧
      mid.tree = s.tree := by
    intro terminal
    rw [surveyStep, projects, surveyed]
    exact ⟨_, rfl, tree₁⟩
  obtain ⟨s₂, build, tree₂, ready₂⟩ := inPhase_of_ready ready₁ (surveyStep_quiet codeBase).2 "build" build
  have render : ∀ terminal, ∃ mid, renderStep plan.mode codeBase prepared.1 { s₂ with terminal } =
      (mid, .ok prepared.2) ∧ mid.tree = s.tree := by
    intro terminal
    rw [renderStep, noRefusal, tree₂, rendered]
    exact ⟨_, rfl, rfl⟩
  obtain ⟨s₃, render, tree₃, ready₃⟩ :=
    inPhase_of_ready ready₂ (renderStep_quiet plan.mode codeBase prepared.1).2 "render" render
  refine ⟨s₃, ?_, tree₃, ready₃⟩
  rw [prepare, andThen_of_ok load, andThen_of_ok build, andThen_of_ok render]
  rfl

end Steps

/-! ## The terminal at the end -/

theorem keepsReady_prepare (plan : Plan) (loader : Loader) : KeepsReady (prepare plan loader) :=
  ((loadStep_quiet loader).2.keepsReady_inPhase "load").andThen fun codeBase =>
    ((surveyStep_quiet codeBase).2.keepsReady_inPhase "build").andThen fun survey =>
      ((renderStep_quiet plan.mode codeBase survey).2.keepsReady_inPhase "render").andThen fun _ => keepsReady_value _

theorem reportMemory_of_ready {s : RunState} (ready : s.terminal.Ready) :
    ∃ s', reportMemory s = (s', .ok ()) ∧ s'.tree = s.tree ∧ s'.terminal.Ready := by
  obtain ⟨size, shown⟩ := Option.isSome_iff_exists.1 ready.memory
  rw [reportMemory, Terminal.memory, shown]
  refine ⟨_, rfl, rfl, ?_⟩
  exact ⟨by simpa using ready.isOpen, by simpa using ready.clock, by simpa using ready.memory⟩

theorem keepsReady_run (plan : Plan) (loader : Loader) : KeepsReady (run plan loader) :=
  (keepsReady_prepare plan loader).andThen fun prepared =>
    ((writeStep_quiet plan prepared.1 prepared.2).keepsReady_inPhase "write").andThen fun _ =>
      KeepsReady.andThen (fun _ ready => by
        obtain ⟨s', reported, -, ready'⟩ := reportMemory_of_ready ready
        rwa [reported]) fun _ => keepsReady_value _

/-! ## Notes that are stored already -/

theorem writeNotes_of_stored {outDir : String} {p : Progress} {notes : List Note} {s : RunState} (plain : s.tree.Plain)
    (stored : ∀ n ∈ Note.winnersAfter p.used notes, s.tree.Stored (Path.join outDir n.filename) n.text) :
    ∃ s' p', writeNotes outDir p notes s = (s', .ok p') ∧ s'.tree = s.tree ∧
      p'.summary.written = p.summary.written := by
  induction notes generalizing p s with
  | nil => exact ⟨s, p, rfl, rfl, rfl⟩
  | cons n notes ih =>
    by_cases used : n.key ∈ p.used
    · obtain ⟨log, skipped⟩ : ∃ log, writeNote outDir p n s = ({ s with log := log }, .ok p.skip) :=
        writeNote_of_used used
      rw [Note.winnersAfter_cons_used used] at stored
      rw [writeNotes, andThen_of_ok skipped]
      exact ih (p := p.skip) (s := { s with log := log }) plain stored
    · rw [Note.winnersAfter_cons_new used] at stored
      obtain ⟨first, others⟩ := List.forall_mem_cons.1 stored
      rw [writeNotes, andThen_of_ok (writeNote_of_stored used (Tree.writeIfChanged_of_stored plain first))]
      exact ih (p := p.take n false) plain others

/-- Notes that are stored are found unchanged, all else being counted as when they were stored. -/
theorem writeStep_of_stored {plan : Plan} {survey : Survey} {notes : List Note} {s s₁ t : RunState} {summary : Summary}
    (first : writeStep plan survey notes s = (s₁, .ok summary)) (plain : t.tree.Plain)
    (stored : ∀ n, Note.Wins notes n → t.tree.Stored (Path.join plan.outDir n.filename) n.text) :
    ∃ t', writeStep plan survey notes t = (t', .ok { summary with written := 0, unchanged := summary.notes }) ∧
      t'.tree = t.tree := by
  obtain ⟨mid, p, wrote, done⟩ := andThen_eq_ok first
  obtain rfl : p.summary = summary := Except.ok.inj (congrArg Prod.snd done)
  obtain ⟨t', q, again, same, none⟩ := writeNotes_of_stored
    (p := { summary := { mode := plan.mode, outDir := plan.outDir, documentsSkipped := survey.documentsSkipped } })
    plain fun n mem => stored n (Note.mem_winnersAfter_iff.1 mem).2
  obtain ⟨written, unchanged, lost, counts, settled, all⟩ := writeNotes_counts wrote
  obtain ⟨written', unchanged', lost', counts', settled', all'⟩ := writeNotes_counts again
  obtain rfl : written' = 0 := by simpa [counts', Summary.count] using none
  obtain rfl : lost' = lost := Nat.add_left_cancel (all'.trans all.symm)
  have summary : q.summary = { p.summary with written := 0, unchanged := p.summary.notes } := by
    rw [counts, counts']
    simp only [Summary.count, Nat.zero_add] at settled' ⊢
    rw [settled']
  rw [writeStep, andThen_of_ok again, ← summary]
  exact ⟨_, rfl, same⟩

/-! ## The second run -/

/-- What a run that succeeded did. -/
theorem run_eq_ok {plan : Plan} {loader : Loader} {s s' : RunState} {summary : Summary}
    (h : run plan loader s = (s', .ok summary)) :
    ∃ mid prepared opened done, prepare plan loader s = (mid, .ok prepared) ∧ opened.tree = s.tree ∧
      writeStep plan prepared.1 prepared.2 opened = (done, .ok summary) ∧ s'.tree = done.tree := by
  have reads := prepare_reads plan loader s
  obtain ⟨mid, prepared, begun, h⟩ := andThen_eq_ok h
  obtain ⟨s₁, total, write, h⟩ := andThen_eq_ok h
  obtain ⟨s₂, _, report, done⟩ := andThen_eq_ok h
  cases done
  rw [begun] at reads
  have same : s'.tree = s₁.tree := by
    unfold reportMemory at report
    split at report <;> cases report
    rfl
  obtain ⟨terminal, done, written, tree⟩ := inPhase_eq_ok write
  exact ⟨mid, prepared, { mid with terminal }, done, begun, reads, written, same.trans tree⟩

theorem run_of_prepare {plan : Plan} {loader : Loader} {s mid : RunState} {prepared : Survey × List Note}
    {summary : Summary} {tree : Tree} (begun : prepare plan loader s = (mid, .ok prepared)) (ready : mid.terminal.Ready)
    (h : ∀ terminal, ∃ done, writeStep plan prepared.1 prepared.2 { mid with terminal } = (done, .ok summary) ∧
      done.tree = tree) :
    ∃ s', run plan loader s = (s', .ok summary) ∧ s'.tree = tree := by
  obtain ⟨s₁, write, tree₁, ready₁⟩ := inPhase_of_ready ready (writeStep_quiet plan prepared.1 prepared.2) "write" h
  obtain ⟨s₂, report, tree₂, -⟩ := reportMemory_of_ready ready₁
  refine ⟨s₂, ?_, tree₂.trans tree₁⟩
  rw [run, andThen_of_ok begun, andThen_of_ok write, andThen_of_ok report]
  rfl

open Command

/-- What is written up stays the same under changes that spare the source files. -/
theorem renders_again {codecs : Source.Codecs} {plan : Plan} {s : RunState} {u : Tree} {prepared : Survey × List Note}
    {mayWrite : Location → Prop} (plain : s.tree.Plain) (changes : Tree.Changes mayWrite s.tree u)
    (spares : Tree.SparesSources mayWrite) (h : Renders plan (workspaceLoader codecs plan) s.tree prepared) :
    Renders plan (workspaceLoader codecs plan) u prepared := by
  obtain ⟨codeBase, log, loaded, h⟩ := h
  have again : workspaceLoader codecs plan u = .ok (codeBase, log) := by
    unfold workspaceLoader at loaded ⊢
    cases found : Workspace.load codecs s.tree defaultExcludes plan.guesses plan.projectPath with
    | error fault =>
      rw [found] at loaded
      cases loaded
    | ok index =>
      rw [found] at loaded
      rw [Workspace.load_changes plain changes spares found, Tree.absolute_changes changes]
      exact loaded
  have current : u.currentPath = s.tree.currentPath := by
    rw [Tree.currentPath, Tree.currentPath, changes.current]
  rw [← current] at h
  exact ⟨codeBase, log, again, h⟩

/-- A run that is made again right after it succeeded succeeds again: it writes up the same notes, finds all of them
unchanged, counts as before, and leaves every file and every directory as it is. The number of workers and what is shown
do not matter. -/
theorem rerun_changes_nothing {codecs : Source.Codecs} {plan : Plan} {s s₁ : RunState} {summary : Summary}
    (plain : s.tree.Plain) (ran : run plan (workspaceLoader codecs plan) s = (s₁, .ok summary))
    (workers : Int) (isVerbose isDebug : Bool) {terminal : Terminal} (ready : terminal.Ready) (log : Log) :
    let again : Plan := { plan with workers, isVerbose, isDebug }
    let second : RunState := { tree := s₁.tree, terminal, log }
    (∃ mid mid' prepared, prepare plan (workspaceLoader codecs plan) s = (mid, .ok prepared) ∧
      prepare again (workspaceLoader codecs again) second = (mid', .ok prepared)) ∧
    (∃ s₂, run again (workspaceLoader codecs again) second =
        (s₂, .ok { summary with written := 0, unchanged := summary.notes }) ∧ s₂.tree = s₁.tree) ∧
    (s.terminal.Ready → s₁.terminal.Ready) := by
  intro again second
  obtain ⟨mid, prepared, opened, done, begun, before, written, after⟩ := run_eq_ok ran
  have renders := renders_of_prepare begun
  obtain ⟨changes, stored⟩ := writeStep_stored (before ▸ plain) (fun n mem => (renders.names n mem).1) written
  rw [before, ← after] at changes
  rw [← after] at stored
  have spares : Tree.SparesSources fun place =>
      ∃ n, Note.Wins prepared.2 n ∧ place.getLast? = some n.filename := by
    rintro place name ⟨n, wins, last⟩ last'
    obtain rfl : n.filename = name := Option.some.inj (last.symm.trans last')
    exact (renders.names n wins.mem).2
  obtain ⟨mid', begun', tree', ready'⟩ :=
    prepare_of_renders (s := second) ready (renders_again plain changes spares renders)
  have plain' : mid'.tree.Plain := tree' ▸ plain.changes changes
  refine ⟨⟨mid, mid', prepared, begun, begun'⟩, ?_, fun ready => ?_⟩
  · refine run_of_prepare begun' ready' fun terminal => ?_
    obtain ⟨done, again, same⟩ := writeStep_of_stored (t := { mid' with terminal }) written plain' (tree' ▸ stored)
    exact ⟨done, again, same.trans tree'⟩
  · have last := keepsReady_run plan (workspaceLoader codecs plan) s ready
    rwa [ran] at last

namespace Rerun.Sample

/-- A project whose notes go into a directory inside of it. -/
def tree : Tree := Workspace.Index.Sample.treeOf [("a.py", "def f(): f()\n")]

def plan : Plan := { projectPath := "proj", mode := .perFile, outDir := "proj/notes", guesses := true }

def summary : Summary := { mode := .perFile, outDir := "proj/notes", units := 1, notes := 1, written := 1 }

theorem plain_tree : tree.Plain := Tree.plain_of_all _ (by decide +kernel) (by decide +kernel)

theorem runs : ∃ s₁, run plan (workspaceLoader Source.usualCodecs plan) { tree := tree } = (s₁, .ok summary) := by
  have succeeds : (run plan (workspaceLoader Source.usualCodecs plan) { tree := tree }).2 = .ok summary := by decide +kernel
  cases result : run plan (workspaceLoader Source.usualCodecs plan) { tree := tree } with
  | mk s₁ r =>
    rw [result] at succeeds
    exact ⟨s₁, congrArg (Prod.mk s₁) succeeds⟩

theorem ready : ({} : Terminal).Ready :=
  ⟨⟨[], rfl⟩, fun q shown => ⟨.zero false, by simpa using shown⟩, by decide +kernel⟩

end Rerun.Sample

open Rerun.Sample in
/-- A first run writes a note, and a second one with four workers finds it unchanged. -/
theorem rerun_changes_nothing_sample :
    tree.Plain ∧ ∃ s₁ s₂, run plan (workspaceLoader Source.usualCodecs plan) { tree := tree } = (s₁, .ok summary) ∧
      run { plan with workers := 4 } (workspaceLoader Source.usualCodecs { plan with workers := 4 }) { tree := s₁.tree } =
        (s₂, .ok { summary with written := 0, unchanged := 1 }) ∧
      s₂.tree = s₁.tree := by
  obtain ⟨s₁, ran⟩ := runs
  obtain ⟨-, ⟨s₂, again, same⟩, -⟩ :=
    rerun_changes_nothing (s := { tree := tree }) plain_tree ran 4 false false ready []
  exact ⟨plain_tree, s₁, s₂, ran, again, same⟩

end CallAtlas
