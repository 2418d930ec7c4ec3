import CallAtlas.Command.Execute
import CallAtlas.Proofs.Survey
import CallAtlas.Proofs.Writing
import CallAtlas.Source.CodecNames

/-!
# Phases of a run

Before it writes, a run only reads: no step up to the write phase touches the files, so whatever goes wrong there leaves
them as they are. Every phase that opens closes again, even if it fails. Only a clock that shows numbers beyond all
doubles can get in the way of that; a clock that shows floating-point numbers never does.
-/

namespace CallAtlas

open Number

/-! ## The terminal -/

/-- All that a clock shows are floating-point numbers. -/
def Clock.IsReal (c : Clock) : Prop := ∀ q ∈ c.last :: c.upcoming, ∃ x, q = .real x

theorem Clock.IsReal.read {c : Clock} (h : c.IsReal) : (∃ x, c.read.1 = .real x) ∧ c.read.2.IsReal := by
  unfold Clock.read
  split
  · exact ⟨h _ List.mem_cons_self, h⟩
  · rename_i t rest upcoming
    unfold IsReal at h
    rw [upcoming] at h
    exact ⟨h t (by simp), fun q mem => h q (List.mem_cons_of_mem _ mem)⟩

theorem exists_duration (x : Double) : ∃ text, duration? (.real x) = some text := by
  unfold duration?
  split
  · exact ⟨_, rfl⟩
  · split
    · exact ⟨_, rfl⟩
    · split
      · exact ⟨_, rfl⟩
      · exact ⟨_, rfl⟩

namespace Terminal

@[simp] theorem phases_detail (c : Terminal) (line : String) (tabs : Int) : (c.detail line tabs).phases = c.phases := by
  unfold detail
  split <;> rfl

@[simp] theorem clock_detail (c : Terminal) (line : String) (tabs : Int) : (c.detail line tabs).clock = c.clock := by
  unfold detail
  split <;> rfl

@[simp] theorem memoryUse_detail (c : Terminal) (line : String) (tabs : Int) :
    (c.detail line tabs).memoryUse = c.memoryUse := by
  unfold detail
  split <;> rfl

variable {c : Terminal} {phases : List Phase} {phase : Phase}

theorem begin_spec (h : c.phases = some phases) (name : String) :
    ∃ phase d, c.begin name = .ok d ∧ d.phases = some (phase :: phases) ∧ d.memoryUse = c.memoryUse ∧
      (c.clock.IsReal → d.clock.IsReal ∧ ∃ x, phase.start = .real x) := by
  unfold begin
  rw [h]
  refine ⟨_, _, rfl, phases_detail .., memoryUse_detail .., fun real => ?_⟩
  rw [clock_detail]
  exact ⟨real.read.2, real.read.1⟩

/-- The innermost phase closes, unless a time cannot be shown. -/
theorem finish_spec (h : c.phases = some (phase :: phases)) :
    (∃ d, c.finish = (d, none) ∧ d.phases = some phases ∧ d.memoryUse = c.memoryUse ∧
      (c.clock.IsReal → d.clock.IsReal)) ∨
      (∃ d, c.finish = (d, some .overflow)) ∧ ¬(c.clock.IsReal ∧ ∃ x, phase.start = .real x) := by
  unfold finish
  rw [h]
  dsimp only
  split
  · rename_i none
    refine Or.inr ⟨⟨_, rfl⟩, ?_⟩
    rintro ⟨real, start, hstart⟩
    obtain ⟨stop, hstop⟩ := real.read.1
    rw [hstart, hstop] at none
    obtain ⟨text, shown⟩ := exists_duration (.sub stop start)
    have some : (elapsed? (.real start) (.real stop)).bind duration? = some text := shown
    rw [some] at none
    cases none
  · refine Or.inl ⟨_, rfl, rfl, memoryUse_detail .., fun real => ?_⟩
    dsimp only
    rw [clock_detail]
    exact real.read.2

end Terminal

/-! ## Steps -/

namespace RunStep

variable {α β : Type} {step : RunStep α} {next : α → RunStep β} {s : RunState} {phases : List Phase}

/-- The step leaves the files alone. -/
def Reads (step : RunStep α) : Prop := ∀ s, (step s).1.tree = s.tree

/-- The step opens and closes no phase and reads no clock. -/
def Quiet (step : RunStep α) : Prop :=
  ∀ s, (step s).1.terminal.phases = s.terminal.phases ∧ (step s).1.terminal.clock = s.terminal.clock ∧
    (step s).1.terminal.memoryUse = s.terminal.memoryUse

/-- From a state with these phases open the step comes back to them, unless the clock gets in the way. -/
def Returns (phases : List Phase) (step : RunStep α) : Prop :=
  ∀ s, s.terminal.phases = some phases →
    (step s).1.terminal.phases = some phases ∧ (s.terminal.clock.IsReal → (step s).1.terminal.clock.IsReal) ∨
      ¬s.terminal.clock.IsReal ∧ ∃ fault, (step s).2 = .error (.terminal fault)

theorem inPhase_of_begin {name : String} {terminal : Terminal} (h : s.terminal.begin name = .ok terminal) :
    inPhase name step s = close (step { s with terminal }).2 (step { s with terminal }).1 := by
  rw [inPhase, h]

/-- A phase does what its step does, with a terminal of its own. -/
theorem inPhase_spec (quiet : Quiet step) (name : String) (h : s.terminal.phases = some phases) :
    ∃ opened closed, let result := step { s with terminal := opened }
      inPhase name step s = ({ result.1 with terminal := closed }, result.2) ∧ closed.phases = some phases ∧
          closed.memoryUse = s.terminal.memoryUse ∧ (s.terminal.clock.IsReal → closed.clock.IsReal) ∨
        ¬s.terminal.clock.IsReal ∧
          inPhase name step s = ({ result.1 with terminal := closed }, .error (.terminal .overflow)) := by
  obtain ⟨phase, opened, began, isOpen, memory, real⟩ := Terminal.begin_spec h name
  obtain ⟨samePhases, sameClock, sameMemory⟩ := quiet { s with terminal := opened }
  dsimp only at samePhases sameClock sameMemory
  have unfolded : inPhase name step s = _ := inPhase_of_begin began
  rcases Terminal.finish_spec (samePhases.trans isOpen) with ⟨closed, finished, phases, memory', real'⟩ |
    ⟨⟨closed, finished⟩, notReal⟩
  · refine ⟨opened, closed, Or.inl ⟨?_, phases, ?_, fun h => real' ?_⟩⟩
    · rw [unfolded, close, finished]
    · rw [memory', sameMemory, memory]
    · rw [sameClock]
      exact (real h).1
  · refine ⟨opened, closed, Or.inr ⟨fun h => notReal ?_, ?_⟩⟩
    · rw [sameClock]
      exact real h
    · rw [unfolded, close, finished]

theorem Reads.inPhase (h : Reads step) (name : String) : Reads (inPhase name step) := by
  intro s
  unfold RunStep.inPhase
  split
  · rfl
  · rename_i terminal _
    dsimp only
    unfold close
    split <;> exact h { s with terminal }

theorem Reads.andThen (h : Reads step) (h' : ∀ a, Reads (next a)) : Reads (step.andThen next) := by
  intro s
  have first := h s
  unfold RunStep.andThen
  split
  · rename_i mid a result
    rw [result] at first
    exact (h' a mid).trans first
  · rename_i mid fault result
    rw [result] at first
    exact first

theorem Quiet.inPhase_returns (h : Quiet step) (name : String) (phases : List Phase) :
    Returns phases (inPhase name step) := by
  intro s isOpen
  obtain ⟨opened, closed, ⟨result, back, -, real⟩ | ⟨notReal, result⟩⟩ := inPhase_spec h name isOpen
  · rw [result]
    exact Or.inl ⟨back, real⟩
  · rw [result]
    exact Or.inr ⟨notReal, _, rfl⟩

theorem Returns.andThen (h : Returns phases step) (h' : ∀ a, Returns phases (next a)) :
    Returns phases (step.andThen next) := by
  intro s isOpen
  have first := h s isOpen
  cases result : step s with
  | mk mid r =>
    rw [result] at first
    cases r with
    | error fault =>
      rw [andThen_of_error result]
      rcases first with back | ⟨notReal, other, failed⟩
      · exact Or.inl back
      · cases failed
        exact Or.inr ⟨notReal, other, rfl⟩
    | ok a =>
      rw [andThen_of_ok result]
      rcases first with ⟨back, real⟩ | ⟨-, fault, failed⟩
      · rcases h' a mid back with ⟨back', real'⟩ | ⟨notReal, fault⟩
        · exact Or.inl ⟨back', real' ∘ real⟩
        · exact Or.inr ⟨notReal ∘ real, fault⟩
      · cases failed

theorem reads_value (a : α) : Reads (value a) := fun _ => rfl

theorem returns_value (a : α) : Returns phases (value a) := fun _ isOpen => Or.inl ⟨isOpen, id⟩

end RunStep

open RunStep

/-! ## Before the write phase -/

theorem loadStep_quiet (loader : Loader) : Reads (loadStep loader) ∧ Quiet (loadStep loader) := by
  constructor
  · intro s
    unfold loadStep
    split <;> rfl
  · intro s
    unfold loadStep
    split <;> exact ⟨rfl, rfl, rfl⟩

theorem surveyStep_quiet (codeBase : CodeBase) : Reads (surveyStep codeBase) ∧ Quiet (surveyStep codeBase) := by
  constructor
  · intro s
    unfold surveyStep
    split
    · rfl
    · split <;> rfl
  · intro s
    unfold surveyStep
    split
    · exact ⟨rfl, rfl, rfl⟩
    · split <;> exact ⟨rfl, rfl, rfl⟩

theorem renderStep_quiet (mode : Mode) (codeBase : CodeBase) (survey : Survey) :
    Reads (renderStep mode codeBase survey) ∧ Quiet (renderStep mode codeBase survey) :=
  ⟨fun _ => rfl, fun _ => ⟨rfl, rfl, rfl⟩⟩

/-- What a run does before it writes leaves the files alone. -/
theorem prepare_reads (plan : Plan) (loader : Loader) : Reads (prepare plan loader) :=
  ((loadStep_quiet loader).1.inPhase _).andThen fun codeBase =>
    ((surveyStep_quiet codeBase).1.inPhase _).andThen fun survey =>
      ((renderStep_quiet plan.mode codeBase survey).1.inPhase _).andThen fun _ => reads_value _

/-- What a run does before it writes closes the phases that it opens. -/
theorem prepare_returns (plan : Plan) (loader : Loader) (phases : List Phase) : Returns phases (prepare plan loader) :=
  ((loadStep_quiet loader).2.inPhase_returns _ _).andThen fun codeBase =>
    ((surveyStep_quiet codeBase).2.inPhase_returns _ _).andThen fun survey =>
      ((renderStep_quiet plan.mode codeBase survey).2.inPhase_returns _ _).andThen fun _ => returns_value _

/-! ## From the write phase on -/

namespace RunStep

/-- The step does not stop for want of a code base. -/
def Loaded {α : Type} (step : RunStep α) : Prop := ∀ s fault, (step s).2 ≠ .error (.load fault)

variable {α β : Type} {step : RunStep α} {next : α → RunStep β}

theorem Loaded.andThen (h : Loaded step) (h' : ∀ a, Loaded (next a)) : Loaded (step.andThen next) := by
  intro s fault
  have first := h s fault
  unfold RunStep.andThen
  split
  · exact h' _ _ fault
  · rename_i result
    rw [result] at first
    simpa using first

theorem Loaded.inPhase (h : Loaded step) (name : String) : Loaded (inPhase name step) := by
  intro s fault
  unfold RunStep.inPhase
  split
  · simp
  · dsimp only
    unfold close
    split
    · exact h _ fault
    · simp

theorem loaded_value (a : α) : Loaded (value a) := fun _ _ failed => by cases failed

end RunStep

theorem loaded_writeNotes (outDir : String) (p : Progress) (notes : List Note) : Loaded (writeNotes outDir p notes) := by
  induction notes generalizing p with
  | nil => exact loaded_value p
  | cons n notes ih =>
    refine Loaded.andThen (fun s fault => ?_) ih
    unfold writeNote
    split
    · simp
    · split <;> simp

theorem loaded_reportMemory : Loaded reportMemory := by
  intro s fault
  unfold reportMemory
  split <;> simp

/-- A run that stops for want of a code base stops before it writes. -/
theorem prepare_of_run_load {plan : Plan} {loader : Loader} {s s' : RunState} {fault : LoadFault}
    (h : run plan loader s = (s', .error (.load fault))) : prepare plan loader s = (s', .error (.load fault)) := by
  have later : ∀ prepared : Survey × List Note,
      Loaded ((inPhase "write" (writeStep plan prepared.1 prepared.2)).andThen fun summary =>
        reportMemory.andThen fun _ => value summary) := fun prepared =>
    (((loaded_writeNotes _ _ _).andThen fun _ _ _ failed => by cases failed).inPhase "write").andThen fun summary =>
      loaded_reportMemory.andThen fun _ => loaded_value summary
  cases prepared : prepare plan loader s with
  | mk mid result =>
    cases result with
    | ok prepared' =>
      rw [run, andThen_of_ok prepared] at h
      exact absurd (congrArg Prod.snd h) (later prepared' mid fault)
    | error other =>
      rw [run, andThen_of_error prepared] at h
      cases h
      rfl

/-! ## The whole command -/

namespace Command

theorem conclude_tree (plan : Plan) (s : RunState) (result : Except RunFault Summary) :
    (conclude plan s result).tree = s.tree := by
  unfold conclude
  split <;> rfl

/-- After a run a command ends with status one only if there was nothing to load, and is never refused. -/
theorem unloadable_of_conclude {plan : Plan} {s : RunState} {result : Except RunFault Summary}
    (h : (∃ status, (conclude plan s result).ending = .refused status) ∨ (conclude plan s result).ending = .finished 1) :
    ∃ path reason, result = .error (.load (.unloadable path reason)) := by
  unfold conclude at h
  split at h
  · simp at h
  · exact ⟨_, _, rfl⟩
  · simp at h

theorem decline_tree (tree : Files.Tree) (clock : Clock) (stop : Stop) : (decline tree clock stop).tree = tree := by
  cases stop <;> rfl

/-- A command that makes no run, or finds no code base, leaves the files alone. -/
theorem execute_tree {host : Host} {tree : Files.Tree} {clock : Clock} {memoryUse : Quantity} {texts : List String}
    (h : (∃ status, (execute host tree clock memoryUse texts).ending = .refused status) ∨
      (execute host tree clock memoryUse texts).ending = .finished 1) :
    (execute host tree clock memoryUse texts).tree = tree := by
  cases settled : settle host.edition tree texts with
  | error stop =>
    rw [execute, settled]
    exact decline_tree ..
  | ok settings =>
    cases planned : settings.plan? tree.currentPath with
    | none => simp only [execute, settled, planned]
    | some plan =>
      cases ran : run plan (workspaceLoader host.codecs plan) (begin plan tree clock memoryUse) with
      | mk s result =>
        have whole : execute host tree clock memoryUse texts = conclude plan s result := by
          simp only [execute, settled, planned, ran]
        rw [whole] at h ⊢
        obtain ⟨path, reason, rfl⟩ := unloadable_of_conclude h
        have reads := prepare_reads plan (workspaceLoader host.codecs plan) (begin plan tree clock memoryUse)
        rw [prepare_of_run_load ran] at reads
        rw [conclude_tree]
        exact reads

end Command

/-- Nothing is written unless all that comes before writing succeeded: not by a command that makes no run or finds no code
base, and not by a run that stops while it loads, surveys or renders. Such a run closes its phases, as its clock shows
floating-point numbers or at least the terminal is not what stopped it. -/
theorem nothing_written_before_write_phase :
    (∀ (host : Command.Host) (tree : Files.Tree) (clock : Clock) (memoryUse : Quantity) (texts : List String),
      ((∃ status, (Command.execute host tree clock memoryUse texts).ending = .refused status) ∨
          (Command.execute host tree clock memoryUse texts).ending = .finished 1) →
        (Command.execute host tree clock memoryUse texts).tree = tree) ∧
      ∀ (plan : Plan) (loader : Loader) (s s' : RunState) (fault : RunFault),
        prepare plan loader s = (s', .error fault) →
          run plan loader s = (s', .error fault) ∧ s'.tree = s.tree ∧
            (s.terminal.phases = some [] → (s.terminal.clock.IsReal ∨ ∀ f, fault ≠ .terminal f) →
              s'.terminal.phases = some []) := by
  constructor
  · intro host tree clock memoryUse texts ended
    exact Command.execute_tree ended
  · intro plan loader s s' fault failed
    have reads := prepare_reads plan loader s
    rw [failed] at reads
    refine ⟨andThen_of_error failed, reads, fun root clock => ?_⟩
    have returns := prepare_returns plan loader [] s root
    rw [failed] at returns
    rcases returns with ⟨back, -⟩ | ⟨notReal, other, same⟩
    · exact back
    · cases same
      rcases clock with real | noTerminal
      · exact absurd real notReal
      · exact absurd rfl (noTerminal other)

namespace Phases.Sample

def host : Command.Host := { edition := .late, codecs := Source.usualCodecs }

/-- Files without a source file. -/
def tree : Files.Tree := (Files.Tree.empty []).place ["W", "notes.txt"] (.file [])

def plan : Plan := { projectPath := "/W", mode := .perFile, outDir := "/W/out" }

/-- One declaration, whose documentation is not told. -/
def codeBase : CodeBase :=
  { projects := [Survey.Sample.app]
    documents := fun _ => .ok [Survey.Sample.document "a.py"]
    declared := fun _ => .ok [Survey.Sample.unit "f" 1]
    calls := fun _ _ => .ok []
    documentationRefusal := fun _ => some (.gap "no text") }

def loader : Loader := fun _ => .ok (codeBase, [])

theorem prepare_fails : ∃ s', prepare plan loader { tree } = (s', .error (.refused (.gap "no text"))) := by
  have stopped : (prepare plan loader { tree }).2 = .error (.refused (.gap "no text")) := by decide +kernel
  cases result : prepare plan loader { tree } with
  | mk s' r =>
    rw [result] at stopped
    exact ⟨s', congrArg (Prod.mk s') stopped⟩

end Phases.Sample

open Phases.Sample in
/-- A request for help, a path without source files, and a run that stops while it renders. -/
theorem nothing_written_sample :
    (Command.execute host tree {} (.whole 0) ["--help"]).tree = tree ∧
      (Command.execute host tree {} (.whole 0) ["--per-file", "/W"]).tree = tree ∧
      ∃ s', run plan loader { tree } = (s', .error (.refused (.gap "no text"))) ∧
        s'.tree = tree ∧ s'.terminal.phases = some [] := by
  obtain ⟨command, whole⟩ := nothing_written_before_write_phase
  refine ⟨command _ _ _ _ _ (Or.inl ⟨0, by decide +kernel⟩), command _ _ _ _ _ (Or.inr (by decide +kernel)), ?_⟩
  obtain ⟨s', failed⟩ := prepare_fails
  obtain ⟨stopped, same, root⟩ := whole plan loader { tree } s' _ failed
  exact ⟨s', stopped, same, root rfl (Or.inr (by simp))⟩

end CallAtlas
