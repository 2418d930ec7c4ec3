import CallAtlas.Terminal
import CallAtlas.Files.Note
import CallAtlas.Note.Render
import CallAtlas.Text.Case

/-!
# Runs

A run loads a code base, surveys it, writes up the notes and puts them into files, in this order and each phase only if
those before it succeeded. Of notes that share a file name, whatever its case, the first one counts.
-/

namespace CallAtlas

open Number

/-- What a run has done. -/
structure Summary where
  mode : Mode
  outDir : String
  units : Nat := 0
  notes : Nat := 0
  written : Nat := 0
  unchanged : Nat := 0
  collisions : Nat := 0
  documentsSkipped : Nat := 0
  deriving Repr, DecidableEq, Inhabited

/-- A summary in one line. -/
def Summary.describe (s : Summary) : String :=
  match s.mode with
  | .perFile =>
    "Wrote " ++ counted s.units "method" ++ " into " ++ counted s.notes "markdown file" ++ " → " ++ s.outDir
  | .perUnit => "Wrote " ++ counted s.notes "method markdown file" ++ " → " ++ s.outDir

/-- What a run works on. -/
structure RunState where
  tree : Files.Tree
  terminal : Terminal := {}
  log : Log := []
  deriving Inhabited

/-- Why a run stops. -/
inductive RunFault where
  | load (fault : LoadFault)
  | unwritable (fault : Source.RenderFault)
  /-- The code base does not tell something that cannot be passed over. -/
  | refused (refusal : Refusal)
  | file (fault : Files.Fault)
  | terminal (fault : Terminal.Fault)
  deriving Repr, DecidableEq

/-- A step of a run: the state after it, and what it gives or why the run stops. -/
abbrev RunStep (α : Type) := RunState → RunState × Except RunFault α

namespace RunStep

/-- Then the next step, unless the run stops. -/
def andThen {α β : Type} (step : RunStep α) (next : α → RunStep β) : RunStep β := fun s =>
  match step s with
  | (s, .ok a) => next a s
  | (s, .error fault) => (s, .error fault)

/-- Only gives a value. -/
def value {α : Type} (a : α) : RunStep α := fun s => (s, .ok a)

/-- Gives a value or stops. -/
def result {α : Type} (r : Except RunFault α) : RunStep α := fun s => (s, r)

/-- Adds to the log. -/
def note (lines : Log) : RunStep Unit := fun s => ({ s with log := s.log ++ lines }, .ok ())

/-- Closes the innermost phase, whatever happened in it. -/
def close {α : Type} (r : Except RunFault α) : RunStep α := fun s =>
  match s.terminal.finish with
  | (terminal, none) => ({ s with terminal }, r)
  | (terminal, some fault) => ({ s with terminal }, .error (.terminal fault))

/-- A step as a phase of its own. -/
def inPhase {α : Type} (name : String) (step : RunStep α) : RunStep α := fun s =>
  match s.terminal.begin name with
  | .error fault => (s, .error (.terminal fault))
  | .ok terminal =>
    let (s, r) := step { s with terminal }
    close r s

end RunStep

open RunStep

/-- The file name of a note as it counts for sharing, in lower case. -/
def Note.key (n : Note) : String := Text.lower n.filename

/-- What is known while notes are written. -/
structure Progress where
  summary : Summary
  /-- The keys used up. -/
  used : List String := []

/-- With a note left out, because its file name is used up. -/
def Progress.skip (p : Progress) : Progress :=
  { p with summary := { p.summary with collisions := p.summary.collisions + 1 } }

/-- With a note that a file holds now. -/
def Progress.take (p : Progress) (n : Note) (wasWritten : Bool) : Progress :=
  { summary :=
      { p.summary with
        units := p.summary.units + n.units
        notes := p.summary.notes + 1
        written := p.summary.written + (if wasWritten then 1 else 0)
        unchanged := p.summary.unchanged + (if wasWritten then 0 else 1) }
    used := n.key :: p.used }

/-- Writes one note. -/
def writeNote (outDir : String) (p : Progress) (n : Note) : RunStep Progress := fun s =>
  if p.used.contains n.key then
    let line : LogLine := ⟨.warning, "note " ++ n.filename ++ " already written in this run; skipping duplicate"⟩
    ({ s with log := s.log ++ [line] }, .ok p.skip)
  else
    match s.tree.writeIfChanged outDir n.filename n.text with
    | (tree, .ok wasWritten) => ({ s with tree }, .ok (p.take n wasWritten))
    | (tree, .error fault) => ({ s with tree }, .error (.file fault))

/-- Writes notes one after the other. -/
def writeNotes (outDir : String) (p : Progress) : List Note → RunStep Progress
  | [] => value p
  | n :: notes => (writeNote outDir p n).andThen fun p => writeNotes outDir p notes

/-- Says how many notes were written. -/
def reportNotes (summary : Summary) : RunStep Summary := fun s =>
  let line := counted summary.written "note" ++ " written, " ++ counted summary.unchanged "note" ++ " unchanged, " ++
    counted summary.collisions "collision" ++ " skipped"
  ({ s with terminal := s.terminal.detail line 0 }, .ok summary)

/-- Says how much memory is in use. -/
def reportMemory : RunStep Unit := fun s =>
  match s.terminal.memory with
  | .ok terminal => ({ s with terminal }, .ok ())
  | .error fault => (s, .error (.terminal fault))

/-- Finds the code base in the files, and reports on it. -/
abbrev Loader := Files.Tree → Except LoadFault (CodeBase × Log)

/-- The work of the first phase. -/
def loadStep (loader : Loader) : RunStep CodeBase := fun s =>
  match loader s.tree with
  | .ok (codeBase, log) => ({ s with log := s.log ++ log }, .ok codeBase)
  | .error fault => (s, .error (.load fault))

/-- The work of the second phase. -/
def surveyStep (codeBase : CodeBase) : RunStep Survey := fun s =>
  match codeBase.projectsRefusal with
  | some refusal => (s, .error (.refused refusal))
  | none =>
    match Survey.ofCodeBase codeBase with
    | .ok survey => ({ s with log := s.log ++ survey.log }, .ok survey)
    | .error fault => (s, .error (.unwritable fault))

/-- The work of the third phase. -/
def renderStep (mode : Mode) (codeBase : CodeBase) (survey : Survey) : RunStep (List Note) := fun s =>
  ({ s with log := s.log ++ Note.log mode codeBase survey },
    match Note.refusal? mode codeBase survey with
    | some refusal => .error (.refused refusal)
    | none => .ok (Note.render s.tree.currentPath mode codeBase survey))

/-- The work of the last phase. -/
def writeStep (plan : Plan) (survey : Survey) (notes : List Note) : RunStep Summary :=
  let summary : Summary :=
    { mode := plan.mode, outDir := plan.outDir, documentsSkipped := survey.documentsSkipped }
  (writeNotes plan.outDir { summary } notes).andThen fun p => reportNotes p.summary

/-- What a run does before it writes. -/
def prepare (plan : Plan) (loader : Loader) : RunStep (Survey × List Note) :=
  (inPhase "load" (loadStep loader)).andThen fun codeBase =>
    (inPhase "build" (surveyStep codeBase)).andThen fun survey =>
      (inPhase "render" (renderStep plan.mode codeBase survey)).andThen fun notes => value (survey, notes)

/-- A whole run. -/
def run (plan : Plan) (loader : Loader) : RunStep Summary :=
  (prepare plan loader).andThen fun prepared =>
    (inPhase "write" (writeStep plan prepared.1 prepared.2)).andThen fun summary =>
      reportMemory.andThen fun _ => value summary

end CallAtlas
