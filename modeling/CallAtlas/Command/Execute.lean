import CallAtlas.Command.Arguments
import CallAtlas.Run
import CallAtlas.Workspace.Load

/-!
# The command

From a command line and the files to what is printed, the files afterwards and the exit status.
-/

namespace CallAtlas.Command

open RunStep

/-- What a command finds where it runs. -/
structure Host where
  edition : Edition
  codecs : Source.Codecs

/-- How a command ends. -/
inductive Ending where
  /-- The run was made, or the code base could not be loaded. -/
  | finished (status : Nat)
  /-- There was no run to make. -/
  | refused (status : Nat)
  /-- The run broke off. -/
  | broken (fault : RunFault)
  /-- The number of workers is not known. -/
  | noWorkers
  deriving Repr, DecidableEq

/-- What a command leaves behind. -/
structure Outcome where
  ending : Ending
  stdout : String := ""
  stderr : String := ""
  tree : Files.Tree
  clock : Clock := {}

/-- The least important lines that are shown. -/
def logLevel (c : Plan) : LogLevel :=
  if c.isDebug then .debug else if c.isVerbose then .info else .warning

/-- Finds the code base that the settings name. -/
def workspaceLoader (codecs : Source.Codecs) (c : Plan) : Loader := fun tree => do
  let index ← Workspace.load codecs tree Files.defaultExcludes c.guesses c.projectPath
  return (index.codeBase, index.loadLog (tree.absolute c.projectPath))

/-- What is printed before a run. -/
def announce (c : Plan) (s : RunState) : RunState :=
  let terminal := s.terminal.output ("Project: " ++ s.tree.absolute c.projectPath)
  let terminal := terminal.output ("Output  : " ++ c.outDir)
  { s with terminal := terminal.output ("Mode    : " ++ c.mode.word) }

/-- What is left after a run. -/
def conclude (c : Plan) (s : RunState) (result : Except RunFault Summary) : Outcome :=
  let stderr := s.log.text (logLevel c)
  let outcome (ending : Ending) : Outcome :=
    { ending, stdout := s.terminal.written, stderr, tree := s.tree, clock := s.terminal.clock }
  match result with
  | .ok summary => { outcome (.finished 0) with stdout := (s.terminal.output summary.describe).written }
  | .error (.load (.unloadable path reason)) =>
    { outcome (.finished 1) with stderr := stderr ++ "error: " ++ unloadableMessage path reason ++ "\n" }
  | .error fault => outcome (.broken fault)

/-- What is left when there is no run. -/
def decline (tree : Files.Tree) (clock : Clock) : Stop → Outcome
  | .help => { ending := .refused 0, stdout := helpText, tree, clock }
  | .version => { ending := .refused 0, stdout := versionText, tree, clock }
  | .fault fault => { ending := .refused 2, stderr := fault.report, tree, clock }

/-- The settings of a run on files that exist. -/
def settle (edition : Edition) (tree : Files.Tree) (texts : List String) : Except Stop Settings := do
  let settings ← parse edition texts
  let project := settings.project.getD ""
  if tree.exists? project then return settings else throw (.fault (.projectNotFound project))

/-- The state at the start of a run. -/
def begin (plan : Plan) (tree : Files.Tree) (clock : Clock) (memoryUse : Number.Quantity) : RunState :=
  announce plan { tree, terminal := { isVerbose := plan.isVerbose, clock, memoryUse } }

/-- The whole command. -/
def execute (host : Host) (tree : Files.Tree) (clock : Clock) (memoryUse : Number.Quantity) (texts : List String) :
    Outcome :=
  match settle host.edition tree texts with
  | .error stop => decline tree clock stop
  | .ok settings =>
    match settings.plan? tree.currentPath with
    | none => { ending := .noWorkers, tree, clock }
    | some plan =>
      let (s, result) := run plan (workspaceLoader host.codecs plan) (begin plan tree clock memoryUse)
      conclude plan s result

/-- The exit status of an ending. -/
def Ending.status : Ending → Nat
  | .finished status => status
  | .refused status => status
  | .broken _ => 1
  | .noWorkers => 1

end CallAtlas.Command
