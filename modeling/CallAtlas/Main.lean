import CallAtlas.Command.Execute
import CallAtlas.Source.CodecNames

/-!
# The program

Takes a picture of the files that a command line names, runs the command on the picture phase by phase with the real
clock, and carries the changes over to the disk.
-/

namespace CallAtlas.Program

open Files

/-- What the program comes with. -/
def host : Command.Host := { edition := .late, codecs := Source.usualCodecs }

/-- The location of a normalized path. -/
def locate (path : String) : Location := (Path.parts path.toList).map String.ofList

/-- A picture with the file at a path. -/
def takeFile (tree : Tree) (path : String) : IO Tree := do
  let bytes ← try (·.toList) <$> IO.FS.readBinFile path catch _ => pure []
  return tree.place (locate path) (.file bytes)

/-- A picture with everything below a directory. -/
partial def takeBelow (tree : Tree) (path : String) : IO Tree := do
  let here ← IO.currentDir
  let mut tree := tree.place (locate path) .directory
  for entry in ← (here / path).readDir do
    let below := Path.join path entry.fileName
    match (← entry.path.symlinkMetadata).type with
    | .dir => tree ← takeBelow tree below
    | .symlink =>
      if ← entry.path.pathExists then
        unless ← entry.path.isDir do tree ← takeFile tree below
      else tree := tree.place (locate below) (.link "/dev/null/nothing")
    | .file => tree ← takeFile tree below
    | .other => pure ()
  return tree

/-- A picture with what stands at a path. -/
def takePath (tree : Tree) (path : String) : IO Tree := do
  let here ← IO.currentDir
  if ← (here / path).isDir then takeBelow tree path
  else if ← (here / path).pathExists then takeFile tree path
  else return tree

/-- A picture with the package files of the directories that lead to a path. -/
def takePackages (tree : Tree) (path : String) : IO Tree := do
  let place := locate path
  let mut tree := tree
  for i in List.range place.length do
    let file := Path.join (Tree.pathOf (place.take i)) packageFile
    let here ← IO.currentDir
    if ← (here / file).pathExists then tree ← takeFile tree file
  return tree

/-- The picture that a command line asks for. -/
def takeAll (texts : List String) : IO Tree := do
  let current := locate (← IO.currentDir).toString
  let tree := Tree.empty current
  let tree := if current.isEmpty then tree else tree.place current .directory
  match Command.parse host.edition texts with
  | .error _ => return tree
  | .ok settings =>
    match settings.plan? tree.currentPath with
    | none => return tree
    | some plan =>
      let project := tree.absolute plan.projectPath
      let tree ← takePackages (← takePath tree project) project
      takePath tree (tree.absolute plan.outDir)

/-- Carries what is new or changed over to the disk. -/
def carryOver (old new : Tree) : IO Unit :=
  for (place, entry) in new.entries do
    unless old.get? place == some entry do
      match entry with
      | .directory => IO.FS.createDirAll (Tree.pathOf place)
      | .file bytes => IO.FS.writeBinFile (Tree.pathOf place) ⟨bytes.toArray⟩
      | .link _ => pure ()

/-- The clock set to the present, in seconds. -/
def present : IO Clock := do
  let now : Number.Quantity := .real (.ofDecimal false (← IO.monoNanosNow) (-9))
  return { upcoming := [], last := now }

/-- The memory in use, in bytes; zero where it is not told. -/
def memoryUse : IO Number.Quantity := do
  try
    let words := Text.words (← IO.FS.readFile "/proc/self/statm").toList
    let pages := (words[1]?).bind fun word => Number.natural? word
    return .whole (4096 * (pages.getD 0 : Nat))
  catch _ => return .whole 0

/-- With the clock set to the present. -/
def tick (s : RunState) : IO RunState := do
  return { s with terminal := { s.terminal with clock := ← present } }

/-- A step as a phase of its own, between two looks at the clock. -/
def timed {α : Type} (name : String) (step : RunStep α) (s : RunState) : IO (RunState × Except RunFault α) := do
  let s ← tick s
  match s.terminal.begin name with
  | .error fault => return (s, .error (.terminal fault))
  | .ok terminal =>
    let (s, r) := step { s with terminal }
    return RunStep.close r (← tick s)

/-- Then the next step, unless the run stops. -/
def andThen {α β : Type} (step : IO (RunState × Except RunFault α))
    (next : α → RunState → IO (RunState × Except RunFault β)) : IO (RunState × Except RunFault β) := do
  match ← step with
  | (s, .ok a) => next a s
  | (s, .error fault) => return (s, .error fault)

/-- The phases of a run. -/
def runTimed (plan : Plan) (s : RunState) : IO (RunState × Except RunFault Summary) :=
  andThen (timed "load" (loadStep (Command.workspaceLoader host.codecs plan)) s) fun codeBase s =>
    andThen (timed "build" (surveyStep codeBase) s) fun survey s =>
      andThen (timed "render" (renderStep plan.mode codeBase survey) s) fun notes s =>
        andThen (timed "write" (writeStep plan survey notes) s) fun summary s => do
          let s := { s with terminal := { s.terminal with memoryUse := ← memoryUse } }
          return (reportMemory.andThen fun _ => RunStep.value summary) s

/-- The command on a picture of the files. -/
def perform (tree : Tree) (texts : List String) : IO Command.Outcome := do
  match Command.settle host.edition tree texts with
  | .error stop => return Command.decline tree {} stop
  | .ok settings =>
    match settings.plan? tree.currentPath with
    | none => return { ending := .noWorkers, tree }
    | some plan =>
      let (s, result) ← runTimed plan (Command.begin plan tree {} (.whole 0))
      return Command.conclude plan s result

end CallAtlas.Program

open CallAtlas.Program in
/-- Runs the command. -/
def main (texts : List String) : IO UInt32 := do
  let tree ← takeAll texts
  let outcome ← perform tree texts
  carryOver tree outcome.tree
  (← IO.getStdout).putStr outcome.stdout
  (← IO.getStderr).putStr outcome.stderr
  return outcome.ending.status.toUInt32
