import CallAtlas.Files.Path
import CallAtlas.Text.Quoted

/-!
# Settings of a run
-/

namespace CallAtlas

/-- What one note is about. -/
inductive Mode where
  | perFile
  | perUnit
  deriving Repr, DecidableEq, Inhabited

namespace Mode

/-- The word for a mode. -/
def word : Mode → String
  | .perFile => "per-file"
  | .perUnit => "per-method"

/-- The mode of a word. -/
def ofWord? (word : String) : Option Mode := [perFile, perUnit].find? (·.word == word)

end Mode

/-- The settings of one run. -/
structure Plan where
  projectPath : String
  mode : Mode
  /-- Where the notes go. -/
  outDir : String
  /-- How many documents are looked at at a time. -/
  workers : Int := 1
  guesses : Bool := false
  isVerbose : Bool := false
  isDebug : Bool := false
  deriving Repr, DecidableEq, Inhabited

namespace Plan

/-- Why settings are refused. -/
inductive Fault where
  | unknownMode (word : String)
  | tooFewWorkers (workers : Int)
  deriving Repr, DecidableEq

/-- The wording of a fault. -/
def Fault.message : Fault → String
  | .unknownMode word => Text.quoted word ++ " is not a valid Mode"
  | .tooFewWorkers workers => "workers must be at least 1, got " ++ toString workers

/-- Where notes go if nothing else is said. -/
def defaultOutName : String := "_obsidian"

/-- Checked settings; without an output directory the one of the usual name in the directory `current` is taken. -/
def complete (current : String) (c : Plan) : Except Fault Plan :=
  if c.workers < 1 then .error (.tooFewWorkers c.workers)
  else .ok (if c.outDir.isEmpty then { c with outDir := Path.join current defaultOutName } else c)

end Plan

end CallAtlas
