import CallAtlas.Command.Switch
import CallAtlas.Text.Quoted

/-!
# Usage of the command

The help text, and the faults of a command line with their wording.
-/

namespace CallAtlas.Command

/-- The name of the command. -/
def commandName : String := "callnotes"

/-- How the command is called. -/
def usage : String :=
  "usage: callnotes [-h] (--per-file | --per-method) [--out OUT]\n" ++
  "                 [--workers WORKERS] [--guess-receivers] [--verbose] [--debug]\n" ++
  "                 [--version]\n" ++
  "                 project\n"

/-- All there is to know about calling the command. -/
def helpText : String :=
  usage ++ "\n" ++
  "Generate call-graph annotated Markdown notes for a code base\n" ++
  "\n" ++
  "positional arguments:\n" ++
  "  project               Workspace directory or Python file to analyze\n" ++
  "\n" ++
  "options:\n" ++
  "  -h, --help            show this help message and exit\n" ++
  "  --per-file            Write one note per source file, with one section per\n" ++
  "                        method\n" ++
  "  --per-method, --per-unit\n" ++
  "                        Write one note per method\n" ++
  "  --out OUT, -o OUT     Output directory (default: ./_obsidian)\n" ++
  "  --workers WORKERS, -j WORKERS\n" ++
  "                        Threads used to extract documents (default: 1)\n" ++
  "  --guess-receivers     Treat calls on receivers of unknown type as ambiguous\n" ++
  "                        calls to every project method with that name\n" ++
  "  --verbose, -v         Print phase timings and memory usage\n" ++
  "  --debug, -d           Enable debug logging\n" ++
  "  --version             show program's version number and exit\n"

/-- The version of the command. -/
def versionText : String := commandName ++ " 0.1.0\n"

/-- Why a command line is refused. -/
inductive Fault where
  | ambiguous (text : String) (spellings : List String)
  | expectedValue (switch : Switch)
  | unexpectedValue (switch : Switch) (value : String)
  | exclusive (switch other : Switch)
  | notAnInteger (value : String)
  | tooFewWorkers (workers : Int)
  | noProject
  | noMode
  | unrecognized (texts : List String)
  | projectNotFound (path : String)
  deriving Repr, DecidableEq

namespace Fault

/-- A remark on a switch. -/
def about (switch : Switch) (remark : String) : String := "argument " ++ switch.title ++ ": " ++ remark

/-- The wording of a fault. -/
def message : Fault → String
  | .ambiguous text spellings => "ambiguous option: " ++ text ++ " could match " ++ ", ".intercalate spellings
  | .expectedValue switch => about switch "expected one argument"
  | .unexpectedValue switch value => about switch ("ignored explicit argument " ++ Text.quoted value)
  | .exclusive switch other => about switch ("not allowed with argument " ++ other.title)
  | .notAnInteger value => about .workers ("invalid int value: " ++ Text.quoted value)
  | .tooFewWorkers workers => about .workers ("must be at least 1, got " ++ toString workers)
  | .noProject => "the following arguments are required: project"
  | .noMode => "one of the arguments --per-file --per-method/--per-unit is required"
  | .unrecognized texts => "unrecognized arguments: " ++ " ".intercalate texts
  | .projectNotFound path => "project path '" ++ path ++ "' not found"

/-- What is printed about a fault. -/
def report (f : Fault) : String := usage ++ commandName ++ ": error: " ++ f.message ++ "\n"

end Fault

end CallAtlas.Command
