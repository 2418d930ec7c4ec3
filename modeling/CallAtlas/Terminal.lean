import CallAtlas.Number.Amount
import CallAtlas.Text.Piece

/-!
# Terminal

What is written while a run goes on: lines, and in verbose mode when each phase begins and ends and how long it took.
Phases are nested; a terminal knows those that are open. Time comes from a clock that is part of the terminal, so all of
this is a function of what the clock shows.
-/

namespace CallAtlas

open Number

/-- The times that are going to be read, and the time that is shown when they are used up. -/
structure Clock where
  upcoming : List Quantity := []
  last : Quantity := .real (.zero false)
  deriving Repr, BEq, Inhabited

/-- The time now, and the clock after reading it. -/
def Clock.read (c : Clock) : Quantity × Clock :=
  match c.upcoming with
  | [] => (c.last, c)
  | t :: rest => (t, { upcoming := rest, last := t })

/-- The time from one reading to another. A whole number too large for a double has no difference to a double. -/
def elapsed? (start stop : Quantity) : Option Quantity :=
  match start, stop with
  | .whole a, .whole b => some (.whole (b - a))
  | _, _ => do return .real (.sub (← stop.toDouble?) (← start.toDouble?))

/-- A phase that is open, and when it began. -/
structure Phase where
  name : String
  start : Quantity
  deriving Repr, BEq, Inhabited

/-- A terminal. -/
structure Terminal where
  isVerbose : Bool := false
  /-- The open phases, innermost first; nothing once the terminal itself is ended. -/
  phases : Option (List Phase) := some []
  clock : Clock := {}
  /-- The memory in use, in bytes. -/
  memoryUse : Quantity := .whole 0
  /-- What has been written. -/
  written : String := ""
  deriving Repr, BEq, Inhabited

namespace Terminal

/-- Why a terminal refuses. -/
inductive Fault where
  /-- The terminal itself is ended. -/
  | ended
  /-- A number is too large to be shown. -/
  | overflow
  deriving Repr, DecidableEq

/-- The names of the open phases, outermost first. -/
def path? (c : Terminal) : Option (List String) := c.phases.map fun phases => (phases.map (·.name)).reverse

/-- The names of open phases as they are shown. -/
def showPath (names : List String) : String := "[ " ++ " | ".intercalate names ++ " ]"

/-- With a line, indented by tabs. -/
def output (c : Terminal) (line : String) (tabs : Int := 0) : Terminal :=
  { c with written := c.written ++ String.ofList (List.replicate tabs.toNat '\t') ++ line ++ "\n" }

/-- With a line that only a verbose terminal shows. -/
def detail (c : Terminal) (line : String) (tabs : Int := 1) : Terminal :=
  if c.isVerbose then c.output line tabs else c

/-- Opens a phase. -/
def begin (c : Terminal) (name : String) : Except Fault Terminal :=
  match c.phases with
  | none => .error .ended
  | some phases =>
    let (start, clock) := c.clock.read
    let phases := { name, start } :: phases
    let c := { c with clock, phases := some phases }
    .ok (c.detail ("begin " ++ showPath (phases.map (·.name)).reverse) 0)

/-- Closes the innermost phase, or the terminal itself if no phase is open; the terminal began at time zero. A refused
closing has still read the clock. -/
def finish (c : Terminal) : Terminal × Option Fault :=
  match c.phases with
  | none => (c, some .ended)
  | some phases =>
    let (stop, clock) := c.clock.read
    let c := { c with clock }
    let start := match phases with
      | [] => .real (.zero false)
      | phase :: _ => phase.start
    match (elapsed? start stop).bind duration? with
    | none => (c, some .overflow)
    | some time =>
      let shown := c.detail ("end   " ++ showPath (phases.map (·.name)).reverse ++ " " ++ time) 0
      let left := match phases with
        | [] => none
        | _ :: rest => some rest
      ({ shown with phases := left }, none)

/-- A phase in which only lines are written. -/
def phase (c : Terminal) (name : String) (lines : List String) : Terminal × Option Fault :=
  match c.begin name with
  | .error fault => (c, some fault)
  | .ok c => (lines.foldl (fun c line => c.output line) c).finish

/-- Shows the memory in use. -/
def memory (c : Terminal) : Except Fault Terminal :=
  match memoryAmount? c.memoryUse with
  | some size => .ok (c.detail ("memory " ++ size) 0)
  | none => .error .overflow

end Terminal

end CallAtlas
