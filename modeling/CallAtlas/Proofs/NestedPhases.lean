import CallAtlas.Proofs.Phases

/-!
# Nested phases

A program opens a phase around a block and closes it however the block ends, so the open phases are a stack: they are the
blocks around the place where the program is. To say this of every place, a program is run with a trace of the places it
comes to. A place knows the blocks around it from the text of the program, and its terminal knows the open phases from the
run. Each place adds one line; a quiet terminal shows only those that are the program's own output.
-/

namespace CallAtlas.Terminal

open Number RunStep

/-! ## Programs -/

/-- What a program asks of a terminal, phases apart. -/
inductive Request where
  | output (text : String) (tabs : Int)
  | detail (text : String) (tabs : Int)
  | memory

def Request.answer (c : Terminal) : Request → Except Fault Terminal
  | .output text tabs => .ok (c.output text tabs)
  | .detail text tabs => .ok (c.detail text tabs)
  | .memory => c.memory

/-- A program that uses a terminal. -/
inductive Script where
  /-- Ends, perhaps early with a fault. -/
  | done (outcome : Except RunFault Unit)
  | ask (request : Request)
  /-- The body is a phase of its own. -/
  | block (name : String) (body : Script)
  /-- What follows depends on how the first part ended. -/
  | sequel (first : Script) (next : Except RunFault Unit → Script)

/-- One part and then another; a fault is passed on. -/
def Script.andThen (first second : Script) : Script :=
  .sequel first fun
    | .ok _ => second
    | .error fault => .done (.error fault)

/-- A part whose fault is answered. -/
def Script.attempt (body : Script) (answer : RunFault → Script) : Script :=
  .sequel body fun
    | .ok _ => .done (.ok ())
    | .error fault => answer fault

/-- A request as a step of a run. -/
def asking (request : Request) : RunStep Unit := fun s =>
  match request.answer s.terminal with
  | .ok terminal => ({ s with terminal }, .ok ())
  | .error fault => (s, .error (.terminal fault))

/-- A program as a step of a run. -/
def Script.perform : Script → RunStep Unit
  | .done outcome => result outcome
  | .ask request => asking request
  | .block name body => inPhase name body.perform
  | .sequel first next => fun s => (next (first.perform s).2).perform (first.perform s).1

/-! ## Lines -/

/-- A line that a terminal may show. -/
inductive Line where
  | began (path : List String)
  | ended (path : List String) (time : String)
  | output (text : String) (tabs : Int)
  | detail (text : String) (tabs : Int)
  | memory (size : String)

namespace Line

def text : Line → String
  | .began path => "begin " ++ showPath path
  | .ended path time => "end   " ++ showPath path ++ " " ++ time
  | .output text _ => text
  | .detail text _ => text
  | .memory size => "memory " ++ size

def tabs : Line → Int
  | .output _ tabs => tabs
  | .detail _ tabs => tabs
  | _ => 0

/-- Shown by every terminal. -/
def isOutput : Line → Bool
  | .output .. => true
  | _ => false

/-- Shows that a block begins or ends. -/
def isMark : Line → Bool
  | .began _ => true
  | .ended .. => true
  | _ => false

/-- A line without the times and sizes in it. -/
def plain : Line → Line
  | .ended path _ => .ended path ""
  | .memory _ => .memory ""
  | line => line

end Line

/-- The text of those of the lines that a terminal shows. -/
def shown (isVerbose : Bool) (lines : List Line) : String :=
  String.join ((lines.filter fun line => isVerbose || line.isOutput).map fun line =>
    String.ofList (List.replicate line.tabs.toNat '\t') ++ line.text ++ "\n")

def Request.line (c : Terminal) : Request → Line
  | .output text tabs => .output text tabs
  | .detail text tabs => .detail text tabs
  | .memory => .memory ((memoryAmount? c.memoryUse).getD "")

/-! ## Traces -/

/-- A place that a run comes to, behind a line. -/
structure Point where
  /-- The blocks around the place, outermost first. -/
  names : List String
  line : Line
  terminal : Terminal

/-- A run, with the places it has come to. -/
structure Trace where
  points : List Point := []
  last : Terminal
  outcome : Except RunFault Unit := .ok ()

namespace Trace

/-- Goes on from where the run is. -/
def followed (t next : Trace) : Trace := { next with points := t.points ++ next.points }

def single (names : List String) (line : Line) (d : Terminal) : Trace := { points := [⟨names, line, d⟩], last := d }

def refused (c : Terminal) (fault : Fault) : Trace := { last := c, outcome := .error (.terminal fault) }

def ask (names : List String) (request : Request) (c : Terminal) : Trace :=
  match request.answer c with
  | .ok d => single names (request.line c) d
  | .error fault => refused c fault

end Trace

/-- How long the innermost phase has been open. -/
def time? (c : Terminal) : Option String := do
  let phase ← (← c.phases).head?
  duration? (← elapsed? phase.start c.clock.read.1)

/-- A block and its phase, which ends however the body ends. -/
def Trace.block (names : List String) (name : String) (body : Terminal → Trace) (c : Terminal) : Trace :=
  let inside := names ++ [name]
  match c.begin name with
  | .error fault => refused c fault
  | .ok opened =>
    let inner := body opened
    let begun := (single inside (.began inside) opened).followed inner
    match inner.last.finish with
    | (closed, none) =>
      begun.followed { single names (.ended inside (inner.last.time?.getD "")) closed with outcome := inner.outcome }
    | (closed, some fault) => begun.followed (refused closed fault)

/-- The run of a program that stands in blocks of these names. -/
def Script.trace (names : List String) : Script → Terminal → Trace
  | .done outcome, c => { last := c, outcome }
  | .ask request, c => .ask names request c
  | .block name body, c => .block names name (body.trace (names ++ [name])) c
  | .sequel first next, c =>
    let t := first.trace names c
    t.followed ((next t.outcome).trace names t.last)

/-- The trace of a program is that of its run. -/
theorem Script.perform_eq (script : Script) (names : List String) (s : RunState) :
    let t := script.trace names s.terminal
    script.perform s = ({ s with terminal := t.last }, t.outcome) := by
  induction script generalizing names s with
  | done outcome => rfl
  | ask request =>
    rw [perform, asking, trace, Trace.ask]
    cases request.answer s.terminal <;> rfl
  | block name body ih =>
    rw [perform, trace]
    unfold Trace.block
    cases began : s.terminal.begin name with
    | error fault =>
      rw [inPhase, began]
      rfl
    | ok opened =>
      rw [inPhase_of_begin began, ih (names ++ [name]), close]
      dsimp only
      cases finished : (body.trace (names ++ [name]) opened).last.finish with
      | mk closed fault => cases fault <;> rfl
  | sequel first next ihFirst ih =>
    rw [perform]
    dsimp only
    rw [ihFirst names]
    exact ih _ names _

/-! ## What one line does -/

theorem shown_append (isVerbose : Bool) (lines others : List Line) :
    shown isVerbose (lines ++ others) = shown isVerbose lines ++ shown isVerbose others := by
  simp only [shown, List.filter_append, List.map_append, String.join_append]

/-- The names of open phases, outermost first. -/
def namesOf (phases : List Phase) : List String := (phases.map (·.name)).reverse

theorem namesOf_cons (phase : Phase) (phases : List Phase) : namesOf (phase :: phases) = namesOf phases ++ [phase.name] := by
  simp [namesOf]

/-- A terminal is asked for a line: if it shows such lines, it has written this one more. -/
structure Told (c : Terminal) (line : Line) (d : Terminal) : Prop where
  isVerbose : d.isVerbose = c.isVerbose
  written : d.written = c.written ++ shown c.isVerbose [line]
  memoryUse : d.memoryUse = c.memoryUse
  clock : c.clock.IsReal → d.clock.IsReal

section Told

variable {c d : Terminal} {phase : Phase} {phases : List Phase}

theorem told_detail (c : Terminal) (line : Line) (h : line.isOutput = false) :
    Told c line (c.detail line.text line.tabs) := by
  refine ⟨?_, ?_, memoryUse_detail .., fun real => by rwa [clock_detail]⟩
  · unfold detail
    split <;> rfl
  · cases verbose : c.isVerbose <;> simp [shown, detail, output, verbose, h, String.append_assoc]

theorem told_answer {request : Request} (h : request.answer c = .ok d) :
    d.phases = c.phases ∧ Told c (request.line c) d := by
  cases request with
  | output text tabs =>
    cases h
    refine ⟨rfl, rfl, ?_, rfl, id⟩
    simp [shown, output, Request.line, Line.isOutput, Line.text, Line.tabs, String.append_assoc]
  | detail text tabs =>
    cases h
    exact ⟨phases_detail .., told_detail c (.detail text tabs) rfl⟩
  | memory =>
    rw [Request.answer, memory] at h
    rw [Request.line]
    cases shown : memoryAmount? c.memoryUse with
    | none =>
      rw [shown] at h
      cases h
    | some size =>
      rw [shown] at h
      cases h
      exact ⟨phases_detail .., told_detail c (.memory size) rfl⟩

/-- A phase that begins is open then. -/
theorem told_begin (h : c.phases = some phases) (name : String) :
    ∃ start d, c.begin name = .ok d ∧ d.phases = some (⟨name, start⟩ :: phases) ∧
      Told c (.began (namesOf phases ++ [name])) d ∧ (c.clock.IsReal → ∃ x, start = .real x) := by
  have told := told_detail { c with clock := c.clock.read.2, phases := some (⟨name, c.clock.read.1⟩ :: phases) }
    (.began (namesOf phases ++ [name])) rfl
  refine ⟨c.clock.read.1, _, ?_, ?_, ⟨told.isVerbose, told.written, told.memoryUse, fun real => told.clock real.read.2⟩,
    fun real => real.read.1⟩
  · rw [begin, h, ← namesOf_cons ⟨name, c.clock.read.1⟩ phases]
    rfl
  · exact phases_detail ..

/-- The innermost phase ends, if it began at a time that can be told. -/
theorem told_finish (h : c.phases = some (phase :: phases)) (real : c.clock.IsReal) (start : ∃ x, phase.start = .real x) :
    ∃ time d, c.time? = some time ∧ c.finish = (d, none) ∧ d.phases = some phases ∧
      Told c (.ended (namesOf phases ++ [phase.name]) time) d := by
  obtain ⟨x, start⟩ := start
  obtain ⟨y, stop⟩ := real.read.1
  obtain ⟨time, timed⟩ := exists_duration (.sub y x)
  have timed : (elapsed? phase.start c.clock.read.1).bind duration? = some time := by
    rw [start, stop]
    exact timed
  let line := Line.ended (namesOf phases ++ [phase.name]) time
  have told := told_detail { c with clock := c.clock.read.2 } line rfl
  have finished : c.finish =
      ({ ({ c with clock := c.clock.read.2 } : Terminal).detail line.text line.tabs with phases := some phases }, none) := by
    rw [finish, h]
    dsimp only
    rw [timed]
    simp only [line, Line.text, ← namesOf_cons]
    rfl
  refine ⟨time, _, ?_, finished, rfl, ⟨told.isVerbose, told.written, told.memoryUse, fun real => told.clock real.read.2⟩⟩
  simpa [time?, h] using timed

end Told

/-! ## What a run keeps -/

/-- Each block lies between its two marks, which show its path, and leaves the phases open that were open before. -/
inductive Balanced : Option (List Phase) → List Point → Prop where
  | nil {phases : Option (List Phase)} : Balanced phases []
  | line {phases : Option (List Phase)} {p : Point} {rest : List Point} (noMark : p.line.isMark = false)
      (same : p.terminal.phases = phases) : Balanced phases rest → Balanced phases (p :: rest)
  | block {phases : Option (List Phase)} {first last : Point} {inner rest : List Point} {time : String}
      (began : first.line = .began first.names) : Balanced first.terminal.phases inner →
      (ended : last.line = .ended first.names time) → (back : last.terminal.phases = phases) → Balanced phases rest →
      Balanced phases (first :: inner ++ last :: rest)

theorem Balanced.append {phases : Option (List Phase)} {points others : List Point} (h : Balanced phases points)
    (h' : Balanced phases others) : Balanced phases (points ++ others) := by
  induction h with
  | nil => exact h'
  | line noMark same _ ih => exact .line noMark same (ih h')
  | block began inner ended back _ _ ih =>
    rw [List.append_assoc, List.cons_append]
    exact .block began inner ended back (ih h')

/-- From one terminal to another, line by line. -/
def Tells : Terminal → List Point → Terminal → Prop
  | c, [], d => d = c
  | c, p :: points, d => Told c p.line p.terminal ∧ Tells p.terminal points d

/-- A terminal in blocks of these names, with a clock that shows floating-point numbers. -/
structure Inside (names : List String) (c : Terminal) : Prop where
  path : c.path? = some names
  clock : c.clock.IsReal

variable {c d e : Terminal} {points others : List Point} {names : List String}

theorem Tells.append (h : Tells c points d) (h' : Tells d others e) : Tells c (points ++ others) e := by
  induction points generalizing c with
  | nil => exact h ▸ h'
  | cons p points ih => exact ⟨h.1, ih h.2⟩

theorem Tells.frame (h : Tells c points d) : d.memoryUse = c.memoryUse ∧ (c.clock.IsReal → d.clock.IsReal) := by
  induction points generalizing c with
  | nil => exact h ▸ ⟨rfl, id⟩
  | cons p points ih => exact ⟨(ih h.2).1.trans h.1.memoryUse, (ih h.2).2 ∘ h.1.clock⟩

theorem Tells.written (h : Tells c points d) {n : Nat} {p : Point} (there : points[n]? = some p) :
    p.terminal.written = c.written ++ shown c.isVerbose ((points.take (n + 1)).map (·.line)) := by
  induction points generalizing c n with
  | nil => simp at there
  | cons first points ih =>
    obtain ⟨told, rest⟩ := h
    cases n with
    | zero =>
      cases there
      simpa using told.written
    | succ n =>
      have later := ih rest there
      rw [told.written, told.isVerbose, String.append_assoc, ← shown_append] at later
      simpa using later

/-- A run that comes back to the open phases, with the right path at every point and line by line. -/
structure Trace.Sound (c : Terminal) (t : Trace) : Prop where
  phases : t.last.phases = c.phases
  paths : ∀ p ∈ t.points, p.terminal.path? = some p.names
  balanced : Balanced c.phases t.points
  tells : Tells c t.points t.last

namespace Trace

variable {t next : Trace} {body : Terminal → Trace}

/-- After a run the terminal is where it was. -/
theorem Sound.inside (h : Sound c t) (place : Inside names c) : Inside names t.last :=
  ⟨by rw [path?, h.phases]; exact place.path, h.tells.frame.2 place.clock⟩

theorem Sound.followed (h : Sound c t) (h' : Sound t.last next) : Sound c (t.followed next) where
  phases := h'.phases.trans h.phases
  paths := List.forall_mem_append.2 ⟨h.paths, h'.paths⟩
  balanced := h.balanced.append (h.phases ▸ h'.balanced)
  tells := h.tells.append h'.tells

/-- Where nothing is asked for nothing happens. -/
theorem sound_nil (c : Terminal) (outcome : Except RunFault Unit) : Sound c { last := c, outcome } :=
  ⟨rfl, by simp, .nil, rfl⟩

theorem sound_ask (place : Inside names c) (request : Request) : Sound c (ask names request c) := by
  unfold ask
  cases answer : request.answer c with
  | error fault => exact sound_nil c _
  | ok d =>
    obtain ⟨same, told⟩ := told_answer answer
    have path : d.path? = some names := by rw [path?, same]; exact place.path
    exact ⟨same, List.forall_mem_singleton.2 path, .line (by cases request <;> rfl) same .nil, told, rfl⟩

/-- A block runs its body between the two marks. -/
theorem block_eq (place : Inside names c) (name : String) (h : ∀ d, Inside (names ++ [name]) d → Sound d (body d)) :
    ∃ opened closed time, Inside (names ++ [name]) opened ∧ Told c (.began (names ++ [name])) opened ∧
      Told (body opened).last (.ended (names ++ [name]) time) closed ∧ closed.phases = c.phases ∧
      block names name body c =
        ((single (names ++ [name]) (.began (names ++ [name])) opened).followed (body opened)).followed
          { single names (.ended (names ++ [name]) time) closed with outcome := (body opened).outcome } := by
  obtain ⟨phases, isOpen, rfl⟩ : ∃ phases, c.phases = some phases ∧ namesOf phases = names :=
    Option.map_eq_some_iff.1 place.path
  obtain ⟨start, opened, began, inside, told, startReal⟩ := told_begin isOpen name
  have within : Inside (namesOf phases ++ [name]) opened := by
    refine ⟨?_, told.clock place.clock⟩
    rw [path?, inside, ← namesOf_cons ⟨name, start⟩]
    rfl
  have inner := h opened within
  obtain ⟨time, closed, timed, finished, back, told'⟩ :=
    told_finish (inner.phases.trans inside) (inner.inside within).clock (startReal place.clock)
  refine ⟨opened, closed, time, within, told, told', back.trans isOpen.symm, ?_⟩
  unfold block
  rw [began]
  dsimp only
  rw [finished, timed]
  rfl

theorem sound_block (place : Inside names c) (name : String) (h : ∀ d, Inside (names ++ [name]) d → Sound d (body d)) :
    Sound c (block names name body c) := by
  obtain ⟨opened, closed, time, within, told, told', back, same⟩ := block_eq place name h
  have inner := h opened within
  have path : closed.path? = some names := by rw [path?, back]; exact place.path
  rw [same]
  exact
    { phases := back
      paths := List.forall_mem_append.2 ⟨List.forall_mem_cons.2 ⟨within.path, inner.paths⟩, List.forall_mem_singleton.2 path⟩
      balanced := .block rfl inner.balanced rfl back .nil
      tells := Tells.append ⟨told, inner.tells⟩ ⟨told', rfl⟩ }

end Trace

theorem Script.sound (script : Script) {c : Terminal} {names : List String} (place : Inside names c) :
    Trace.Sound c (script.trace names c) := by
  induction script generalizing c names with
  | done outcome => exact Trace.sound_nil c _
  | ask request => exact Trace.sound_ask place request
  | block name body ih => exact Trace.sound_block place name fun d within => ih within
  | sequel first next ihFirst ih => exact (ihFirst place).followed (ih _ ((ihFirst place).inside place))

/-! ## Two runs -/

/-- Two terminals in the same blocks, of which both or none can show the memory in use. -/
structure Alike (names : List String) (c d : Terminal) : Prop where
  left : Inside names c
  right : Inside names d
  memory : (memoryAmount? c.memoryUse).isSome = (memoryAmount? d.memoryUse).isSome

namespace Trace

/-- The places that a run comes to and the lines there, apart from times and sizes. -/
def course (t : Trace) : List (List String × Line) := t.points.map fun p => (p.names, p.line.plain)

/-- Two runs take the same course and end in the same way. -/
structure Agree (t u : Trace) : Prop where
  course : t.course = u.course
  outcome : t.outcome = u.outcome

variable {t u next later : Trace}

theorem Sound.alike (ht : Sound c t) (hu : Sound d u) (alike : Alike names c d) : Alike names t.last u.last where
  left := ht.inside alike.left
  right := hu.inside alike.right
  memory := by rw [ht.tells.frame.1, hu.tells.frame.1, alike.memory]

theorem Agree.followed (h : Agree next later) (before : t.course = u.course) :
    Agree (t.followed next) (u.followed later) := by
  refine ⟨?_, h.outcome⟩
  have more := h.course
  unfold Trace.course at before more ⊢
  rw [Trace.followed, Trace.followed, List.map_append, List.map_append, before, more]

theorem agree_ask (alike : Alike names c d) (request : Request) : Agree (ask names request c) (ask names request d) := by
  cases request with
  | output text tabs => exact ⟨rfl, rfl⟩
  | detail text tabs => exact ⟨rfl, rfl⟩
  | memory =>
    have both := alike.memory
    rw [ask, ask, Request.answer, Request.answer, memory, memory]
    cases left : memoryAmount? c.memoryUse <;> cases right : memoryAmount? d.memoryUse <;> rw [left, right] at both
    · exact ⟨rfl, rfl⟩
    · cases both
    · cases both
    · exact ⟨rfl, rfl⟩

theorem agree_block (alike : Alike names c d) (name : String) {body : Terminal → Trace}
    (sound : ∀ e, Inside (names ++ [name]) e → Sound e (body e))
    (h : ∀ e f, Alike (names ++ [name]) e f → Agree (body e) (body f)) :
    Agree (block names name body c) (block names name body d) := by
  obtain ⟨opened, closed, time, within, told, -, -, same⟩ := block_eq alike.left name sound
  obtain ⟨opened', closed', time', within', told', -, -, same'⟩ := block_eq alike.right name sound
  have inner := h opened opened' ⟨within, within', by rw [told.memoryUse, told'.memoryUse, alike.memory]⟩
  rw [same, same']
  exact Agree.followed ⟨rfl, inner.outcome⟩ (inner.followed rfl).course

end Trace

/-- Terminals that differ in what they show, in time and in memory lead a program along the same course. -/
theorem Script.agree (script : Script) {c d : Terminal} {names : List String} (alike : Alike names c d) :
    Trace.Agree (script.trace names c) (script.trace names d) := by
  induction script generalizing c d names with
  | done outcome => exact ⟨rfl, rfl⟩
  | ask request => exact Trace.agree_ask alike request
  | block name body ih => exact Trace.agree_block alike name (fun e => body.sound) fun e f => ih
  | sequel first next ihFirst ih =>
    have front := ihFirst alike
    have later := ih (first.trace names c).outcome ((first.sound alike.left).alike (first.sound alike.right) alike)
    rw [trace, trace, ← front.outcome]
    exact later.followed front.course

/-- What a quiet terminal shows has nothing to do with times and sizes. -/
theorem shown_plain (lines : List Line) : shown false (lines.map Line.plain) = shown false lines := by
  induction lines with
  | nil => rfl
  | cons line lines ih =>
    have first : shown false [line.plain] = shown false [line] := by cases line <;> rfl
    rw [List.map_cons, ← List.singleton_append, shown_append, first, ih, ← shown_append, List.singleton_append]

theorem Trace.Agree.shown_take {t u : Trace} (h : t.Agree u) (n : Nat) :
    shown false ((t.points.take n).map (·.line)) = shown false ((u.points.take n).map (·.line)) := by
  have lines := congrArg (fun course => (course.take n).map Prod.snd) h.course
  simp only [Trace.course, ← List.map_take, List.map_map] at lines
  rw [← shown_plain, List.map_map, ← shown_plain ((u.points.take n).map _), List.map_map]
  exact congrArg (shown false) lines

/-- **Phases are a stack.** A program in blocks of some names, run as a step of a run, comes to the points of its trace.
Each block in it closes the phase that it opened, however it ends: the marks are balanced, an end shows the path of its
begin, and then the same phases are open as before. At every point the path is made of the blocks around it. Up to every
point the terminal has written the lines up to there, all of them if it is verbose; and a quiet terminal, whatever its
clock, comes to the same points and has written at each of them the lines of the program's own output. -/
theorem phases_nest (script : Script) (s : RunState) {names : List String} (place : Inside names s.terminal) :
    let run := script.trace names s.terminal
    script.perform s = ({ s with terminal := run.last }, run.outcome) ∧
      run.last.phases = s.terminal.phases ∧
      Balanced s.terminal.phases run.points ∧
      (∀ p ∈ run.points, p.terminal.path? = some p.names) ∧
      (∀ n p, run.points[n]? = some p → p.terminal.written =
        s.terminal.written ++ shown s.terminal.isVerbose ((run.points.take (n + 1)).map (·.line))) ∧
      ∀ quiet : Terminal, quiet.isVerbose = false → Alike names s.terminal quiet →
        let other := script.trace names quiet
        other.points.map (·.names) = run.points.map (·.names) ∧ other.outcome = run.outcome ∧
          ∀ n q, other.points[n]? = some q →
            q.terminal.written = quiet.written ++ shown false ((run.points.take (n + 1)).map (·.line)) := by
  intro run
  have sound := script.sound place
  refine ⟨script.perform_eq names s, sound.phases, sound.balanced, sound.paths, fun n p there => sound.tells.written there, ?_⟩
  intro quiet isQuiet alike other
  have agree := script.agree alike
  refine ⟨?_, agree.outcome.symm, fun n q there => ?_⟩
  · simpa [Trace.course, Function.comp_def] using (congrArg (List.map Prod.fst) agree.course).symm
  · rw [(script.sound alike.right).tells.written there, isQuiet, agree.shown_take]

namespace Nested.Sample

/-- A block in a block stops early, and the program goes on. -/
def script : Script :=
  ((Script.block "build" ((Script.ask (.output "x" 0)).andThen
      (.block "extract" ((Script.ask (.detail "y" 1)).andThen (.done (.error (.refused (.gap "z")))))))).attempt
    fun _ => .ask (.output "w" 1)).andThen (.ask .memory)

def verbose : RunState := { tree := .empty [], terminal := { isVerbose := true } }

theorem inside (isVerbose : Bool) : Inside [] { isVerbose } :=
  ⟨rfl, fun _ mem => ⟨.zero false, List.mem_singleton.1 mem⟩⟩

end Nested.Sample

open Nested.Sample in
theorem phases_nest_sample :
    (script.perform verbose).1.terminal.phases = verbose.terminal.phases ∧
      Balanced verbose.terminal.phases (script.trace [] verbose.terminal).points ∧
      (script.trace [] {}).points.map (·.names) =
        [["build"], ["build"], ["build", "extract"], ["build", "extract"], ["build"], [], [], []] ∧
      ∃ q, (script.trace [] {}).points[7]? = some q ∧ q.terminal.written = "x\n\tw\n" := by
  obtain ⟨performed, back, balanced, -, -, two⟩ := phases_nest script verbose (inside true)
  obtain ⟨-, -, written⟩ := two {} rfl ⟨inside true, inside false, rfl⟩
  have places : (script.trace [] {}).points.map (·.names) =
      [["build"], ["build"], ["build", "extract"], ["build", "extract"], ["build"], [], [], []] := by decide +kernel
  refine ⟨?_, balanced, places, ?_⟩
  · rw [performed]
    dsimp only
    rw [back]
  · obtain ⟨q, there⟩ : ∃ q, (script.trace [] {}).points[7]? = some q := by
      refine ⟨_, List.getElem?_eq_getElem ?_⟩
      rw [← List.length_map, places]
      decide
    refine ⟨q, there, (written 7 q there).trans ?_⟩
    decide +kernel

end CallAtlas.Terminal
