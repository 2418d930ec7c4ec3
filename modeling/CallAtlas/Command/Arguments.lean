import CallAtlas.Command.Usage
import CallAtlas.Plan
import CallAtlas.Number.Integer

/-!
# Command lines

Arguments are first told apart, all of them, and then taken in order. The first plain argument that is no value of a
switch is the project, and what cannot be placed is reported only if nothing else is wrong. There are two editions of the
rules, which differ in switches that are written together and in the divider as an attached value.
-/

namespace CallAtlas.Command

/-- An edition of the rules. -/
inductive Edition where
  /-- An attached divider counts as no value, and switches that are written together all have to be known. -/
  | early
  /-- An attached divider is a value like others. Among switches that are written together an equals sign sets off a value,
  and the rest of them is left over if one is not known. -/
  | late
  deriving Repr, DecidableEq

/-- What a command line says. -/
structure Settings where
  project : Option String := none
  perFile : Bool := false
  perUnit : Bool := false
  /-- Nothing if a divider was attached that counts as no value. -/
  out : Option String := some ""
  /-- Nothing if a divider was attached that counts as no value. -/
  workers : Option Int := some 1
  guesses : Bool := false
  verbose : Bool := false
  debug : Bool := false
  /-- The arguments that could not be placed. -/
  extras : List String := []
  deriving Repr, DecidableEq, Inhabited

/-- Why a command line does not lead to a run. -/
inductive Stop where
  | help
  | version
  | fault (fault : Fault)
  deriving Repr, DecidableEq

/-- What the arguments are, up to the divider and after it. -/
def readAll : List String → Except Fault (List Argument)
  | [] => .ok []
  | text :: rest =>
    if text == dividerText then .ok (.divider :: rest.map .plain)
    else
      match Argument.read text with
      | .error several => .error (.ambiguous text (several.map (·.spelling)))
      | .ok argument => (readAll rest).map (argument :: ·)

/-- A switch and its value. -/
abbrev Request := Switch × Option String

/-- What one argument asks for. -/
structure Cluster where
  /-- The switches that are complete. -/
  requests : List Request := []
  /-- The last switch, if no text is attached to it. -/
  last : Option Switch := none
  /-- What has no place. -/
  leftover : Option String := none

/-- Short switches that are written together, such as `-vd`: `switch` is spelled short, and the text follows it. -/
def together (edition : Edition) (switch : Switch) : List Char → Except Fault Cluster
  | [] => .ok { last := some switch }
  | c :: rest =>
    let isLate := edition == .late
    let value := String.ofList (if isLate && c == '=' then rest else c :: rest)
    if switch.takesValue then .ok { requests := [(switch, some value)] }
    else if isLate && (c == '=' || c == '-') then .error (.unexpectedValue switch value)
    else
      match Switch.ofSpelling? (String.ofList ['-', c]) with
      | some next => (together edition next rest).map fun k => { k with requests := (switch, none) :: k.requests }
      | none =>
        if isLate then .ok { requests := [(switch, none)], leftover := some ("-" ++ value) }
        else .error (.unexpectedValue switch value)

/-- Whether a spelling has one dash only. -/
def isShort (spelling : String) : Bool := !"--".toList.isPrefixOf spelling.toList

/-- What one argument that is a switch asks for. -/
def cluster (edition : Edition) (g : Given) : Except Fault Cluster :=
  match g.attached with
  | none => .ok { last := some g.switch }
  | some value =>
    if g.switch.takesValue then .ok { requests := [(g.switch, some value)] }
    else if isShort g.spelling && !value.isEmpty && !(edition == .late && g.bySign) then
      together edition g.switch value.toList
    else .error (.unexpectedValue g.switch value)

/-- The requests of a switch at the start of `rest`, what has no place, and the arguments left. -/
def complete (edition : Edition) (g : Given) (rest : List Argument) :
    Except Fault (List Request × Option String × List Argument) := do
  let k ← cluster edition g
  match k.last with
  | none => .ok (k.requests, k.leftover, rest)
  | some switch =>
    if switch.takesValue then
      match rest with
      | .plain value :: rest => .ok (k.requests ++ [(switch, some value)], k.leftover, rest)
      | _ => .error (.expectedValue switch)
    else .ok (k.requests ++ [(switch, none)], k.leftover, rest)

/-- A value; in the early edition the divider is none. -/
def proper? (edition : Edition) (value : Option String) : Option String :=
  value.filter fun text => edition == .late || text != dividerText

/-- The number of workers that a value names. -/
def workersOf (value : String) : Except Fault Int :=
  match Number.integer? value.toList with
  | none => .error (.notAnInteger value)
  | some n => if n < 1 then .error (.tooFewWorkers n) else .ok n

/-- Does what one request says. -/
def obey (edition : Edition) (s : Settings) (r : Request) : Except Stop Settings :=
  match r.1 with
  | .help => .error .help
  | .version => .error .version
  | .perFile => if s.perUnit then .error (.fault (.exclusive .perFile .perUnit)) else .ok { s with perFile := true }
  | .perUnit => if s.perFile then .error (.fault (.exclusive .perUnit .perFile)) else .ok { s with perUnit := true }
  | .out => .ok { s with out := proper? edition r.2 }
  | .workers =>
    match proper? edition r.2 with
    | none => .ok { s with workers := none }
    | some value => ((workersOf value).mapError .fault).map fun n => { s with workers := some n }
  | .guesses => .ok { s with guesses := true }
  | .verbose => .ok { s with verbose := true }
  | .debug => .ok { s with debug := true }

/-- With an argument that has no place. -/
def Settings.extra (s : Settings) (text : String) : Settings := { s with extras := s.extras ++ [text] }

/-- Takes the arguments in order, at most `rounds` of them. A divider next to the project belongs to it. -/
def take (edition : Edition) (s : Settings) : Nat → List Argument → Except Stop Settings
  | 0, _ => .ok s
  | _, [] => .ok s
  | rounds + 1, .switch g :: rest => do
    let (requests, leftover, rest) ← (complete edition g rest).mapError .fault
    let s := leftover.elim s s.extra
    take edition (← requests.foldlM (obey edition) s) rounds rest
  | rounds + 1, .unknown text :: rest => take edition (s.extra text) rounds rest
  | rounds + 1, .plain text :: rest =>
    if s.project.isSome then take edition (s.extra text) rounds rest
    else
      match rest with
      | .divider :: rest => take edition { s with project := some text } rounds rest
      | _ => take edition { s with project := some text } rounds rest
  | rounds + 1, .divider :: rest =>
    match s.project, rest with
    | none, .plain text :: rest => take edition { s with project := some text } rounds rest
    | _, _ => take edition (s.extra dividerText) rounds rest

/-- What is asked of settings in the end. -/
def check (s : Settings) : Except Fault Settings :=
  if s.project.isNone then .error .noProject
  else if !s.perFile && !s.perUnit then .error .noMode
  else if !s.extras.isEmpty then .error (.unrecognized s.extras)
  else .ok s

/-- What a command line says. -/
def parse (edition : Edition) (texts : List String) : Except Stop Settings := do
  let arguments ← (readAll texts).mapError .fault
  (check (← take edition {} arguments.length arguments)).mapError .fault

/-- The settings of the run, if a number of workers is known. -/
def Settings.plan? (s : Settings) (current : String) : Option Plan := do
  let plan : Plan :=
    { projectPath := s.project.getD ""
      mode := if s.perFile then .perFile else .perUnit
      outDir := s.out.getD ""
      workers := ← s.workers
      guesses := s.guesses
      isVerbose := s.verbose
      isDebug := s.debug }
  (plan.complete current).toOption

end CallAtlas.Command
