import CallAtlas.CallGraph
import CallAtlas.Log
import CallAtlas.CodeBase
import CallAtlas.Extent

/-!
# Surveys

A survey asks a code base for every document and records which declarations in scope it found and which of them call
which. It is best effort: what the code base has a gap for is left out and noted down. Documents are looked at one by
one, each giving an `Outcome` of its own, and the outcomes are merged in order; so it does not matter how many of
them are looked at at a time.
-/

namespace CallAtlas

/-- What was found in one document. -/
inductive Outcome where
  /-- Its declarations in scope, their calls into the scope, repeated ones included, and the declarations passed over
  with the reasons for it. -/
  | extracted (document : Document) (units : List Callable) (calls : List Call) (passed : List (Callable × String))
  /-- Passed over, for this reason. -/
  | skipped (document : Document) (reason : String)
  deriving Repr, DecidableEq

namespace Outcome

/-- The document looked at. -/
def document : Outcome → Document
  | .extracted document .. => document
  | .skipped document _ => document

/-- The declarations found. -/
def units : Outcome → List Callable
  | .extracted _ units _ _ => units
  | .skipped .. => []

/-- The calls found. -/
def calls : Outcome → List Call
  | .extracted _ _ calls _ => calls
  | .skipped .. => []

/-- The declarations passed over. -/
def passed : Outcome → List (Callable × String)
  | .extracted _ _ _ passed => passed
  | .skipped .. => []

/-- The document was passed over. -/
def isSkipped : Outcome → Bool
  | .extracted .. => false
  | .skipped .. => true

end Outcome

/-- Answers and gaps apart; any other refusal goes on. -/
def attempt {α : Type} (answer : Except Refusal α) : Except Source.RenderFault (Except String α) :=
  match answer with
  | .ok a => .ok (.ok a)
  | .error (.gap reason) => .ok (.error reason)
  | .error (.unwritable fault) => .error fault

/-- The calls from a declaration to declarations in scope, repeated ones included. -/
def callsInto (extent : Extent) (caller : Callable) (resolutions : List (Option Resolution)) : List Call :=
  (resolutions.filterMap fun r => r.bind (·.unit?)).filter extent.contains |>.map fun callee => (caller, callee)

/-- What was found in the declarations of a document so far. -/
structure Findings where
  units : List Callable := []
  calls : List Call := []
  passed : List (Callable × String) := []
  deriving Repr, DecidableEq

/-- Adds what is found in one more declaration. -/
def Findings.add (codeBase : CodeBase) (extent : Extent) (document : Document) (found : Findings) (unit : Callable) :
    Except Source.RenderFault Findings := do
  if !extent.contains unit then return found
  match ← attempt (codeBase.calls document unit) with
  | .error reason => return { found with passed := found.passed ++ [(unit, reason)] }
  | .ok resolutions =>
    return { found with units := found.units ++ [unit], calls := found.calls ++ callsInto extent unit resolutions }

/-- Looks at one document. -/
def extract (codeBase : CodeBase) (extent : Extent) (document : Document) : Except Source.RenderFault Outcome := do
  match ← attempt (codeBase.declared document) with
  | .error reason => return .skipped document reason
  | .ok declared =>
    let found ← declared.foldlM (Findings.add codeBase extent document) {}
    return .extracted document found.units found.calls found.passed

/-- The declarations found, each with the document that declared it first. -/
abbrev Register := List (Callable × Document)

namespace Register

/-- Is registered. -/
def has (register : Register) (unit : Callable) : Bool := register.any (·.1.sameAs unit)

/-- The document that declared it. -/
def document? (register : Register) (unit : Callable) : Option Document :=
  (register.find? (·.1.sameAs unit)).map (·.2)

/-- With one more declaration; the first one counts. -/
def add (register : Register) (document : Document) (unit : Callable) : Register :=
  if register.has unit then register else register ++ [(unit, document)]

/-- With all declarations of an outcome. -/
def addOutcome (register : Register) (outcome : Outcome) : Register :=
  outcome.units.foldl (·.add outcome.document) register

/-- The declarations, in order. -/
def units (register : Register) : List Callable := register.map (·.1)

end Register

/-- What is known of a code base after looking at all of it. -/
structure Survey where
  extent : Extent
  /-- The projects passed over, with the reasons for it. -/
  skippedProjects : List (Project × String)
  outcomes : List Outcome
  /-- The declarations in scope, in order. -/
  register : Register
  /-- Who of them calls whom. -/
  graph : CallGraph
  deriving Repr, DecidableEq

namespace Survey

/-- The documents of all projects, and the projects passed over. -/
def listDocuments (codeBase : CodeBase) :
    List Project → Except Source.RenderFault (List Document × List (Project × String))
  | [] => .ok ([], [])
  | project :: rest => do
    let answer ← attempt (codeBase.documents project)
    let (documents, skipped) ← listDocuments codeBase rest
    match answer with
    | .ok more => return (more ++ documents, skipped)
    | .error reason => return (documents, (project, reason) :: skipped)

/-- The register of all outcomes, in order. -/
def registerOf (outcomes : List Outcome) : Register := outcomes.foldl Register.addOutcome []

/-- The calls between registered declarations, in order. -/
def registeredCalls (register : Register) (outcomes : List Outcome) : List Call :=
  (outcomes.flatMap (·.calls)).filter fun call => register.has call.1 && register.has call.2

/-- The outcomes put together. -/
def merge (extent : Extent) (skippedProjects : List (Project × String)) (outcomes : List Outcome) : Survey :=
  let register := registerOf outcomes
  { extent, skippedProjects, outcomes, register, graph := .ofCalls (registeredCalls register outcomes) }

/-- Looks at a whole code base. -/
def ofCodeBase (codeBase : CodeBase) : Except Source.RenderFault Survey := do
  let extent : Extent := ⟨codeBase.assemblies⟩
  let (documents, skippedProjects) ← listDocuments codeBase codeBase.projects
  let outcomes ← documents.mapM (extract codeBase extent)
  return merge extent skippedProjects outcomes

/-- How many projects were passed over. -/
def projectsSkipped (s : Survey) : Nat := s.skippedProjects.length

/-- How many documents were passed over. -/
def documentsSkipped (s : Survey) : Nat := s.outcomes.countP (·.isSkipped)

/-- How many declarations were passed over. -/
def declarationsSkipped (s : Survey) : Nat := (s.outcomes.flatMap (·.passed)).length

/-- The files that declare something, in order. -/
def paths (s : Survey) : List String := (s.register.units.map (·.path)).eraseDups.mergeSort

/-- The declarations of each file, both in order. -/
def unitsPerFile (s : Survey) : List (String × List Callable) :=
  s.paths.map fun path => (path, Callable.sort (s.register.units.filter (·.path == path)))

/-- The lines for what was passed over in one document. -/
def outcomeLines : Outcome → Log
  | .extracted document _ _ passed => passed.map fun p =>
    ⟨.debug, "skipping declaration " ++ p.1.name ++ " in " ++ document.path ++ ": " ++ p.2⟩
  | .skipped document reason => [⟨.debug, "skipping document " ++ document.path ++ ": " ++ reason⟩]

/-- A line for each declaration that was registered before. -/
def duplicateLines (register : Register) : List Outcome → Log
  | [] => []
  | outcome :: rest => unitLines register outcome.document outcome.units ++ duplicateLines (register.addOutcome outcome) rest
where
  /-- The lines for one document. -/
  unitLines (register : Register) (document : Document) : List Callable → Log
    | [] => []
    | unit :: rest =>
      let line : LogLine := ⟨.debug, "ignoring duplicate declaration of " ++ unit.name ++ " in " ++ document.path⟩
      (if register.has unit then [line] else []) ++ unitLines (register.add document unit) document rest

/-- What a survey reports. -/
def log (s : Survey) : Log :=
  (s.skippedProjects.map fun p => ⟨.debug, "skipping project " ++ p.1.name ++ ": " ++ p.2⟩) ++
    s.outcomes.flatMap outcomeLines ++ duplicateLines [] s.outcomes ++
    [⟨.info, "call graph: " ++ toString s.register.length ++ " units, " ++ toString s.graph.callCount ++ " edges, " ++
      toString s.documentsSkipped ++ " documents skipped"⟩]

end Survey

/-- How many documents are looked at at a time. -/
def effectiveWorkers (workers : Int) : Int := max 1 workers

end CallAtlas
