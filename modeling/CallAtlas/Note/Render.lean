import CallAtlas.Plan
import CallAtlas.Documentation.Extract
import CallAtlas.Note.Section
import CallAtlas.Survey

/-!
# Writing up a survey

The notes for all declarations of a survey, in one of the two modes. Both show the same section for a declaration.
-/

namespace CallAtlas.Note

/-- The declarations of a survey in the order in which they are written up one by one: by the name of their note. -/
def unitsByNote (s : Survey) : List Callable :=
  s.register.units.mergeSort fun a b =>
    match compare (nameForUnit a) (nameForUnit b) with
    | .lt => true
    | .eq => Callable.le a b
    | .gt => false

/-- The section of a declaration of a survey. -/
def surveySection (codeBase : CodeBase) (s : Survey) (u : Callable) : String :=
  let language := ((s.register.document? u).map codeBase.language).getD ""
  sectionText u s.graph (Documentation.extract (codeBase.documentation u)) language

/-- The path of a declaration as its note shows it: seen from the root of its project, if that has one. -/
def shownPath (current : String) (s : Survey) (u : Callable) : String :=
  match s.register.document? u with
  | some document => if document.project.root.isEmpty then u.path else Path.relative current u.path document.project.root
  | none => u.path

/-- One note for each file. -/
def fileNotes (codeBase : CodeBase) (s : Survey) : List Note :=
  s.unitsPerFile.map fun (path, units) => ofFile path (units.map (surveySection codeBase s))

/-- One note for each declaration. -/
def unitNotes (current : String) (codeBase : CodeBase) (s : Survey) : List Note :=
  (unitsByNote s).map fun u => ofUnit u (surveySection codeBase s u) (shownPath current s u)

/-- All notes; relative paths start from the directory `current`. -/
def render (current : String) (mode : Mode) (codeBase : CodeBase) (s : Survey) : List Note :=
  match mode with
  | .perFile => fileNotes codeBase s
  | .perUnit => unitNotes current codeBase s

/-- The declarations of a survey in the order in which they are written up. -/
def writtenOrder (mode : Mode) (s : Survey) : List Callable :=
  match mode with
  | .perFile => s.unitsPerFile.flatMap (·.2)
  | .perUnit => unitsByNote s

/-- Why the section of a declaration of a survey cannot be written up: the language is asked for first. -/
def sectionRefusal? (codeBase : CodeBase) (s : Survey) (u : Callable) : Option Refusal :=
  ((s.register.document? u).bind codeBase.languageRefusal).or (codeBase.documentationRefusal u)

/-- Why a survey cannot be written up. -/
def refusal? (mode : Mode) (codeBase : CodeBase) (s : Survey) : Option Refusal :=
  (writtenOrder mode s).findSome? (sectionRefusal? codeBase s)

/-- A line for each documentation that is shown without structure because of a fault, up to the first section that
cannot be written up. -/
def log (mode : Mode) (codeBase : CodeBase) (s : Survey) : Log :=
  ((writtenOrder mode s).takeWhile fun u => (sectionRefusal? codeBase s u).isNone).filterMap fun u =>
    (Documentation.fault? (codeBase.documentation u)).map fun fault =>
      ⟨.debug, "falling back to raw documentation text: " ++ fault.message⟩

end CallAtlas.Note
