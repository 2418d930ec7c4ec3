import CallAtlas.Source.Render
import CallAtlas.Referent

/-!
# Code bases

What has to be known of a loaded code base to survey it: its projects and their documents, what each document declares,
what the calls in each declaration refer to, and the documentation of a declaration. A code base can refuse an answer.
A gap concerns one project, document or declaration, which is then passed over; any other refusal ends the survey.
-/

namespace CallAtlas

/-- One project. -/
structure Project where
  name : String
  assembly : String
  root : String := ""
  language : String := ""
  deriving Repr, DecidableEq, Inhabited

/-- One source document of a project. -/
structure Document where
  path : String
  project : Project
  /-- Tells apart two documents of one path. -/
  tag : Nat := 0
  deriving Repr, DecidableEq, Inhabited

/-- Why there is no answer. -/
inductive Refusal where
  /-- This part cannot be analyzed. -/
  | gap (reason : String)
  /-- An expression cannot be written out. -/
  | unwritable (fault : Source.RenderFault)
  deriving Repr, DecidableEq

/-- Why a code base cannot be loaded. -/
inductive LoadFault where
  /-- There is nothing to load at the path, for this reason. -/
  | unloadable (path reason : String)
  /-- A source file names an encoding that is not one of text. -/
  | codecNotOfText
  /-- The signature of a declaration cannot be written out. -/
  | unwritable (fault : Source.RenderFault)
  deriving Repr, DecidableEq

/-- The wording of a fault that concerns a path. -/
def unloadableMessage (path reason : String) : String := "failed to load workspace " ++ path ++ ": " ++ reason

/-- A loaded code base. -/
structure CodeBase where
  projects : List Project
  documents : Project → Except Refusal (List Document)
  /-- The declarations of a document, in order. -/
  declared : Document → Except Refusal (List Callable)
  /-- What the calls in the body of a declaration refer to, in order. -/
  calls : Document → Callable → Except Refusal (List (Option Resolution))
  /-- The language that signatures are shown in. -/
  language : Document → String := (·.project.language)
  documentation : Callable → Option String := (·.documentation)
  /-- Why the projects, the language of a document or the documentation of a declaration are not told, if so. None of
  these is passed over. -/
  projectsRefusal : Option Refusal := none
  languageRefusal : Document → Option Refusal := fun _ => none
  documentationRefusal : Callable → Option Refusal := fun _ => none

/-- The scope of the projects of a code base. -/
def CodeBase.assemblies (r : CodeBase) : List String := r.projects.map (·.assembly)

end CallAtlas
