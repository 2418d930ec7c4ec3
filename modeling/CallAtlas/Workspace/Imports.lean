import CallAtlas.Files.Path
import CallAtlas.Source.Tree
import CallAtlas.Text.Piece

/-!
# Import tables

Which name an import binds to which dotted target, and from which modules all names are taken.
-/

namespace CallAtlas.Workspace

/-- The name of a module and its file. -/
structure ModuleId where
  name : String
  path : String
  deriving Repr, DecidableEq, Inhabited

namespace ModuleId

/-- The last part of the name. -/
def lastPart (m : ModuleId) : String := Text.dottedLast m.name

/-- The package that relative imports start from: the module itself, if it is a package. -/
def package (m : ModuleId) : String :=
  if Path.base m.path == "__init__.py" then m.name else Text.dottedInit m.name

/-- The package some levels up. -/
def packageUp (m : ModuleId) : Nat → String
  | 0 => m.package
  | levels + 1 => Text.dottedInit (m.packageUp levels)

/-- The module that names are imported from, in full; `level` is the number of points before it. -/
def importBase (m : ModuleId) (module : Option String) (level : Nat) : String :=
  match level with
  | 0 => module.getD ""
  | levels + 1 =>
    let package := m.packageUp levels
    match module with
    | none => package
    | some name => if name == "" then package else if package == "" then name else package ++ "." ++ name

end ModuleId

/-- Names and what they are bound to, in order of first binding. -/
abbrev Bindings := List (String × String)

namespace Bindings

/-- With a binding; a name that is bound already keeps its place, and its target unless `overwrite` says otherwise. -/
def bind (overwrite : Bool) (bs : Bindings) (name target : String) : Bindings :=
  if bs.any (·.1 == name) then
    if overwrite then bs.map fun b => if b.1 == name then (name, target) else b else bs
  else bs ++ [(name, target)]

end Bindings

/-- What imports bind. -/
structure ImportTable where
  bindings : Bindings := []
  /-- The modules that all names are taken from. -/
  stars : List String := []
  deriving Repr, DecidableEq, Inhabited

namespace ImportTable

/-- With one imported module: bound whole to the name given, else its first part to itself. -/
def addModule (overwrite : Bool) (t : ImportTable) (a : Source.Alias) : ImportTable :=
  match a.boundAs with
  | some name => { t with bindings := t.bindings.bind overwrite name a.name }
  | none =>
    let first := Text.dottedHead a.name
    { t with bindings := t.bindings.bind overwrite first first }

/-- With one name imported from a module. -/
def addMember (overwrite : Bool) (base : String) (t : ImportTable) (a : Source.Alias) : ImportTable :=
  if a.name == "*" then { t with stars := t.stars ++ [base] }
  else
    let target := if base == "" then a.name else base ++ "." ++ a.name
    { t with bindings := t.bindings.bind overwrite (a.boundAs.getD a.name) target }

/-- With the names of an import statement. -/
def add (m : ModuleId) (overwrite : Bool) (t : ImportTable) : Source.Import → ImportTable
  | .modules names => names.foldl (addModule overwrite) t
  | .members module names level => names.foldl (addMember overwrite (m.importBase module level)) t

end ImportTable

end CallAtlas.Workspace
