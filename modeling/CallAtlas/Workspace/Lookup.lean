import CallAtlas.CodeBase
import CallAtlas.Workspace.Builtins
import CallAtlas.Workspace.Hierarchy
import CallAtlas.Workspace.Index

/-!
# Looking up names

What a name or a dotted name means in a workspace. Names of a module are its functions, its classes, what it imports,
its submodules, and what it takes over from other modules, in this order. Imports can lead in circles, so only so many of
them are followed.
-/

namespace CallAtlas.Workspace

open Source

/-- All modules of a workspace and the orders in which classes are searched. -/
structure Index where
  project : Project
  /-- By path. -/
  modules : List ModuleEntry
  /-- Calls on unknown receivers may mean any method of the name. -/
  guesses : Bool := false
  /-- The order of each class, by name. -/
  orders : List (String × List ClassEntry) := []

/-- What an expression means. -/
inductive Target where
  | units (units : List Callable)
  /-- Reached through a receiver. -/
  | bound (units : List Callable) (receiver : String)
  | class (entry : ClassEntry)
  /-- An object of the class. -/
  | instance (entry : ClassEntry)
  | module (entry : ModuleEntry)
  /-- Outside of the workspace. -/
  | external (name : String)
  /-- Any method of the name. -/
  | guess (name : String)

namespace Index

/-- The module of a name: the first one. -/
def module? (w : Index) (name : String) : Option ModuleEntry := w.modules.find? (·.id.name == name)

/-- The module in a file. -/
def moduleAt? (w : Index) (path : String) : Option ModuleEntry := w.modules.find? (·.id.path == path)

/-- All declarations. -/
def declarations (w : Index) : List Declaration := w.modules.flatMap (·.declarations)

/-- All classes, also those that share a name. -/
def allClasses (w : Index) : List ClassEntry := w.modules.flatMap (·.classes)

/-- The class of a dotted name: the last one. -/
def class? (w : Index) (qualname : String) : Option ClassEntry :=
  (w.allClasses.filter (·.qualname == qualname)).getLast?

/-- The dotted names of the classes, in order of first occurrence. -/
def classNames (w : Index) : List String := (w.allClasses.map (·.qualname)).eraseDups

/-- The classes that their dotted names stand for, in order of the names. -/
def classes (w : Index) : List ClassEntry := w.classNames.filterMap w.class?

/-- The methods of a class, in order. -/
def methods (w : Index) (c : ClassEntry) : List Callable :=
  match w.moduleAt? c.module.path with
  | some m => (m.declarations.filter (·.isMethodOf c)).map (·.unit)
  | none => []

/-- The methods of a name in a class. -/
def methodsNamed (w : Index) (c : ClassEntry) (name : String) : List Callable :=
  (w.methods c).filter (·.name == name)

/-- The classes right inside a class, in order. -/
def nested (w : Index) (c : ClassEntry) : List ClassEntry :=
  match w.moduleAt? c.module.path with
  | some m => m.classes.filter fun inner => inner.outer == some c.span.start
  | none => []

/-- The class of a name inside a class: the last one. -/
def nestedNamed? (w : Index) (c : ClassEntry) (name : String) : Option ClassEntry :=
  ((w.nested c).filter (·.name == name)).getLast?

/-- The order in which a class and those above it are searched. -/
def order (w : Index) (c : ClassEntry) : List ClassEntry := (w.orders.lookup c.qualname).getD [c]

/-- The methods of a name in the first of some classes that has any. -/
def firstMethods (w : Index) (name : String) : List ClassEntry → List Callable
  | [] => []
  | c :: rest =>
    match w.methodsNamed c name with
    | [] => firstMethods w name rest
    | units => units

/-- The methods that a name means in a class. -/
def inherited (w : Index) (c : ClassEntry) (name : String) : List Callable := w.firstMethods name (w.order c)

/-- The methods that a name means above a class. -/
def inheritedAbove (w : Index) (c : ClassEntry) (name : String) : List Callable :=
  w.firstMethods name ((w.order c).filter fun candidate => !candidate.sameAs c)

/-- How many imports are followed one after the other. -/
def maxImportDepth : Nat := 16

/-- The attribute of a target, where `member` finds the names of modules. -/
def attribute? (w : Index) (member : ModuleEntry → String → Option Target) (target : Target) (name : String) :
    Option Target :=
  match target with
  | .module m => member m name
  | .class c =>
    match w.nestedNamed? c name with
    | some inner => some (.class inner)
    | none =>
      match w.inherited c name with
      | [] => none
      | units => some (.units units)
  | .external front => some (.external (front ++ "." ++ name))
  | _ => none

/-- The target of a chain of attributes. -/
def attributes? (w : Index) (member : ModuleEntry → String → Option Target) (target : Target) :
    List String → Option Target
  | [] => some target
  | name :: names => do attributes? w member (← w.attribute? member target name) names

/-- A dotted name, cut into the longest part that names a module and the names after it. `count` parts are tried first,
then fewer. -/
def longestModule? (w : Index) (parts : List String) : Nat → Option (ModuleEntry × List String)
  | 0 => none
  | count + 1 =>
    match w.module? (".".intercalate (parts.take (count + 1))) with
    | some m => some (m, parts.drop (count + 1))
    | none => longestModule? w parts count

/-- Some module of the workspace starts with this part. -/
def hasPackage (w : Index) (part : String) : Bool := w.modules.any fun m => Text.dottedHead m.id.name == part

/-- What a dotted name means, where `member` finds the names of modules. A name that does not start like a module of the
workspace is outside of it. -/
def dotted? (w : Index) (member : ModuleEntry → String → Option Target) (name : String) : Option Target :=
  if name == "" then none
  else
    let parts := Text.dottedParts name
    match w.longestModule? parts parts.length with
    | some (m, names) => w.attributes? member (.module m) names
    | none => if w.hasPackage (parts.headD "") then none else some (.external name)

/-- What a module defines itself under a name. -/
def defined? (m : ModuleEntry) (name : String) : Option Target :=
  match m.functionsNamed name with
  | [] => (m.classNamed? name).map .class
  | units => some (.units units)

/-- What a name of a module means; up to `hops` imports are followed. -/
def member? (w : Index) (hops : Nat) (m : ModuleEntry) (name : String) : Option Target :=
  match defined? m name with
  | some target => some target
  | none =>
    match m.imports.bindings.lookup name, hops with
    | some _, 0 => none
    | some target, hops + 1 => w.dotted? (member? w hops) target
    | none, hops =>
      match w.module? (m.id.name ++ "." ++ name) with
      | some sub => some (.module sub)
      | none =>
        match hops with
        | 0 => none
        | hops + 1 => m.imports.stars.findSome? fun star =>
          match w.module? star with
          | some other => if other.id.path == m.id.path then none else member? w hops other name
          | none => none

/-- What a name means in a module: its own meaning, or that of the builtin name. -/
def name? (w : Index) (m : ModuleEntry) (name : String) : Option Target :=
  match w.member? maxImportDepth m name with
  | some target => some target
  | none => if builtinNames.contains name then some (.external ("builtins." ++ name)) else none

/-- What a dotted name means, seen from anywhere. -/
def absolute? (w : Index) (name : String) : Option Target := w.dotted? (w.member? maxImportDepth) name

end Index

end CallAtlas.Workspace
