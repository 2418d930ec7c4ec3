import CallAtlas.Workspace.Lookup

/-!
# Resolving calls

What the calls in a declaration refer to. Names that the declaration binds itself mean nothing known, except its imports
and its receiver; all others are looked up in the module. Without a type for a receiver a call on it stays unresolved,
unless the workspace guesses.
-/

namespace CallAtlas.Workspace

open Source

/-- What is known inside one declaration. -/
structure Context where
  module : ModuleEntry
  /-- The class around it. -/
  owner : Option ClassEntry := none
  /-- The name of the object that a method is called on. -/
  receiver : Option String := none
  /-- Names bound inside, other than the receiver and the imports. -/
  locals : List String := []
  imports : Bindings := []

/-- The names of all parameters. -/
def paramNames (ps : Params) : List String :=
  (ps.positionalOnly ++ ps.regular ++ ps.keywordOnly ++ ps.variadic.toList ++ ps.keywordVariadic.toList).map (·.name)

/-- The name that a node binds. -/
def boundName? : Node → Option String
  | .expr (.name id .store) => some id
  | .expr (.name id .delete) => some id
  | .stmt (.functionDef f) => some f.name
  | .stmt (.classDef c) => some c.name
  | _ => none

/-- The nodes of the statements of a block, statement after statement. -/
def nodesOf (body : List Stmt) : List Node := body.flatMap (·.walk)

/-- The first parameter of a method; a static method and a function have no receiver. -/
def receiverOf (d : Declaration) : Option String :=
  if d.owner.isSome && !d.function.decoratorNames.contains "staticmethod" then
    (d.function.params.positionalOnly ++ d.function.params.regular).head?.map (·.name)
  else none

/-- The context of a declaration. -/
def contextOf (m : ModuleEntry) (d : Declaration) : Context :=
  let nodes := nodesOf d.function.body
  let imports := ((importsIn nodes).foldl (ImportTable.add m.id true) {}).bindings
  let receiver := receiverOf d
  let bound := paramNames d.function.params ++ nodes.filterMap boundName?
  { module := m
    owner := d.owner
    receiver
    locals := bound.filter fun name => receiver != some name && !imports.any (·.1 == name)
    imports }

/-- A call of `super`. -/
def isSuperCall : Expr → Bool
  | .call _ (.name "super" _) _ _ => true
  | _ => false

namespace Index

/-- What a name means in a context. -/
def nameIn? (w : Index) (context : Context) (name : String) : Option Target :=
  if context.receiver == some name then context.owner.map .instance
  else
    match context.imports.lookup name with
    | some target => w.absolute? target
    | none => if context.locals.contains name then none else w.name? context.module name

/-- Any method of a name, if the workspace guesses. -/
def guess? (w : Index) (name : String) : Option Target := if w.guesses then some (.guess name) else none

/-- What an expression means in a context. -/
def expression? (w : Index) (context : Context) : Expr → Option Target
  | .name id _ => w.nameIn? context id
  | .attribute value name =>
    match (if isSuperCall value then context.owner else none) with
    | some owner =>
      match w.inheritedAbove owner name with
      | [] => none
      | units => some (.bound units "super()")
    | none =>
      match expression? w context value with
      | none => w.guess? name
      | some (.instance c) =>
        match w.inherited c name with
        | [] => w.guess? name
        | units => some (.bound units (context.receiver.getD ""))
      | some target => w.attribute? (w.member? maxImportDepth) target name
  | _ => none

/-- Only says how a declaration can be called. -/
def isOverload (w : Index) (u : Callable) : Bool :=
  w.declarations.any fun d => d.isOverload && d.unit.sameAs u

/-- The declarations without those that only say how one can be called, unless there are no others. -/
def foremost (w : Index) (units : List Callable) : List Callable :=
  match units.filter fun u => !w.isOverload u with
  | [] => units
  | implementations => implementations

/-- The constructor that a class has without declaring one. -/
def implicitConstructor (w : Index) (c : ClassEntry) : Callable :=
  { identity :=
      { assembly := w.project.assembly, qualname := c.qualname ++ ".__init__", path := c.module.path,
        line := c.span.start.line, column := c.span.start.column }
    name := "__init__"
    declaringType := c.name
    declaringDisplay := c.qualname
    path := c.module.path
    span := c.span
    assembly := w.project.assembly
    isImplicit := true
    kind := .constructor
    signature := "def __init__(self)" }

/-- What a call of a class calls. Of classes that share a dotted name only the last one has constructors. -/
def constructorsOf (w : Index) (c : ClassEntry) : List Callable :=
  if !(w.class? c.qualname).any (·.sameAs c) then []
  else
    match w.inherited c "__init__" with
    | [] =>
      match w.inherited c "__new__" with
      | [] => [w.implicitConstructor c]
      | units => units
    | units => units

/-- Something outside of the workspace. -/
def outsideUnit (name : String) : Callable :=
  let assembly := Text.dottedHead name
  let owner := Text.dottedInit name
  { identity := { assembly, qualname := name }
    name := Text.dottedLast name
    declaringType := Text.dottedLast owner
    declaringDisplay := owner
    assembly
    inSource := false }

/-- Earlier in the sources: by file and place. -/
def placeLe (a b : Callable) : Bool :=
  (compare a.path b.path).then (compare a.span.start.line b.span.start.line)
    |>.then (compare a.span.start.column b.span.start.column)
    |>.isLE

/-- All methods, in the order of the sources. -/
def allMethods (w : Index) : List Callable :=
  ((w.declarations.filter (·.owner.isSome)).map (·.unit)).mergeSort placeLe

/-- All methods of a name, in the order of the sources. -/
def methodsAnywhere (w : Index) (name : String) : List Callable := w.allMethods.filter (·.name == name)

/-- What a call of a target refers to. -/
def resolution? (w : Index) : Target → Option Resolution
  | .units units => Resolution.ofReferents? ((w.foremost units).map .declaration)
  | .bound units receiver => Resolution.ofReferents? ((w.foremost units).map fun u => .bound (.declaration u) receiver)
  | .class c => Resolution.ofReferents? ((w.foremost (w.constructorsOf c)).map .declaration)
  | .external name => some (.one (.declaration (outsideUnit name)))
  | .guess name =>
    match w.methodsAnywhere name with
    | [] => none
    | units => some { candidates := units.map .declaration }
  | _ => none

end Index

/-- A declaration with type arguments; any other referent as it is. -/
def specialized (arguments : List String) : Referent → Referent
  | .declaration u => .instantiated (.declaration u) arguments
  | s => s

/-- A call in the body of a declaration: where it stands and what is called. -/
structure CallSite where
  start : Position
  function : Expr

/-- The calls among some nodes. -/
def callSitesIn (nodes : List Node) : List CallSite :=
  nodes.filterMap fun
    | .expr (.call start function _ _) => some { start, function }
    | _ => none

/-- The calls in the body of a declaration, in the order of the source; calls that start at one place stay in
breadth-first order. -/
def sitesIn (d : Declaration) : List CallSite :=
  (callSitesIn (nodesOf d.function.body)).mergeSort fun a b => !b.start.before a.start

namespace Index

/-- What a call refers to. A subscript gives the type arguments. -/
def call? (w : Index) (context : Context) (site : CallSite) : Except RenderFault (Option Resolution) := do
  match site.function with
  | .subscript value index =>
    let arguments := [← index.text]
    return ((w.expression? context value).bind w.resolution?).map fun r =>
      { referent := specialized arguments r.referent, candidates := r.candidates.map (specialized arguments) }
  | function => return (w.expression? context function).bind w.resolution?

/-- The declaration of a unit in a file. -/
def declaration? (w : Index) (path : String) (u : Callable) : Option (ModuleEntry × Declaration) := do
  let m ← w.moduleAt? path
  let d ← m.declarations.find? (·.unit.sameAs u)
  return (m, d)

/-- The units of a qualified name. -/
def unitsNamed (w : Index) (qualname : String) : List Callable :=
  (w.declarations.map (·.unit)).filter (·.identity.qualname == qualname)

/-- The calls in a unit of a file. -/
def sitesOf (w : Index) (path : String) (u : Callable) : Except Refusal (List CallSite) :=
  match w.declaration? path u with
  | none => .error (.gap ("unknown declaration " ++ u.name))
  | some (_, d) => .ok (sitesIn d)

/-- The calls of a declaration with what they refer to. -/
def resolvedCalls (w : Index) (path : String) (u : Callable) :
    Except Refusal (List (CallSite × Option Resolution)) :=
  match w.declaration? path u with
  | none => .error (.gap ("unknown declaration " ++ u.name))
  | some (m, d) =>
    let context := contextOf m d
    match (sitesIn d).mapM fun site => do return (site, ← w.call? context site) with
    | .ok calls => .ok calls
    | .error fault => .error (.unwritable fault)

/-- The declarations of a file. -/
def declaredAt (w : Index) (path : String) : Except Refusal (List Callable) :=
  match w.moduleAt? path with
  | none => .error (.gap ("unknown document " ++ path))
  | some m =>
    match m.fault with
    | some fault => .error (.gap fault.kind)
    | none => .ok (m.declarations.map (·.unit))

/-- The documents of the workspace. -/
def documents (w : Index) : List Document := w.modules.map fun m => { path := m.id.path, project := w.project }

/-- The workspace as a code base. -/
def codeBase (w : Index) : CodeBase :=
  { projects := [w.project]
    documents := fun _ => .ok w.documents
    declared := fun document => w.declaredAt document.path
    calls := fun document u => (·.map (·.2)) <$> w.resolvedCalls document.path u }

end Index

end CallAtlas.Workspace
