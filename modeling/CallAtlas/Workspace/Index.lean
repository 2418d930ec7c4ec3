import CallAtlas.Files.Discovery
import CallAtlas.CodeBase
import CallAtlas.Source.Definition
import CallAtlas.Source.Encoding
import CallAtlas.Source.Grammar.Statement
import CallAtlas.Workspace.Imports

/-!
# The index of a module

What one source file declares: its functions and classes, methods with the class they stand in, and its imports. Nested
functions belong to the declaration around them. A class is known by the place where it stands, because two classes can
have one name.
-/

namespace CallAtlas.Workspace

open Source

/-- One class. -/
structure ClassEntry where
  name : String
  /-- The dotted name, from the module on. -/
  qualname : String
  /-- The module that declares it. -/
  module : ModuleId
  span : Span
  bases : List Expr
  /-- Where the class around it starts, if it stands in one. -/
  outer : Option Position

namespace ClassEntry

/-- The same class, not only one of the same name. -/
def sameAs (a b : ClassEntry) : Bool := a.module.path == b.module.path && a.span.start == b.span.start

end ClassEntry

/-- One declaration with the text it comes from. -/
structure Declaration where
  unit : Callable
  function : Function
  /-- The class it stands in. -/
  owner : Option ClassEntry

namespace Declaration

/-- Only says how the declaration of the same name can be called. -/
def isOverload (d : Declaration) : Bool :=
  d.function.decoratorNames.any fun name => Text.dottedLast name == "overload"

/-- Stands in this class. -/
def isMethodOf (d : Declaration) (c : ClassEntry) : Bool := d.owner.any (·.sameAs c)

end Declaration

/-- One thing that a module declares. -/
inductive Item where
  | declaration (d : Declaration)
  | class (c : ClassEntry)

namespace Item

/-- The declaration, if it is one. -/
def declaration? : Item → Option Declaration
  | .declaration d => some d
  | .class _ => none

/-- The class, if it is one. -/
def class? : Item → Option ClassEntry
  | .declaration _ => none
  | .class c => some c

end Item

/-- Where a definition stands: the assembly, the module and the class around it. -/
structure Place where
  assembly : String
  module : ModuleId
  owner : Option ClassEntry := none

namespace Place

/-- The dotted name that the names here are added to. -/
def qualname (p : Place) : String :=
  match p.owner with
  | some c => c.qualname
  | none => p.module.name

/-- The short name of what is around. -/
def lastPart (p : Place) : String :=
  match p.owner with
  | some c => c.name
  | none => p.module.lastPart

/-- The entry of a class that stands here. -/
def classEntry (p : Place) (name : String) (bases : List Expr) (span : Span) : ClassEntry :=
  { name, qualname := p.qualname ++ "." ++ name, module := p.module, span, bases
    outer := p.owner.map (·.span.start) }

/-- The declaration that a function which stands here makes. -/
def declaration (p : Place) (f : Function) : Except RenderFault Declaration := do
  let signature ← f.signature
  let unit : Callable :=
    { identity :=
        { assembly := p.assembly, qualname := p.qualname ++ "." ++ f.name, path := p.module.path,
          line := f.span.start.line, column := f.span.start.column }
      name := f.name
      declaringType := p.lastPart
      declaringDisplay := p.qualname
      path := p.module.path
      span := f.span
      assembly := p.assembly
      kind := f.kind p.owner.isSome
      signature
      documentation := f.documentation }
  return { unit, function := f, owner := p.owner }

end Place

mutual

/-- What a statement declares, in the order of its definitions, a class before what is in it. -/
def itemsOf (p : Place) : Stmt → Except RenderFault (List Item)
  | .functionDef f => do return [.declaration (← p.declaration f)]
  | .classDef ⟨name, bases, _, body, _, span⟩ => do
    let entry := p.classEntry name bases span
    return .class entry :: (← itemsOfBlock { p with owner := some entry } body)
  | .ifElse _ body otherwise => do return (← itemsOfBlock p body) ++ (← itemsOfBlock p otherwise)
  | .withBlock _ _ body => itemsOfBlock p body
  | .tryBlock _ body handlers otherwise final => do
    let inBody ← itemsOfBlock p body
    let inElse ← itemsOfBlock p otherwise
    let inFinal ← itemsOfBlock p final
    return inBody ++ inElse ++ inFinal ++ (← itemsOfHandlers p handlers)
  | _ => .ok []

/-- What a block declares. -/
def itemsOfBlock (p : Place) : List Stmt → Except RenderFault (List Item)
  | [] => .ok []
  | s :: ss => do return (← itemsOf p s) ++ (← itemsOfBlock p ss)

/-- What handlers declare. -/
def itemsOfHandlers (p : Place) : List Handler → Except RenderFault (List Item)
  | [] => .ok []
  | ⟨_, _, body⟩ :: rest => do return (← itemsOfBlock p body) ++ (← itemsOfHandlers p rest)

end

/-- The import statement, if it is one. -/
def importOf? : Stmt → Option Import
  | .imports i _ => some i
  | _ => none

/-- All import statements inside some statements, breadth first. -/
def importsIn (nodes : List Node) : List Import :=
  nodes.filterMap fun
    | .stmt s => importOf? s
    | .expr _ => none

/-- The import table of a module. Imports of the module itself come first and the last of them counts; imports inside
its definitions only bind names that are not bound yet. -/
def importTable (m : ModuleId) (body : List Stmt) : ImportTable :=
  let own := ((definitionsOf body).filterMap importOf?).foldl (ImportTable.add m true) {}
  let all := (importsIn (walkModule body)).foldl (ImportTable.add m false) own
  { all with stars := own.stars }

/-- Why a module has no content. -/
inductive ModuleFault where
  | unreadable (fault : Files.Fault)
  | undeclared
  | undecodable (fault : DecodingFault)
  | unparsable (fault : Fault)
  deriving Repr, DecidableEq

/-- The kind of a fault. -/
def ModuleFault.kind : ModuleFault → String
  | .unreadable .notFound => "FileNotFoundError"
  | .unreadable .isDirectory => "IsADirectoryError"
  | .unreadable .notDirectory => "NotADirectoryError"
  | .unreadable .exists => "FileExistsError"
  | .unreadable .nameTooLong => "OSError"
  | .unreadable .tooManyLinks => "OSError"
  | .unreadable .nullCharacter => "ValueError"
  | .unreadable .notText => "UnicodeDecodeError"
  | .undeclared => "SyntaxError"
  | .undecodable .malformed => "UnicodeDecodeError"
  | .undecodable .unfit => "UnicodeError"
  | .undecodable .surrogate => "UnicodeEncodeError"
  | .unparsable .malformed => "SyntaxError"
  | .unparsable .indentation => "IndentationError"
  | .unparsable .tabs => "TabError"
  | .unparsable .nullCharacter => "ValueError"

/-- The index of one module. -/
structure ModuleEntry where
  id : ModuleId
  fault : Option ModuleFault := none
  imports : ImportTable := {}
  items : List Item := []

namespace ModuleEntry

/-- The declarations, in order. -/
def declarations (m : ModuleEntry) : List Declaration := m.items.filterMap (·.declaration?)

/-- The classes, in order. -/
def classes (m : ModuleEntry) : List ClassEntry := m.items.filterMap (·.class?)

/-- The functions of the module itself. -/
def functions (m : ModuleEntry) : List Callable :=
  (m.declarations.filter (·.owner.isNone)).map (·.unit)

/-- The classes of the module itself. -/
def ownClasses (m : ModuleEntry) : List ClassEntry := m.classes.filter (·.outer.isNone)

/-- The functions of a name. -/
def functionsNamed (m : ModuleEntry) (name : String) : List Callable := m.functions.filter (·.name == name)

/-- The class of a name: the last one. -/
def classNamed? (m : ModuleEntry) (name : String) : Option ClassEntry :=
  (m.ownClasses.filter (·.name == name)).getLast?

end ModuleEntry

/-- The text of a source file, or why there is none; an encoding that is not one of text stops the loading. -/
def sourceText (codecs : Codecs) (tree : Files.Tree) (path : String) :
    Except LoadFault (Except ModuleFault (List Char)) :=
  match tree.readBytes path with
  | .error fault => .ok (.error (.unreadable fault))
  | .ok bytes =>
    match decode codecs bytes with
    | .ok text => .ok (.ok text)
    | .error .declaration => .ok (.error .undeclared)
    | .error (.undecodable fault) => .ok (.error (.undecodable fault))
    | .error .notOfText => .error .codecNotOfText

/-- The index of a module with this text. -/
def ModuleEntry.ofText (assembly : String) (id : ModuleId) (text : List Char) : Except RenderFault ModuleEntry :=
  match parseModule text with
  | .error fault => .ok { id, fault := some (.unparsable fault) }
  | .ok body => do
    let items ← itemsOfBlock { assembly, module := id } body
    return { id, imports := importTable id body, items }

/-- The index of the module in a file. -/
def ModuleEntry.ofFile (codecs : Codecs) (tree : Files.Tree) (assembly : String) (id : ModuleId) :
    Except LoadFault ModuleEntry := do
  match ← sourceText codecs tree id.path with
  | .error fault => return { id, fault := some fault }
  | .ok text =>
    match ModuleEntry.ofText assembly id text with
    | .ok entry => return entry
    | .error fault => throw (.unwritable fault)

end CallAtlas.Workspace
