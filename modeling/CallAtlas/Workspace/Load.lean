import CallAtlas.Log
import CallAtlas.Workspace.Resolve

/-!
# Loading a workspace

Reads all source files below a path, or the one file that the path names, and puts the classes into order. Files that
cannot be read or parsed do not stop this.
-/

namespace CallAtlas.Workspace

open Source

/-- The language of all documents. -/
def language : String := "python"

/-- The project at a path: a directory, or the directory of a single file, which then gives the name. -/
def projectAt (tree : Files.Tree) (root : String) : Project :=
  if tree.isDirectory root then
    { name := Path.base root, assembly := Path.base root, root, language }
  else
    let name := Path.stem (Path.base root)
    { name, assembly := name, root := Path.directory root, language }

namespace Index

/-- The class that a base of a class means. -/
def base? (w : Index) (c : ClassEntry) (base : Expr) : Option ClassEntry :=
  match w.moduleAt? c.module.path with
  | some m =>
    match w.expression? { module := m } base with
    | some (.class b) => some b
    | _ => none
  | none => none

/-- Which class has which bases. -/
def hierarchy (w : Index) : Hierarchy :=
  let start : Hierarchy := ⟨w.classNames.map fun name => (name, [])⟩
  w.classes.foldl (fun h c => (c.bases.filterMap (w.base? c)).foldl (fun h b => h.addBase c.qualname b.qualname) h) start

/-- The order of one class after those that are known: the merged one, or the depth-first one. -/
def orderNames (h : Hierarchy) (known : Hierarchy.Orders) (name : String) :
    (List String × Bool) × Hierarchy.Orders :=
  match h.orderWith known name with
  | (some order, known) => ((order, true), known)
  | (none, known) => ((h.preorder name, false), known)

/-- The orders of some classes one after the other; each with whether it is a merged one. -/
def orderTable (h : Hierarchy) (known : Hierarchy.Orders) : List String → List (String × List String × Bool)
  | [] => []
  | name :: names =>
    let (order, known) := orderNames h known name
    (name, order) :: orderTable h known names

/-- The orders of all classes. -/
def allOrders (w : Index) : List (String × List String × Bool) := orderTable w.hierarchy [] w.classNames

/-- With the orders of all classes. -/
def withOrders (w : Index) : Index :=
  { w with orders := w.allOrders.map fun entry => (entry.1, entry.2.1.filterMap w.class?) }

end Index

/-- Loads the workspace at a path, where these encodings are known. -/
def load (codecs : Codecs) (tree : Files.Tree) (exclude : List String) (guesses : Bool) (path : String) :
    Except LoadFault Index := do
  let root := tree.absolute path
  if !tree.exists? root then throw (.unloadable root "path does not exist")
  let found := tree.modules exclude root
  if found.isEmpty then throw (.unloadable root "no Python source files found")
  let project := projectAt tree root
  let modules ← found.mapM fun file =>
    ModuleEntry.ofFile codecs tree project.assembly { name := file.1, path := file.2 }
  return ({ project, modules, guesses } : Index).withOrders

namespace Index

/-- A line for each module whose name an earlier one has. -/
def sharedNameLines (w : Index) : Log :=
  w.modules.filterMap fun m =>
    match w.module? m.id.name with
    | some first =>
      if first.id.path == m.id.path then none
      else some ⟨.debug, "module name " ++ m.id.name ++ " is shared by " ++ first.id.path ++ " and " ++ m.id.path⟩
    | none => none

/-- A line for each class without a merged order. -/
def fallbackLines (w : Index) : Log :=
  w.allOrders.filterMap fun entry =>
    if entry.2.2 then none
    else some ⟨.debug, "no consistent method resolution order for " ++ entry.1 ++ "; using depth-first order"⟩

/-- What loading reports; `root` is the path that was loaded. -/
def loadLog (w : Index) (root : String) : Log :=
  w.sharedNameLines ++ w.fallbackLines ++
    [⟨.info, "loaded " ++ toString w.modules.length ++ " modules, " ++ toString w.classNames.length ++
      " classes from " ++ root⟩]

end Index

end CallAtlas.Workspace
