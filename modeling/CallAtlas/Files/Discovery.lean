import CallAtlas.Files.Tree

/-!
# Finding modules

The source files below a directory, and the name under which each can be imported: its own name after those of the
packages around it, where a package is a directory with an `__init__.py` file.
-/

namespace CallAtlas.Files

/-- The directories that are passed over. -/
def defaultExcludes : List String :=
  [".git", ".hg", ".svn", ".tox", ".nox", ".venv", "venv", "__pycache__", "node_modules", "build", "dist",
   ".mypy_cache", ".pytest_cache"]

/-- The file that makes a directory a package. -/
def packageFile : String := "__init__.py"

/-- A source file, by its name. -/
def isSource (name : String) : Bool := Path.extension name == ".py"

namespace Tree

/-- A directory that is a package. -/
def isPackageDirectory (t : Tree) (directory : String) : Bool := t.isFile (Path.join directory packageFile)

/-- The names of the packages around a directory, the directory itself included, innermost first. `rounds` bounds their
number. -/
def packageChain (t : Tree) (rounds : Nat) (directory : String) : List String :=
  match rounds with
  | 0 => []
  | rounds + 1 =>
    if !t.isPackageDirectory directory then []
    else
      let name := Path.base directory
      if name == "" then [name] else name :: packageChain t rounds (Path.directory directory)

/-- The name under which a file can be imported. -/
def moduleName (t : Tree) (path : String) : String :=
  let path := t.absolute path
  let file := Path.base path
  let packages := t.packageChain path.length (Path.directory path)
  let own := if file == packageFile then [] else [Path.stem file]
  ".".intercalate (packages.reverse ++ own)

/-- A directory of this name is passed over. -/
def isPruned (exclude : List String) (name : String) : Bool := exclude.contains name || name.toList.head? == some '.'

/-- No directory, of a source name and below a directory, with no pruned directory on the way. -/
def isSourceBelow (exclude : List String) (root : Location) (e : Location × Entry) : Bool :=
  root.isPrefixOf e.1 && e.2 != .directory &&
    match (e.1.drop root.length).reverse with
    | name :: directories => isSource name && !directories.any (isPruned exclude)
    | [] => false

/-- A link that leads to a directory: it counts as one, and is not followed. -/
def isDirectoryLink (t : Tree) (e : Location × Entry) : Bool :=
  match e.2 with
  | .link _ => t.isDirectory (pathOf e.1)
  | _ => false

/-- The source files below a directory, by location. -/
def sourcesBelow (t : Tree) (exclude : List String) (root : Location) : List Location :=
  (t.entries.filter fun e => isSourceBelow exclude root e && !t.isDirectoryLink e).map (·.1)

/-- The source files that a path leads to: itself, or those below it, in order of their paths. -/
def sources (t : Tree) (exclude : List String) (path : String) : List String :=
  match t.find true path with
  | .ok (.taken _ (.file _)) => if isSource path then [t.absolute path] else []
  | .ok (.taken place .directory) =>
    let root := t.absolute path
    ((t.sourcesBelow exclude place).map fun found =>
      Path.join root ("/".intercalate (found.drop place.length))).mergeSort
  | _ => []

/-- The modules that a path leads to: the name and the path of each source file. -/
def modules (t : Tree) (exclude : List String) (path : String) : List (String × String) :=
  (t.sources exclude path).map fun file => (t.moduleName file, file)

end Tree

end CallAtlas.Files
