import CallAtlas.Text.Piece

/-!
# Paths

Paths as texts with slashes between their parts. All of this looks at the text only; what a path leads to is the
business of `Files.Tree`.
-/

namespace CallAtlas.Path

open Text

/-- One part of a path. -/
abbrev Part := List Char

/-- The part for the directory above. -/
def up : Part := ['.', '.']

/-- The part for the directory itself. -/
def here : Part := ['.']

/-- A name inside a directory; an absolute name stands for itself. -/
def joinChars (directory name : List Char) : List Char :=
  if name.head? == some '/' then name
  else if directory.isEmpty || directory.getLast? == some '/' then directory ++ name
  else directory ++ '/' :: name

@[inherit_doc joinChars]
def join (directory name : String) : String := String.ofList (joinChars directory.toList name.toList)

/-- The last part, which is empty if the path ends in a slash. -/
def baseChars (path : List Char) : List Char := (path.reverse.takeWhile (· != '/')).reverse

@[inherit_doc baseChars]
def base (path : String) : String := String.ofList (baseChars path.toList)

/-- What stands before the last part, without slashes at its end unless it has nothing else. -/
def directoryChars (path : List Char) : List Char :=
  let head := (path.reverse.dropWhile (· != '/')).reverse
  if head.all (· == '/') then head else (head.reverse.dropWhile (· == '/')).reverse

@[inherit_doc directoryChars]
def directory (path : String) : String := String.ofList (directoryChars path.toList)

/-- What stands before the extension of the last part, and the extension with its point. Points at the start of a name
begin no extension. -/
def splitExtension (path : List Char) : List Char × List Char :=
  let name := baseChars path
  let dots := name.takeWhile (· == '.')
  let rest := name.drop dots.length
  match cutLast? '.' rest with
  | some (stem, extension) =>
    (path.take (path.length - name.length) ++ dots ++ stem, '.' :: extension)
  | none => (path, [])

/-- A path without its extension. -/
def stem (path : String) : String := String.ofList (splitExtension path.toList).1

/-- The extension of a path, with its point. -/
def extension (path : String) : String := String.ofList (splitExtension path.toList).2

/-- The parts of a path between its slashes, without empty ones. -/
def parts (path : List Char) : List Part := (splitOn '/' path).filter fun part => !part.isEmpty

/-- Starts at the root. -/
def isAbsolute (path : List Char) : Bool := path.head? == some '/'

/-- Adds a part to the parts before it, last first: `.` changes nothing, and `..` takes back the part before it. Above
the root there is the root; above a relative path, `..` stays. -/
def step (isAbsolute : Bool) (before : List Part) (part : Part) : List Part :=
  if part == here then before
  else if part == up then
    match before with
    | [] => if isAbsolute then [] else [up]
    | last :: rest => if last == up then up :: before else rest
  else part :: before

/-- The parts of a path after all steps. -/
def normalParts (path : List Char) : List Part := ((parts path).foldl (step (isAbsolute path)) []).reverse

/-- The slashes that an absolute path starts with: exactly two count as two, any other number as one. -/
def leadingSlashes (path : List Char) : List Char :=
  match path with
  | '/' :: '/' :: '/' :: _ => ['/']
  | '/' :: '/' :: _ => ['/', '/']
  | '/' :: _ => ['/']
  | _ => []

/-- The shortest text of a path. -/
def normalizeChars (path : List Char) : List Char :=
  let text := leadingSlashes path ++ joinWith ['/'] (normalParts path)
  if text.isEmpty then here else text

/-- The normalized path, seen from the directory `current`. -/
def absoluteChars (current path : List Char) : List Char :=
  normalizeChars (if isAbsolute path then path else joinChars current path)

@[inherit_doc absoluteChars]
def absolute (current path : String) : String := String.ofList (absoluteChars current.toList path.toList)

/-- Without what both lists start with in common. -/
def dropCommon : List Part → List Part → List Part × List Part
  | a :: as, b :: bs => if a == b then dropCommon as bs else (a :: as, b :: bs)
  | as, bs => (as, bs)

/-- The way from one directory to a path, by steps up and down. -/
def wayTo (start path : List Part) : List Part :=
  let (ups, downs) := dropCommon start path
  ups.map (fun _ => up) ++ downs

/-- A path seen from a root directory, unless the way there starts with two points; then its absolute form. An empty
path has no way to it. -/
def relativeChars (current path root : List Char) : List Char :=
  let whole := absoluteChars current path
  let way := wayTo (parts (absoluteChars current root)) (parts whole)
  let text := if way.isEmpty then here else joinWith ['/'] way
  if path.isEmpty || up.isPrefixOf text then whole else text

@[inherit_doc relativeChars]
def relative (current path root : String) : String :=
  String.ofList (relativeChars current.toList path.toList root.toList)

end CallAtlas.Path
