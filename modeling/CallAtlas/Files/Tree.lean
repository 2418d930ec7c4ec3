import CallAtlas.Files.Path
import CallAtlas.Text.Utf8

/-!
# File trees

Files, directories and links by location, and the operations on them. A path leads to an entry or to a free place in a
directory; `walk` finds it part by part, following links. Every operation gives the changed tree or the reason why it is
refused; a refused operation may still have made directories on its way.
-/

namespace CallAtlas.Files

/-- The names from the root to a place. -/
abbrev Location := List String

/-- What stands at a location. -/
inductive Entry where
  | file (bytes : List UInt8)
  | directory
  | link (target : String)
  deriving Repr, DecidableEq, Inhabited

/-- Why an operation is refused. -/
inductive Fault where
  | notFound
  | exists
  | isDirectory
  | notDirectory
  | nameTooLong
  | tooManyLinks
  | nullCharacter
  /-- The bytes of a file are no text. -/
  | notText
  deriving Repr, DecidableEq, Inhabited

/-- A text that can be a name in a directory. -/
def isName (name : String) : Bool := !name.isEmpty && !name.toList.contains '/'

/-- All entries, and the directory that relative paths start from. The root is always there. -/
structure Tree where
  entries : List (Location × Entry) := []
  current : Location := []
  /-- No two entries stand at one location. -/
  distinct : (entries.map (·.1)).Nodup := by decide
  /-- Locations are made of names. -/
  named : ∀ e ∈ entries, e.1.all isName = true := by decide
  deriving Repr, DecidableEq

namespace Tree

/-- The tree without entries. -/
def empty (current : Location) : Tree := { current }

instance : Inhabited Tree := ⟨empty []⟩

/-- What stands at a location. -/
def get? (t : Tree) (place : Location) : Option Entry :=
  if place.isEmpty then some .directory else t.entries.lookup place

/-- The entries with another one in place of the one at a location. -/
def replace (entries : List (Location × Entry)) (place : Location) (entry : Entry) : List (Location × Entry) :=
  entries.map fun e => if e.1 == place then (place, entry) else e

theorem map_fst_replace (entries : List (Location × Entry)) (place : Location) (entry : Entry) :
    (replace entries place entry).map (·.1) = entries.map (·.1) := by
  rw [replace, List.map_map]
  refine List.map_congr_left fun e _ => ?_
  simp only [Function.comp_apply]
  split
  · rename_i same
    exact (eq_of_beq same).symm
  · rfl

theorem named_replace {entries : List (Location × Entry)} {place : Location} (h : ∀ e ∈ entries, e.1.all isName = true)
    (entry : Entry) : ∀ e ∈ replace entries place entry, e.1.all isName = true := by
  intro e he
  have mem : e.1 ∈ entries.map (·.1) := map_fst_replace entries place entry ▸ List.mem_map_of_mem he
  obtain ⟨old, hold, same⟩ := List.mem_map.1 mem
  exact same ▸ h old hold

theorem distinct_concat {entries : List (Location × Entry)} {place : Location} (h : (entries.map (·.1)).Nodup)
    (free : ¬entries.any (·.1 == place)) (entry : Entry) : ((entries ++ [(place, entry)]).map (·.1)).Nodup := by
  rw [List.map_append, List.nodup_append]
  refine ⟨h, by simp, fun a ha b hb same => free ?_⟩
  obtain ⟨e, he, rfl⟩ := List.mem_map.1 ha
  cases List.mem_singleton.1 hb
  exact List.any_eq_true.2 ⟨e, he, beq_iff_eq.2 same⟩

theorem named_concat {entries : List (Location × Entry)} {place : Location} (h : ∀ e ∈ entries, e.1.all isName = true)
    (names : place.all isName = true) (entry : Entry) :
    ∀ e ∈ entries ++ [(place, entry)], e.1.all isName = true := by
  intro e he
  rcases List.mem_append.1 he with old | new
  · exact h e old
  · cases List.mem_singleton.1 new
    exact names

/-- With an entry at a location, in place of any other. Where the names cannot be names, nothing changes. -/
def put (t : Tree) (place : Location) (entry : Entry) : Tree :=
  if names : place.all isName then
    if taken : t.entries.any (·.1 == place) then
      { t with
        entries := replace t.entries place entry
        distinct := map_fst_replace t.entries place entry ▸ t.distinct
        named := named_replace t.named entry }
    else
      { t with
        entries := t.entries ++ [(place, entry)]
        distinct := distinct_concat t.distinct taken entry
        named := named_concat t.named names entry }
  else t

/-- With an entry at a location, and directories above it where nothing stands. -/
def place (t : Tree) (place : Location) (entry : Entry) : Tree :=
  let parents := (List.range (place.length - 1)).map fun i => place.take (i + 1)
  let t := parents.foldl (fun t parent => if (t.get? parent).isSome then t else t.put parent .directory) t
  if entry == .directory && (t.get? place).isSome then t else t.put place entry

/-- Where a path leads. -/
inductive Spot where
  /-- To an entry. -/
  | taken (place : Location) (entry : Entry)
  /-- To a name that nothing has, in a directory. -/
  | free (directory : Location) (name : String)
  deriving Repr, DecidableEq

/-- The longest name, in bytes. -/
def maxNameBytes : Nat := 255

/-- The longest chain of links. -/
def maxLinks : Nat := 40

/-- Follows the names from a directory up to a link, from where `jump` goes on. A link at the very end is followed only
if `follow` says so. -/
def walkTo (t : Tree) (follow : Bool) (jump : Location → List String → Except Fault Spot) (place : Location) :
    List String → Except Fault Spot
  | [] => .ok (.taken place .directory)
  | name :: rest =>
    if name == "." then walkTo t follow jump place rest
    else if name == ".." then walkTo t follow jump place.dropLast rest
    else if maxNameBytes < name.utf8ByteSize then .error .nameTooLong
    else
      match t.get? (place ++ [name]) with
      | none => if rest.isEmpty then .ok (.free place name) else .error .notFound
      | some .directory => walkTo t follow jump (place ++ [name]) rest
      | some (.file bytes) =>
        if rest.isEmpty then .ok (.taken (place ++ [name]) (.file bytes)) else .error .notDirectory
      | some (.link target) =>
        if rest.isEmpty && !follow then .ok (.taken (place ++ [name]) (.link target))
        else
          let start := if Path.isAbsolute target.toList then [] else place
          jump start ((Path.parts target.toList).map String.ofList ++ rest)

/-- Follows the names from a directory. The number is how many links may be followed. -/
def walk (t : Tree) (follow : Bool) : Nat → Location → List String → Except Fault Spot
  | 0 => walkTo t follow fun _ _ => .error .tooManyLinks
  | links + 1 => walkTo t follow (walk t follow links)

/-- Where a path leads. With a slash at its end it leads to a directory or to a free name only. -/
def find (t : Tree) (follow : Bool) (path : String) : Except Fault Spot := do
  let chars := path.toList
  if chars.contains '\x00' then throw .nullCharacter
  if chars.isEmpty then throw .notFound
  let start := if Path.isAbsolute chars then [] else t.current
  let spot ← walk t (follow || chars.getLast? == some '/') maxLinks start ((Path.parts chars).map String.ofList)
  match spot with
  | .taken _ (.file _) => if chars.getLast? == some '/' then throw .notDirectory else return spot
  | _ => return spot

/-- The entry that a path leads to. -/
def entry? (t : Tree) (path : String) : Option Entry :=
  match t.find true path with
  | .ok (.taken _ entry) => some entry
  | _ => none

/-- Something is there. -/
def exists? (t : Tree) (path : String) : Bool := (t.entry? path).isSome

/-- A directory is there. -/
def isDirectory (t : Tree) (path : String) : Bool := t.entry? path == some .directory

/-- A file is there. -/
def isFile (t : Tree) (path : String) : Bool :=
  match t.entry? path with
  | some (.file _) => true
  | _ => false

/-- The bytes of a file. -/
def readBytes (t : Tree) (path : String) : Except Fault (List UInt8) := do
  match ← t.find true path with
  | .taken _ (.file bytes) => return bytes
  | .taken _ .directory => throw .isDirectory
  | .taken _ (.link _) => throw .notFound
  | .free .. => throw .notFound

/-- The text of a file. -/
def contents (t : Tree) (path : String) : Except Fault String := do
  match Text.decodeUtf8? (← t.readBytes path) with
  | some cs => return String.ofList cs
  | none => throw .notText

/-- Makes one directory. -/
def makeDirectory (t : Tree) (path : String) : Except Fault Tree := do
  match ← t.find false path with
  | .free directory name => return t.put (directory ++ [name]) .directory
  | .taken .. => throw .exists

/-- The directory above a path and the name in it; slashes at the end of the path do not count. -/
def splitLast (path : String) : String × String :=
  if Path.base path == "" then
    (Path.directory (Path.directory path), Path.base (Path.directory path))
  else (Path.directory path, Path.base path)

/-- Makes one directory, unless it is there. -/
def makeDirectoryOnce (t : Tree) (path : String) : Tree × Option Fault :=
  match t.makeDirectory path with
  | .ok t => (t, none)
  | .error fault => if t.isDirectory path then (t, none) else (t, some fault)

/-- Makes a directory and those above it, unless they are there. `rounds` bounds how many are above. -/
def makeDirectoriesFrom (t : Tree) (rounds : Nat) (path : String) : Tree × Option Fault :=
  match rounds with
  | 0 => t.makeDirectoryOnce path
  | rounds + 1 =>
    let (above, name) := splitLast path
    if above != "" && name != "" && !t.exists? above then
      match makeDirectoriesFrom t rounds above with
      | (t, some fault) => if fault == .exists then finish t name else (t, some fault)
      | (t, none) => finish t name
    else t.makeDirectoryOnce path
where
  /-- The directory itself, after those above it. -/
  finish (t : Tree) (name : String) : Tree × Option Fault :=
    if name == "." then (t, none) else t.makeDirectoryOnce path

/-- Makes a directory and those above it, unless they are there. What was made before a refusal stays. -/
def makeDirectories (t : Tree) (path : String) : Tree × Option Fault :=
  makeDirectoriesFrom t (path.length + 1) path

/-- Writes a file, new or in place of the one that is there. -/
def writeBytes (t : Tree) (path : String) (bytes : List UInt8) : Except Fault Tree := do
  match ← t.find true path with
  | .free directory name =>
    if path.toList.getLast? == some '/' then throw .isDirectory
    return t.put (directory ++ [name]) (.file bytes)
  | .taken place (.file _) => return t.put place (.file bytes)
  | .taken .. => throw .isDirectory

/-- Writes a text into a file in a directory, which is made if it is missing. -/
def store (t : Tree) (directory name text : String) : Tree × Option Fault :=
  match t.makeDirectories directory with
  | (t, some fault) => (t, some fault)
  | (t, none) =>
    match t.writeBytes (Path.join directory name) (Text.encodeUtf8 text.toList) with
    | .ok t => (t, none)
    | .error fault => (t, some fault)

/-- The path of a location. -/
def pathOf (place : Location) : String := "/" ++ "/".intercalate place

/-- The path of the directory that relative paths start from. -/
def currentPath (t : Tree) : String := pathOf t.current

/-- The normalized form of a path. -/
def absolute (t : Tree) (path : String) : String := Path.absolute t.currentPath path

/-- The entries right below a location, by name. -/
def children (t : Tree) (place : Location) : List (String × Entry) :=
  t.entries.filterMap fun e =>
    match e.1.getLast? with
    | some name => if e.1.dropLast == place then some (name, e.2) else none
    | none => none

end Tree

end CallAtlas.Files
