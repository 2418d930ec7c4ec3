import CallAtlas.Files.Digest
import CallAtlas.Files.Tree

/-!
# Writing files of text

A file is only written if what is there differs, so that unchanged files stay untouched.
-/

namespace CallAtlas.Files

/-- The name of a file with the extension of a format. -/
def named (name : String) (format : Option String) : String :=
  match format with
  | some extension => name ++ "." ++ extension
  | none => name

namespace Tree

/-- The digest of a file. -/
def digest (t : Tree) (path : String) : Except Fault (List UInt8) := Digest.ofBytes <$> t.readBytes path

/-- Writes a text into a file in a directory, whatever is there. -/
def overwrite (t : Tree) (directory name text : String) : Tree × Except Fault Bool :=
  match t.store directory name text with
  | (t, none) => (t, .ok true)
  | (t, some fault) => (t, .error fault)

/-- Writes a text into a file in a directory, unless a file of the same digest is there. Says whether it wrote. -/
def writeIfChanged (t : Tree) (directory name text : String) : Tree × Except Fault Bool :=
  if t.exists? (Path.join directory name) then
    match t.digest (Path.join directory name) with
    | .ok digest => if digest == Digest.ofText text then (t, .ok false) else t.overwrite directory name text
    | .error fault => (t, .error fault)
  else t.overwrite directory name text

end Tree

end CallAtlas.Files
