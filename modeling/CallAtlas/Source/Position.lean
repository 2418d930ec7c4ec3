/-!
# Places in a source file

Lines count from one; columns are byte offsets into the line and count from zero.
-/

namespace CallAtlas.Source

/-- A place in a source file. -/
structure Position where
  line : Nat
  column : Nat
  deriving Repr, DecidableEq, Inhabited

namespace Position

/-- The place behind one more character. -/
def next (p : Position) (c : Char) : Position :=
  if c == '\n' then ⟨p.line + 1, 0⟩ else ⟨p.line, p.column + c.utf8Size⟩

/-- The place behind a list of characters. -/
def after (p : Position) (cs : List Char) : Position := cs.foldl next p

/-- Strictly earlier: by line, then by column. -/
def before (p q : Position) : Bool := decide (p.line < q.line) || (p.line == q.line && decide (p.column < q.column))

end Position

/-- From one place to another. -/
structure Span where
  start : Position
  stop : Position
  deriving Repr, DecidableEq, Inhabited

/-- Why a source text has no tree. -/
inductive Fault where
  /-- The text is not derived by the grammar. -/
  | malformed
  /-- A block is indented in a way that the grammar does not allow. -/
  | indentation
  /-- Tabs and blanks are mixed so that the depth of a line is not clear. -/
  | tabs
  /-- The text holds the null character. -/
  | nullCharacter
  deriving Repr, DecidableEq, Inhabited

end CallAtlas.Source
