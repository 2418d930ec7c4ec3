import CallAtlas.Text.Blank
import CallAtlas.Text.Piece

/-!
# Documentation blocks

The documentation of one declaration in normal form: a summary, described parameters, a description of the result and
remarks. Text whose structure could not be read is kept whole as `raw`. `Block.lines` is how a block is shown.
-/

namespace CallAtlas

/-- Every run of blanks, line ends included, as one space, and none at the ends. -/
def singleSpaced (cs : List Char) : List Char := Text.joinWith [' '] (Text.words cs)

namespace Documentation

/-- The documentation of one declaration. -/
structure Block where
  summary : Option String := none
  /-- Names and descriptions, in order. -/
  parameters : List (String × String) := []
  returns : Option String := none
  remarks : Option String := none
  /-- The whole text, if it has no structure. -/
  raw : Option String := none
  deriving Repr, DecidableEq, Inhabited

/-- Nothing where a part is missing or has no text. -/
def hasText (part : Option String) : Bool :=
  match part with
  | some s => !s.isEmpty
  | none => false

/-- Says nothing at all. -/
def Block.isEmpty (b : Block) : Bool :=
  !(hasText b.summary || !b.parameters.isEmpty || hasText b.returns || hasText b.remarks || hasText b.raw)

/-- Holds text without structure. -/
def Block.isRaw (b : Block) : Bool := b.raw.isSome

/-- A block without structure. -/
def Block.ofRaw (text : String) : Block := { raw := some text }

/-- A text without the blanks at its end. -/
def chopEnd (s : String) : String := String.ofList (Text.trimEnd s.toList)

/-- The item that describes one parameter. -/
def parameterLine (p : String × String) : String := chopEnd ("- " ++ p.1 ++ ": " ++ p.2)

/-- A part of a block after an empty line, if it has text. -/
def partLines (lead : String) (part : Option String) : List String :=
  match part with
  | some s => if s.isEmpty then [] else ["", lead ++ s]
  | none => []

/-- The parameters after an empty line and a heading. -/
def parameterLines (ps : List (String × String)) : List String :=
  if ps.isEmpty then [] else "" :: "Parameters:" :: ps.map parameterLine

/-- The lines that show a structured block; they do not start with an empty line. -/
def Block.structuredLines (b : Block) : List String :=
  let summary := match b.summary with
    | some s => if s.isEmpty then [] else [s]
    | none => []
  (summary ++ parameterLines b.parameters ++ partLines "Returns: " b.returns ++ partLines "" b.remarks).dropWhile
    (·.isEmpty)

/-- The lines that show a block. -/
def Block.lines (b : Block) : List String :=
  match b.raw with
  | some text => (Text.splitOn '\n' text.toList).map fun line => String.ofList (Text.trimEnd line)
  | none => b.structuredLines

end Documentation

end CallAtlas
