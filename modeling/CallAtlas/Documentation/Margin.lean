import CallAtlas.Text.Blank
import CallAtlas.Text.Piece

/-!
# Margins

The indentation that the lines of a text have in common because of where the text stands. `clean` takes it away from a
text written inside a definition, whose first line stands elsewhere than the others; `dedent` takes it away from a run
of lines inside such a text.
-/

namespace CallAtlas.Documentation

open Text

/-- The characters of one line. -/
abbrev Line := List Char

/-- Tab stops stand every eight columns; `column` counts from the last line feed or carriage return. -/
def expandTabs (column : Nat) : List Char → List Char
  | [] => []
  | '\t' :: cs =>
    let width := 8 - column % 8
    List.replicate width ' ' ++ expandTabs (column + width) cs
  | c :: cs => c :: expandTabs (if c == '\n' || c == '\r' then 0 else column + 1) cs

/-- How many blanks a line starts with. -/
def indentation (line : Line) : Nat := (line.takeWhile isBlank).length

/-- The least indentation of the lines that are not blank. -/
def margin? (lines : List Line) : Option Nat :=
  ((lines.filter fun line => !isAllBlank line).map indentation).min?

/-- Without the empty lines at both ends. -/
def dropEmptyEnds (lines : List Line) : List Line :=
  (((lines.reverse.dropWhile (·.isEmpty)).reverse).dropWhile (·.isEmpty))

/-- The lines of a text written inside a definition, without its margin. The first line stands behind the opening quote
and has a margin of its own. -/
def cleanLines (cs : List Char) : List Line :=
  match splitOn '\n' (expandTabs 0 cs) with
  | [] => []
  | first :: rest => dropEmptyEnds (trimStart first :: rest.map (·.drop ((margin? rest).getD 0)))

/-- A text written inside a definition, without its margin. -/
def clean (cs : List Char) : List Char := joinWith ['\n'] (cleanLines cs)

/-- What two lists start with in common. -/
def commonFront : List Char → List Char → List Char
  | a :: as, b :: bs => if a == b then a :: commonFront as bs else []
  | _, _ => []

/-- A space or a tab. -/
def isPad (c : Char) : Bool := c == ' ' || c == '\t'

/-- The spaces and tabs that all lines start with; lines that hold nothing else do not count. -/
def commonPad (lines : List Line) : List Char :=
  match (lines.filter fun line => !line.all isPad).map (·.takeWhile isPad) with
  | [] => []
  | pad :: pads => pads.foldl commonFront pad

/-- Lines without their common margin; lines of spaces and tabs become empty. -/
def dedent (lines : List Line) : List Line :=
  let width := (commonPad lines).length
  lines.map fun line => if line.all isPad then [] else line.drop width

/-- Without the last line, if that is empty. -/
def dropEmptyLast (lines : List Line) : List Line :=
  match lines.getLast? with
  | some [] => lines.dropLast
  | _ => lines

end CallAtlas.Documentation
