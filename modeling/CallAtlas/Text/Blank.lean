import CallAtlas.Text.Ranges

/-!
# Blanks and line ends

Which characters count as blank, which end a line, and the operations that only depend on these two classes:
trimming, splitting at blanks, splitting into lines.
-/

namespace CallAtlas.Text

/-- The blank characters of every script. -/
def blankRanges : Ranges :=
  [(0x9, 0xd), (0x1c, 0x20), (0x85, 0x85), (0xa0, 0xa0), (0x1680, 0x1680), (0x2000, 0x200a), (0x2028, 0x2029),
   (0x202f, 0x202f), (0x205f, 0x205f), (0x3000, 0x3000)]

/-- A blank character. -/
def isBlank (c : Char) : Bool := blankRanges.has c.toNat

/-- A character that ends a line; a carriage return and the line feed after it end one line together. -/
def isLineEnd (c : Char) : Bool :=
  let n := c.toNat
  (0xa ≤ n && n ≤ 0xd) || (0x1c ≤ n && n ≤ 0x1e) || n == 0x85 || n == 0x2028 || n == 0x2029

/-- Without the blanks at the front. -/
def trimStart (cs : List Char) : List Char := cs.dropWhile isBlank

/-- Without the blanks at the back. -/
def trimEnd (cs : List Char) : List Char := (cs.reverse.dropWhile isBlank).reverse

/-- Without the blanks at both ends. -/
def trim (cs : List Char) : List Char := trimEnd (trimStart cs)

/-- A text without the blanks at both ends. -/
def strip (s : String) : String := String.ofList (trim s.toList)

/-- Only blanks, or nothing. -/
def isAllBlank (cs : List Char) : Bool := cs.all isBlank

/-- The lines, where `current` holds the characters of the line being read, last first. A line end at the very
end of the text opens no further line. -/
def linesFrom (current : List Char) : List Char → List (List Char)
  | [] => if current.isEmpty then [] else [current.reverse]
  | '\r' :: '\n' :: cs => current.reverse :: linesFrom [] cs
  | c :: cs => if isLineEnd c then current.reverse :: linesFrom [] cs else linesFrom (c :: current) cs

/-- The lines of a text, without their ends. -/
def lines (cs : List Char) : List (List Char) := linesFrom [] cs

/-- Line ends of every kind that a carriage return or a line feed makes, as line feeds. -/
def unifyLineEnds : List Char → List Char
  | [] => []
  | '\r' :: '\n' :: cs => '\n' :: unifyLineEnds cs
  | '\r' :: cs => '\n' :: unifyLineEnds cs
  | c :: cs => c :: unifyLineEnds cs

/-- The maximal runs of non-blank characters, where `current` is the run being read, last first. -/
def wordsFrom (current : List Char) : List Char → List (List Char)
  | [] => if current.isEmpty then [] else [current.reverse]
  | c :: cs =>
    if isBlank c then
      if current.isEmpty then wordsFrom [] cs else current.reverse :: wordsFrom [] cs
    else wordsFrom (c :: current) cs

/-- The maximal runs of non-blank characters. -/
def words (cs : List Char) : List (List Char) := wordsFrom [] cs

end CallAtlas.Text
