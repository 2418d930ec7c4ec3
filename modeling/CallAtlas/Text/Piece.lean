/-!
# Pieces of a text

Cutting a list of characters at a given character or text, and putting pieces together again.
-/

namespace CallAtlas.Text

/-- The pieces between the occurrences of `sep`; always at least one. -/
def splitOn (sep : Char) : List Char → List (List Char)
  | [] => [[]]
  | c :: cs =>
    match splitOn sep cs with
    | [] => [[c]]
    | piece :: pieces => if c == sep then [] :: piece :: pieces else (c :: piece) :: pieces

/-- The part before the first `sep` and the part after it, if there is one. -/
def cut? (sep : Char) : List Char → Option (List Char × List Char)
  | [] => none
  | c :: cs => if c == sep then some ([], cs) else (cut? sep cs).map fun p => (c :: p.1, p.2)

/-- The part before the last `sep` and the part after it, if there is one. -/
def cutLast? (sep : Char) (cs : List Char) : Option (List Char × List Char) :=
  (cut? sep cs.reverse).map fun p => (p.2.reverse, p.1.reverse)

/-- What follows `front`, if the list starts with it. -/
def dropFront? (front cs : List Char) : Option (List Char) :=
  if front.isPrefixOf cs then some (cs.drop front.length) else none

/-- The part before the first occurrence of `mark` and the part after it. -/
def cutAt? (mark : List Char) : List Char → Option (List Char × List Char)
  | [] => if mark.isEmpty then some ([], []) else none
  | c :: cs =>
    match dropFront? mark (c :: cs) with
    | some rest => some ([], rest)
    | none => (cutAt? mark cs).map fun p => (c :: p.1, p.2)

/-- The pieces with `sep` between them. -/
def joinWith (sep : List Char) (pieces : List (List Char)) : List Char :=
  List.intercalate sep pieces

/-- The text before the first point, or all of it. -/
def dottedHead (s : String) : String :=
  match cut? '.' s.toList with
  | some p => String.ofList p.1
  | none => s

/-- The text before the last point, or nothing. -/
def dottedInit (s : String) : String :=
  match cutLast? '.' s.toList with
  | some p => String.ofList p.1
  | none => ""

/-- The text after the last point, or all of it. -/
def dottedLast (s : String) : String :=
  match cutLast? '.' s.toList with
  | some p => String.ofList p.2
  | none => s

/-- The parts of a dotted name. -/
def dottedParts (s : String) : List String := (splitOn '.' s.toList).map String.ofList

/-- Texts in order with `sep` between them. -/
def joinTexts (sep : String) (texts : List String) : String := sep.intercalate texts

end CallAtlas.Text
