import CallAtlas.Documentation.Margin
import CallAtlas.Text.Case

/-!
# Parts of a documentation text

Three conventions mark the parts of a documentation text: a heading that ends in a colon with an indented body below
it, a heading that is underlined, and a field between colons at the start of a line. `parts` cuts the lines of a text
into such parts; every line belongs to exactly one of them.
-/

namespace CallAtlas.Documentation

open Text

/-- What a section is about. -/
inductive Topic where
  | parameters
  | returns
  | remarks
  /-- Known, but of no interest. -/
  | other
  deriving Repr, DecidableEq, Inhabited

/-- The headings of each topic. -/
def headings : List (Topic × List String) :=
  [(.parameters, ["args", "arguments", "parameters", "params", "keyword args", "keyword arguments",
     "other parameters"]),
   (.returns, ["returns", "return", "yields", "yield"]),
   (.remarks, ["note", "notes", "remarks", "remark"]),
   (.other, ["raises", "raise", "warns", "example", "examples", "attributes", "warning", "warnings", "see also", "todo",
     "references", "methods"])]

/-- The topic that a heading announces, whatever its case. -/
def topic? (heading : List Char) : Option Topic :=
  let word := String.ofList (lowerChars (trim heading))
  (headings.find? fun entry => entry.2.contains word).map (·.1)

/-- Starts with a blank. -/
def isIndented (line : Line) : Bool := line.head?.any isBlank

/-- A letter from A to Z in either case. -/
def isLatinLetter (c : Char) : Bool := c.isAlpha

/-- Three or more hyphens and nothing else but blanks around them. -/
def isRule (line : Line) : Bool :=
  let marks := trim line
  marks.all (· == '-') && 3 ≤ marks.length

/-- The topic of the section whose underlined heading the lines start with. -/
def ruledTopic? (lines : List Line) : Option Topic :=
  match lines with
  | heading :: rule :: _ => if !isIndented heading && isRule rule then topic? heading else none
  | _ => none

/-- The topic of the section that a heading with a colon opens. -/
def colonTopic? (line : Line) : Option Topic :=
  match line with
  | [] => none
  | c :: cs =>
    let inside (c : Char) : Bool := isLatinLetter c || c == ' '
    if !isLatinLetter c then none
    else
      match cs.dropWhile inside with
      | ':' :: rest => if isAllBlank rest then topic? (c :: cs.takeWhile inside) else none
      | _ => none

/-- Belongs to the body of a section with a colon. -/
def isBody (line : Line) : Bool := isAllBlank line || isIndented line

/-- Continues a field. -/
def isFieldContinuation (line : Line) : Bool := !isAllBlank line && isIndented line

/-- One part of a text. -/
inductive Part where
  /-- A line of free text. -/
  | text (line : Line)
  /-- A section with a heading that ends in a colon. -/
  | colon (topic : Topic) (body : List Line)
  /-- A section with an underlined heading. -/
  | ruled (topic : Topic) (body : List Line)
  /-- A line that starts with a colon, and its indented continuation. -/
  | field (line : Line) (more : List Line)
  deriving Repr, DecidableEq

/-- The lines before the next underlined heading, and the lines from there on. -/
def cutRuled : List Line → List Line × List Line
  | [] => ([], [])
  | line :: rest =>
    if (ruledTopic? (line :: rest)).isSome then ([], line :: rest)
    else ((line :: (cutRuled rest).1), (cutRuled rest).2)

/-- Nothing is lost at the cut. -/
theorem cutRuled_append (lines : List Line) : (cutRuled lines).1 ++ (cutRuled lines).2 = lines := by
  induction lines with
  | nil => rfl
  | cons line rest ih =>
    unfold cutRuled
    split <;> simp [ih]

theorem length_cutRuled_le (lines : List Line) : (cutRuled lines).2.length ≤ lines.length := by
  have h := congrArg List.length (cutRuled_append lines)
  simp only [List.length_append] at h
  omega

theorem length_dropWhile_le (p : Line → Bool) (lines : List Line) : (lines.dropWhile p).length ≤ lines.length :=
  (List.dropWhile_suffix p).length_le

/-- The parts of a text, in order. -/
def parts (lines : List Line) : List Part :=
  match lines with
  | [] => []
  | line :: rest =>
    match ruledTopic? (line :: rest) with
    | some topic => .ruled topic (cutRuled rest.tail).1 :: parts (cutRuled rest.tail).2
    | none =>
      match colonTopic? line with
      | some topic => .colon topic (rest.takeWhile isBody) :: parts (rest.dropWhile isBody)
      | none =>
        if line.head? = some ':' then
          .field line (rest.takeWhile isFieldContinuation) :: parts (rest.dropWhile isFieldContinuation)
        else .text line :: parts rest
  termination_by lines.length
  decreasing_by
    · have := length_cutRuled_le rest.tail
      simp only [List.length_tail] at this
      simp only [List.length_cons]
      omega
    · have := length_dropWhile_le isBody rest
      simp only [List.length_cons]
      omega
    · have := length_dropWhile_le isFieldContinuation rest
      simp only [List.length_cons]
      omega
    · simp

end CallAtlas.Documentation
