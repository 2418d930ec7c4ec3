import CallAtlas.Documentation.Block
import CallAtlas.Documentation.Part
import CallAtlas.Text.Quoted
import CallAtlas.Text.Word

/-!
# The structure of a documentation text

Reads a block off the parts of a text. The first paragraph of free text is the summary, the further ones are remarks;
sections and fields fill in the rest. An entry or a field that does not have its form is a fault, and then the text has
no structure.
-/

namespace CallAtlas.Documentation

open Text

/-- Why a text has no structure. -/
inductive Fault where
  /-- A section starts with an indented line. -/
  | strayContinuation (line : Line)
  /-- An entry names no parameter. -/
  | malformedEntry (line : Line)
  /-- A field has no second colon. -/
  | unterminatedField (line : Line)
  /-- A field for a parameter names none. -/
  | namelessField (line : Line)
  /-- Tags that are not well-formed. -/
  | malformedMarkup
  deriving Repr, DecidableEq

/-- The wording of a fault. -/
def Fault.message : Fault → String
  | .strayContinuation line => "continuation line before first entry: " ++ quoted (String.ofList line)
  | .malformedEntry line => "malformed parameter entry: " ++ quoted (String.ofList line)
  | .unterminatedField line => "unterminated field: " ++ quoted (String.ofList line)
  | .namelessField line => "parameter field without a name: " ++ quoted (String.ofList line)
  | .malformedMarkup => "not well-formed"

/-- The first line of an entry and the lines that continue it. -/
structure Entry where
  head : Line
  more : List Line := []
  deriving Repr, DecidableEq

/-- Adds a line to the last entry, if there is one. -/
def continueLast (line : Line) (entries : List Entry) : List Entry :=
  match entries.getLast? with
  | some last => entries.dropLast ++ [{ last with more := last.more ++ [line] }]
  | none => entries

/-- Adds a line of a section body to its entries: a line at the margin opens an entry, any other continues one. -/
def addEntryLine (entries : List Entry) (line : Line) : Except Fault (List Entry) :=
  if isAllBlank line then .ok (continueLast [] entries)
  else if !isIndented line then .ok (entries ++ [{ head := line }])
  else if entries.isEmpty then .error (.strayContinuation line)
  else .ok (continueLast line entries)

/-- The entries of a section body. -/
def entries (body : List Line) : Except Fault (List Entry) := body.foldlM addEntryLine []

/-- Lines as running text. -/
def flow (lines : List Line) : List Char := joinWith [' '] lines

/-- A letter from A to Z or an underscore: what the name of a described parameter starts with. -/
def isNameStart (c : Char) : Bool := isLatinLetter c || c == '_'

/-- The name at the start of an entry, with up to two stars, and what follows it. -/
def entryName? (line : Line) : Option (List Char × List Char) :=
  let stars := (line.takeWhile (· == '*')).take 2
  match line.drop stars.length with
  | c :: cs =>
    let inside (c : Char) : Bool := isWord c || c == '.'
    if isNameStart c then some (stars ++ c :: cs.takeWhile inside, cs.dropWhile inside) else none
  | [] => none

/-- What follows a type in parentheses, if one stands here. -/
def skipType (cs : List Char) : List Char :=
  match trimStart cs with
  | '(' :: inner =>
    match cut? ')' inner with
    | some p => p.2
    | none => cs
  | _ => cs

/-- The parameter that an entry of the form `name (type): description` describes. -/
def colonEntry (e : Entry) : Except Fault (List Char × List Char) :=
  match entryName? e.head with
  | some (name, rest) =>
    match trimStart (skipType rest) with
    | ':' :: description => .ok (name, singleSpaced (flow (description :: e.more)))
    | _ => .error (.malformedEntry e.head)
  | none => .error (.malformedEntry e.head)

/-- The name that an entry of an underlined section starts with: all before the first colon. -/
def ruledEntryName (e : Entry) : Except Fault (List Char) :=
  let name := trim (e.head.takeWhile (· != ':'))
  if name.isEmpty then .error (.malformedEntry e.head) else .ok name

/-- What has been read of a text. -/
structure Draft where
  /-- Finished paragraphs, each with at least one line. -/
  paragraphs : List (List Line) := []
  /-- The lines of the paragraph being read. -/
  current : List Line := []
  parameters : List (List Char × List Char) := []
  returns : List Line := []
  remarks : List Line := []
  deriving Repr, DecidableEq

/-- Ends the paragraph being read. -/
def Draft.close (d : Draft) : Draft :=
  if d.current.isEmpty then d else { d with paragraphs := d.paragraphs ++ [d.current], current := [] }

/-- Adds a line of free text; a blank line ends the paragraph. -/
def Draft.addText (d : Draft) (line : Line) : Draft :=
  if isAllBlank line then d.close else { d with current := d.current ++ [trim line] }

/-- Adds a section with a colon. -/
def Draft.addColon (d : Draft) (topic : Topic) (body : List Line) : Except Fault Draft := do
  let lines := dropEmptyLast (dedent body)
  match topic with
  | .parameters =>
    let described ← (← entries lines).mapM colonEntry
    return { d with parameters := d.parameters ++ described }
  | .returns => return { d with returns := d.returns ++ [flow lines] }
  | .remarks => return { d with remarks := d.remarks ++ [flow lines] }
  | .other => return d

/-- One entry of an underlined section on the result. -/
def ruledResult (e : Entry) : Line :=
  let description := singleSpaced (flow e.more)
  if description.isEmpty then trim e.head else trim e.head ++ ':' :: ' ' :: description

/-- Adds an underlined section. -/
def Draft.addRuled (d : Draft) (topic : Topic) (body : List Line) : Except Fault Draft := do
  match topic with
  | .parameters =>
    let described ← (← entries body).mapM fun e => do return (← ruledEntryName e, singleSpaced (flow e.more))
    return { d with parameters := d.parameters ++ described }
  | .returns =>
    let described ← (← entries body).mapM fun e => do
      let _ ← ruledEntryName e
      return ruledResult e
    return { d with returns := d.returns ++ described }
  | .remarks => return { d with remarks := d.remarks ++ [flow body] }
  | .other => return d

/-- The field words for a parameter and for the result. -/
def parameterFields : List String := ["param", "parameter", "arg", "argument", "key", "keyword"]

@[inherit_doc parameterFields]
def resultFields : List String := ["returns", "return"]

/-- The text between the first two colons of a field line, which may not be empty, and the text after them. -/
def fieldParts? (line : Line) : Option (List Char × List Char) :=
  match line with
  | ':' :: rest =>
    match cut? ':' rest with
    | some ([], _) => none
    | found => found
  | _ => none

/-- Adds a field. -/
def Draft.addField (d : Draft) (line : Line) (more : List Line) : Except Fault Draft :=
  let line := trim line
  match fieldParts? line with
  | none => .error (.unterminatedField line)
  | some (label, text) =>
    let body := flow (text :: more)
    match words label with
    | [] => .ok d
    | kind :: names =>
      let word := String.ofList (lowerChars kind)
      if parameterFields.contains word then
        match names.getLast? with
        | some name => .ok { d with parameters := d.parameters ++ [(name, singleSpaced body)] }
        | none => .error (.namelessField line)
      else if resultFields.contains word then .ok { d with returns := d.returns ++ [body] }
      else .ok d

/-- Adds one part; every part but a line of free text ends the paragraph before it. -/
def Draft.add (d : Draft) : Part → Except Fault Draft
  | .text line => .ok (d.addText line)
  | .colon topic body => (·.close) <$> d.addColon topic body
  | .ruled topic body => (·.close) <$> d.addRuled topic body
  | .field line more => (·.close) <$> d.addField line more

/-- A text, unless it is empty. -/
def nonempty? (cs : List Char) : Option String := if cs.isEmpty then none else some (String.ofList cs)

/-- The block that a finished draft stands for. -/
def Draft.block (d : Draft) : Block :=
  let paragraphs := d.close.paragraphs.map fun lines => singleSpaced (flow lines)
  { summary := paragraphs.head?.map String.ofList
    parameters := d.parameters.map fun p => (String.ofList p.1, String.ofList p.2)
    returns := nonempty? (singleSpaced (flow d.returns))
    remarks := nonempty? (singleSpaced (flow (paragraphs.tail ++ d.remarks))) }

/-- The block of a text in one of the three conventions. -/
def ofText (text : List Char) : Except Fault Block :=
  (·.block) <$> (parts (lines (clean text))).foldlM Draft.add {}

end CallAtlas.Documentation
