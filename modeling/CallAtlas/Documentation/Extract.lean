import CallAtlas.Documentation.Structure
import CallAtlas.Markup.Reader

/-!
# Extracting documentation

The block of a documentation text in whatever form it is attached: with tags, or in one of the text conventions. A text
that has no structure, or whose structure says nothing, is kept whole without the blanks around it, so that a faulty
text is never lost and never an error.
-/

namespace CallAtlas.Documentation

open Text Markup

/-- The normalized text of the first element of a name, unless it is empty. -/
def plainTextOf? (label : String) (nodes : List Node) : Option String :=
  (nodes.find? (·.isNamed label)).bind fun node => nonempty? (singleSpaced node.textOf)

/-- The nodes that document the declaration: those inside a member element, if that is the only one and there is no
summary beside it. -/
def memberNodes (nodes : List Node) : List Node :=
  match nodes.filter (·.isNamed "member") with
  | [member] => if nodes.any (·.isNamed "summary") then nodes else member.children
  | _ => nodes

/-- The block that tags spell out. -/
def ofNodes (nodes : List Node) : Block :=
  let nodes := memberNodes nodes
  { summary := plainTextOf? "summary" nodes
    parameters := (nodes.filter (·.isNamed "param")).map fun node =>
      (String.ofList ((node.attribute? "name").getD []), String.ofList (singleSpaced node.textOf))
    returns := plainTextOf? "returns" nodes
    remarks := plainTextOf? "remarks" nodes }

/-- The block of a text with tags. -/
def ofMarkup (text : List Char) : Except Fault Block :=
  match nodes? text with
  | some nodes => .ok (ofNodes nodes)
  | none => .error .malformedMarkup

/-- Starts with a tag. -/
def hasTags (text : List Char) : Bool := (trimStart text).head? == some '<'

/-- The block of a text in the form it has. -/
def structured (text : List Char) : Except Fault Block := if hasTags text then ofMarkup text else ofText text

/-- The block of a text; none for a text of blanks only. -/
def extractText (text : String) : Block :=
  if isAllBlank text.toList then {}
  else
    match structured text.toList with
    | .ok block => if block.isEmpty then .ofRaw (strip text) else block
    | .error _ => .ofRaw (strip text)

/-- The block of the documentation that a declaration has, if it has any. -/
def extract (text : Option String) : Block :=
  match text with
  | some text => extractText text
  | none => {}

/-- The fault for which the documentation is kept without structure. -/
def fault? (text : Option String) : Option Fault :=
  match text with
  | some text =>
    if isAllBlank text.toList then none
    else
      match structured text.toList with
      | .ok _ => none
      | .error fault => some fault
  | none => none

end CallAtlas.Documentation
