/-!
# Trees of tags

What a text with tags stands for: elements with attributes, and the text between the tags. Names carry the namespace
that their qualifier is bound to.
-/

namespace CallAtlas.Markup

/-- A name in a namespace; the empty namespace is none. -/
structure Name where
  space : String := ""
  label : String
  deriving Repr, DecidableEq, Inhabited

/-- A piece of text or an element. -/
inductive Node where
  | text (chars : List Char)
  | element (name : Name) (attributes : List (Name × List Char)) (children : List Node)
  deriving Repr, Inhabited

namespace Node

mutual

/-- All text inside a node, in order. -/
def textOf : Node → List Char
  | .text chars => chars
  | .element _ _ children => textOfAll children

/-- All text inside some nodes, in order. -/
def textOfAll : List Node → List Char
  | [] => []
  | node :: nodes => node.textOf ++ textOfAll nodes

end

/-- An element of this name, which is in no namespace. -/
def isNamed (label : String) : Node → Bool
  | .text _ => false
  | .element name _ _ => name == { label }

/-- The nodes inside. -/
def children : Node → List Node
  | .text _ => []
  | .element _ _ children => children

/-- The value of an attribute that is in no namespace. -/
def attribute? (label : String) : Node → Option (List Char)
  | .text _ => none
  | .element _ attributes _ => attributes.lookup { label }

end Node

end CallAtlas.Markup
