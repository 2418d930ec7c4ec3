import CallAtlas.Markup.NameChar
import CallAtlas.Markup.Tree
import CallAtlas.Text.Blank
import CallAtlas.Text.Piece

/-!
# Reading tags

Reads well-formed text with tags. Comments and processing instructions are dropped, character data sections are text,
only the five predefined entities exist, qualifiers have to be bound to a namespace, and an element has no attribute
twice. Everything else is refused: a reader gives `none`, or what it read and the characters after it.
-/

namespace CallAtlas.Markup

open Text

/-- A name as written, before its qualifier is looked up. -/
structure RawName where
  qualifier : Option (List Char) := none
  label : List Char
  deriving Repr, DecidableEq

/-- The characters of a name. -/
def RawName.chars (n : RawName) : List Char :=
  match n.qualifier with
  | some q => q ++ ':' :: n.label
  | none => n.label

/-- A name without a qualifier. -/
def simpleName? (cs : List Char) : Option (List Char × List Char) :=
  match cs with
  | c :: rest => if isNameStart c then some (c :: rest.takeWhile isNameChar, rest.dropWhile isNameChar) else none
  | [] => none

/-- A name with or without a qualifier. -/
def rawName? (cs : List Char) : Option (RawName × List Char) := do
  let (first, rest) ← simpleName? cs
  match rest with
  | ':' :: more =>
    let (label, rest) ← simpleName? more
    return ({ qualifier := some first, label }, rest)
  | _ => return ({ label := first }, rest)

/-- The predefined entities. -/
def entities : List (String × Char) := [("amp", '&'), ("lt", '<'), ("gt", '>'), ("apos", '\''), ("quot", '"')]

/-- The value of a digit in base ten or sixteen. -/
def digit? (base : Nat) (c : Char) : Option Nat :=
  let value := if c.isDigit then c.toNat - 48 else if c.isAlpha then c.toLower.toNat - 87 else base
  if value < base then some value else none

/-- The character that a numeric reference stands for: digits up to a semicolon that give a legal character. -/
def numericReference? (base : Nat) (cs : List Char) : Option (Char × List Char) := do
  let digits := cs.takeWhile (· != ';')
  if digits.isEmpty then none
  let values ← digits.mapM (digit? base)
  let code := values.foldl (fun n d => base * n + d) 0
  if code.isValidChar then
    let c := Char.ofNat code
    match cs.dropWhile (· != ';') with
    | _ :: rest => if isLegal c then some (c, rest) else none
    | [] => none
  else none

/-- The character that a reference stands for, after its ampersand. -/
def reference? (cs : List Char) : Option (Char × List Char) :=
  match cs with
  | '#' :: 'x' :: rest => numericReference? 16 rest
  | '#' :: rest => numericReference? 10 rest
  | _ => do
    let (name, rest) ← simpleName? cs
    match rest with
    | ';' :: rest => (entities.lookup (String.ofList name)).map fun c => (c, rest)
    | _ => none

/-- The value of an attribute up to its closing quote. Blanks become spaces, a carriage return with its line feed one
space; characters from references stay as they are. `rounds` bounds the characters read. -/
def attributeValue? (rounds : Nat) (quote : Char) (cs : List Char) : Option (List Char × List Char) :=
  match rounds, cs with
  | 0, _ => none
  | _, [] => none
  | rounds + 1, c :: rest =>
    if c == quote then some ([], rest)
    else if c == '&' then do
      let (d, rest) ← reference? rest
      let (value, rest) ← attributeValue? rounds quote rest
      return (d :: value, rest)
    else if c == '<' || !isLegal c then none
    else
      let rest := if c == '\r' && rest.head? == some '\n' then rest.tail else rest
      (attributeValue? rounds quote rest).map fun p => ((if isTagBlank c then ' ' else c) :: p.1, p.2)

/-- Without the blanks in front. -/
def skipTagBlanks (cs : List Char) : List Char := cs.dropWhile isTagBlank

/-- An attribute with its value. -/
def attribute? (cs : List Char) : Option ((RawName × List Char) × List Char) := do
  let (name, rest) ← rawName? cs
  match skipTagBlanks rest with
  | '=' :: rest =>
    match skipTagBlanks rest with
    | quote :: rest =>
      if quote == '"' || quote == '\'' then
        let (value, rest) ← attributeValue? (rest.length + 1) quote rest
        return ((name, value), rest)
      else none
    | [] => none
  | _ => none

/-- The attributes up to the end of a start tag, and whether the tag also ends its element. Blanks have to stand before
each attribute. `rounds` bounds the attributes. -/
def attributes? (rounds : Nat) (cs : List Char) : Option ((List (RawName × List Char) × Bool) × List Char) :=
  match rounds with
  | 0 => none
  | rounds + 1 =>
    match skipTagBlanks cs with
    | '>' :: rest => some (([], false), rest)
    | '/' :: '>' :: rest => some (([], true), rest)
    | rest =>
      if !cs.head?.any isTagBlank then none
      else do
        let (a, rest) ← attribute? rest
        let ((more, isClosed), rest) ← attributes? rounds rest
        return ((a :: more, isClosed), rest)

/-- The namespaces that qualifiers are bound to, innermost first; `none` is the namespace of names without one. -/
abbrev Bindings := List (Option (List Char) × List Char)

/-- The namespace of the reserved qualifier `xml`. -/
def reservedSpace : List Char := "http://www.w3.org/XML/1998/namespace".toList

/-- The namespace of declarations of namespaces, which nothing may be bound to. -/
def declarationSpace : List Char := "http://www.w3.org/2000/xmlns/".toList

/-- What is bound before the first tag. -/
def Bindings.start : Bindings := [(some "xml".toList, reservedSpace)]

/-- The qualifier that an attribute declares, if it is a declaration. -/
def declared? (name : RawName) : Option (Option (List Char)) :=
  match name.qualifier with
  | none => if name.label == "xmlns".toList then some none else none
  | some q => if q == "xmlns".toList then some (some name.label) else none

/-- May a qualifier be bound to a namespace? -/
def mayBind (qualifier : Option (List Char)) (space : List Char) : Bool :=
  !(qualifier.isSome && space.isEmpty) && qualifier != some "xmlns".toList &&
    (qualifier == some "xml".toList) == (space == reservedSpace) && space != declarationSpace &&
    !space.contains '\x7d'

/-- The bindings inside an element with these attributes. -/
def Bindings.extend (bs : Bindings) : List (RawName × List Char) → Option Bindings
  | [] => some bs
  | (name, value) :: rest =>
    match declared? name with
    | some qualifier => if mayBind qualifier value then Bindings.extend ((qualifier, value) :: bs) rest else none
    | none => Bindings.extend bs rest

/-- The name of an element. -/
def Bindings.elementName? (bs : Bindings) (name : RawName) : Option Name :=
  match name.qualifier with
  | none => some { space := String.ofList ((bs.lookup none).getD []), label := String.ofList name.label }
  | some q => (bs.lookup (some q)).map fun space =>
    { space := String.ofList space, label := String.ofList name.label }

/-- The name of an attribute; without a qualifier it is in no namespace. -/
def Bindings.attributeName? (bs : Bindings) (name : RawName) : Option Name :=
  match name.qualifier with
  | none => some { label := String.ofList name.label }
  | some _ => bs.elementName? name

/-- No value twice. -/
def isDistinct {α : Type} [BEq α] : List α → Bool
  | [] => true
  | a :: rest => !rest.contains a && isDistinct rest

/-- The attributes of an element under their names, without the declarations of namespaces. -/
def Bindings.attributes? (bs : Bindings) (as : List (RawName × List Char)) : Option (List (Name × List Char)) := do
  if !isDistinct (as.map (·.1)) then none
  let named ← (as.filter fun a => (declared? a.1).isNone).mapM fun a => do return (← bs.attributeName? a.1, a.2)
  if isDistinct (named.map (·.1)) then some named else none

/-- What follows a comment, after its opening: two hyphens stand only at its end. -/
def comment? (cs : List Char) : Option (List Char) :=
  match cutAt? ['-', '-'] cs with
  | some (body, '>' :: rest) => if body.all isLegal then some rest else none
  | _ => none

/-- The text of a character data section and what follows it, after its opening. -/
def dataSection? (cs : List Char) : Option (List Char × List Char) :=
  match cutAt? [']', ']', '>'] cs with
  | some (body, rest) => if body.all isLegal then some (unifyLineEnds body, rest) else none
  | none => none

/-- What follows a processing instruction, after its opening. No instruction is called `xml`. -/
def instruction? (cs : List Char) : Option (List Char) := do
  let (target, rest) ← simpleName? cs
  if target.map (·.toLower) == "xml".toList then none
  match rest with
  | '?' :: '>' :: rest => some rest
  | c :: rest =>
    if !isTagBlank c then none
    else
      match cutAt? ['?', '>'] rest with
      | some (body, rest) => if body.all isLegal then some rest else none
      | none => none
  | [] => none

/-- Neither a tag nor a reference starts here. -/
def isPlain (c : Char) : Bool := c != '<' && c != '&'

/-- What stands between the tags may not hold the end of a character data section. -/
def isPlainText (cs : List Char) : Bool := cs.all isLegal && (cutAt? [']', ']', '>'] cs).isNone

/-- What follows the end tag of an element of this name. -/
def endTag? (name : RawName) (cs : List Char) : Option (List Char) := do
  let rest ← dropFront? ('<' :: '/' :: name.chars) cs
  match skipTagBlanks rest with
  | '>' :: rest => some rest
  | _ => none

/-- The nodes up to the next end tag or the end of the text. `rounds` bounds the tags and pieces of text. -/
def content? (rounds : Nat) (bs : Bindings) (cs : List Char) : Option (List Node × List Char) :=
  match rounds, cs with
  | 0, _ => none
  | _, [] => some ([], [])
  | _, '<' :: '/' :: _ => some ([], cs)
  | rounds + 1, '<' :: '!' :: '-' :: '-' :: rest => do content? rounds bs (← comment? rest)
  | rounds + 1, '<' :: '!' :: rest => do
    let (body, rest) ← dataSection? (← dropFront? "[CDATA[".toList rest)
    let (nodes, rest) ← content? rounds bs rest
    return (.text body :: nodes, rest)
  | rounds + 1, '<' :: '?' :: rest => do content? rounds bs (← instruction? rest)
  | rounds + 1, '<' :: rest => do
    let (rawName, rest) ← rawName? rest
    let ((rawAttributes, isClosed), rest) ← attributes? (rest.length + 1) rest
    let inner ← bs.extend rawAttributes
    let name ← inner.elementName? rawName
    let attributes ← inner.attributes? rawAttributes
    if isClosed then
      let (nodes, rest) ← content? rounds bs rest
      return (.element name attributes [] :: nodes, rest)
    else
      let (children, rest) ← content? rounds inner rest
      let rest ← endTag? rawName rest
      let (nodes, rest) ← content? rounds bs rest
      return (.element name attributes children :: nodes, rest)
  | rounds + 1, '&' :: rest => do
    let (c, rest) ← reference? rest
    let (nodes, rest) ← content? rounds bs rest
    return (.text [c] :: nodes, rest)
  | rounds + 1, cs => do
    let plain := cs.takeWhile isPlain
    if !isPlainText plain then none
    let (nodes, rest) ← content? rounds bs (cs.dropWhile isPlain)
    return (.text (unifyLineEnds plain) :: nodes, rest)

/-- The nodes of a whole text, in which every tag is closed. -/
def nodes? (cs : List Char) : Option (List Node) :=
  match content? (cs.length + 1) Bindings.start cs with
  | some (nodes, []) => some nodes
  | _ => none

end CallAtlas.Markup
