import CallAtlas.Source.Codec
import CallAtlas.Text.Blank
import CallAtlas.Text.Piece

/-!
# Reading source bytes

The text of a source file. A comment in the first two lines can name the encoding; a byte order mark at the start stands
for UTF-8, which is also the encoding if none is named. Line ends become line feeds.
-/

namespace CallAtlas.Source

/-- Why the bytes of a source file give no text. -/
inductive EncodingFault where
  /-- The encoding that is named does not exist, contradicts the byte order mark, or the lines that could name one are
  not UTF-8. -/
  | declaration
  /-- The encoding gives no text of the bytes. -/
  | undecodable (fault : DecodingFault)
  /-- The encoding that is named is not one of text. -/
  | notOfText
  deriving Repr, DecidableEq, Inhabited

/-- The bytes up to and with the first line feed, and the rest. -/
def cutLine : List UInt8 → List UInt8 × List UInt8
  | [] => ([], [])
  | b :: bs => if b == 10 then ([b], bs) else ((b :: (cutLine bs).1), (cutLine bs).2)

/-- May stand in the name of an encoding. -/
def isCodecNameChar (c : Char) : Bool := c.isAlphanum || c == '_' || c == '-' || c == '.'

/-- The name of an encoding right here: `coding`, a colon or an equals sign, blanks, and the name. -/
def codecNameHere? (cs : List Char) : Option (List Char) := do
  match ← Text.dropFront? "coding".toList cs with
  | c :: rest =>
    if c == ':' || c == '=' then
      let name := (rest.dropWhile fun c => c == ' ' || c == '\t').takeWhile isCodecNameChar
      if name.isEmpty then none else some name
    else none
  | [] => none

/-- The first name of an encoding in a text. -/
def codecNameIn? : List Char → Option (List Char)
  | [] => none
  | c :: cs =>
    match codecNameHere? (c :: cs) with
    | some name => some name
    | none => codecNameIn? cs

/-- A blank at the start of a source line. -/
def isLineBlank (c : Char) : Bool := c == ' ' || c == '\t' || c == '\x0c'

/-- The encoding that a line names in a comment. -/
def declaredName? (line : List Char) : Option (List Char) :=
  match line.dropWhile isLineBlank with
  | '#' :: comment => codecNameIn? comment
  | _ => none

/-- The usual spellings of the two most common encodings, whatever follows them; any other name stays as it is. -/
def usualName (name : List Char) : List Char :=
  let front := ((name.take 12).map Char.toLower).map fun c => if c == '_' then '-' else c
  let isLike (usual : String) : Bool := front == usual.toList || (usual.toList ++ ['-']).isPrefixOf front
  if isLike "utf-8" then "utf-8".toList
  else if isLike "latin-1" || isLike "iso-8859-1" || isLike "iso-latin-1" then "iso-8859-1".toList
  else name

/-- UTF-8, which is always there. -/
def utf8 : Codec := .ofText readUtf8

/-- The encoding that a line names, if any. -/
def declaredCodec (codecs : Codecs) (hasMark : Bool) (line : List UInt8) : Except EncodingFault (Option Codec) := do
  match Text.decodeUtf8? line with
  | none => throw .declaration
  | some text =>
    match declaredName? text with
    | none => return none
    | some name =>
      let name := usualName name
      if name == "utf-8".toList then return some utf8
      match codecs name with
      | none => throw .declaration
      | some codec => if hasMark then throw .declaration else return some codec

/-- Nothing but blanks and a comment. -/
def isBlankLine (line : List UInt8) : Bool :=
  match line.dropWhile fun b => b == 32 || b == 9 || b == 12 with
  | [] => true
  | b :: _ => b == 35 || b == 13 || b == 10

/-- The encoding of a file without its byte order mark. -/
def codecOf (codecs : Codecs) (hasMark : Bool) (bytes : List UInt8) : Except EncodingFault Codec := do
  let (first, rest) := cutLine bytes
  if first.isEmpty then return utf8
  match ← declaredCodec codecs hasMark first with
  | some codec => return codec
  | none =>
    if !isBlankLine first then return utf8
    let (second, _) := cutLine rest
    if second.isEmpty then return utf8
    return (← declaredCodec codecs hasMark second).getD utf8

/-- The byte order mark of UTF-8. -/
def byteOrderMark : List UInt8 := [0xef, 0xbb, 0xbf]

/-- The text of a source file, where these encodings are known. -/
def decode (codecs : Codecs) (bytes : List UInt8) : Except EncodingFault (List Char) := do
  let hasMark := byteOrderMark.isPrefixOf bytes
  let bytes := if hasMark then bytes.drop 3 else bytes
  match ← codecOf codecs hasMark bytes with
  | .notOfText => throw .notOfText
  | .ofText read => Text.unifyLineEnds <$> (read bytes).mapError .undecodable

end CallAtlas.Source
