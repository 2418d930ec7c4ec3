import CallAtlas.Source.Position
import CallAtlas.Text.Identifier
import CallAtlas.Text.Normal
import CallAtlas.Text.Printable

/-!
# Tokens

The lexical structure of a source text: names, keywords, numbers, literals and marks, with a token for the end of each
logical line and tokens where a block opens or closes. A token list ends with `stop`, or with a fault where reading
cannot go on.
-/

namespace CallAtlas.Source

/-- What a token is. -/
inductive Lexeme where
  | name (id : String)
  | keyword (word : String)
  | number (text : List Char)
  | literal (text : List Char)
  | mark (text : String)
  | newline
  | indent
  | dedent
  | stop
  /-- Reading ends here. A fault of a single token (`ofToken`) outweighs a missing block found earlier. -/
  | fault (cause : Fault) (ofToken : Bool)
  deriving Repr, DecidableEq, Inhabited

/-- A token and its place. -/
structure Token where
  lexeme : Lexeme
  start : Position
  stop : Position
  deriving Repr, DecidableEq, Inhabited

/-- Words that are no names. -/
def keywords : List String :=
  ["False", "None", "True", "and", "as", "assert", "async", "await", "break", "class", "continue", "def", "del", "elif",
   "else", "except", "finally", "for", "from", "global", "if", "import", "in", "is", "lambda", "nonlocal", "not", "or",
   "pass", "raise", "return", "try", "while", "with", "yield"]

/-- Marks of three characters. -/
def marksOfThree : List String := ["**=", "//=", ">>=", "<<=", "..."]

/-- Marks of two characters. -/
def marksOfTwo : List String :=
  ["!=", "%=", "&=", "**", "*=", "+=", "-=", "->", "//", "/=", ":=", "<<", "<=", "<>", "==", ">=", ">>", "@=", "^=", "|="]

/-- May start a name, as far as the first look goes. -/
def opensName (c : Char) : Bool := c.isAlpha || c == '_' || decide (128 ≤ c.toNat)

/-- May continue a name, as far as the first look goes. -/
def continuesName (c : Char) : Bool := opensName c || c.isDigit

/-- A name or keyword from its characters; nothing if a character has no place in a name. -/
def wordLexeme? (cs : List Char) : Option Lexeme :=
  let word := String.ofList cs
  if keywords.contains word then some (.keyword word)
  else if cs.all fun c => decide (c.toNat < 128) then some (.name word)
  else if Text.isIdentifier cs then some (.name (Text.normalForm word))
  else none

/-- Runs of digits with single underscores between them, and what follows; nothing if an underscore is not followed by
a digit. -/
def digitRun? (isDigit : Char → Bool) : List Char → Option (List Char × List Char)
  | '_' :: c :: cs => if isDigit c then (digitRun? isDigit cs).map fun p => ('_' :: c :: p.1, p.2) else none
  | ['_'] => none
  | c :: cs => if isDigit c then (digitRun? isDigit cs).map fun p => (c :: p.1, p.2) else some ([], c :: cs)
  | [] => some ([], [])

/-- A number may end in front of what follows: no name character, or one of the keywords that may follow a number
without a blank. -/
def numberMayEnd : List Char → Bool
  | 'a' :: 'n' :: 'd' :: _ | 'e' :: 'l' :: 's' :: 'e' :: _ | 'f' :: 'o' :: 'r' :: _ | 'i' :: 'f' :: _ | 'i' :: 'n' :: _
  | 'i' :: 's' :: _ | 'o' :: 'r' :: _ | 'n' :: 'o' :: 't' :: _ => true
  | c :: _ => !continuesName c
  | [] => true

/-- The imaginary mark, if there is one, and the end of the number. -/
def numberEnd? (taken : List Char) : List Char → Option (List Char × List Char)
  | c :: cs =>
    if c == 'j' || c == 'J' then if numberMayEnd cs then some (taken ++ [c], cs) else none
    else if numberMayEnd (c :: cs) then some (taken, c :: cs) else none
  | [] => some (taken, [])

/-- The exponent, if there is one, and the rest of the number. -/
def numberExponent? (taken : List Char) : List Char → Option (List Char × List Char)
  | e :: cs =>
    if e == 'e' || e == 'E' then
      match cs with
      | s :: d :: rest =>
        if s == '+' || s == '-' then
          if d.isDigit then
            (digitRun? Char.isDigit (d :: rest)).bind fun p => numberEnd? (taken ++ e :: s :: p.1) p.2
          else none
        else if s.isDigit then (digitRun? Char.isDigit cs).bind fun p => numberEnd? (taken ++ e :: p.1) p.2
        else if numberMayEnd (e :: cs) then some (taken, e :: cs) else none
      | [d] => if d.isDigit then some (taken ++ [e, d], []) else none
      | [] => none
    else numberEnd? taken (e :: cs)
  | [] => some (taken, [])

/-- The fraction behind a point, and the rest of the number. -/
def numberFraction? (taken : List Char) : List Char → Option (List Char × List Char)
  | c :: cs =>
    if c.isDigit then (digitRun? Char.isDigit (c :: cs)).bind fun p => numberExponent? (taken ++ p.1) p.2
    else numberExponent? taken (c :: cs)
  | [] => some (taken, [])

/-- A number in the base that its letter names. -/
def numberInBase? (isDigit : Char → Bool) (opening cs : List Char) : Option (List Char × List Char) :=
  (digitRun? isDigit cs).bind fun p =>
    if p.1.isEmpty then none
    else if numberMayEnd p.2 && !(p.2.head?.any Char.isDigit) then some (opening ++ p.1, p.2) else none

/-- A hexadecimal digit. -/
def isHexDigit (c : Char) : Bool := c.isDigit || ('a' ≤ c && c ≤ 'f') || ('A' ≤ c && c ≤ 'F')

/-- The characters of a number and what follows; nothing if they are no number. The list starts with a digit, or with a
point and a digit. -/
def number? : List Char → Option (List Char × List Char)
  | '.' :: cs => numberFraction? ['.'] cs
  | '0' :: c :: cs =>
    if c == 'x' || c == 'X' then numberInBase? isHexDigit ['0', c] cs
    else if c == 'o' || c == 'O' then numberInBase? (fun d => '0' ≤ d && d ≤ '7') ['0', c] cs
    else if c == 'b' || c == 'B' then numberInBase? (fun d => d == '0' || d == '1') ['0', c] cs
    else decimal? ('0' :: c :: cs)
  | cs => decimal? cs
where
  /-- A decimal number. Only zeros may follow a leading zero, unless a fraction, an exponent or the imaginary mark
  follows. -/
  decimal? (cs : List Char) : Option (List Char × List Char) :=
    (digitRun? Char.isDigit cs).bind fun p =>
      match p.2 with
      | '.' :: rest => numberFraction? (p.1 ++ ['.']) rest
      | rest =>
        let isFloat := rest.head?.any fun c => c == 'e' || c == 'E' || c == 'j' || c == 'J'
        if p.1.head? == some '0' && !isFloat && p.1.any fun c => c != '0' && c != '_' then none
        else numberExponent? p.1 rest

/-- The quote of a literal and whether it stands three times, if a literal opens here, with the opening characters and
the rest. Up to two letters may stand in front. -/
def literalOpening? (cs : List Char) : Option (Char × Bool × List Char × List Char) :=
  let letters := cs.takeWhile fun c => c != '\'' && c != '"' && c.isAlpha
  if letters.length ≤ 2 && ["", "b", "u", "r", "f", "br", "rb", "fr", "rf"].contains (String.ofList (letters.map Char.toLower))
  then
    match cs.drop letters.length with
    | q :: cs =>
      if q == '\'' || q == '"' then
        match cs with
        | a :: b :: rest => if a == q && b == q then some (q, true, letters ++ [q, q, q], rest)
                            else some (q, false, letters ++ [q], cs)
        | _ => some (q, false, letters ++ [q], cs)
      else none
    | [] => none
  else none

/-- The body of a literal with its closing quotes, and what follows; nothing if it is not closed. A backslash takes the
next character with it, and only quotes that stand three times may span lines. -/
def literalBody? (q : Char) (triple : Bool) : List Char → Option (List Char × List Char)
  | [] => none
  | '\\' :: c :: cs => (literalBody? q triple cs).map fun p => ('\\' :: c :: p.1, p.2)
  | c :: cs =>
    if triple then
      match c == q, cs with
      | true, a :: b :: rest =>
        if a == q && b == q then some ([q, q, q], rest) else (literalBody? q triple cs).map fun p => (c :: p.1, p.2)
      | _, _ => (literalBody? q triple cs).map fun p => (c :: p.1, p.2)
    else if c == q then some ([q], cs)
    else if c == '\n' then none
    else (literalBody? q triple cs).map fun p => (c :: p.1, p.2)

/-- The longest mark at the front and what follows. An unknown printable character is a mark of its own, which the
grammar has no use for. -/
def mark (c : Char) (cs : List Char) : String × List Char :=
  let three := String.ofList (c :: cs.take 2)
  let two := String.ofList (c :: cs.take 1)
  if marksOfThree.contains three then (three, cs.drop 2)
  else if marksOfTwo.contains two then (two, cs.drop 1)
  else (String.ofList [c], cs)

end CallAtlas.Source
