import CallAtlas.Source.Tree
import CallAtlas.Source.Token
import CallAtlas.Text.CharacterName

/-!
# Values of literals

What number, text and byte literals stand for, and the pieces of a literal with replacement fields: text between the
fields, and for each field the characters of its expression with the place they stand at.
-/

namespace CallAtlas.Source

/-! ## Numbers -/

/-- The value of one digit in bases up to sixteen. -/
def digitOf (c : Char) : Nat :=
  if c.isDigit then c.toNat - 48 else c.toLower.toNat - 87

/-- The number that digits of a base stand for. -/
def numberOf (base : Nat) (cs : List Char) : Nat := cs.foldl (fun n c => base * n + digitOf c) 0

/-- How many digits a decimal whole number may have. -/
def maxIntDigits : Nat := 4300

/-- The number that a decimal with a fraction or an exponent is nearest to. -/
def floatOf (cs : List Char) : Number.Double :=
  let isMark (c : Char) : Bool := c == 'e' || c == 'E'
  let front := cs.takeWhile (!isMark ·)
  let whole := front.takeWhile (· != '.')
  let fraction := (front.dropWhile (· != '.')).drop 1
  let exponent : Int := match (cs.dropWhile (!isMark ·)).drop 1 with
    | '-' :: ds => -Int.ofNat (numberOf 10 ds)
    | '+' :: ds => Int.ofNat (numberOf 10 ds)
    | ds => Int.ofNat (numberOf 10 ds)
  .ofDecimal false (numberOf 10 (whole ++ fraction)) (exponent - Int.ofNat fraction.length)

/-- The value of a number token; nothing for a decimal whole number with too many digits. -/
def numberValue? (text : List Char) : Option Constant :=
  let cs := text.filter (· != '_')
  match cs with
  | '0' :: c :: ds =>
    if c == 'x' || c == 'X' then some (.int (numberOf 16 ds))
    else if c == 'o' || c == 'O' then some (.int (numberOf 8 ds))
    else if c == 'b' || c == 'B' then some (.int (numberOf 2 ds))
    else decimal cs
  | _ => decimal cs
where
  /-- The value of a decimal number. -/
  decimal (cs : List Char) : Option Constant :=
    match cs.getLast? with
    | some 'j' | some 'J' => some (.imaginary (floatOf cs.dropLast))
    | _ =>
      if cs.any fun c => c == '.' || c == 'e' || c == 'E' then some (.float (floatOf cs))
      else if maxIntDigits < cs.length then none
      else some (.int (numberOf 10 cs))

/-! ## Escapes -/

/-- An octal digit. -/
def isOctalDigit (c : Char) : Bool := '0' ≤ c && c ≤ '7'

/-- What a backslash and one letter stand for, if it is the same in texts and bytes. -/
def simpleEscape? (c : Char) : Option (List Nat) :=
  if c == '\n' then some []
  else if c == '\\' then some [0x5c]
  else if c == '\'' then some [0x27]
  else if c == '"' then some [0x22]
  else if c == 'a' then some [7]
  else if c == 'b' then some [8]
  else if c == 'f' then some [12]
  else if c == 'n' then some [10]
  else if c == 'r' then some [13]
  else if c == 't' then some [9]
  else if c == 'v' then some [11]
  else none

/-- Exactly `count` hexadecimal digits and what follows. -/
def hexEscape? (count : Nat) (cs : List Char) : Option (Nat × List Char) :=
  let ds := cs.take count
  if ds.length = count && ds.all isHexDigit then some (numberOf 16 ds, cs.drop count) else none

/-- What stands behind a backslash: its value and what follows. Nothing if an escape is cut short or names no
character. A letter that is no escape keeps its backslash. -/
def escape? (isBytes : Bool) (c : Char) (cs : List Char) : Option (List Nat × List Char) :=
  match simpleEscape? c with
  | some codes => some (codes, cs)
  | none =>
    if isOctalDigit c then
      let ds := c :: (cs.take 2).takeWhile isOctalDigit
      let n := numberOf 8 ds
      some ([if isBytes then n % 256 else n], cs.drop (ds.length - 1))
    else if c == 'x' then (hexEscape? 2 cs).map fun p => ([p.1], p.2)
    else if isBytes then some ([0x5c, c.toNat], cs)
    else if c == 'u' then (hexEscape? 4 cs).map fun p => ([p.1], p.2)
    else if c == 'U' then
      (hexEscape? 8 cs).bind fun p => if p.1 ≤ 0x10ffff then some ([p.1], p.2) else none
    else if c == 'N' then
      match cs with
      | '\x7b' :: rest =>
        let name := rest.takeWhile (· != '\x7d')
        if name.length < rest.length then
          (Text.characterNamed? name).map fun code => ([code], rest.drop (name.length + 1))
        else none
      | _ => none
    else some ([0x5c, c.toNat], cs)

/-- The code points of a literal's body. Every round reads a character. -/
def unescape (isBytes : Bool) : Nat → List Char → Option (List Nat)
  | 0, _ => some []
  | _ + 1, [] => some []
  | _ + 1, ['\\'] => some [0x5c]
  | rounds + 1, '\\' :: c :: cs =>
    (escape? isBytes c cs).bind fun p => (unescape isBytes rounds p.2).map (p.1 ++ ·)
  | rounds + 1, c :: cs => (unescape isBytes rounds cs).map (c.toNat :: ·)

/-- The code points of the characters of a body, escapes resolved unless it is raw. -/
def bodyCodes? (isBytes raw : Bool) (body : List Char) : Option (List Nat) :=
  if raw then some (body.map (·.toNat)) else unescape isBytes (body.length + 1) body

/-! ## Literals -/

/-- The parts of a literal token: the letters in front, the body, and how many characters stand before the body. -/
structure LiteralParts where
  isBytes : Bool
  isRaw : Bool
  isFormatted : Bool
  isMarked : Bool
  opening : List Char
  body : List Char

/-- The parts of a literal token's characters. -/
def literalParts (text : List Char) : LiteralParts :=
  let letters := text.takeWhile fun c => c != '\'' && c != '"'
  let rest := text.drop letters.length
  let quotes := match rest with
    | a :: b :: c :: _ :: _ :: _ => if a == b && b == c then 3 else 1
    | _ => 1
  let has (c : Char) : Bool := letters.any fun l => l.toLower == c
  { isBytes := has 'b', isRaw := has 'r', isFormatted := has 'f', isMarked := text.head? == some 'u',
    opening := letters ++ rest.take quotes, body := (rest.drop quotes).take (rest.length - 2 * quotes) }

/-- A piece of a literal with replacement fields. -/
inductive Segment where
  | text (codes : List Nat)
  /-- The field's expression, the place of its opening brace, the conversion, and the pieces of its format. -/
  | field (expression : List Char) (start : Position) (conversion : Option Char) (spec : Option (List Segment))

/-- The characters up to the next field or the end. Doubled braces outside a format stand for one brace: then the flag
is set and the text goes on behind them. Nothing if a closing brace stands alone. -/
def textRun? (raw isTop : Bool) : List Char → Option (List Char × Bool × List Char)
  | [] => some ([], false, [])
  | '\\' :: c :: cs =>
    if raw then (textRun? raw isTop (c :: cs)).map fun p => ('\\' :: p.1, p.2)
    else if c == '\x7b' || c == '\x7d' then (brace? c cs).map fun p => ('\\' :: p.1, p.2)
    else
      let further := if c == 'N' && cs.head? == some '\x7b' then nameRun? cs else textRun? raw isTop cs
      further.map fun p => ('\\' :: c :: p.1, p.2)
  | c :: cs =>
    if c == '\x7b' || c == '\x7d' then brace? c cs
    else (textRun? raw isTop cs).map fun p => (c :: p.1, p.2)
where
  /-- At a brace: doubled, an opening of a field, or an end of a format. -/
  brace? (c : Char) (cs : List Char) : Option (List Char × Bool × List Char) :=
    if isTop && cs.head? == some c then some ([c], true, cs.drop 1)
    else if isTop && c == '\x7d' then none
    else some ([], false, c :: cs)
  /-- In a character name: up to its closing brace and on. -/
  nameRun? : List Char → Option (List Char × Bool × List Char)
    | [] => some ([], false, [])
    | c :: cs =>
      if c == '\x7d' then (textRun? raw isTop cs).map fun p => (c :: p.1, p.2)
      else (nameRun? cs).map fun p => (c :: p.1, p.2)

/-- The quote that is open inside a field, and whether it stands three times. -/
abbrev OpenQuote := Option (Char × Bool)

/-- How deep brackets may nest in a field. -/
def maxFieldBrackets : Nat := 200

/-- The characters of a field's expression and what follows, which starts with the character that ends it. Backslashes
and comments have no place there, and brackets and quotes have to be closed. -/
def fieldExpression? (quote : OpenQuote) (brackets : List Char) : List Char → Option (List Char × List Char)
  | [] => none
  | '\\' :: _ => none
  | c :: cs =>
    -- take this character and go on
    let keep (quote : OpenQuote) (brackets : List Char) : Option (List Char × List Char) :=
      (fieldExpression? quote brackets cs).map fun p => (c :: p.1, p.2)
    match quote with
    | some (q, triple) =>
      if c != q then keep quote brackets
      else if triple then
        match cs with
        | a :: b :: rest =>
          if a == q && b == q then (fieldExpression? none brackets rest).map fun p => (c :: a :: b :: p.1, p.2)
          else keep quote brackets
        | _ => keep quote brackets
      else keep none brackets
    | none =>
      if c == '\'' || c == '"' then
        match cs with
        | a :: b :: rest =>
          if a == c && b == c then
            (fieldExpression? (some (c, true)) brackets rest).map fun p => (c :: a :: b :: p.1, p.2)
          else keep (some (c, false)) brackets
        | _ => keep (some (c, false)) brackets
      else if c == '(' || c == '[' || c == '\x7b' then
        if maxFieldBrackets ≤ brackets.length then none else keep none (c :: brackets)
      else if c == '#' then none
      else if brackets.isEmpty && (c == '!' || c == ':' || c == '\x7d' || c == '=' || c == '<' || c == '>') then
        match cs with
        | '=' :: rest =>
          if c == '!' || c == '=' || c == '<' || c == '>' then
            (fieldExpression? none brackets rest).map fun p => (c :: '=' :: p.1, p.2)
          else some ([], c :: '=' :: rest)
        | rest => if c == '<' || c == '>' then keep none brackets else some ([], c :: rest)
      else if c == ')' || c == ']' || c == '\x7d' then
        match brackets with
        | o :: bs =>
          if (o == '(' && c == ')') || (o == '[' && c == ']') || (o == '\x7b' && c == '\x7d') then keep none bs
          else none
        | [] => none
      else keep none brackets
  termination_by structural cs => cs

/-- Blanks that may follow the sign of a field that shows its own text. -/
def isFieldBlank (c : Char) : Bool := c == ' ' || ('\t' ≤ c && c ≤ '\r')

/-- The pieces of a body from a place on, up to its end or, inside a format (`depth` above zero), up to the closing
brace. Every round reads a character. -/
def segments (raw : Bool) : Nat → Nat → Position → List Char → Option (List Segment × Position × List Char)
  | 0, _, _, _ => none
  | rounds + 1, depth, place, cs => do
    let (run, doubled, rest) ← textRun? raw (depth == 0) cs
    let codes ← bodyCodes? false raw run
    let front : List Segment := if codes.isEmpty then [] else [.text codes]
    let place := place.after run
    if doubled then
      let (more, place, rest) ← segments raw rounds depth (place.next '\x7b') rest
      return (front ++ more, place, rest)
    match rest with
    | '\x7b' :: rest =>
      if 2 ≤ depth then none
      let (expression, rest) ← fieldExpression? none [] rest
      if expression.all fun c => c == ' ' || c == '\t' || c == '\n' || c == '\x0c' then none
      let behind := (place.next '\x7b').after expression
      let shown := match rest with
        | '=' :: more => '=' :: more.takeWhile isFieldBlank
        | _ => []
      let rest := rest.drop shown.length
      let behind := behind.after shown
      let label : List Segment :=
        if shown.isEmpty then [] else [.text ((expression ++ shown).map (·.toNat))]
      let (conversion, rest) ← match rest with
        | '!' :: c :: more => if c == 's' || c == 'r' || c == 'a' then some (some c, more) else none
        | '!' :: [] => none
        | rest => some (none, rest)
      let behind := if conversion.isSome then ⟨behind.line, behind.column + 2⟩ else behind
      let (spec, behind, rest) ← match rest with
        | ':' :: more =>
          if more.isEmpty then none
          else (segments raw rounds (depth + 1) (behind.next ':') more).map fun p => (some p.1, p.2.1, p.2.2)
        | rest => some (none, behind, rest)
      match rest with
      | '\x7d' :: rest =>
        let conversion := if !shown.isEmpty && spec.isNone && conversion.isNone then some 'r' else conversion
        let (more, stop, rest) ← segments raw rounds depth (behind.next '\x7d') rest
        return (front ++ label ++ [.field expression place conversion spec] ++ more, stop, rest)
      | _ => none
    | rest => return (front, place, rest)

end CallAtlas.Source
