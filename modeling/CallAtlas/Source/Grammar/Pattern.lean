import CallAtlas.Source.Grammar.Expression

/-!
# Grammar of patterns

What may stand behind `case`. As for expressions, the parsers take the parser of inner patterns as an argument and
`patternAt` bounds the depth.
-/

namespace CallAtlas.Source

/-- A pattern that takes what is left of a sequence. -/
def Pattern.isStar : Pattern → Bool
  | .star _ => true
  | _ => false

namespace Parser

/-- What a name is bound to in a pattern: any name but the wildcard, and not the start of a longer name. -/
def captureTarget : Parser String := do
  let id ← name
  if id == "_" then throw .malformed
  match ← peek with
  | .mark "." | .mark "(" | .mark "=" => unexpected
  | _ => return id

/-- A number constant, which has to be imaginary or must not be. -/
def patternNumber (imaginary : Bool) : Parser Expr := do
  match ← peek with
  | .number text =>
    let c ← orMalformed (numberValue? text)
    match c, imaginary with
    | .imaginary _, false => throw .malformed
    | .imaginary _, true => pure ()
    | _, true => throw .malformed
    | _, false => pure ()
    advance
    return .constant c
  | _ => unexpected

/-- A number with a sign in front. -/
def signedNumber : Parser Expr := do
  let negative ← acceptMark "-"
  match ← peek with
  | .number text =>
    let c ← orMalformed (numberValue? text)
    advance
    let e : Expr := if negative then .unary .minus (.constant c) else .constant c
    match ← peek, c with
    | .mark "+", .imaginary _ | .mark "-", .imaginary _ => unexpected
    | .mark "+", _ => advance; return .binary e .add (← patternNumber true)
    | .mark "-", _ => advance; return .binary e .sub (← patternNumber true)
    | _, _ => return e
  | _ => unexpected

/-- A name with at least `least` attributes behind it. -/
def dottedExpr (first : String) : Parser Expr :=
  iterate (.name first .load) fun (e : Expr) => do
    if ← acceptMark "." then return .inl (.attribute e (← name)) else return .inr e

/-- A literal in a pattern as a value; the singletons are patterns of their own. -/
def literalValue (inner : Inner) : Parser Expr := do
  match ← peek with
  | .literal _ => atom inner
  | .keyword "None" | .keyword "True" | .keyword "False" => atom inner
  | _ => signedNumber

/-- A pattern, or a name that takes what is left of a sequence. -/
def maybeStarPattern (pattern : Parser Pattern) : Parser Pattern := do
  if ← acceptMark "*" then
    if (← peek) == .name "_" then advance; return .star none else return .star (some (← captureTarget))
  else pattern

/-- The patterns of a sequence up to a closing mark, which is read. The first is there already. -/
def restOfSequence (close : String) (pattern : Parser Pattern) (first : Pattern) : Parser (List Pattern) :=
  iterate [first] fun (acc : List Pattern) => do
    if ← acceptMark close then return .inr acc.reverse
    else
      expectMark ","
      if ← acceptMark close then return .inr acc.reverse else return .inl ((← maybeStarPattern pattern) :: acc)

/-- One key of a mapping pattern. -/
def mappingKey (inner : Inner) : Parser Expr := do
  match ← peek with
  | .name id =>
    advance
    let e ← dottedExpr id
    match e with
    | .attribute .. => return e
    | _ => throw .malformed
  | _ => literalValue inner

/-- Keys, patterns and the name for the rest, last first. -/
structure MappingState where
  keys : List Expr
  patterns : List Pattern
  rest : Option String

/-- One entry of a mapping pattern; the name for the rest comes last. -/
def mappingItem (inner : Inner) (pattern : Parser Pattern) (st : MappingState) : Parser MappingState := do
  if st.rest.isSome then unexpected
  if ← acceptMark "**" then return { st with rest := some (← captureTarget) }
  let key ← mappingKey inner
  expectMark ":"
  return { st with keys := key :: st.keys, patterns := (← pattern) :: st.patterns }

/-- A mapping pattern. -/
def mappingPattern (inner : Inner) (pattern : Parser Pattern) : Parser Pattern := do
  expectMark "\x7b"
  let close (st : MappingState) : Pattern := .mapping st.keys.reverse st.patterns.reverse st.rest
  if ← acceptMark "\x7d" then return close ⟨[], [], none⟩
  let first ← mappingItem inner pattern ⟨[], [], none⟩
  iterate first fun st => do
    if ← acceptMark "\x7d" then return .inr (close st)
    else
      expectMark ","
      if ← acceptMark "\x7d" then return .inr (close st) else return .inl (← mappingItem inner pattern st)

/-- Patterns of a class pattern, last first. -/
structure ClassPatternState where
  positional : List Pattern
  keywords : List KeywordPattern

/-- One argument of a class pattern; positional ones come first. -/
def classPatternItem (pattern : Parser Pattern) (st : ClassPatternState) : Parser ClassPatternState := do
  let keyword ← match ← peek with
    | .name id => if (← peekSecond) == .mark "=" then pure (some id) else pure none
    | _ => pure none
  match keyword with
  | some id =>
    advance; advance
    return { st with keywords := ⟨id, ← pattern⟩ :: st.keywords }
  | none =>
    if st.keywords.isEmpty then return { st with positional := (← pattern) :: st.positional } else unexpected

/-- A class pattern behind the class; the opening bracket is next. -/
def classPattern (pattern : Parser Pattern) (cls : Expr) : Parser Pattern := do
  expectMark "("
  let close (st : ClassPatternState) : Pattern := .ofClass cls st.positional.reverse st.keywords.reverse
  if ← acceptMark ")" then return close ⟨[], []⟩
  let first ← classPatternItem pattern ⟨[], []⟩
  iterate first fun st => do
    if ← acceptMark ")" then return .inr (close st)
    else
      expectMark ","
      if ← acceptMark ")" then return .inr (close st) else return .inl (← classPatternItem pattern st)

/-- A pattern without alternatives. -/
def closedPattern (inner : Inner) (pattern : Parser Pattern) : Parser Pattern := do
  match ← peek with
  | .keyword "None" => advance; return .singleton .none
  | .keyword "True" => advance; return .singleton (.bool true)
  | .keyword "False" => advance; return .singleton (.bool false)
  | .number _ | .literal _ | .mark "-" => return .value (← literalValue inner)
  | .name "_" => advance; return .capture none none
  | .name id =>
    advance
    let e ← dottedExpr id
    if ← atMark "(" then classPattern pattern e
    else if ← atMark "=" then unexpected
    else
      match e with
      | .attribute .. => return .value e
      | _ => return .capture none (some id)
  | .mark "(" =>
    advance
    if ← acceptMark ")" then return .sequence []
    let first ← maybeStarPattern pattern
    if ← atMark "," then return .sequence (← restOfSequence ")" pattern first)
    if first.isStar then unexpected
    expectMark ")"
    return first
  | .mark "[" =>
    advance
    if ← acceptMark "]" then return .sequence []
    return .sequence (← restOfSequence "]" pattern (← maybeStarPattern pattern))
  | .mark "\x7b" => mappingPattern inner pattern
  | _ => unexpected

/-- Alternatives, perhaps bound to a name. -/
def patternWith (inner : Inner) (pattern : Parser Pattern) : Parser Pattern := do
  let first ← closedPattern inner pattern
  let all ← iterate [first] fun (acc : List Pattern) => do
    if ← acceptMark "|" then return .inl ((← closedPattern inner pattern) :: acc) else return .inr acc.reverse
  let whole : Pattern := match all with
    | [one] => one
    | _ => .alternatives all
  if ← acceptKeyword "as" then return .capture (some whole) (some (← captureTarget)) else return whole

/-- The parser of patterns that nest at most `depth` deep. -/
def patternAt (inner : Inner) : Nat → Parser Pattern
  | 0 => throw .malformed
  | depth + 1 => patternWith inner (patternAt inner depth)

/-- What stands behind `case`: a pattern, or a sequence without brackets. -/
def openPattern (pattern : Parser Pattern) : Parser Pattern := do
  let first ← maybeStarPattern pattern
  if ← atMark "," then
    let all ← iterate [first] fun (acc : List Pattern) => do
      if ← acceptMark "," then
        match ← peek with
        | .mark ":" | .keyword "if" => return .inr acc.reverse
        | _ => return .inl ((← maybeStarPattern pattern) :: acc)
      else return .inr acc.reverse
    return .sequence all
  if first.isStar then unexpected else return first

end Parser

end CallAtlas.Source
