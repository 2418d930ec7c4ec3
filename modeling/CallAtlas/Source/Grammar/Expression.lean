import CallAtlas.Source.Grammar.Basic
import CallAtlas.Source.Literal

/-!
# Grammar of expressions

The parsers below take the parser of inner expressions as an argument; `expressionAt` ties the knot with a bound on the
depth of nesting, which the length of the text limits.
-/

namespace CallAtlas.Source

/-- Where an inner expression enters the ladder of operators. -/
inductive Level where
  | expression
  | disjunction
  | inversion
  | bitOr
  | factor
  | primary

/-- The parser of inner expressions. -/
abbrev Inner := Level → Parser Expr

/-! ## Targets -/

mutual

/-- An expression read as a target that is bound or deleted; nothing if it cannot be one. -/
def Expr.asTarget? (usage : Usage) (allowStar : Bool) : Expr → Option Expr
  | .name id _ => some (.name id usage)
  | .attribute value attr => some (.attribute value attr)
  | .subscript value index => some (.subscript value index)
  | .starred value => if allowStar then (value.asTarget? usage allowStar).map .starred else none
  | .list es => (asTargets? usage allowStar es).map .list
  | .tuple es => (asTargets? usage allowStar es).map .tuple
  | _ => none

/-- Several expressions read as targets. -/
def asTargets? (usage : Usage) (allowStar : Bool) : List Expr → Option (List Expr)
  | [] => some []
  | e :: es => do return (← e.asTarget? usage allowStar) :: (← asTargets? usage allowStar es)

end

/-- An expression as a single target: a name, an attribute or an item. -/
def Expr.asSingleTarget? : Expr → Option Expr
  | .name id _ => some (.name id .store)
  | .attribute value attr => some (.attribute value attr)
  | .subscript value index => some (.subscript value index)
  | _ => none

/-- An expression that stands on its own behind a star. -/
def Expr.isStarred : Expr → Bool
  | .starred _ => true
  | _ => false

namespace Parser

/-- The value, or a malformed text if there is none. -/
def orMalformed {α : Type} : Option α → Parser α
  | some a => pure a
  | none => throw .malformed

/-- An expression may start with the lexeme; a star counts too. -/
def startsExpression : Lexeme → Bool
  | .name _ | .number _ | .literal _ => true
  | .mark m => ["(", "[", "\x7b", "-", "+", "~", "...", "*"].contains m
  | .keyword w => ["None", "True", "False", "not", "lambda", "await"].contains w
  | _ => false

/-! ## Operators -/

/-- Operands of one level with operators between them, grouped to the left. -/
def leftAssociative (operand : Parser Expr) (op? : String → Option BinaryOp) : Parser Expr := do
  let first ← operand
  iterate first fun left => do
    match ← peek with
    | .mark m =>
      match op? m with
      | some op => do advance; return .inl (.binary left op (← operand))
      | none => return .inr left
    | _ => return .inr left

/-- A power, or an operand of one. -/
def power (inner : Inner) (primary : Parser Expr) : Parser Expr := do
  let base ← if ← acceptKeyword "await" then .await <$> primary else primary
  if ← acceptMark "**" then return .binary base .pow (← inner .factor) else return base

/-- An operand with signs in front. -/
def factor (inner : Inner) (primary : Parser Expr) : Parser Expr := do
  match ← peek with
  | .mark "+" => advance; return .unary .plus (← inner .factor)
  | .mark "-" => advance; return .unary .minus (← inner .factor)
  | .mark "~" => advance; return .unary .invert (← inner .factor)
  | _ => power inner primary

/-- Products. -/
def term (inner : Inner) (primary : Parser Expr) : Parser Expr :=
  leftAssociative (factor inner primary) fun
    | "*" => some .mul
    | "/" => some .div
    | "//" => some .floorDiv
    | "%" => some .mod
    | "@" => some .matMul
    | _ => none

/-- Sums. -/
def sum (inner : Inner) (primary : Parser Expr) : Parser Expr :=
  leftAssociative (term inner primary) fun
    | "+" => some .add
    | "-" => some .sub
    | _ => none

/-- Shifts. -/
def shift (inner : Inner) (primary : Parser Expr) : Parser Expr :=
  leftAssociative (sum inner primary) fun
    | "<<" => some .leftShift
    | ">>" => some .rightShift
    | _ => none

/-- Bitwise operators, the loosest last. -/
def bitOr (inner : Inner) (primary : Parser Expr) : Parser Expr :=
  let bitAnd := leftAssociative (shift inner primary) fun
    | "&" => some .bitAnd
    | _ => none
  let bitXor := leftAssociative bitAnd fun
    | "^" => some .bitXor
    | _ => none
  leftAssociative bitXor fun
    | "|" => some .bitOr
    | _ => none

/-- Read a comparison operator if one is next. -/
def compareOp? : Parser (Option CompareOp) := do
  match ← peek with
  | .mark "==" => advance; return some .eq
  | .mark "!=" => advance; return some .notEq
  | .mark "<=" => advance; return some .le
  | .mark "<" => advance; return some .lt
  | .mark ">=" => advance; return some .ge
  | .mark ">" => advance; return some .gt
  | .keyword "in" => advance; return some .isIn
  | .keyword "not" =>
    if (← peekSecond) == .keyword "in" then advance; advance; return some .notIn else return none
  | .keyword "is" =>
    advance
    if ← acceptKeyword "not" then return some .isNot else return some .is
  | _ => return none

/-- A chain of comparisons. -/
def comparison (inner : Inner) (primary : Parser Expr) : Parser Expr := do
  let left ← bitOr inner primary
  let rest ← iterate [] fun (acc : List Comparison) => do
    match ← compareOp? with
    | some op => return .inl (⟨op, ← bitOr inner primary⟩ :: acc)
    | none => return .inr acc.reverse
  if rest.isEmpty then return left else return .compare left rest

/-- A negated comparison. -/
def inversion (inner : Inner) (primary : Parser Expr) : Parser Expr := do
  if ← acceptKeyword "not" then return .unary .not (← inner .inversion) else comparison inner primary

/-- Operands joined by one keyword. -/
def joined (word : String) (op : BoolOp) (operand : Parser Expr) : Parser Expr := do
  let first ← operand
  let all ← iterate [first] fun (acc : List Expr) => do
    if ← acceptKeyword word then return .inl ((← operand) :: acc) else return .inr acc.reverse
  match all with
  | [one] => return one
  | _ => return .boolOp op all

/-- A disjunction of conjunctions. -/
def disjunction (inner : Inner) (primary : Parser Expr) : Parser Expr :=
  joined "or" .or (joined "and" .and (inversion inner primary))

/-! ## Lists of expressions -/

/-- An expression, or what a star unpacks. -/
def starExpression (inner : Inner) : Parser Expr := do
  if ← acceptMark "*" then return .starred (← inner .bitOr) else inner .expression

/-- One expression, or several divided by commas as a tuple. -/
def starExpressions (inner : Inner) : Parser Expr := do
  let first ← starExpression inner
  if ← atMark "," then
    let all ← iterate [first] fun (acc : List Expr) => do
      if ← acceptMark "," then
        if startsExpression (← peek) then return .inl ((← starExpression inner) :: acc)
        else return .inr acc.reverse
      else return .inr acc.reverse
    return .tuple all
  else return first

/-- A name that is bound to the value of an expression, or an expression. -/
def namedExpression (inner : Inner) : Parser Expr := do
  match ← peek with
  | .name id =>
    if (← peekSecond) == .mark ":=" then
      advance; advance
      return .named (.name id .store) (← inner .expression)
    else plain
  | _ => plain
where
  /-- An expression that is not bound to a name. -/
  plain : Parser Expr := do
    let e ← inner .expression
    if ← atMark ":=" then unexpected else return e

/-- A named expression, or what a star unpacks. -/
def starNamedExpression (inner : Inner) : Parser Expr := do
  if ← acceptMark "*" then return .starred (← inner .bitOr) else namedExpression inner

/-- Items divided by commas up to a closing mark, which is read; a comma may stand at the end. The first item is
there already. -/
def restUntil (close : String) (item : Parser Expr) (first : Expr) : Parser (List Expr) :=
  iterate [first] fun (acc : List Expr) => do
    if ← acceptMark close then return .inr acc.reverse
    else
      expectMark ","
      if ← acceptMark close then return .inr acc.reverse else return .inl ((← item) :: acc)

/-- What `yield` hands out; the keyword is next. -/
def yieldExpression (inner : Inner) : Parser Expr := do
  expectKeyword "yield"
  if ← acceptKeyword "from" then return .yieldFrom (← inner .expression)
  else if startsExpression (← peek) then return .yield (some (← starExpressions inner))
  else return .yield none

/-- One target of a loop: an operand that can be bound, perhaps behind a star. -/
def starTarget (inner : Inner) : Parser Expr := do
  if ← acceptMark "*" then
    if ← atMark "*" then unexpected
    let e ← inner .primary
    .starred <$> orMalformed (e.asTarget? .store true)
  else
    let e ← inner .primary
    orMalformed (e.asTarget? .store true)

/-- The targets of a loop, up to the keyword that follows. -/
def starTargets (inner : Inner) : Parser Expr := do
  let first ← starTarget inner
  if ← atMark "," then
    let all ← iterate [first] fun (acc : List Expr) => do
      if ← acceptMark "," then
        if startsExpression (← peek) then return .inl ((← starTarget inner) :: acc)
        else return .inr acc.reverse
      else return .inr acc.reverse
    return .tuple all
  else return first

/-! ## Comprehensions -/

/-- A `for` clause comes next. -/
def atClause : Parser Bool := do
  match ← peek with
  | .keyword "for" | .keyword "async" => return true
  | _ => return false

/-- The conditions of one clause. -/
def conditions (inner : Inner) : Parser (List Expr) :=
  iterate [] fun (acc : List Expr) => do
    if ← acceptKeyword "if" then return .inl ((← inner .disjunction) :: acc) else return .inr acc.reverse

/-- The clauses of a comprehension. -/
def clauses (inner : Inner) : Parser (List Clause) :=
  iterate [] fun (acc : List Clause) => do
    if ← atClause then
      let isAsync ← acceptKeyword "async"
      expectKeyword "for"
      let target ← starTargets inner
      expectKeyword "in"
      let iter ← inner .disjunction
      return .inl (⟨target, iter, ← conditions inner, isAsync⟩ :: acc)
    else return .inr acc.reverse

/-! ## Arguments and parameters -/

/-- Arguments read so far, last first: positional ones, keywords, whether a keyword came, whether a mapping was
unpacked. -/
structure ArgState where
  args : List Expr
  keywords : List Keyword
  sawKeyword : Bool
  sawMapping : Bool

/-- One argument. Behind a keyword no plain argument follows, and behind an unpacked mapping only keywords. -/
def argument (inner : Inner) (st : ArgState) : Parser ArgState := do
  match ← peek with
  | .mark "*" =>
    if st.sawMapping then unexpected
    advance
    return { st with args := .starred (← inner .expression) :: st.args }
  | .mark "**" =>
    advance
    return { st with keywords := ⟨none, ← inner .expression⟩ :: st.keywords, sawMapping := true }
  | .name id =>
    if (← peekSecond) == .mark "=" then
      advance; advance
      return { st with keywords := ⟨some id, ← inner .expression⟩ :: st.keywords, sawKeyword := true }
    else plain
  | _ => plain
where
  /-- A positional argument. -/
  plain : Parser ArgState := do
    if st.sawKeyword || st.sawMapping then unexpected
    let e ← namedExpression inner
    if ← atMark "=" then unexpected
    return { st with args := e :: st.args }

/-- The arguments between brackets; the opening one is read already. A generator may stand alone without brackets of
its own. -/
def arguments (inner : Inner) (allowGenerator : Bool) : Parser (List Expr × List Keyword) := do
  if ← acceptMark ")" then return ([], [])
  let first ← argument inner ⟨[], [], false, false⟩
  if ← atClause then
    match allowGenerator, first.args, first.keywords with
    | true, [e], [] =>
      if e.isStarred then unexpected
      let cs ← clauses inner
      expectMark ")"
      return ([.generator e cs], [])
    | _, _, _ => unexpected
  iterate first fun st => do
    if ← acceptMark ")" then return .inr (st.args.reverse, st.keywords.reverse)
    else
      expectMark ","
      if ← acceptMark ")" then return .inr (st.args.reverse, st.keywords.reverse)
      else return .inl (← argument inner st)

/-- Parameters read so far, last first, and what was seen. -/
structure ParamState where
  positionalOnly : List Param := []
  regular : List Param := []
  variadic : Option Param := none
  keywordOnly : List Param := []
  keywordVariadic : Option Param := none
  sawSlash : Bool := false
  sawStar : Bool := false

/-- The parameters in reading order. -/
def ParamState.params (st : ParamState) : Params :=
  ⟨st.positionalOnly.reverse, st.regular.reverse, st.variadic, st.keywordOnly.reverse, st.keywordVariadic⟩

/-- The type hint of a parameter, where one is allowed. -/
def typeHint (inner : Inner) (annotated allowStar : Bool) : Parser (Option Expr) := do
  if annotated then
    if ← acceptMark ":" then
      if allowStar then some <$> starExpression inner else some <$> inner .expression
    else return none
  else return none

/-- One entry of a parameter list. -/
def parameter (inner : Inner) (annotated : Bool) (st : ParamState) : Parser ParamState := do
  if st.keywordVariadic.isSome then unexpected
  match ← peek with
  | .mark "/" =>
    if st.sawSlash || st.sawStar || st.regular.isEmpty then unexpected
    advance
    return { st with positionalOnly := st.regular, regular := [], sawSlash := true }
  | .mark "*" =>
    if st.sawStar then unexpected
    advance
    if ← atMark "," then
      match ← peekSecond with
      | .name _ => return { st with sawStar := true }
      | _ => advance; unexpected
    else
      let id ← name
      let a ← typeHint inner annotated true
      return { st with variadic := some ⟨id, a, none⟩, sawStar := true }
  | .mark "**" =>
    advance
    let id ← name
    let a ← typeHint inner annotated false
    return { st with keywordVariadic := some ⟨id, a, none⟩ }
  | _ =>
    let id ← name
    let a ← typeHint inner annotated false
    let d ← if ← acceptMark "=" then some <$> inner .expression else pure none
    let p : Param := ⟨id, a, d⟩
    if st.sawStar then return { st with keywordOnly := p :: st.keywordOnly }
    else
      let sawDefault := (st.regular ++ st.positionalOnly).any fun q => q.default.isSome
      if sawDefault && d.isNone then unexpected
      return { st with regular := p :: st.regular }

/-- The parameters up to a closing mark, which is read. -/
def parameters (inner : Inner) (annotated : Bool) (close : String) : Parser Params := do
  if ← acceptMark close then return ⟨[], [], none, [], none⟩
  let first ← parameter inner annotated {}
  iterate first fun st => do
    if ← acceptMark close then return .inr st.params
    else
      expectMark ","
      if ← acceptMark close then return .inr st.params else return .inl (← parameter inner annotated st)

/-! ## Displays -/

/-- What stands between round brackets: a tuple, a generator, or one expression. -/
def roundBrackets (inner : Inner) : Parser Expr := do
  expectMark "("
  if ← acceptMark ")" then return .tuple []
  if ← atKeyword "yield" then
    let e ← yieldExpression inner
    expectMark ")"
    return e
  let first ← starNamedExpression inner
  if ← atMark "," then return .tuple (← restUntil ")" (starNamedExpression inner) first)
  if first.isStarred then unexpected
  if ← atClause then
    let cs ← clauses inner
    expectMark ")"
    return .generator first cs
  expectMark ")"
  return first

/-- What stands between square brackets: a list or a comprehension. -/
def squareBrackets (inner : Inner) : Parser Expr := do
  expectMark "["
  if ← acceptMark "]" then return .list []
  let first ← starNamedExpression inner
  if ← atClause then
    if first.isStarred then unexpected
    let cs ← clauses inner
    expectMark "]"
    return .listComp first cs
  return .list (← restUntil "]" (starNamedExpression inner) first)

/-- One entry of a dictionary display. -/
def dictItem (inner : Inner) : Parser DictItem := do
  if ← acceptMark "**" then return ⟨none, ← inner .bitOr⟩
  let key ← inner .expression
  expectMark ":"
  return ⟨some key, ← inner .expression⟩

/-- The further entries of a dictionary display. -/
def restOfDict (inner : Inner) (first : DictItem) : Parser Expr := do
  let items ← iterate [first] fun (acc : List DictItem) => do
    if ← acceptMark "\x7d" then return .inr acc.reverse
    else
      expectMark ","
      if ← acceptMark "\x7d" then return .inr acc.reverse else return .inl ((← dictItem inner) :: acc)
  return .dict items

/-- The further elements of a set display or the clauses of a set comprehension. -/
def restOfSet (inner : Inner) (first : Expr) : Parser Expr := do
  if ← atClause then
    if first.isStarred then unexpected
    let cs ← clauses inner
    expectMark "\x7d"
    return .setComp first cs
  return .set (← restUntil "\x7d" (starNamedExpression inner) first)

/-- What stands between curly brackets: a dictionary, a set, or a comprehension of either. -/
def curlyBrackets (inner : Inner) : Parser Expr := do
  expectMark "\x7b"
  if ← acceptMark "\x7d" then return .dict []
  match ← peek with
  | .mark "**" => restOfDict inner (← dictItem inner)
  | .mark "*" => restOfSet inner (← starNamedExpression inner)
  | .name _ => if (← peekSecond) == .mark ":=" then restOfSet inner (← namedExpression inner) else keyed
  | _ => keyed
where
  /-- The first element is an expression; a colon behind it makes it a key. -/
  keyed : Parser Expr := do
    let e ← inner .expression
    if ← acceptMark ":" then
      let value ← inner .expression
      if ← atClause then
        let cs ← clauses inner
        expectMark "\x7d"
        return .dictComp e value cs
      restOfDict inner ⟨some e, value⟩
    else
      if ← atMark ":=" then unexpected
      restOfSet inner e

/-- An optional bound of a slice. -/
def sliceBound (inner : Inner) : Parser (Option Expr) := do
  match ← peek with
  | .mark ":" | .mark "," | .mark "]" => return none
  | _ => some <$> inner .expression

/-- The bounds of a slice behind its first colon. -/
def sliceFrom (inner : Inner) (lower : Option Expr) : Parser Expr := do
  let upper ← sliceBound inner
  if ← acceptMark ":" then return .slice lower upper (← sliceBound inner) else return .slice lower upper none

/-- One index: a slice, a named expression, or what a star unpacks. -/
def index (inner : Inner) : Parser Expr := do
  if ← acceptMark "*" then return .starred (← inner .expression)
  if ← acceptMark ":" then return (← sliceFrom inner none)
  match ← peek with
  | .name _ => if (← peekSecond) == .mark ":=" then namedExpression inner else bounded
  | _ => bounded
where
  /-- An expression, or a slice that starts with one. -/
  bounded : Parser Expr := do
    let e ← inner .expression
    if ← acceptMark ":" then sliceFrom inner (some e)
    else if ← atMark ":=" then unexpected
    else return e

/-- The indices between square brackets; the opening one is read already. -/
def indices (inner : Inner) : Parser Expr := do
  let first ← index inner
  if ← atMark "," then return .tuple (← restUntil "]" (index inner) first)
  expectMark "]"
  if first.isStarred then return .tuple [first] else return first

/-! ## Literals -/

/-- Neighbouring texts become one. -/
def mergeTexts (marked : Bool) : List Expr → List Expr
  | .constant (.text a _) :: rest =>
    match mergeTexts marked rest with
    | .constant (.text b _) :: more => .constant (.text (a ++ b) marked) :: more
    | more => .constant (.text a marked) :: more
  | e :: rest => e :: mergeTexts marked rest
  | [] => []

mutual

/-- The expression of one piece of a literal. -/
def segmentExpr (field : List Char → Position → Except Fault Expr) (marked : Bool) : Segment → Except Fault Expr
  | .text codes => .ok (.constant (.text codes marked))
  | .field expression start conversion spec => do
    let value ← field expression start
    let spec ← specExpr field marked spec
    return .formatted value conversion spec

/-- The expression of a field's format. -/
def specExpr (field : List Char → Position → Except Fault Expr) (marked : Bool) :
    Option (List Segment) → Except Fault (Option Expr)
  | none => .ok none
  | some segments => do return some (.joined (mergeTexts marked (← segmentExprs field marked segments)))

/-- The expressions of the pieces of a literal. -/
def segmentExprs (field : List Char → Position → Except Fault Expr) (marked : Bool) :
    List Segment → Except Fault (List Expr)
  | [] => .ok []
  | s :: ss => do return (← segmentExpr field marked s) :: (← segmentExprs field marked ss)

end

/-- The literal tokens that follow each other, with their places. -/
def literals : Parser (List (LiteralParts × Position)) :=
  iterate [] fun (acc : List (LiteralParts × Position)) => do
    match ← peek with
    | .literal text =>
      let p ← place
      advance
      return .inl ((literalParts text, p) :: acc)
    | _ => return .inr acc.reverse

/-- The expressions of one literal: a text, or the pieces of a literal with fields. -/
def literalExprs (field : List Char → Position → Except Fault Expr) (marked : Bool) (parts : LiteralParts)
    (start : Position) : Except Fault (List Expr) :=
  if parts.isFormatted then
    match segments parts.isRaw (parts.body.length + 2) 0 (start.after parts.opening) parts.body with
    | some (pieces, _, _) => segmentExprs field marked pieces
    | none => .error .malformed
  else
    match bodyCodes? false parts.isRaw parts.body with
    | some codes => .ok (if codes.isEmpty then [] else [.constant (.text codes marked)])
    | none => .error .malformed

/-- The bytes of one literal; only ASCII characters may stand in it. -/
def literalBytes (parts : LiteralParts) : Except Fault (List Nat) :=
  if parts.body.all fun c => decide (c.toNat < 128) then
    match bodyCodes? true parts.isRaw parts.body with
    | some codes => .ok codes
    | none => .error .malformed
  else .error .malformed

/-- The value of literals that follow each other. Texts and bytes do not mix. -/
def joinLiterals (field : List Char → Position → Except Fault Expr) (all : List (LiteralParts × Position)) :
    Except Fault Expr :=
  let marked := all.head?.any fun p => p.1.isMarked
  if all.all fun p => p.1.isBytes then do
    let bytes ← all.mapM fun p => literalBytes p.1
    return .constant (.bytes bytes.flatten)
  else if all.any fun p => p.1.isBytes then .error .malformed
  else do
    let pieces ← all.mapM fun p => literalExprs field marked p.1 p.2
    let merged := mergeTexts marked pieces.flatten
    if all.any fun p => p.1.isFormatted then return .joined merged
    else
      match merged with
      | [e] => return e
      | _ => return .constant (.text [] marked)

/-! ## Primaries -/

/-- The smallest expressions. -/
def atom (inner : Inner) : Parser Expr := do
  match ← peek with
  | .name id => advance; return .name id .load
  | .number text =>
    let c ← orMalformed (numberValue? text)
    advance
    return .constant c
  | .literal _ =>
    let all ← literals
    -- A field is read as if its braces were round brackets.
    let field (text : List Char) (start : Position) : Except Fault Expr :=
      (starExpressions inner).run (tokensFrom' start ('(' :: text ++ [')', '\n']))
    match joinLiterals field all with
    | .ok e => return e
    | .error f => throw f
  | .mark "(" => roundBrackets inner
  | .mark "[" => squareBrackets inner
  | .mark "\x7b" => curlyBrackets inner
  | .mark "..." => advance; return .constant .ellipsis
  | .keyword "None" => advance; return .constant .none
  | .keyword "True" => advance; return .constant (.bool true)
  | .keyword "False" => advance; return .constant (.bool false)
  | _ => unexpected
where
  /-- Tokens from a place inside a line, which has no margin to measure. -/
  tokensFrom' (start : Position) (cs : List Char) : List Token :=
    scan (2 * cs.length + 4) ⟨start, false, false, [], []⟩ cs

/-- An atom with attributes, calls and indices behind it. -/
def primary (inner : Inner) : Parser Expr := do
  let start ← place
  let first ← atom inner
  iterate first fun e => do
    match ← peek with
    | .mark "." => advance; return .inl (.attribute e (← name))
    | .mark "(" =>
      advance
      let (args, keywords) ← arguments inner true
      return .inl (.call start e args keywords)
    | .mark "[" => advance; return .inl (.subscript e (← indices inner))
    | _ => return .inr e

/-- A function without a name. -/
def lambda (inner : Inner) : Parser Expr := do
  expectKeyword "lambda"
  let params ← parameters inner false ":"
  return .lambda params (← inner .expression)

/-- An expression: a function without a name, a choice, or a disjunction. -/
def expression (inner : Inner) : Parser Expr := do
  if ← atKeyword "lambda" then lambda inner
  else
    let body ← disjunction inner (primary inner)
    if ← acceptKeyword "if" then
      let test ← disjunction inner (primary inner)
      expectKeyword "else"
      return .conditional test body (← inner .expression)
    else return body

/-- One rung of the ladder. -/
def levelParser (inner : Inner) : Level → Parser Expr
  | .expression => expression inner
  | .disjunction => disjunction inner (primary inner)
  | .inversion => inversion inner (primary inner)
  | .bitOr => bitOr inner (primary inner)
  | .factor => factor inner (primary inner)
  | .primary => primary inner

/-- The parser of expressions that nest at most `depth` deep. -/
def expressionAt : Nat → Inner
  | 0 => fun _ => throw .malformed
  | depth + 1 => levelParser (expressionAt depth)

end Parser

end CallAtlas.Source
