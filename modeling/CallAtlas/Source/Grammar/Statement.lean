import CallAtlas.Source.Grammar.Pattern

/-!
# Grammar of statements

A block is a list of statements; the parsers take the parser of inner blocks as an argument and `blockAt` bounds the
depth. `parseModule` and `parseExpression` read whole texts.
-/

namespace CallAtlas.Source

namespace Parser

/-- What the parsers of statements need: expressions, patterns and inner blocks. -/
structure Rules where
  inner : Inner
  pattern : Parser Pattern
  block : Parser (List Stmt)

/-! ## Simple statements -/

/-- A dotted name. -/
def dottedPath : Parser String := do
  let first ← name
  iterate first fun (acc : String) => do
    if ← acceptMark "." then return .inl (acc ++ "." ++ (← name)) else return .inr acc

/-- The name that an import is bound to, if one is given. -/
def boundAs : Parser (Option String) := do
  if ← acceptKeyword "as" then some <$> name else return none

/-- Entries divided by commas, at least one. -/
def commaSeparated {α : Type} (item : Parser α) : Parser (List α) := do
  let first ← item
  iterate [first] fun (acc : List α) => do
    if ← acceptMark "," then return .inl ((← item) :: acc) else return .inr acc.reverse

/-- An import of modules. -/
def importModules : Parser Import := do
  expectKeyword "import"
  .modules <$> commaSeparated do
    let n ← dottedPath
    return ⟨n, ← boundAs⟩

/-- How many packages up an import starts. -/
def importLevel : Parser Nat :=
  iterate 0 fun (n : Nat) => do
    if ← acceptMark "." then return .inl (n + 1)
    else if ← acceptMark "..." then return .inl (n + 3)
    else return .inr n

/-- One imported name. -/
def importedName : Parser Alias := do
  let n ← name
  return ⟨n, ← boundAs⟩

/-- The names of an import: all, a list, or a list between brackets, where a comma may stand at the end. -/
def importedNames : Parser (List Alias) := do
  if ← acceptMark "*" then return [⟨"*", none⟩]
  if ← acceptMark "(" then
    let first ← importedName
    iterate [first] fun (acc : List Alias) => do
      if ← acceptMark ")" then return .inr acc.reverse
      else
        expectMark ","
        if ← acceptMark ")" then return .inr acc.reverse else return .inl ((← importedName) :: acc)
  else commaSeparated importedName

/-- An import of names from a module. -/
def importMembers : Parser Import := do
  expectKeyword "from"
  let level ← importLevel
  let module ← if level > 0 && (← atKeyword "import") then pure none else some <$> dottedPath
  expectKeyword "import"
  return .members module (← importedNames) level

/-- The operator of an assignment that changes its target. -/
def augmentedOp? : String → Option BinaryOp
  | "+=" => some .add
  | "-=" => some .sub
  | "*=" => some .mul
  | "@=" => some .matMul
  | "/=" => some .div
  | "%=" => some .mod
  | "&=" => some .bitAnd
  | "|=" => some .bitOr
  | "^=" => some .bitXor
  | "<<=" => some .leftShift
  | ">>=" => some .rightShift
  | "**=" => some .pow
  | "//=" => some .floorDiv
  | _ => none

/-- The right-hand side of an assignment. -/
def assignedValue (inner : Inner) : Parser Expr := do
  if ← atKeyword "yield" then yieldExpression inner else starExpressions inner

/-- An assignment to one or more targets; the first is read already and a sign of equality is next. -/
def assignment (inner : Inner) (first : Expr) : Parser Stmt :=
  iterate (([] : List Expr), first) fun (targets, e) => do
    if ← acceptMark "=" then
      let t ← orMalformed (e.asTarget? .store true)
      let value ← assignedValue inner
      match value with
      | .yield _ | .yieldFrom _ =>
        if ← atMark "=" then unexpected else return .inl (t :: targets, value)
      | _ => return .inl (t :: targets, value)
    else return .inr (.assign targets.reverse e)

/-- A statement that starts with an expression: an assignment of some kind, or the expression itself. -/
def expressionStatement (inner : Inner) : Parser Stmt := do
  let e ← starExpressions inner
  match ← peek with
  | .mark "=" => assignment inner e
  | .mark ":" =>
    let target ← orMalformed e.asSingleTarget?
    advance
    let typeHint ← inner .expression
    let value ← if ← acceptMark "=" then some <$> assignedValue inner else pure none
    return .annotated target typeHint value
  | .mark m =>
    match augmentedOp? m with
    | some op =>
      let target ← orMalformed e.asSingleTarget?
      advance
      return .augmented target op (← assignedValue inner)
    | none => return .evaluate e
  | _ => return .evaluate e

/-- Behind a simple statement comes the end of the line or a semicolon. -/
def atStatementEnd : Parser Bool := do
  match ← peek with
  | .newline | .mark ";" => return true
  | _ => return false

/-- What `del` unbinds, up to the end of the statement. -/
def deleteTargets (inner : Inner) : Parser (List Expr) := do
  let target : Parser Expr := do
    let e ← inner .primary
    orMalformed (e.asTarget? .delete false)
  let first ← target
  let all ← iterate [first] fun (acc : List Expr) => do
    if ← acceptMark "," then
      if ← atStatementEnd then return .inr acc.reverse else return .inl ((← target) :: acc)
    else return .inr acc.reverse
  if ← atStatementEnd then return all else unexpected

/-- A statement on one line. -/
def simpleStatement (inner : Inner) : Parser Stmt := do
  match ← peek with
  | .keyword "pass" => advance; return .pass
  | .keyword "break" => advance; return .breakLoop
  | .keyword "continue" => advance; return .continueLoop
  | .keyword "return" =>
    advance
    if ← atStatementEnd then return .result none else return .result (some (← starExpressions inner))
  | .keyword "import" =>
    let start ← place
    return .imports (← importModules) start
  | .keyword "from" =>
    let start ← place
    return .imports (← importMembers) start
  | .keyword "raise" =>
    advance
    if ← atStatementEnd then return .raise none none
    let exception ← inner .expression
    let cause ← if ← acceptKeyword "from" then some <$> inner .expression else pure none
    return .raise (some exception) cause
  | .keyword "del" => advance; .delete <$> deleteTargets inner
  | .keyword "yield" => .evaluate <$> yieldExpression inner
  | .keyword "assert" =>
    advance
    let test ← inner .expression
    let message ← if ← acceptMark "," then some <$> inner .expression else pure none
    return .assertion test message
  | .keyword "global" => advance; .globalNames <$> commaSeparated name
  | .keyword "nonlocal" => advance; .nonlocalNames <$> commaSeparated name
  | _ => expressionStatement inner

/-- The statements of one line. -/
def simpleStatements (inner : Inner) : Parser (List Stmt) := do
  let first ← simpleStatement inner
  iterate [first] fun (acc : List Stmt) => do
    if ← accept .newline then return .inr acc.reverse
    else
      expectMark ";"
      if ← accept .newline then return .inr acc.reverse else return .inl ((← simpleStatement inner) :: acc)

/-! ## Compound statements -/

/-- The statements behind a colon: an indented block, or the rest of the line. -/
def suite (rules : Rules) : Parser (List Stmt) := do
  expectMark ":"
  if ← accept .newline then
    if ← accept .indent then
      let body ← rules.block
      expect .dedent
      return body
    else missingBlock
  else simpleStatements rules.inner

/-- The block behind `else`, or nothing. -/
def elseBlock (rules : Rules) : Parser (List Stmt) := do
  if ← acceptKeyword "else" then suite rules else return []

/-- A function definition from its keyword on. -/
def functionDefinition (rules : Rules) (decorators : List Expr) (isAsync : Bool) (start : Position) : Parser Stmt := do
  expectKeyword "def"
  let id ← name
  expectMark "("
  let params ← parameters rules.inner true ")"
  let returns ← if ← acceptMark "->" then some <$> rules.inner .expression else pure none
  let body ← suite rules
  return .functionDef ⟨id, params, body, decorators, returns, isAsync, ⟨start, ← lastPlace⟩⟩

/-- A class definition from its keyword on. -/
def classDefinition (rules : Rules) (decorators : List Expr) : Parser Stmt := do
  let start ← place
  expectKeyword "class"
  let id ← name
  let (bases, keywords) ← if ← acceptMark "(" then arguments rules.inner false else pure ([], [])
  let body ← suite rules
  return .classDef ⟨id, bases, keywords, body, decorators, ⟨start, ← lastPlace⟩⟩

/-- The decorators of a definition. -/
def decorators (inner : Inner) : Parser (List Expr) :=
  iterate [] fun (acc : List Expr) => do
    if ← acceptMark "@" then
      let e ← namedExpression inner
      expect .newline
      return .inl (e :: acc)
    else return .inr acc.reverse

/-- A choice with its further tests, which nest in the last branch. -/
def ifStatement (rules : Rules) : Parser Stmt := do
  advance
  let test ← namedExpression rules.inner
  let body ← suite rules
  let branches ← iterate [(test, body)] fun (acc : List (Expr × List Stmt)) => do
    if ← acceptKeyword "elif" then
      let test ← namedExpression rules.inner
      return .inl ((test, ← suite rules) :: acc)
    else return .inr acc
  let last ← elseBlock rules
  let nested := branches.foldl (fun otherwise b => [Stmt.ifElse b.1 b.2 otherwise]) last
  match nested with
  | [s] => return s
  | _ => throw .malformed

/-- A loop over the elements of a value. -/
def forStatement (rules : Rules) (isAsync : Bool) : Parser Stmt := do
  expectKeyword "for"
  let target ← starTargets rules.inner
  expectKeyword "in"
  let iter ← starExpressions rules.inner
  let body ← suite rules
  return .forLoop isAsync target iter body (← elseBlock rules)

/-- One item of a `with` statement. -/
def withItem (inner : Inner) : Parser WithItem := do
  let context ← inner .expression
  if ← acceptKeyword "as" then
    let target ← starTarget inner
    match ← peek with
    | .mark "," | .mark ")" | .mark ":" => return ⟨context, some target⟩
    | _ => unexpected
  else return ⟨context, none⟩

/-- The items between brackets, with the colon behind them still to be read. -/
def bracketedItems (inner : Inner) : Parser (List WithItem) := do
  expectMark "("
  let first ← withItem inner
  let items ← iterate [first] fun (acc : List WithItem) => do
    if ← acceptMark ")" then return .inr acc.reverse
    else
      expectMark ","
      if ← acceptMark ")" then return .inr acc.reverse else return .inl ((← withItem inner) :: acc)
  if ← atMark ":" then return items else throw .malformed

/-- A `with` statement. Brackets may belong to the list of items or to the first item. -/
def withStatement (rules : Rules) (isAsync : Bool) : Parser Stmt := do
  expectKeyword "with"
  let items ← attempt (bracketedItems rules.inner) (commaSeparated (withItem rules.inner))
  return .withBlock isAsync items (← suite rules)

/-- A handler of a `try` statement. -/
def handler (rules : Rules) (isStar : Bool) : Parser Handler := do
  expectKeyword "except"
  if isStar then expectMark "*"
  if ← atMark ":" then
    if isStar then unexpected
    return ⟨none, none, ← suite rules⟩
  let type ← rules.inner .expression
  let bound ← if ← acceptKeyword "as" then some <$> name else pure none
  return ⟨some type, bound, ← suite rules⟩

/-- A `try` statement. Its handlers are all of one kind; without one the final block is required. -/
def tryStatement (rules : Rules) : Parser Stmt := do
  expectKeyword "try"
  let body ← suite rules
  let isStar ← if ← atKeyword "except" then pure ((← peekSecond) == .mark "*") else pure false
  let handlers ← iterate [] fun (acc : List Handler) => do
    if ← atKeyword "except" then
      if ((← peekSecond) == .mark "*") == isStar then return .inl ((← handler rules isStar) :: acc)
      else throw .malformed
    else return .inr acc.reverse
  let otherwise ← if handlers.isEmpty then pure [] else elseBlock rules
  let final ← if ← acceptKeyword "finally" then suite rules else pure []
  if handlers.isEmpty && final.isEmpty then throw .malformed
  return .tryBlock isStar body handlers otherwise final

/-- The subject of a `match` statement and the end of its line. -/
def matchHeader (inner : Inner) : Parser Expr := do
  advance
  let first ← starNamedExpression inner
  let subject ← if ← atMark "," then
      let all ← iterate [first] fun (acc : List Expr) => do
        if ← acceptMark "," then
          if startsExpression (← peek) then return .inl ((← starNamedExpression inner) :: acc)
          else return .inr acc.reverse
        else return .inr acc.reverse
      pure (Expr.tuple all)
    else if first.isStarred then throw .malformed
    else pure first
  expectMark ":"
  expect .newline
  return subject

/-- One case of a `match` statement. -/
def matchCase (rules : Rules) : Parser MatchCase := do
  expect (.name "case")
  let pattern ← openPattern rules.pattern
  let guard ← if ← acceptKeyword "if" then some <$> namedExpression rules.inner else pure none
  return ⟨pattern, guard, ← suite rules⟩

/-- The cases of a `match` statement behind its first line. -/
def matchCases (rules : Rules) (subject : Expr) : Parser Stmt := do
  if ← accept .indent then
    let first ← matchCase rules
    let cases ← iterate [first] fun (acc : List MatchCase) => do
      if ← accept .dedent then return .inr acc.reverse else return .inl ((← matchCase rules) :: acc)
    return .matchBlock subject cases
  else missingBlock

/-- A statement of any kind. The word `match` opens a `match` statement only if the line ends like one. -/
def statement (rules : Rules) : Parser (List Stmt) := do
  match ← peek with
  | .mark "@" =>
    let ds ← decorators rules.inner
    match ← peek with
    | .keyword "def" => return [← functionDefinition rules ds false (← place)]
    | .keyword "class" => return [← classDefinition rules ds]
    | .keyword "async" =>
      let start ← place
      advance
      return [← functionDefinition rules ds true start]
    | _ => unexpected
  | .keyword "def" => return [← functionDefinition rules [] false (← place)]
  | .keyword "class" => return [← classDefinition rules []]
  | .keyword "if" => return [← ifStatement rules]
  | .keyword "for" => return [← forStatement rules false]
  | .keyword "while" =>
    advance
    let test ← namedExpression rules.inner
    let body ← suite rules
    return [.whileLoop test body (← elseBlock rules)]
  | .keyword "with" => return [← withStatement rules false]
  | .keyword "try" => return [← tryStatement rules]
  | .keyword "async" =>
    let start ← place
    advance
    match ← peek with
    | .keyword "def" => return [← functionDefinition rules [] true start]
    | .keyword "for" => return [← forStatement rules true]
    | .keyword "with" => return [← withStatement rules true]
    | _ => unexpected
  | .name "match" =>
    match ← attempt (some <$> matchHeader rules.inner) (pure none) with
    | some subject => return [← matchCases rules subject]
    | none => simpleStatements rules.inner
  | _ => simpleStatements rules.inner

/-- Statements up to the end of the block or of the text. -/
def statements (rules : Rules) : Parser (List Stmt) :=
  iterate [] fun (acc : List (List Stmt)) => do
    match ← peek with
    | .dedent | .stop => return .inr acc.reverse.flatten
    | _ => return .inl ((← statement rules) :: acc)

/-- The parser of blocks that nest at most `depth` deep. -/
def blockAt (inner : Inner) (pattern : Parser Pattern) : Nat → Parser (List Stmt)
  | 0 => throw .malformed
  | depth + 1 => statements ⟨inner, pattern, blockAt inner pattern depth⟩

/-- All statements of a text. -/
def file (inner : Inner) (pattern : Parser Pattern) (depth : Nat) : Parser (List Stmt) := do
  let all ← blockAt inner pattern depth
  if ← at? .stop then return all else unexpected

/-- One expression, or several divided by commas, and the end of the text. -/
def wholeExpression (inner : Inner) : Parser Expr := do
  let first ← inner .expression
  let e ← if ← atMark "," then
      let all ← iterate [first] fun (acc : List Expr) => do
        if ← acceptMark "," then
          if startsExpression (← peek) then return .inl ((← inner .expression) :: acc) else return .inr acc.reverse
        else return .inr acc.reverse
      pure (Expr.tuple all)
    else pure first
  iterate () fun () => do
    if ← accept .newline then return .inl ()
    else if ← at? .stop then return .inr e
    else unexpected

end Parser

/-- The statements of a source text. -/
def parseModule (text : List Char) : Except Fault (List Stmt) :=
  if text.contains '\x00' then .error .nullCharacter
  else
    let depth := text.length + 2
    let inner := Parser.expressionAt depth
    (Parser.file inner (Parser.patternAt inner depth) depth).run (tokens text)

/-- The expression that a text holds. -/
def parseExpression (text : List Char) : Except Fault Expr :=
  if text.contains '\x00' then .error .nullCharacter
  else (Parser.wholeExpression (Parser.expressionAt (text.length + 2))).run (tokens text)

end CallAtlas.Source
