import CallAtlas.Number.Decimal
import CallAtlas.Number.Integer
import CallAtlas.Source.Tree
import CallAtlas.Text.Piece
import CallAtlas.Text.Quoted

/-!
# Source text of expressions

Writes an expression back as source text: one blank around binary operators, brackets only where an operand binds looser
than its place asks for, texts in the quotes that need the fewest escapes. Not every expression has a written form: no
backslash may stand inside the fields of a formatted text, and no whole number may have too many digits.
-/

namespace CallAtlas.Source

/-- Why an expression has no written form. -/
inductive RenderFault where
  /-- A field of a formatted text needs a backslash. -/
  | backslashInField
  /-- A whole number has more digits than can be written. -/
  | tooManyDigits
  deriving Repr, DecidableEq, Inhabited

/-! ## How tight expressions bind -/

namespace Rank

/-- A name bound in an expression. -/
def named : Nat := 1
/-- A tuple. -/
def tuple : Nat := 2
/-- A value handed out. -/
def yield : Nat := 3
/-- A choice or a function without a name; also where nothing tighter is asked for. -/
def test : Nat := 4
/-- A disjunction. -/
def or : Nat := 5
/-- A conjunction. -/
def and : Nat := 6
/-- A negation. -/
def not : Nat := 7
/-- A comparison. -/
def compare : Nat := 8
/-- The loosest arithmetic operator. -/
def bitOr : Nat := 9
/-- Signs. -/
def factor : Nat := 15
/-- Powers. -/
def power : Nat := 16
/-- An awaited value. -/
def await : Nat := 17
/-- What needs no brackets anywhere. -/
def atom : Nat := 18

/-- The next tighter rank. -/
def next (rank : Nat) : Nat := min atom (rank + 1)

end Rank

/-- How an operator on two operands is written. -/
def BinaryOp.text : BinaryOp → String
  | .add => "+"
  | .sub => "-"
  | .mul => "*"
  | .matMul => "@"
  | .div => "/"
  | .mod => "%"
  | .leftShift => "<<"
  | .rightShift => ">>"
  | .bitOr => "|"
  | .bitXor => "^"
  | .bitAnd => "&"
  | .floorDiv => "//"
  | .pow => "**"

/-- How tight an operator on two operands binds. -/
def BinaryOp.rank : BinaryOp → Nat
  | .bitOr => Rank.bitOr
  | .bitXor => 10
  | .bitAnd => 11
  | .leftShift | .rightShift => 12
  | .add | .sub => 13
  | .mul | .matMul | .div | .mod | .floorDiv => 14
  | .pow => Rank.power

/-- How an operator on one operand is written. -/
def UnaryOp.text : UnaryOp → String
  | .invert => "~"
  | .not => "not "
  | .plus => "+"
  | .minus => "-"

/-- How tight an operator on one operand binds. -/
def UnaryOp.rank : UnaryOp → Nat
  | .not => Rank.not
  | _ => Rank.factor

/-- How a comparison operator is written. -/
def CompareOp.text : CompareOp → String
  | .eq => "=="
  | .notEq => "!="
  | .lt => "<"
  | .le => "<="
  | .gt => ">"
  | .ge => ">="
  | .is => "is"
  | .isNot => "is not"
  | .isIn => "in"
  | .notIn => "not in"

/-! ## Quotes -/

/-- The quotes that a text may be written in, in order of preference. -/
def allQuotes : List (List Char) := [['\''], ['"'], ['"', '"', '"'], ['\'', '\'', '\'']]

/-- `part` stands somewhere in `codes`. -/
def occursIn (part : List Nat) : List Nat → Bool
  | [] => part.isEmpty
  | c :: cs => part.isPrefixOf (c :: cs) || occursIn part cs

/-- A text with as few escapes as possible, and the quotes it may stand in, best first. Line ends and tabs are escaped
only if the flag says so. If no quotes are left, the text is escaped for the quotes it is usually written in. -/
def quotable (escapeBlanks : Bool) (quotes : List (List Char)) (codes : List Nat) : List Nat × List (List Char) :=
  let escaped := codes.flatMap fun c =>
    if !escapeBlanks && (c = 0xa || c = 0x9) then [c]
    else if c = 0x5c || !Text.isPrintable c then (Text.escapeCode c).map (·.toNat)
    else [c]
  let quotesLeft := if escaped.contains 0xa then quotes.filter (·.length = 3) else quotes
  let quotesLeft := quotesLeft.filter fun q => !occursIn (q.map (·.toNat)) escaped
  if quotesLeft.isEmpty then
    let written := Text.quotedCodes codes
    let q := written.headD '\''
    let quote := (quotes.find? (·.contains q)).getD [q]
    (((written.drop 1).dropLast).map (·.toNat), [quote])
  else
    match escaped.getLast? with
    | none => (escaped, quotesLeft)
    | some last =>
      let clash (q : List Char) : Bool := (q.headD ' ').toNat == last
      let sorted := quotesLeft.filter (!clash ·) ++ quotesLeft.filter clash
      if sorted.head?.any clash then (escaped.dropLast ++ [0x5c, last], sorted) else (escaped, sorted)

/-- A text between the best quotes. -/
def fewEscapes (codes : List Nat) : List Char :=
  let (body, quotes) := quotable false allQuotes codes
  let q := quotes.headD ['\'']
  q ++ body.map Char.ofNat ++ q

/-- The pieces of a formatted text with quotes that suit all of them; the flag tells text from fields. -/
def quotePieces : List (List Char) → List (List Nat × Bool) → Option (List (List Nat) × List (List Char))
  | quotes, [] => some ([], quotes)
  | quotes, (codes, isText) :: rest =>
    let (body, left) := quotable isText quotes codes
    if left.any (quotes.contains ·) then (quotePieces left rest).map fun p => (body :: p.1, p.2) else none

/-- A formatted text from its pieces. If no quotes suit all pieces, each is escaped for three apostrophes. -/
def formattedText (pieces : List (List Nat × Bool)) : List Char :=
  match quotePieces allQuotes pieces with
  | some (bodies, quotes) =>
    let q := quotes.headD ['\'']
    q ++ bodies.flatten.map Char.ofNat ++ q
  | none =>
    let q := ['\'', '\'', '\'']
    q ++ (pieces.flatMap fun p => ((Text.quotedCodes (0x22 :: p.1)).drop 2).dropLast) ++ q

/-- Braces in the text of a formatted text are doubled. -/
def doubleBraces (codes : List Nat) : List Nat :=
  codes.flatMap fun c => if c = 0x7b || c = 0x7d then [c, c] else [c]

/-! ## Constants -/

/-- A number beyond the range is written as one that reads as such. -/
def finiteText (keepPoint : Bool) (x : Number.Double) : List Char :=
  match x with
  | .infinite _ => "1e309".toList
  | _ => Number.shortestText keepPoint x

/-- A whole number. -/
def wholeText (n : Nat) : Except RenderFault (List Char) :=
  let digits := Nat.toDigits 10 n
  if Number.maxDigits < digits.length then .error .tooManyDigits else .ok digits

/-- A constant; inside a field texts are written with few escapes. -/
def Constant.render (inField : Bool) : Constant → Except RenderFault (List Char)
  | .none => return "None".toList
  | .bool b => return (if b then "True" else "False").toList
  | .ellipsis => return "...".toList
  | .int n => wholeText n
  | .float x => return finiteText true x
  | .imaginary x => return finiteText false x ++ ['j']
  | .text codes marked =>
    return (if marked then ['u'] else []) ++ (if inField then fewEscapes codes else Text.quotedCodes codes)
  | .bytes values => return Text.quotedBytes values

/-- A whole number, as far as attributes are concerned: a point behind it would be read as part of it. -/
def Expr.isWholeNumber : Expr → Bool
  | .constant (.int _) | .constant (.bool _) => true
  | _ => false

/-- A constant, as a piece of a formatted text. -/
def Expr.isConstant : Expr → Bool
  | .constant _ => true
  | _ => false

/-- The code points of a field up to its format, from the text of its value. A brace at the front is set off by a
blank. -/
def fieldCodes (value : List Char) (conversion : Option Char) : Except RenderFault (List Nat) :=
  if value.contains '\\' then .error .backslashInField
  else
    let front := if value.head? == some '\x7b' then ['\x7b', ' '] else ['\x7b']
    let mark := match conversion with
      | some c => ['!', c]
      | none => []
    .ok ((front ++ value ++ mark).map (·.toNat))

/-- Between brackets if `rank` asks for something tighter than `own`. -/
def bracketed (rank own : Nat) (text : List Char) : List Char :=
  if own < rank then '(' :: text ++ [')'] else text

/-- Pieces with commas between them; a single piece gets a comma behind it. -/
def tupleText : List (List Char) → List Char
  | [one] => one ++ [',']
  | pieces => Text.joinWith [',', ' '] pieces

/-! ## Expressions -/

mutual

/-- The source text of an expression in a place that asks for `rank`. -/
def Expr.render (inField : Bool) (rank : Nat) : Expr → Except RenderFault (List Char)
  | .boolOp op values => do
    let (own, word) := match op with
      | .and => (Rank.and, " and ".toList)
      | .or => (Rank.or, " or ".toList)
    return bracketed rank own (Text.joinWith word (← renderRising inField own values))
  | .named target value => do
    let t ← target.render inField Rank.atom
    let v ← value.render inField Rank.atom
    return bracketed rank Rank.named (t ++ " := ".toList ++ v)
  | .binary left op right => do
    let own := op.rank
    let (l, r) := match op with
      | .pow => (Rank.next own, own)
      | _ => (own, Rank.next own)
    let lt ← left.render inField l
    let rt ← right.render inField r
    return bracketed rank own (lt ++ ' ' :: op.text.toList ++ ' ' :: rt)
  | .unary op operand => do
    return bracketed rank op.rank (op.text.toList ++ (← operand.render inField op.rank))
  | .lambda params body => do
    let ps ← params.render inField
    let b ← body.render inField Rank.test
    return bracketed rank Rank.test ("lambda".toList ++ (if ps.isEmpty then [] else ' ' :: ps) ++ ": ".toList ++ b)
  | .conditional test body otherwise => do
    let b ← body.render inField (Rank.next Rank.test)
    let t ← test.render inField (Rank.next Rank.test)
    let o ← otherwise.render inField Rank.test
    return bracketed rank Rank.test (b ++ " if ".toList ++ t ++ " else ".toList ++ o)
  | .dict items => do return '\x7b' :: Text.joinWith [',', ' '] (← renderItems inField items) ++ ['\x7d']
  | .set elements => do
    return '\x7b' :: Text.joinWith [',', ' '] (← renderAll inField elements) ++ ['\x7d']
  | .listComp element clauses => do
    return '[' :: (← element.render inField Rank.test) ++ (← renderClauses inField clauses) ++ [']']
  | .setComp element clauses => do
    return '\x7b' :: (← element.render inField Rank.test) ++ (← renderClauses inField clauses) ++ ['\x7d']
  | .dictComp key value clauses => do
    let k ← key.render inField Rank.test
    let v ← value.render inField Rank.test
    return '\x7b' :: k ++ ':' :: ' ' :: v ++ (← renderClauses inField clauses) ++ ['\x7d']
  | .generator element clauses => do
    return '(' :: (← element.render inField Rank.test) ++ (← renderClauses inField clauses) ++ [')']
  | .await value => do
    return bracketed rank Rank.await ("await ".toList ++ (← value.render inField Rank.atom))
  | .yield value => do
    let v ← renderOption inField [' '] Rank.atom value
    return bracketed rank Rank.yield ("yield".toList ++ v)
  | .yieldFrom value => do
    return bracketed rank Rank.yield ("yield from ".toList ++ (← value.render inField Rank.atom))
  | .compare left rest => do
    let l ← left.render inField (Rank.next Rank.compare)
    return bracketed rank Rank.compare (l ++ (← renderComparisons inField rest))
  | .call _ function args keywords => do
    let f ← function.render inField Rank.atom
    let as ← renderAll inField args
    let ks ← renderKeywords inField keywords
    return f ++ '(' :: Text.joinWith [',', ' '] (as ++ ks) ++ [')']
  | .formatted value conversion spec => do
    let v ← value.render true (Rank.next Rank.test)
    let field ← fieldCodes v conversion
    return (field ++ (← renderSpec spec) ++ [0x7d]).map Char.ofNat
  | .joined values => do
    if inField then return 'f' :: fewEscapes (← renderPieces values).flatten
    else return 'f' :: formattedText ((← renderPieces values).zip (values.map Expr.isConstant))
  | .constant value => value.render inField
  | .attribute value name => do
    let v ← value.render inField Rank.atom
    return v ++ (if value.isWholeNumber then [' '] else []) ++ '.' :: name.toList
  | .subscript value (.tuple (e :: es)) => do
    let v ← value.render inField Rank.atom
    let first ← e.render inField Rank.test
    return v ++ '[' :: tupleText (first :: (← renderAll inField es)) ++ [']']
  | .subscript value index => do
    let v ← value.render inField Rank.atom
    let i ← index.render inField Rank.test
    return v ++ '[' :: i ++ [']']
  | .starred value => do return '*' :: (← value.render inField Rank.bitOr)
  | .name id _ => return id.toList
  | .list elements => do return '[' :: Text.joinWith [',', ' '] (← renderAll inField elements) ++ [']']
  | .tuple elements => do
    let body := tupleText (← renderAll inField elements)
    return if elements.isEmpty then ['(', ')'] else bracketed rank Rank.tuple body
  | .slice lower upper step => do
    let l ← renderOption inField [] Rank.test lower
    let u ← renderOption inField [] Rank.test upper
    let s ← renderOption inField [':'] Rank.test step
    return l ++ ':' :: u ++ s

/-- An optional expression with `front` before it. -/
def renderOption (inField : Bool) (front : List Char) (rank : Nat) : Option Expr → Except RenderFault (List Char)
  | none => return []
  | some e => do return front ++ (← e.render inField rank)

/-- Several expressions. -/
def renderAll (inField : Bool) : List Expr → Except RenderFault (List (List Char))
  | [] => return []
  | e :: es => do return (← e.render inField Rank.test) :: (← renderAll inField es)

/-- The operands of a disjunction or conjunction: each asks for a tighter rank than the one before. -/
def renderRising (inField : Bool) (rank : Nat) : List Expr → Except RenderFault (List (List Char))
  | [] => return []
  | e :: es => do
    return (← e.render inField (Rank.next rank)) :: (← renderRising inField (Rank.next rank) es)

/-- The entries of a dictionary. -/
def renderItems (inField : Bool) : List DictItem → Except RenderFault (List (List Char))
  | [] => return []
  | ⟨none, value⟩ :: rest => do
    let v ← value.render inField Rank.bitOr
    return ('*' :: '*' :: v) :: (← renderItems inField rest)
  | ⟨some key, value⟩ :: rest => do
    let k ← key.render inField Rank.test
    let v ← value.render inField Rank.test
    return (k ++ ':' :: ' ' :: v) :: (← renderItems inField rest)

/-- The further operands of a comparison. -/
def renderComparisons (inField : Bool) : List Comparison → Except RenderFault (List Char)
  | [] => return []
  | ⟨op, operand⟩ :: rest => do
    let t ← operand.render inField (Rank.next Rank.compare)
    return ' ' :: op.text.toList ++ ' ' :: t ++ (← renderComparisons inField rest)

/-- The keyword arguments of a call. -/
def renderKeywords (inField : Bool) : List Keyword → Except RenderFault (List (List Char))
  | [] => return []
  | ⟨name, value⟩ :: rest => do
    let v ← value.render inField Rank.test
    let front := match name with
      | some n => n.toList ++ ['=']
      | none => ['*', '*']
    return (front ++ v) :: (← renderKeywords inField rest)

/-- The conditions of a clause. -/
def renderConditions (inField : Bool) : List Expr → Except RenderFault (List Char)
  | [] => return []
  | e :: es => do
    return " if ".toList ++ (← e.render inField (Rank.next Rank.test)) ++ (← renderConditions inField es)

/-- The clauses of a comprehension. -/
def renderClauses (inField : Bool) : List Clause → Except RenderFault (List Char)
  | [] => return []
  | ⟨target, iter, conditions, isAsync⟩ :: rest => do
    let t ← target.render inField Rank.tuple
    let i ← iter.render inField (Rank.next Rank.test)
    let cs ← renderConditions inField conditions
    let front := (if isAsync then " async for " else " for ").toList
    return front ++ t ++ " in ".toList ++ i ++ cs ++ (← renderClauses inField rest)

/-- A parameter with its type hint and default. -/
def Param.render (inField : Bool) : Param → Except RenderFault (List Char)
  | ⟨name, typeHint, default⟩ => do
    let a ← renderOption inField [':', ' '] Rank.test typeHint
    let d ← renderOption inField ['='] Rank.test default
    return name.toList ++ a ++ d

/-- Several parameters. -/
def renderParams (inField : Bool) : List Param → Except RenderFault (List (List Char))
  | [] => return []
  | p :: ps => do return (← p.render inField) :: (← renderParams inField ps)

/-- An optional parameter behind stars. -/
def renderStarParam (inField : Bool) (stars : List Char) : Option Param → Except RenderFault (List (List Char))
  | none => return []
  | some p => do return [stars ++ (← p.render inField)]

/-- A parameter list: a slash ends the positional ones, a star opens those that need their name. -/
def Params.render (inField : Bool) : Params → Except RenderFault (List Char)
  | ⟨positionalOnly, regular, variadic, keywordOnly, keywordVariadic⟩ => do
    let po ← renderParams inField positionalOnly
    let re ← renderParams inField regular
    let va ← renderStarParam inField ['*'] variadic
    let ko ← renderParams inField keywordOnly
    let kv ← renderStarParam inField ['*', '*'] keywordVariadic
    let slash := if po.isEmpty then [] else [['/']]
    let star := if va.isEmpty && !ko.isEmpty then [['*']] else va
    return Text.joinWith [',', ' '] (po ++ slash ++ re ++ star ++ ko ++ kv)

/-- The code points of a field's format. -/
def renderSpec : Option Expr → Except RenderFault (List Nat)
  | none => return []
  | some e => do return 0x3a :: (← renderPiece e)

/-- The code points of one piece of a formatted text. -/
def renderPiece : Expr → Except RenderFault (List Nat)
  | .joined values => do return (← renderPieces values).flatten
  | .constant (.text codes _) => return doubleBraces codes
  | .formatted value conversion spec => do
    let v ← value.render true (Rank.next Rank.test)
    let field ← fieldCodes v conversion
    return field ++ (← renderSpec spec) ++ [0x7d]
  | _ => return []

/-- The code points of the pieces of a formatted text. -/
def renderPieces : List Expr → Except RenderFault (List (List Nat))
  | [] => return []
  | e :: es => do return (← renderPiece e) :: (← renderPieces es)

end

/-- The source text of an expression that stands alone. -/
def Expr.text (e : Expr) : Except RenderFault String := String.ofList <$> e.render false Rank.test

/-- The first line of a function: its name, parameters and result. -/
def Function.signature (f : Function) : Except RenderFault String := do
  let returns ← match f.returns with
    | some e => do pure (" -> ".toList ++ (← e.render false Rank.test))
    | none => pure []
  let params ← f.params.render false
  let front := if f.isAsync then "async def " else "def "
  return front ++ f.name ++ String.ofList ('(' :: params ++ ')' :: returns)

end CallAtlas.Source
