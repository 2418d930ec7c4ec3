import CallAtlas.Number.Double
import CallAtlas.Source.Position

/-!
# Syntax trees

Expressions and statements of a Python source file. Only the places that are asked for are kept: where a call starts,
and where a function or class definition starts and ends. Fields stand in the order in which a walk visits them.
-/

namespace CallAtlas.Source

/-- What a name in an expression is there for. -/
inductive Usage where
  | load
  | store
  | delete
  deriving Repr, DecidableEq, Inhabited

/-- Operators on one operand. -/
inductive UnaryOp where
  | invert
  | not
  | plus
  | minus
  deriving Repr, DecidableEq, Inhabited

/-- Operators on two operands. -/
inductive BinaryOp where
  | add
  | sub
  | mul
  | matMul
  | div
  | mod
  | leftShift
  | rightShift
  | bitOr
  | bitXor
  | bitAnd
  | floorDiv
  | pow
  deriving Repr, DecidableEq, Inhabited

/-- Operators that stop at the first operand that decides. -/
inductive BoolOp where
  | and
  | or
  deriving Repr, DecidableEq, Inhabited

/-- Comparison operators. -/
inductive CompareOp where
  | eq
  | notEq
  | lt
  | le
  | gt
  | ge
  | is
  | isNot
  | isIn
  | notIn
  deriving Repr, DecidableEq, Inhabited

/-- Literal values. A text is a list of code points, because an escape may name half of a surrogate pair. -/
inductive Constant where
  | none
  | bool (value : Bool)
  | ellipsis
  | int (value : Nat)
  | float (value : Number.Double)
  | imaginary (value : Number.Double)
  | text (codes : List Nat) (marked : Bool)
  | bytes (values : List Nat)
  deriving Repr, DecidableEq, Inhabited

mutual

/-- Expressions. -/
inductive Expr where
  | boolOp (op : BoolOp) (values : List Expr)
  | named (target value : Expr)
  | binary (left : Expr) (op : BinaryOp) (right : Expr)
  | unary (op : UnaryOp) (operand : Expr)
  | lambda (params : Params) (body : Expr)
  | conditional (test body otherwise : Expr)
  | dict (items : List DictItem)
  | set (elements : List Expr)
  | listComp (element : Expr) (clauses : List Clause)
  | setComp (element : Expr) (clauses : List Clause)
  | dictComp (key value : Expr) (clauses : List Clause)
  | generator (element : Expr) (clauses : List Clause)
  | await (value : Expr)
  | yield (value : Option Expr)
  | yieldFrom (value : Expr)
  | compare (left : Expr) (rest : List Comparison)
  | call (start : Position) (function : Expr) (args : List Expr) (keywords : List Keyword)
  | formatted (value : Expr) (conversion : Option Char) (spec : Option Expr)
  | joined (values : List Expr)
  | constant (value : Constant)
  | attribute (value : Expr) (name : String)
  | subscript (value index : Expr)
  | starred (value : Expr)
  | name (id : String) (usage : Usage)
  | list (elements : List Expr)
  | tuple (elements : List Expr)
  | slice (lower upper step : Option Expr)

/-- An entry of a dictionary display; without a key it is unpacked. -/
structure DictItem where
  key : Option Expr
  value : Expr

/-- One further operand of a comparison. -/
structure Comparison where
  op : CompareOp
  operand : Expr

/-- One `for` clause of a comprehension with its conditions. -/
structure Clause where
  target : Expr
  iter : Expr
  conditions : List Expr
  isAsync : Bool

/-- A keyword argument; without a name it is unpacked. -/
structure Keyword where
  name : Option String
  value : Expr

/-- One parameter. -/
structure Param where
  name : String
  typeHint : Option Expr
  default : Option Expr

/-- The parameters of a function. -/
structure Params where
  positionalOnly : List Param
  regular : List Param
  variadic : Option Param
  keywordOnly : List Param
  keywordVariadic : Option Param

end

/-- One name of an import: what is imported and the name it is bound to, if another is given. -/
structure Alias where
  name : String
  boundAs : Option String
  deriving Repr, DecidableEq, Inhabited

/-- An import statement: of modules, or of names from a module. -/
inductive Import where
  | modules (names : List Alias)
  | members (module : Option String) (names : List Alias) (level : Nat)
  deriving Repr, DecidableEq, Inhabited

/-- One item of a `with` statement. -/
structure WithItem where
  context : Expr
  target : Option Expr

mutual

/-- Patterns of a `match` statement. -/
inductive Pattern where
  | value (value : Expr)
  | singleton (value : Constant)
  | sequence (patterns : List Pattern)
  | mapping (keys : List Expr) (patterns : List Pattern) (rest : Option String)
  | ofClass (cls : Expr) (patterns : List Pattern) (keywordPatterns : List KeywordPattern)
  | star (name : Option String)
  | capture (pattern : Option Pattern) (name : Option String)
  | alternatives (patterns : List Pattern)

/-- A pattern for an attribute. -/
structure KeywordPattern where
  name : String
  pattern : Pattern

end

mutual

/-- A function definition. -/
structure Function where
  name : String
  params : Params
  body : List Stmt
  decorators : List Expr
  returns : Option Expr
  isAsync : Bool
  span : Span

/-- A class definition. -/
structure Class where
  name : String
  bases : List Expr
  keywords : List Keyword
  body : List Stmt
  decorators : List Expr
  span : Span

/-- An exception handler. -/
structure Handler where
  type : Option Expr
  name : Option String
  body : List Stmt

/-- One case of a `match` statement. -/
structure MatchCase where
  pattern : Pattern
  guard : Option Expr
  body : List Stmt

/-- Statements. -/
inductive Stmt where
  | functionDef (definition : Function)
  | classDef (definition : Class)
  | result (value : Option Expr)
  | delete (targets : List Expr)
  | assign (targets : List Expr) (value : Expr)
  | augmented (target : Expr) (op : BinaryOp) (value : Expr)
  | annotated (target typeHint : Expr) (value : Option Expr)
  | forLoop (isAsync : Bool) (target iter : Expr) (body otherwise : List Stmt)
  | whileLoop (test : Expr) (body otherwise : List Stmt)
  | ifElse (test : Expr) (body otherwise : List Stmt)
  | withBlock (isAsync : Bool) (items : List WithItem) (body : List Stmt)
  | matchBlock (subject : Expr) (cases : List MatchCase)
  | raise (exception cause : Option Expr)
  | tryBlock (isStar : Bool) (body : List Stmt) (handlers : List Handler) (otherwise final : List Stmt)
  | assertion (test : Expr) (message : Option Expr)
  | imports (statement : Import) (start : Position)
  | globalNames (names : List String)
  | nonlocalNames (names : List String)
  | evaluate (value : Expr)
  | pass
  | breakLoop
  | continueLoop

end

end CallAtlas.Source
