import CallAtlas.Callable
import CallAtlas.Source.Render
import CallAtlas.Source.Walk

/-!
# Definitions in a source file

What a function definition says about itself: the names of its decorators, its kind, its documentation. And which
definitions and imports a block makes, where `if`, `try` and `with` blocks belong to the block they stand in.
-/

namespace CallAtlas.Source

/-- The dotted name that a chain of attributes spells. -/
def Expr.dotted? : Expr → Option String
  | .name id _ => some id
  | .attribute value attr => (value.dotted?).map fun front => front ++ "." ++ attr
  | _ => none

/-- The dotted name of a decorator, with or without arguments; empty if it has none. -/
def Expr.nameAsDecorator : Expr → String
  | .call _ function _ _ => (function.dotted?).getD ""
  | e => (e.dotted?).getD ""

/-- The operators that a method name can stand for on either side and in place. -/
def binaryOperatorWords : List String :=
  ["add", "sub", "mul", "matmul", "truediv", "floordiv", "mod", "divmod", "pow", "lshift", "rshift", "and", "xor", "or"]

/-- The names of operator methods. -/
def operatorNames : List String :=
  let wrap (word : String) : String := "__" ++ word ++ "__"
  binaryOperatorWords.map wrap
    ++ binaryOperatorWords.map (fun w => wrap ("r" ++ w))
    ++ (binaryOperatorWords.filter (· != "divmod")).map (fun w => wrap ("i" ++ w))
    ++ ["neg", "pos", "abs", "invert", "eq", "ne", "lt", "le", "gt", "ge", "contains", "getitem", "setitem", "delitem"].map wrap

/-- Decorators that make a property. -/
def propertyDecorators : List String :=
  ["property", "cached_property", "functools.cached_property", "abc.abstractproperty"]

/-- The kind that one decorator gives a function, if it does. -/
def decoratedKind? (decorator : String) : Option CallableKind :=
  if propertyDecorators.contains decorator || decorator.endsWith ".getter" then some .propertyGet
  else if decorator.endsWith ".setter" then some .propertySet
  else if decorator.endsWith ".deleter" then some .propertyDelete
  else none

/-- The kind that a name gives a method. -/
def namedKind (name : String) : CallableKind :=
  if name == "__init__" || name == "__new__" then .constructor
  else if name == "__del__" then .destructor
  else if name == "__get__" then .propertyGet
  else if name == "__set__" then .propertySet
  else if name == "__delete__" then .propertyDelete
  else if operatorNames.contains name then .userOperator
  else .ordinary

/-- The names of a function's decorators. -/
def Function.decoratorNames (f : Function) : List String := f.decorators.map Expr.nameAsDecorator

/-- The kind of a function: the first decorator that decides, else its name if it stands in a class. -/
def Function.kind (inClass : Bool) (f : Function) : CallableKind :=
  match f.decoratorNames.findSome? decoratedKind? with
  | some kind => kind
  | none => if inClass then namedKind f.name else .ordinary

/-- The text that opens a function's body, if its first statement is one. -/
def Function.documentation (f : Function) : Option String :=
  match f.body with
  | .evaluate (.constant (.text codes _)) :: _ => some (String.ofList (codes.map Char.ofNat))
  | _ => none

mutual

/-- The definitions and imports that a statement makes in its block: the statement itself, or those of the inner blocks
of `if`, `try` and `with`, handlers last. -/
def Stmt.definitions : Stmt → List Stmt
  | .functionDef f => [.functionDef f]
  | .classDef c => [.classDef c]
  | .imports i start => [.imports i start]
  | .ifElse _ body otherwise => definitionsOf body ++ definitionsOf otherwise
  | .withBlock _ _ body => definitionsOf body
  | .tryBlock _ body handlers otherwise final =>
    definitionsOf body ++ definitionsOf otherwise ++ definitionsOf final ++ definitionsOfHandlers handlers
  | _ => []

/-- The definitions and imports that a block makes. -/
def definitionsOf : List Stmt → List Stmt
  | [] => []
  | s :: ss => s.definitions ++ definitionsOf ss

/-- The definitions and imports that handlers make. -/
def definitionsOfHandlers : List Handler → List Stmt
  | [] => []
  | ⟨_, _, body⟩ :: rest => definitionsOf body ++ definitionsOfHandlers rest

end

/-- The function definitions among some nodes. -/
def functionsIn (nodes : List Node) : List Function :=
  nodes.filterMap fun
    | .stmt (.functionDef f) => some f
    | _ => none

/-- The function definitions of a file in breadth-first order. -/
def functionsOf (body : List Stmt) : List Function := functionsIn (walkModule body)

end CallAtlas.Source
