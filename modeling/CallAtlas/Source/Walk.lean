import CallAtlas.Source.Tree

/-!
# Walking a tree level by level

The nodes of a tree in breadth-first order: first the root, then its children, then theirs. A tree's levels are built
from the levels of its children set side by side, so the walk is plain recursion on the tree. Nodes that are neither
expressions nor statements take a level but are not listed.
-/

namespace CallAtlas.Source

/-- A node that a walk lists. -/
inductive Node where
  | expr (e : Expr)
  | stmt (s : Stmt)

/-- The nodes of a forest by their depth. -/
abbrev Levels := List (List Node)

/-- Two forests side by side. -/
def Levels.beside : Levels → Levels → Levels
  | [], ys => ys
  | x :: xs, [] => x :: xs
  | x :: xs, y :: ys => (x ++ y) :: Levels.beside xs ys

mutual

/-- The levels of an expression. -/
def Expr.levels (e : Expr) : Levels :=
  [.expr e] :: match e with
    | .boolOp _ values => levelsOfAll values
    | .named target value => target.levels.beside value.levels
    | .binary left _ right => left.levels.beside right.levels
    | .unary _ operand => operand.levels
    | .lambda params body => params.levels.beside body.levels
    | .conditional test body otherwise => test.levels.beside (body.levels.beside otherwise.levels)
    | .dict items => (levelsOfKeys items).beside (levelsOfValues items)
    | .set elements => levelsOfAll elements
    | .listComp element clauses => element.levels.beside (levelsOfClauses clauses)
    | .setComp element clauses => element.levels.beside (levelsOfClauses clauses)
    | .dictComp key value clauses => key.levels.beside (value.levels.beside (levelsOfClauses clauses))
    | .generator element clauses => element.levels.beside (levelsOfClauses clauses)
    | .await value => value.levels
    | .yield value => levelsOfOption value
    | .yieldFrom value => value.levels
    | .compare left rest => left.levels.beside (levelsOfComparisons rest)
    | .call _ function args keywords =>
      function.levels.beside ((levelsOfAll args).beside (levelsOfKeywords keywords))
    | .formatted value _ spec => value.levels.beside (levelsOfOption spec)
    | .joined values => levelsOfAll values
    | .constant _ => []
    | .attribute value _ => value.levels
    | .subscript value index => value.levels.beside index.levels
    | .starred value => value.levels
    | .name _ _ => []
    | .list elements => levelsOfAll elements
    | .tuple elements => levelsOfAll elements
    | .slice lower upper step =>
      (levelsOfOption lower).beside ((levelsOfOption upper).beside (levelsOfOption step))

/-- The levels of expressions side by side. -/
def levelsOfAll : List Expr → Levels
  | [] => []
  | e :: es => e.levels.beside (levelsOfAll es)

/-- The levels of an optional expression. -/
def levelsOfOption : Option Expr → Levels
  | none => []
  | some e => e.levels

/-- The levels of the keys of a dictionary. -/
def levelsOfKeys : List DictItem → Levels
  | [] => []
  | ⟨key, _⟩ :: items => (levelsOfOption key).beside (levelsOfKeys items)

/-- The levels of the values of a dictionary. -/
def levelsOfValues : List DictItem → Levels
  | [] => []
  | ⟨_, value⟩ :: items => value.levels.beside (levelsOfValues items)

/-- The levels of the further operands of a comparison. -/
def levelsOfComparisons : List Comparison → Levels
  | [] => []
  | ⟨_, operand⟩ :: rest => operand.levels.beside (levelsOfComparisons rest)

/-- The levels of the clauses of a comprehension. -/
def levelsOfClauses : List Clause → Levels
  | [] => []
  | ⟨target, iter, conditions, _⟩ :: rest =>
    Levels.beside ([] :: target.levels.beside (iter.levels.beside (levelsOfAll conditions))) (levelsOfClauses rest)

/-- The levels of keyword arguments. -/
def levelsOfKeywords : List Keyword → Levels
  | [] => []
  | ⟨_, value⟩ :: rest => Levels.beside ([] :: value.levels) (levelsOfKeywords rest)

/-- The levels of parameters: of their annotations, without the defaults. -/
def levelsOfParams : List Param → Levels
  | [] => []
  | ⟨_, typeHint, _⟩ :: rest => Levels.beside ([] :: levelsOfOption typeHint) (levelsOfParams rest)

/-- The levels of the defaults of parameters. -/
def levelsOfDefaults : List Param → Levels
  | [] => []
  | ⟨_, _, default⟩ :: rest => (levelsOfOption default).beside (levelsOfDefaults rest)

/-- The levels of an optional parameter. -/
def levelsOfParam? : Option Param → Levels
  | none => []
  | some ⟨_, typeHint, _⟩ => [] :: levelsOfOption typeHint

/-- The levels of a parameter list. -/
def Params.levels : Params → Levels
  | ⟨positionalOnly, regular, variadic, keywordOnly, keywordVariadic⟩ =>
    [] :: (levelsOfParams positionalOnly).beside ((levelsOfParams regular).beside ((levelsOfParam? variadic).beside
      ((levelsOfParams keywordOnly).beside ((levelsOfDefaults keywordOnly).beside
        ((levelsOfParam? keywordVariadic).beside
          ((levelsOfDefaults positionalOnly).beside (levelsOfDefaults regular)))))))

end

mutual

/-- The levels of a pattern. -/
def Pattern.levels : Pattern → Levels
  | .value value => [] :: value.levels
  | .singleton _ => [[]]
  | .sequence patterns => [] :: levelsOfPatterns patterns
  | .mapping keys patterns _ => [] :: (levelsOfAll keys).beside (levelsOfPatterns patterns)
  | .ofClass cls patterns keywordPatterns =>
    [] :: cls.levels.beside ((levelsOfPatterns patterns).beside (levelsOfKeywordPatterns keywordPatterns))
  | .star _ => [[]]
  | .capture pattern _ => [] :: levelsOfPattern? pattern
  | .alternatives patterns => [] :: levelsOfPatterns patterns

/-- The levels of patterns side by side. -/
def levelsOfPatterns : List Pattern → Levels
  | [] => []
  | p :: ps => p.levels.beside (levelsOfPatterns ps)

/-- The levels of patterns for attributes. -/
def levelsOfKeywordPatterns : List KeywordPattern → Levels
  | [] => []
  | ⟨_, p⟩ :: ps => p.levels.beside (levelsOfKeywordPatterns ps)

/-- The levels of an optional pattern. -/
def levelsOfPattern? : Option Pattern → Levels
  | none => []
  | some p => p.levels

end

/-- The levels of the items of a `with` statement. -/
def levelsOfItems : List WithItem → Levels
  | [] => []
  | ⟨context, target⟩ :: rest =>
    Levels.beside ([] :: context.levels.beside (levelsOfOption target)) (levelsOfItems rest)

mutual

/-- The levels of a statement. -/
def Stmt.levels (s : Stmt) : Levels :=
  [.stmt s] :: match s with
    | .functionDef ⟨_, params, body, decorators, returns, _, _⟩ =>
      params.levels.beside ((levelsOfBlock body).beside ((levelsOfAll decorators).beside (levelsOfOption returns)))
    | .classDef ⟨_, bases, keywords, body, decorators, _⟩ =>
      (levelsOfAll bases).beside ((levelsOfKeywords keywords).beside ((levelsOfBlock body).beside
        (levelsOfAll decorators)))
    | .result value => levelsOfOption value
    | .delete targets => levelsOfAll targets
    | .assign targets value => (levelsOfAll targets).beside value.levels
    | .augmented target _ value => target.levels.beside value.levels
    | .annotated target typeHint value => target.levels.beside (typeHint.levels.beside (levelsOfOption value))
    | .forLoop _ target iter body otherwise =>
      target.levels.beside (iter.levels.beside ((levelsOfBlock body).beside (levelsOfBlock otherwise)))
    | .whileLoop test body otherwise => test.levels.beside ((levelsOfBlock body).beside (levelsOfBlock otherwise))
    | .ifElse test body otherwise => test.levels.beside ((levelsOfBlock body).beside (levelsOfBlock otherwise))
    | .withBlock _ items body => (levelsOfItems items).beside (levelsOfBlock body)
    | .matchBlock subject cases => subject.levels.beside (levelsOfCases cases)
    | .raise exception cause => (levelsOfOption exception).beside (levelsOfOption cause)
    | .tryBlock _ body handlers otherwise final =>
      (levelsOfBlock body).beside ((levelsOfHandlers handlers).beside ((levelsOfBlock otherwise).beside
        (levelsOfBlock final)))
    | .assertion test message => test.levels.beside (levelsOfOption message)
    | .evaluate value => value.levels
    | .imports _ _ | .globalNames _ | .nonlocalNames _ | .pass | .breakLoop | .continueLoop => []

/-- The levels of statements side by side. -/
def levelsOfBlock : List Stmt → Levels
  | [] => []
  | s :: ss => s.levels.beside (levelsOfBlock ss)

/-- The levels of exception handlers. -/
def levelsOfHandlers : List Handler → Levels
  | [] => []
  | ⟨type, _, body⟩ :: rest =>
    Levels.beside ([] :: (levelsOfOption type).beside (levelsOfBlock body)) (levelsOfHandlers rest)

/-- The levels of the cases of a `match` statement. -/
def levelsOfCases : List MatchCase → Levels
  | [] => []
  | ⟨pattern, guard, body⟩ :: rest =>
    Levels.beside ([] :: pattern.levels.beside ((levelsOfOption guard).beside (levelsOfBlock body)))
      (levelsOfCases rest)

end

/-- The nodes of a statement in breadth-first order. -/
def Stmt.walk (s : Stmt) : List Node := s.levels.flatten

/-- The nodes of a whole file in breadth-first order. -/
def walkModule (body : List Stmt) : List Node := (levelsOfBlock body).flatten

end CallAtlas.Source
