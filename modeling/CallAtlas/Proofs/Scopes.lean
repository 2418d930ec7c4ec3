import CallAtlas.Proofs.Grammar.Statements
import CallAtlas.Proofs.SourceOrder

/-!
# Scopes

The body of a function is a scope. Blocks of compound statements belong to the scope they stand in. The body of a nested
function or class and that of a lambda expression are scopes of their own; what is evaluated where these are defined
(decorators, defaults, type hints, base classes) is not. A comprehension has variables of its own, but a name that is
bound by `:=` in it is bound around it. `InScope` lists the nodes of a scope by these rules, `Function.IsLocal` the
names that they make local to a function. A walk through the body meets all nodes of the scope, and a name that a target
of one of them binds is met as a name that is not only read.
-/

namespace CallAtlas.Source

/-! ## Nodes of a scope -/

/-- All parameters. -/
def Params.all (ps : Params) : List Param :=
  ps.positionalOnly ++ ps.regular ++ ps.keywordOnly ++ ps.variadic.toList ++ ps.keywordVariadic.toList

/-- The expressions in a parameter list, which are evaluated in the scope around the function: type hints, and defaults
of parameters that are not variadic. -/
def Params.parts (ps : Params) : List Expr :=
  ps.all.filterMap (·.typeHint) ++ (ps.positionalOnly ++ ps.regular ++ ps.keywordOnly).filterMap (·.default)

/-- The expressions in the clauses of a comprehension. -/
def partsOfClauses (clauses : List Clause) : List Expr := clauses.flatMap fun c => c.target :: c.iter :: c.conditions

/-- The expressions right inside an expression that belong to the same scope. -/
def Expr.parts : Expr → List Expr
  | .boolOp _ values => values
  | .named target value => [target, value]
  | .binary left _ right => [left, right]
  | .unary _ operand => [operand]
  | .lambda params _ => params.parts
  | .conditional test body otherwise => [test, body, otherwise]
  | .dict items => items.flatMap fun i => i.key.toList ++ [i.value]
  | .set elements => elements
  | .listComp element clauses => element :: partsOfClauses clauses
  | .setComp element clauses => element :: partsOfClauses clauses
  | .dictComp key value clauses => key :: value :: partsOfClauses clauses
  | .generator element clauses => element :: partsOfClauses clauses
  | .await value => [value]
  | .yield value => value.toList
  | .yieldFrom value => [value]
  | .compare left rest => left :: rest.map (·.operand)
  | .call _ function args keywords => function :: (args ++ keywords.map (·.value))
  | .formatted value _ spec => value :: spec.toList
  | .joined values => values
  | .constant _ => []
  | .attribute value _ => [value]
  | .subscript value index => [value, index]
  | .starred value => [value]
  | .name _ _ => []
  | .list elements => elements
  | .tuple elements => elements
  | .slice lower upper step => lower.toList ++ upper.toList ++ step.toList

/-- The expressions right inside a statement that belong to the same scope. -/
def Stmt.parts : Stmt → List Expr
  | .functionDef f => f.params.parts ++ f.decorators ++ f.returns.toList
  | .classDef c => c.bases ++ c.keywords.map (·.value) ++ c.decorators
  | .result value => value.toList
  | .delete targets => targets
  | .assign targets value => targets ++ [value]
  | .augmented target _ value => [target, value]
  | .annotated target typeHint value => target :: typeHint :: value.toList
  | .forLoop _ target iter _ _ => [target, iter]
  | .whileLoop test _ _ => [test]
  | .ifElse test _ _ => [test]
  | .withBlock _ items _ => items.flatMap fun i => i.context :: i.target.toList
  | .matchBlock subject cases => subject :: cases.filterMap (·.guard)
  | .raise exception cause => exception.toList ++ cause.toList
  | .tryBlock _ _ handlers _ _ => handlers.filterMap (·.type)
  | .assertion test message => test :: message.toList
  | .evaluate value => [value]
  | .imports _ _ | .globalNames _ | .nonlocalNames _ | .pass | .breakLoop | .continueLoop => []

/-- The blocks right inside a statement that belong to the same scope. -/
def Stmt.ownBlocks : Stmt → List (List Stmt)
  | .functionDef _ | .classDef _ => []
  | s => s.blocks

/-- The nodes right inside a node that belong to the same scope. -/
def Node.inner : Node → List Node
  | .expr e => e.parts.map .expr
  | .stmt s => s.parts.map .expr ++ s.ownBlocks.flatten.map .stmt

/-- The nodes of the scope that the body of a function is. -/
inductive InScope (body : List Stmt) : Node → Prop where
  | top {s : Stmt} (mem : s ∈ body) : InScope body (.stmt s)
  | inner {x y : Node} (around : InScope body x) (mem : y ∈ x.inner) : InScope body y

namespace InScope

variable {body : List Stmt} {s : Stmt}

theorem block (around : InScope body (.stmt s)) {block : List Stmt} (own : block ∈ s.ownBlocks) {t : Stmt}
    (mem : t ∈ block) : InScope body (.stmt t) :=
  around.inner (List.mem_append_right _ (List.mem_map_of_mem (List.mem_flatten.2 ⟨block, own, mem⟩)))

theorem part (around : InScope body (.stmt s)) {e : Expr} (mem : e ∈ s.parts) : InScope body (.expr e) :=
  around.inner (List.mem_append_left _ (List.mem_map_of_mem mem))

end InScope

/-! ## Names that a scope binds -/

mutual

/-- The names that a pattern binds. -/
def Pattern.captures : Pattern → List String
  | .value _ | .singleton _ => []
  | .sequence patterns => capturesOf patterns
  | .mapping _ patterns rest => capturesOf patterns ++ rest.toList
  | .ofClass _ patterns keywordPatterns => capturesOf patterns ++ capturesOfKeywords keywordPatterns
  | .star name => name.toList
  | .capture pattern name => capturesOf? pattern ++ name.toList
  | .alternatives patterns => capturesOf patterns

/-- The names that patterns bind. -/
def capturesOf : List Pattern → List String
  | [] => []
  | p :: ps => p.captures ++ capturesOf ps

/-- The names that patterns for attributes bind. -/
def capturesOfKeywords : List KeywordPattern → List String
  | [] => []
  | ⟨_, p⟩ :: ps => p.captures ++ capturesOfKeywords ps

/-- The names that an optional pattern binds. -/
def capturesOf? : Option Pattern → List String
  | none => []
  | some p => p.captures

end

/-- The name that a definition is bound to. -/
def Node.definedName? : Node → Option String
  | .stmt (.functionDef f) => some f.name
  | .stmt (.classDef c) => some c.name
  | _ => none

/-- The names that a node binds by a target or a definition. -/
def Node.boundNames (x : Node) : List String := (targetNamesOf x.targets).map (·.1) ++ x.definedName?.toList

/-- The names that a node binds by a handler or a pattern. -/
def Node.capturedNames : Node → List String
  | .stmt (.tryBlock _ _ handlers _ _) => handlers.filterMap (·.name)
  | .stmt (.matchBlock _ cases) => cases.flatMap (·.pattern.captures)
  | _ => []

/-- The names that a node says belong to a scope outside. -/
def Node.outerNames : Node → List String
  | .stmt (.globalNames names) => names
  | .stmt (.nonlocalNames names) => names
  | _ => []

/-- The function binds the name as a parameter, or in its own scope by a target or a definition. -/
def Function.Binds (f : Function) (name : String) : Prop :=
  (∃ p ∈ f.params.all, p.name = name) ∨ ∃ x, InScope f.body x ∧ name ∈ x.boundNames

/-- The function binds the name in its own scope by a handler or a pattern. -/
def Function.Captures (f : Function) (name : String) : Prop := ∃ x, InScope f.body x ∧ name ∈ x.capturedNames

/-- The name is a local variable of the function: it is bound there, and not said to belong to a scope outside. -/
def Function.IsLocal (f : Function) (name : String) : Prop :=
  (f.Binds name ∨ f.Captures name) ∧ ∀ x, InScope f.body x → name ∉ x.outerNames

/-! ## Walks through a scope -/

/-- The nodes below a node by their depth, itself first. -/
def Node.levels : Node → Levels
  | .expr e => e.levels
  | .stmt s => s.levels

section All

variable {P : Node → Prop}

theorem Params.all_parts {ps : Params} (h : ps.levels.All P) : ∀ e ∈ ps.parts, e.levels.All P := by
  obtain ⟨positionalOnly, regular, variadic, keywordOnly, keywordVariadic⟩ := ps
  simp only [Params.levels, Levels.all_cons, Levels.all_beside, Levels.all_levelsOfParams, Levels.all_levelsOfDefaults,
    Levels.all_levelsOfParam?] at h
  grind [Params.parts, Params.all]

theorem Expr.all_parts {e : Expr} (h : e.levels.All P) : ∀ e' ∈ e.parts, e'.levels.All P := by
  match e with
  | .lambda params body =>
    simp only [Expr.levels, Levels.all_cons, Levels.all_beside] at h
    exact Params.all_parts h.2.1
  | .dict items =>
    simp only [Expr.levels, Levels.all_cons, Levels.all_beside, Levels.all_levelsOfKeys, Levels.all_levelsOfValues] at h
    grind [Expr.parts]
  | .listComp element clauses | .setComp element clauses | .generator element clauses | .dictComp key value clauses =>
    simp only [Expr.levels, Levels.all_cons, Levels.all_beside, Levels.all_levelsOfClauses] at h
    grind [Expr.parts, partsOfClauses]
  | .boolOp .. | .named .. | .binary .. | .unary .. | .conditional .. | .set .. | .await .. | .yield .. | .yieldFrom ..
  | .compare .. | .call .. | .formatted .. | .joined .. | .constant .. | .attribute .. | .subscript .. | .starred ..
  | .name .. | .list .. | .tuple .. | .slice .. =>
    simp only [Expr.levels, Levels.all_cons, Levels.all_beside, Levels.all_levelsOfAll, Levels.all_levelsOfOption,
      Levels.all_levelsOfComparisons, Levels.all_levelsOfKeywords] at h
    grind [Expr.parts]

theorem Stmt.all_parts {s : Stmt} (h : s.levels.All P) : ∀ e ∈ s.parts, e.levels.All P := by
  cases s with
  | functionDef f =>
    cases f
    simp only [Stmt.levels, Levels.all_cons, Levels.all_beside, Levels.all_levelsOfAll, Levels.all_levelsOfOption] at h
    have params := Params.all_parts h.2.1
    grind [Stmt.parts]
  | classDef c =>
    cases c
    simp only [Stmt.levels, Levels.all_cons, Levels.all_beside, Levels.all_levelsOfAll,
      Levels.all_levelsOfKeywords] at h
    grind [Stmt.parts]
  | withBlock isAsync items body =>
    simp only [Stmt.levels, Levels.all_cons, Levels.all_beside, Levels.all_levelsOfItems] at h
    grind [Stmt.parts]
  | matchBlock subject cases =>
    simp only [Stmt.levels, Levels.all_cons, Levels.all_beside, Levels.all_levelsOfCases] at h
    grind [Stmt.parts]
  | tryBlock isStar body handlers otherwise final =>
    simp only [Stmt.levels, Levels.all_cons, Levels.all_beside, Levels.all_levelsOfHandlers] at h
    grind [Stmt.parts]
  | _ =>
    simp only [Stmt.levels, Levels.all_cons, Levels.all_beside, Levels.all_levelsOfAll, Levels.all_levelsOfOption] at h
    grind [Stmt.parts]

theorem Stmt.all_blocks {s : Stmt} (h : s.levels.All P) : ∀ block ∈ s.blocks, ∀ t ∈ block, t.levels.All P := by
  cases s with
  | functionDef f =>
    cases f
    simp only [Stmt.levels, Levels.all_cons, Levels.all_beside, Levels.all_levelsOfBlock] at h
    grind [Stmt.blocks]
  | classDef c =>
    cases c
    simp only [Stmt.levels, Levels.all_cons, Levels.all_beside, Levels.all_levelsOfBlock] at h
    grind [Stmt.blocks]
  | _ =>
    simp only [Stmt.levels, Levels.all_cons, Levels.all_beside, Levels.all_levelsOfBlock, Levels.all_levelsOfHandlers,
      Levels.all_levelsOfCases] at h
    grind [Stmt.blocks]

theorem Node.all_inner {x : Node} (h : x.levels.All P) : ∀ y ∈ x.inner, y.levels.All P := by
  intro y mem
  cases x with
  | expr e =>
    obtain ⟨e', part, rfl⟩ := List.mem_map.1 mem
    exact Expr.all_parts h e' part
  | stmt s =>
    rcases List.mem_append.1 mem with mem | mem
    · obtain ⟨e, part, rfl⟩ := List.mem_map.1 mem
      exact Stmt.all_parts h e part
    · obtain ⟨t, inside, rfl⟩ := List.mem_map.1 mem
      obtain ⟨block, own, inside⟩ := List.mem_flatten.1 inside
      refine Stmt.all_blocks h block ?_ t inside
      unfold Stmt.ownBlocks at own
      split at own
      · cases own
      · cases own
      · exact own

theorem Node.of_all {x : Node} (h : x.levels.All P) : P x := by
  cases x with
  | expr e =>
    rw [Node.levels, Expr.levels.eq_def, Levels.all_cons] at h
    exact h.1 _ (List.mem_singleton.2 rfl)
  | stmt s =>
    rw [Node.levels, Stmt.levels.eq_def, Levels.all_cons] at h
    exact h.1 _ (List.mem_singleton.2 rfl)

/-- A walk through the body of a function meets all nodes of its scope. -/
theorem InScope.all {body : List Stmt} {x : Node} (h : InScope body x) (all : (levelsOfBlock body).All P) :
    x.levels.All P := by
  induction h with
  | top mem => exact Levels.all_levelsOfBlock.1 all _ mem
  | inner _ mem ih => exact Node.all_inner ih _ mem

theorem InScope.mem_walk {body : List Stmt} {x : Node} (h : InScope body x) : x ∈ (levelsOfBlock body).flatten :=
  Node.of_all (h.all fun _ mem => mem)

/-- A walk through a text meets all nodes of its blocks. -/
theorem BlockIn.all {text block : List Stmt} (h : BlockIn text block) (all : (levelsOfBlock text).All P) :
    (levelsOfBlock block).All P := by
  induction h with
  | whole => exact all
  | inner _ mem inside ih =>
    exact Levels.all_levelsOfBlock.2 (Stmt.all_blocks (Levels.all_levelsOfBlock.1 ih _ mem) _ inside)

mutual

/-- A walk through a text meets all nodes of its definitions. -/
theorem Stmt.all_definitions (s : Stmt) (h : s.levels.All P) : ∀ t ∈ s.definitions, t.levels.All P := by
  intro t mem
  cases s with
  | functionDef f => exact List.mem_singleton.1 mem ▸ h
  | classDef c => exact List.mem_singleton.1 mem ▸ h
  | imports i start => exact List.mem_singleton.1 mem ▸ h
  | ifElse test body otherwise =>
    have blocks := Stmt.all_blocks h
    rw [Stmt.definitions] at mem
    rcases List.mem_append.1 mem with mem | mem
    · exact all_definitionsOf body (blocks body (by simp [Stmt.blocks])) t mem
    · exact all_definitionsOf otherwise (blocks otherwise (by simp [Stmt.blocks])) t mem
  | withBlock isAsync items body =>
    rw [Stmt.definitions] at mem
    exact all_definitionsOf body (Stmt.all_blocks h body (by simp [Stmt.blocks])) t mem
  | tryBlock isStar body handlers otherwise final =>
    have blocks := Stmt.all_blocks h
    rw [Stmt.definitions] at mem
    simp only [List.mem_append, or_assoc] at mem
    rcases mem with mem | mem | mem | mem
    · exact all_definitionsOf body (blocks body (by simp [Stmt.blocks])) t mem
    · exact all_definitionsOf otherwise (blocks otherwise (by simp [Stmt.blocks])) t mem
    · exact all_definitionsOf final (blocks final (by simp [Stmt.blocks])) t mem
    · refine all_definitionsOfHandlers handlers (fun r hr => blocks r.body ?_) t mem
      simp [Stmt.blocks, List.mem_map_of_mem hr]
  | _ => cases mem

theorem all_definitionsOf (ss : List Stmt) (h : ∀ s ∈ ss, s.levels.All P) :
    ∀ t ∈ definitionsOf ss, t.levels.All P := by
  intro t mem
  match ss with
  | [] => cases mem
  | s :: ss =>
    rcases List.mem_append.1 mem with mem | mem
    · exact s.all_definitions (h s List.mem_cons_self) t mem
    · exact all_definitionsOf ss (fun s' hs => h s' (List.mem_cons_of_mem _ hs)) t mem

theorem all_definitionsOfHandlers (hs : List Handler) (h : ∀ r ∈ hs, ∀ s ∈ r.body, s.levels.All P) :
    ∀ t ∈ definitionsOfHandlers hs, t.levels.All P := by
  intro t mem
  match hs with
  | [] => cases mem
  | ⟨type, name, body⟩ :: rest =>
    rcases List.mem_append.1 mem with mem | mem
    · exact all_definitionsOf body (h _ List.mem_cons_self) t mem
    · exact all_definitionsOfHandlers rest (fun r hr => h r (List.mem_cons_of_mem _ hr)) t mem

end

mutual

/-- The names that a target binds are nodes of it. -/
theorem Expr.all_targetNames (e : Expr) (h : e.levels.All P) : ∀ n ∈ e.targetNames, P (.expr (.name n.1 n.2)) := by
  intro n mem
  match e with
  | .name id usage =>
    cases List.mem_singleton.1 mem
    exact Node.of_all (x := .expr (.name id usage)) h
  | .starred value => exact value.all_targetNames (Expr.all_parts h _ (List.mem_singleton.2 rfl)) n mem
  | .list elements => exact all_targetNamesOf elements (Expr.all_parts h) n mem
  | .tuple elements => exact all_targetNamesOf elements (Expr.all_parts h) n mem
  | .boolOp .. | .named .. | .binary .. | .unary .. | .lambda .. | .conditional .. | .dict .. | .set .. | .listComp ..
  | .setComp .. | .dictComp .. | .generator .. | .await .. | .yield .. | .yieldFrom .. | .compare .. | .call ..
  | .formatted .. | .joined .. | .constant .. | .attribute .. | .subscript .. | .slice .. => cases mem

theorem all_targetNamesOf (es : List Expr) (h : ∀ e ∈ es, e.levels.All P) :
    ∀ n ∈ targetNamesOf es, P (.expr (.name n.1 n.2)) := by
  intro n mem
  match es with
  | [] => cases mem
  | e :: es =>
    rcases List.mem_append.1 mem with mem | mem
    · exact e.all_targetNames (h e List.mem_cons_self) n mem
    · exact all_targetNamesOf es (fun e' he => h e' (List.mem_cons_of_mem _ he)) n mem

end

theorem Node.target_mem_inner {x : Node} {t : Expr} (mem : t ∈ x.targets) : .expr t ∈ x.inner := by
  unfold Node.targets at mem
  split at mem <;> grind [Node.inner, Expr.parts, Stmt.parts]

end All

end CallAtlas.Source
