import CallAtlas.Proofs.Scopes
import Mathlib.Algebra.Order.BigOperators.Group.List
import Mathlib.Data.Multiset.OrderedMonoid
import Mathlib.Tactic.Abel

/-!
# Nodes by their address

A node of a text is known by its address: which statement of the text to start from, and then which of the expressions
or statements right inside to go on to. Equal nodes at two addresses are two nodes. A walk through a text meets each
address exactly once: the levels of a node hold the node itself and the levels of what is right inside it
(`Node.bag_levels`), so the nodes below it can be listed address by address as well.
-/

namespace CallAtlas.Source

/-! ## Right inside a node -/

mutual

/-- The expressions in a pattern, at any depth of patterns. -/
def Pattern.values : Pattern → List Expr
  | .value value => [value]
  | .singleton _ | .star _ => []
  | .sequence patterns => valuesOf patterns
  | .mapping keys patterns _ => keys ++ valuesOf patterns
  | .ofClass cls patterns keywordPatterns => cls :: (valuesOf patterns ++ valuesOfKeywords keywordPatterns)
  | .capture pattern _ => valuesOf? pattern
  | .alternatives patterns => valuesOf patterns

/-- The expressions in patterns. -/
def valuesOf : List Pattern → List Expr
  | [] => []
  | p :: ps => p.values ++ valuesOf ps

/-- The expressions in patterns for attributes. -/
def valuesOfKeywords : List KeywordPattern → List Expr
  | [] => []
  | ⟨_, p⟩ :: ps => p.values ++ valuesOfKeywords ps

/-- The expressions in an optional pattern. -/
def valuesOf? : Option Pattern → List Expr
  | none => []
  | some p => p.values

end

/-- The expressions right inside an expression, in whatever scope. -/
def Expr.inside : Expr → List Expr
  | .lambda params body => params.parts ++ [body]
  | e => e.parts

/-- The expressions right inside a statement. -/
def Stmt.inside : Stmt → List Expr
  | .matchBlock subject cases => subject :: cases.flatMap fun c => c.pattern.values ++ c.guard.toList
  | s => s.parts

namespace Node

/-- The expressions right inside a node. -/
def exprs : Node → List Expr
  | .expr e => e.inside
  | .stmt s => s.inside

/-- The statements right inside a node. -/
def stmts : Node → List Stmt
  | .expr _ => []
  | .stmt s => s.blocks.flatten

end Node

/-! ## Levels in no order -/

namespace Levels

/-- The nodes of a forest, in no order. -/
def bag (forest : Levels) : Multiset Node := (forest.flatten : List Node)

@[simp] theorem bag_nil : bag [] = 0 := rfl

@[simp] theorem bag_cons (x : List Node) (xs : Levels) : bag (x :: xs) = (x : Multiset Node) + bag xs := by
  rw [bag, List.flatten_cons, ← Multiset.coe_add, bag]

@[simp] theorem bag_beside (a b : Levels) : (beside a b).bag = a.bag + b.bag := by
  rw [bag, bag, bag, Multiset.coe_add, Multiset.coe_eq_coe]
  exact flatten_beside a b

end Levels

/-- The nodes of expressions, in no order. -/
def bagOf (es : List Expr) : Multiset Node := (es.map fun e => e.levels.bag).sum

@[simp] theorem bagOf_nil : bagOf [] = 0 := rfl

@[simp] theorem bagOf_cons (e : Expr) (es : List Expr) : bagOf (e :: es) = e.levels.bag + bagOf es := List.sum_cons

@[simp] theorem bagOf_append (es fs : List Expr) : bagOf (es ++ fs) = bagOf es + bagOf fs := by simp [bagOf]

/-- The nodes of statements, in no order. -/
def bagOfBlock (ss : List Stmt) : Multiset Node := (ss.map fun s => s.levels.bag).sum

@[simp] theorem bagOfBlock_nil : bagOfBlock [] = 0 := rfl

@[simp] theorem bagOfBlock_cons (s : Stmt) (ss : List Stmt) :
    bagOfBlock (s :: ss) = s.levels.bag + bagOfBlock ss := List.sum_cons

@[simp] theorem bagOfBlock_append (ss ts : List Stmt) :
    bagOfBlock (ss ++ ts) = bagOfBlock ss + bagOfBlock ts := by simp [bagOfBlock]

namespace Levels

@[simp] theorem bag_levelsOfAll (es : List Expr) : (levelsOfAll es).bag = bagOf es := by
  induction es with
  | nil => rfl
  | cons e es ih => simp [levelsOfAll, ih]

@[simp] theorem bag_levelsOfOption (o : Option Expr) : (levelsOfOption o).bag = bagOf o.toList := by
  cases o <;> simp [levelsOfOption]

theorem bag_dict (items : List DictItem) : (levelsOfKeys items).bag + (levelsOfValues items).bag =
    bagOf (items.flatMap fun i => i.key.toList ++ [i.value]) := by
  induction items with
  | nil => rfl
  | cons i items ih =>
    cases i
    simp only [levelsOfKeys, levelsOfValues, bag_beside, bag_levelsOfOption, List.flatMap_cons, bagOf_append,
      bagOf_cons, bagOf_nil, ← ih]
    abel

@[simp] theorem bag_levelsOfComparisons (rest : List Comparison) :
    (levelsOfComparisons rest).bag = bagOf (rest.map (·.operand)) := by
  induction rest with
  | nil => rfl
  | cons c rest ih =>
    cases c
    simp [levelsOfComparisons, ih]

@[simp] theorem bag_levelsOfClauses (clauses : List Clause) :
    (levelsOfClauses clauses).bag = bagOf (partsOfClauses clauses) := by
  induction clauses with
  | nil => rfl
  | cons c clauses ih =>
    cases c
    simp [levelsOfClauses, ih, partsOfClauses, add_assoc]

@[simp] theorem bag_levelsOfKeywords (keywords : List Keyword) :
    (levelsOfKeywords keywords).bag = bagOf (keywords.map (·.value)) := by
  induction keywords with
  | nil => rfl
  | cons k keywords ih =>
    cases k
    simp [levelsOfKeywords, ih]

@[simp] theorem bag_levelsOfParams (ps : List Param) :
    (levelsOfParams ps).bag = bagOf (ps.filterMap (·.typeHint)) := by
  induction ps with
  | nil => rfl
  | cons p ps ih =>
    obtain ⟨name, typeHint, default⟩ := p
    cases typeHint <;> simp [levelsOfParams, ih]

@[simp] theorem bag_levelsOfDefaults (ps : List Param) :
    (levelsOfDefaults ps).bag = bagOf (ps.filterMap (·.default)) := by
  induction ps with
  | nil => rfl
  | cons p ps ih =>
    obtain ⟨name, typeHint, default⟩ := p
    cases default <;> simp [levelsOfDefaults, ih]

@[simp] theorem bag_levelsOfParam? (o : Option Param) :
    (levelsOfParam? o).bag = bagOf (o.toList.filterMap (·.typeHint)) := by
  cases o with
  | none => rfl
  | some p =>
    obtain ⟨name, typeHint, default⟩ := p
    cases typeHint <;> simp [levelsOfParam?]

end Levels

theorem Params.bag_levels (ps : Params) : ps.levels.bag = bagOf ps.parts := by
  obtain ⟨positionalOnly, regular, variadic, keywordOnly, keywordVariadic⟩ := ps
  simp only [Params.levels, Params.parts, Params.all, Levels.bag_cons, Levels.bag_beside, Levels.bag_levelsOfParams,
    Levels.bag_levelsOfDefaults, Levels.bag_levelsOfParam?, List.filterMap_append, bagOf_append, Multiset.coe_nil]
  abel

/-- The levels of an expression hold the expression and the levels of what is right inside. -/
theorem Expr.bag_levels (e : Expr) : e.levels.bag = {.expr e} + bagOf e.inside := by
  cases e with
  | lambda params body => simp [Expr.levels, Expr.inside, Params.bag_levels]
  | dict items => simp [Expr.levels, Expr.inside, Expr.parts, Levels.bag_dict]
  | _ => simp [Expr.levels, Expr.inside, Expr.parts]

mutual

theorem Pattern.bag_levels (p : Pattern) : p.levels.bag = bagOf p.values := by
  cases p with
  | value value => simp [Pattern.levels, Pattern.values]
  | singleton value => simp [Pattern.levels, Pattern.values]
  | sequence patterns => simp [Pattern.levels, Pattern.values, bag_levelsOfPatterns patterns]
  | mapping keys patterns rest => simp [Pattern.levels, Pattern.values, bag_levelsOfPatterns patterns]
  | ofClass cls patterns keywordPatterns =>
    simp [Pattern.levels, Pattern.values, bag_levelsOfPatterns patterns, bag_levelsOfKeywordPatterns keywordPatterns]
  | star name => simp [Pattern.levels, Pattern.values]
  | capture pattern name => simp [Pattern.levels, Pattern.values, bag_levelsOfPattern? pattern]
  | alternatives patterns => simp [Pattern.levels, Pattern.values, bag_levelsOfPatterns patterns]

theorem bag_levelsOfPatterns (ps : List Pattern) : (levelsOfPatterns ps).bag = bagOf (valuesOf ps) := by
  match ps with
  | [] => rfl
  | p :: ps => simp [levelsOfPatterns, valuesOf, p.bag_levels, bag_levelsOfPatterns ps]

theorem bag_levelsOfKeywordPatterns (ps : List KeywordPattern) :
    (levelsOfKeywordPatterns ps).bag = bagOf (valuesOfKeywords ps) := by
  match ps with
  | [] => rfl
  | ⟨_, p⟩ :: ps => simp [levelsOfKeywordPatterns, valuesOfKeywords, p.bag_levels, bag_levelsOfKeywordPatterns ps]

theorem bag_levelsOfPattern? (o : Option Pattern) : (levelsOfPattern? o).bag = bagOf (valuesOf? o) := by
  match o with
  | none => rfl
  | some p => simp [levelsOfPattern?, valuesOf?, p.bag_levels]

end

namespace Levels

@[simp] theorem bag_levelsOfItems (items : List WithItem) :
    (levelsOfItems items).bag = bagOf (items.flatMap fun i => i.context :: i.target.toList) := by
  induction items with
  | nil => rfl
  | cons i items ih => simp [levelsOfItems, ih, add_assoc]

@[simp] theorem bag_levelsOfBlock (ss : List Stmt) : (levelsOfBlock ss).bag = bagOfBlock ss := by
  induction ss with
  | nil => rfl
  | cons s ss ih => simp [levelsOfBlock, ih]

@[simp] theorem bag_levelsOfHandlers (hs : List Handler) : (levelsOfHandlers hs).bag =
    bagOf (hs.filterMap (·.type)) + bagOfBlock (hs.map (·.body)).flatten := by
  induction hs with
  | nil => rfl
  | cons h hs ih =>
    obtain ⟨type, name, body⟩ := h
    have types : (Handler.mk type name body :: hs).filterMap (·.type) = type.toList ++ hs.filterMap (·.type) := by
      cases type <;> rfl
    simp only [levelsOfHandlers, bag_beside, bag_cons, bag_levelsOfOption, bag_levelsOfBlock, ih, types, List.map_cons,
      List.flatten_cons, bagOf_append, bagOfBlock_append, Multiset.coe_nil]
    abel

@[simp] theorem bag_levelsOfCases (cs : List MatchCase) : (levelsOfCases cs).bag =
    bagOf (cs.flatMap fun c => c.pattern.values ++ c.guard.toList) + bagOfBlock (cs.map (·.body)).flatten := by
  induction cs with
  | nil => rfl
  | cons c cs ih =>
    obtain ⟨pattern, guard, body⟩ := c
    simp only [levelsOfCases, bag_beside, bag_cons, bag_levelsOfOption, bag_levelsOfBlock, pattern.bag_levels, ih,
      List.flatMap_cons, List.map_cons, List.flatten_cons, bagOf_append, bagOfBlock_append, Multiset.coe_nil]
    abel

end Levels

/-- The levels of a statement hold the statement and the levels of what is right inside. -/
theorem Stmt.bag_levels (s : Stmt) : s.levels.bag = {.stmt s} + (bagOf s.inside + bagOfBlock s.blocks.flatten) := by
  cases s with
  | functionDef f =>
    cases f
    simp only [Stmt.levels, Stmt.inside, Stmt.parts, Stmt.blocks, Params.bag_levels, Levels.bag_cons,
      Levels.bag_beside, Levels.bag_levelsOfBlock, Levels.bag_levelsOfAll, Levels.bag_levelsOfOption, bagOf_append,
      List.flatten_singleton, Multiset.coe_singleton]
    abel
  | classDef c =>
    cases c
    simp only [Stmt.levels, Stmt.inside, Stmt.parts, Stmt.blocks, Levels.bag_cons, Levels.bag_beside,
      Levels.bag_levelsOfAll, Levels.bag_levelsOfKeywords, Levels.bag_levelsOfBlock, bagOf_append,
      List.flatten_singleton, Multiset.coe_singleton]
    abel
  | tryBlock isStar body handlers otherwise final =>
    -- the blocks of the handlers are met second and listed last
    simp only [Stmt.levels, Stmt.inside, Stmt.parts, Stmt.blocks, Levels.bag_cons, Levels.bag_beside,
      Levels.bag_levelsOfBlock, Levels.bag_levelsOfHandlers, List.flatten_cons, bagOfBlock_append,
      Multiset.coe_singleton]
    abel
  | _ => simp [Stmt.levels, Stmt.inside, Stmt.parts, Stmt.blocks, add_assoc]

/-! ## Addresses -/

/-- One step to what is right inside: to one of the expressions or to one of the statements. -/
inductive Step where
  | part (i : Nat)
  | statement (i : Nat)
  deriving DecidableEq

/-- The steps down to a node. -/
abbrev Address := List Step

/-- The steps to some expressions and statements. -/
def stepsTo (es : List Expr) (ss : List Stmt) : List (Step × Node) :=
  es.zipIdx.map (fun p => (.part p.2, .expr p.1)) ++ ss.zipIdx.map (fun p => (.statement p.2, .stmt p.1))

theorem nodup_stepsTo (es : List Expr) (ss : List Stmt) : ((stepsTo es ss).map (·.1)).Nodup := by
  have parts : ((es.zipIdx.map (·.2)).map Step.part).Nodup := by
    rw [List.zipIdx_map_snd]
    exact (List.nodup_range' 1).map fun _ _ => Step.part.inj
  have statements : ((ss.zipIdx.map (·.2)).map Step.statement).Nodup := by
    rw [List.zipIdx_map_snd]
    exact (List.nodup_range' 1).map fun _ _ => Step.statement.inj
  rw [List.map_map] at parts statements
  rw [stepsTo, List.map_append, List.map_map, List.map_map, List.nodup_append]
  refine ⟨parts, statements, fun s hs t ht same => ?_⟩
  obtain ⟨_, -, rfl⟩ := List.mem_map.1 hs
  obtain ⟨_, -, rfl⟩ := List.mem_map.1 ht
  cases same

namespace Node

/-- What is right inside, with the steps to it. -/
def steps (x : Node) : List (Step × Node) := stepsTo x.exprs x.stmts

/-- The node one step inside. -/
def child? (x : Node) : Step → Option Node
  | .part i => x.exprs[i]?.map .expr
  | .statement i => x.stmts[i]?.map .stmt

/-- The node at an address inside. -/
def at? (x : Node) : Address → Option Node
  | [] => some x
  | s :: a => (x.child? s).bind fun y => y.at? a

theorem mem_steps_iff {x y : Node} {s : Step} : (s, y) ∈ x.steps ↔ x.child? s = some y := by
  cases s <;> simp [steps, stepsTo, child?, List.mem_zipIdx_iff_getElem?]

end Node

/-- The nodes below some nodes, in no order. -/
def bagBelow (steps : List (Step × Node)) : Multiset Node := (steps.map fun p => p.2.levels.bag).sum

@[simp] theorem bagBelow_cons (p : Step × Node) (steps : List (Step × Node)) :
    bagBelow (p :: steps) = p.2.levels.bag + bagBelow steps := List.sum_cons

theorem bagBelow_stepsTo (es : List Expr) (ss : List Stmt) : bagBelow (stepsTo es ss) = bagOf es + bagOfBlock ss := by
  have parts : (es.zipIdx.map Prod.fst).map (fun e => e.levels.bag) = es.map fun e => e.levels.bag := by
    rw [List.zipIdx_map_fst]
  have statements : (ss.zipIdx.map Prod.fst).map (fun s => s.levels.bag) = ss.map fun s => s.levels.bag := by
    rw [List.zipIdx_map_fst]
  rw [List.map_map] at parts statements
  rw [bagBelow, stepsTo, List.map_append, List.sum_append, List.map_map, List.map_map, bagOf, bagOfBlock, ← parts,
    ← statements]
  rfl

namespace Node

/-- The levels of a node hold the node and the levels of what is right inside. -/
theorem bag_levels (x : Node) : x.levels.bag = {x} + bagBelow x.steps := by
  rw [steps, bagBelow_stepsTo]
  cases x with
  | expr e => rw [levels, e.bag_levels, exprs, stmts, bagOfBlock_nil, add_zero]
  | stmt s => exact s.bag_levels

/-- What holds of a node whenever it holds of all that is right inside holds of every node. -/
theorem induction {P : Node → Prop} (step : ∀ x, (∀ p ∈ x.steps, P p.2) → P x) (x : Node) : P x := by
  -- by the number of nodes in the levels, since what is right inside has fewer
  induction size : x.levels.bag.card using Nat.strong_induction_on generalizing x with
  | _ n ih =>
    refine step x fun p mem => ih _ ?_ p.2 rfl
    have part : p.2.levels.bag ≤ bagBelow x.steps := List.le_sum_of_mem (List.mem_map_of_mem mem)
    have fewer := Multiset.card_le_card part
    rw [← size, x.bag_levels, Multiset.card_add, Multiset.card_singleton]
    omega

end Node

/-! ## Nodes listed by their address -/

/-- The nodes of the bag are those that the addresses lead to, each as often as there are addresses of it. -/
def ListedBy (leads : Address → Node → Prop) (bag : Multiset Node) : Prop :=
  ∃ ps : List (Address × Node), (ps.map (·.2) : List Node) = bag ∧ (ps.map (·.1)).Nodup ∧
    ∀ a y, (a, y) ∈ ps ↔ leads a y

/-- An address with one of the steps first. -/
def LeadsBelow (steps : List (Step × Node)) (a : Address) (y : Node) : Prop :=
  ∃ s x b, (s, x) ∈ steps ∧ a = s :: b ∧ x.at? b = some y

theorem listedBy_below {steps : List (Step × Node)} (distinct : (steps.map (·.1)).Nodup)
    (each : ∀ p ∈ steps, ListedBy (p.2.at? · = some ·) p.2.levels.bag) :
    ListedBy (LeadsBelow steps) (bagBelow steps) := by
  induction steps with
  | nil => exact ⟨[], rfl, List.nodup_nil, by simp [LeadsBelow]⟩
  | cons p steps ih =>
    obtain ⟨fresh, distinct⟩ := List.nodup_cons.1 distinct
    obtain ⟨ps, nodes, once, leads⟩ := each p List.mem_cons_self
    obtain ⟨qs, nodes', once', leads'⟩ := ih distinct fun q hq => each q (List.mem_cons_of_mem p hq)
    refine ⟨ps.map (fun q => (p.1 :: q.1, q.2)) ++ qs, ?_, ?_, fun a y => ?_⟩
    · rw [List.map_append, List.map_map, ← Multiset.coe_add, nodes', bagBelow_cons, ← nodes]
      rfl
    · rw [List.map_append, List.nodup_append]
      refine ⟨?_, once', fun a ha b hb same => ?_⟩
      · have longer := once.map (List.cons_injective (a := p.1))
        rwa [List.map_map] at longer ⊢
      · -- the first steps differ
        rw [List.map_map] at ha
        obtain ⟨q, -, rfl⟩ := List.mem_map.1 ha
        obtain ⟨⟨b, y⟩, mem, rfl⟩ := List.mem_map.1 hb
        obtain ⟨s, x, c, hs, rfl, -⟩ := (leads' _ _).1 mem
        cases same
        exact fresh (List.mem_map.2 ⟨_, hs, rfl⟩)
    · rw [List.mem_append, leads']
      constructor
      · rintro (mem | ⟨s, x, b, mem, rfl, found⟩)
        · obtain ⟨⟨b, z⟩, listed, same⟩ := List.mem_map.1 mem
          cases same
          exact ⟨p.1, p.2, b, List.mem_cons_self, rfl, (leads _ _).1 listed⟩
        · exact ⟨s, x, b, List.mem_cons_of_mem p mem, rfl, found⟩
      · rintro ⟨s, x, b, mem, rfl, found⟩
        rcases List.mem_cons.1 mem with rfl | mem
        · exact Or.inl (List.mem_map.2 ⟨(b, y), (leads _ _).2 found, rfl⟩)
        · exact Or.inr ⟨s, x, b, mem, rfl, found⟩

theorem Node.at?_eq_some_iff {x y : Node} {a : Address} :
    x.at? a = some y ↔ a = [] ∧ x = y ∨ LeadsBelow x.steps a y := by
  cases a with
  | nil => simp [Node.at?, LeadsBelow]
  | cons s a =>
    rw [Node.at?, Option.bind_eq_some_iff]
    constructor
    · rintro ⟨z, child, found⟩
      exact Or.inr ⟨s, z, a, Node.mem_steps_iff.2 child, rfl, found⟩
    · rintro (⟨none, -⟩ | ⟨s', z, b, mem, same, found⟩)
      · cases none
      · cases same
        exact ⟨z, Node.mem_steps_iff.1 mem, found⟩

theorem Node.listedBy (x : Node) : ListedBy (x.at? · = some ·) x.levels.bag := by
  induction x using Node.induction with
  | step x ih =>
    have distinct : (x.steps.map (·.1)).Nodup := nodup_stepsTo _ _
    obtain ⟨ps, nodes, once, leads⟩ := listedBy_below distinct ih
    refine ⟨([], x) :: ps, ?_, ?_, fun a y => ?_⟩
    · rw [List.map_cons, ← Multiset.cons_coe, nodes, x.bag_levels, Multiset.singleton_add]
    · refine List.nodup_cons.2 ⟨fun mem => ?_, once⟩
      obtain ⟨⟨a, y⟩, mem, rfl⟩ := List.mem_map.1 mem
      obtain ⟨s, z, b, -, none, -⟩ := (leads _ _).1 mem
      cases none
    · rw [List.mem_cons, leads, Prod.mk.injEq, eq_comm (a := y)]
      exact Node.at?_eq_some_iff.symm

/-- The node at an address in a text. -/
def nodeAt? (text : List Stmt) : Address → Option Node
  | .statement i :: a => text[i]?.bind fun s => (Node.stmt s).at? a
  | _ => none

theorem nodeAt?_eq_some_iff {text : List Stmt} {a : Address} {y : Node} :
    nodeAt? text a = some y ↔ LeadsBelow (stepsTo [] text) a y := by
  unfold nodeAt?
  split
  · simp [LeadsBelow, stepsTo, List.mem_zipIdx_iff_getElem?, Option.bind_eq_some_iff]
  · rename_i other
    simp only [reduceCtorEq, false_iff]
    rintro ⟨s, x, b, mem, rfl, -⟩
    cases s with
    | part i => simp [stepsTo] at mem
    | statement i => exact other i b rfl

/-- **A walk through a text meets each address once.** -/
theorem listedBy_nodeAt? (text : List Stmt) : ListedBy (nodeAt? text · = some ·) (bagOfBlock text) := by
  obtain ⟨ps, nodes, once, leads⟩ := listedBy_below (nodup_stepsTo [] text) fun p _ => p.2.listedBy
  refine ⟨ps, ?_, once, fun a y => (leads a y).trans nodeAt?_eq_some_iff.symm⟩
  rw [nodes, bagBelow_stepsTo, bagOf_nil, zero_add]

end CallAtlas.Source
