import CallAtlas.Proofs.Walks
import CallAtlas.Source.Grammar.Pattern

/-!
# Targets in expressions

An expression that is bound as a whole binds the names in it, also those between its brackets and behind its stars. In a
tree each name says whether it is bound, and the grammar has to see to it that the names of a target say so: `Marked` is
that no node of a tree binds a name that is only read. All expressions and patterns that are parsed are marked in this
way.
-/

namespace CallAtlas.Source

mutual

/-- The names that an expression binds when it is bound as a whole, with what they say they are there for. -/
def Expr.targetNames : Expr → List (String × Usage)
  | .name id usage => [(id, usage)]
  | .starred value => value.targetNames
  | .list elements => targetNamesOf elements
  | .tuple elements => targetNamesOf elements
  | _ => []

/-- The names that expressions bind when they are bound. -/
def targetNamesOf : List Expr → List (String × Usage)
  | [] => []
  | e :: es => e.targetNames ++ targetNamesOf es

end

/-- No name that the expression binds says that it is only read. -/
def Expr.IsTarget (e : Expr) : Prop := ∀ n ∈ e.targetNames, n.2 ≠ .load

/-- The expressions that a node binds or unbinds in the scope it stands in. -/
def Node.targets : Node → List Expr
  | .expr (.named target _) => [target]
  | .stmt (.assign targets _) => targets
  | .stmt (.augmented target _ _) => [target]
  | .stmt (.annotated target _ _) => [target]
  | .stmt (.forLoop _ target _ _ _) => [target]
  | .stmt (.withBlock _ items _) => items.filterMap (·.target)
  | .stmt (.delete targets) => targets
  | _ => []

/-- All that a node binds says so. -/
def Node.Marked (n : Node) : Prop := ∀ t ∈ n.targets, t.IsTarget

/-- In a forest all that a node binds says so. -/
abbrev Levels.Marked (forest : Levels) : Prop := forest.All Node.Marked

@[simp] theorem Node.marked_expr {e : Expr} : (Node.expr e).Marked ↔ ∀ t v, e = .named t v → t.IsTarget := by
  cases e <;> simp [Node.Marked, Node.targets]

theorem mem_targetNamesOf {n : String × Usage} {es : List Expr} :
    n ∈ targetNamesOf es ↔ ∃ e ∈ es, n ∈ e.targetNames := by
  induction es with
  | nil => simp [targetNamesOf]
  | cons e es ih => simp [targetNamesOf, ih]

theorem isTarget_starred {e : Expr} : (Expr.starred e).IsTarget ↔ e.IsTarget := by
  simp only [Expr.IsTarget, Expr.targetNames]

theorem isTarget_list {es : List Expr} : (Expr.list es).IsTarget ↔ ∀ e ∈ es, e.IsTarget := by
  simp only [Expr.IsTarget, Expr.targetNames, mem_targetNamesOf]
  exact ⟨fun h e he n hn => h n ⟨e, he, hn⟩, fun h n ⟨e, he, hn⟩ => h e he n hn⟩

theorem isTarget_tuple {es : List Expr} : (Expr.tuple es).IsTarget ↔ ∀ e ∈ es, e.IsTarget := by
  simp only [Expr.IsTarget, Expr.targetNames, mem_targetNamesOf]
  exact ⟨fun h e he n hn => h n ⟨e, he, hn⟩, fun h n ⟨e, he, hn⟩ => h e he n hn⟩

mutual

/-- What is read as a target is one, and is marked if the expression is. -/
theorem Expr.asTarget?_eq_some {usage : Usage} (binds : usage ≠ .load) {allowStar : Bool} (e : Expr) {t : Expr}
    (h : e.asTarget? usage allowStar = some t) : t.IsTarget ∧ (e.levels.Marked → t.levels.Marked) := by
  match e with
  | .name id _ =>
    cases h
    exact ⟨by simpa [Expr.IsTarget, Expr.targetNames] using binds, fun _ => by simp [Expr.levels]⟩
  | .attribute value attr | .subscript value index =>
    cases h
    exact ⟨by simp [Expr.IsTarget, Expr.targetNames], id⟩
  | .starred value =>
    rw [Expr.asTarget?] at h
    split at h
    · obtain ⟨t', inner, rfl⟩ := Option.map_eq_some_iff.1 h
      obtain ⟨target, marked⟩ := Expr.asTarget?_eq_some binds value inner
      exact ⟨isTarget_starred.2 target, by simpa [Expr.levels] using marked⟩
    · cases h
  | .list es =>
    rw [Expr.asTarget?] at h
    obtain ⟨ts, inner, rfl⟩ := Option.map_eq_some_iff.1 h
    obtain ⟨targets, marked⟩ := asTargets?_eq_some binds es inner
    exact ⟨isTarget_list.2 targets, by simpa [Expr.levels] using marked⟩
  | .tuple es =>
    rw [Expr.asTarget?] at h
    obtain ⟨ts, inner, rfl⟩ := Option.map_eq_some_iff.1 h
    obtain ⟨targets, marked⟩ := asTargets?_eq_some binds es inner
    exact ⟨isTarget_tuple.2 targets, by simpa [Expr.levels] using marked⟩
  | .boolOp .. | .named .. | .binary .. | .unary .. | .lambda .. | .conditional .. | .dict .. | .set .. | .listComp ..
  | .setComp .. | .dictComp .. | .generator .. | .await .. | .yield .. | .yieldFrom .. | .compare .. | .call ..
  | .formatted .. | .joined .. | .constant .. | .slice .. => cases h

theorem asTargets?_eq_some {usage : Usage} (binds : usage ≠ .load) {allowStar : Bool} (es : List Expr) {ts : List Expr}
    (h : asTargets? usage allowStar es = some ts) :
    (∀ t ∈ ts, t.IsTarget) ∧ ((∀ e ∈ es, e.levels.Marked) → ∀ t ∈ ts, t.levels.Marked) := by
  cases es with
  | nil => cases h; simp
  | cons e es =>
    rw [asTargets?] at h
    obtain ⟨t, first, h⟩ := Option.bind_eq_some_iff.1 h
    obtain ⟨ts, rest, h⟩ := Option.bind_eq_some_iff.1 h
    cases h
    obtain ⟨target, marked⟩ := e.asTarget?_eq_some binds first
    obtain ⟨targets, allMarked⟩ := asTargets?_eq_some binds es rest
    exact ⟨List.forall_mem_cons.2 ⟨target, targets⟩, fun all => List.forall_mem_cons.2
      ⟨marked (all e (by simp)), allMarked fun e he => all e (by simp [he])⟩⟩

end

theorem Expr.asSingleTarget?_eq_some {e t : Expr} (h : e.asSingleTarget? = some t) :
    t.IsTarget ∧ (e.levels.Marked → t.levels.Marked) := by
  unfold asSingleTarget? at h
  split at h <;> cases h
  · exact ⟨by simp [IsTarget, targetNames], fun _ => by simp [levels]⟩
  · exact ⟨by simp [IsTarget, targetNames], id⟩
  · exact ⟨by simp [IsTarget, targetNames], id⟩

end CallAtlas.Source
