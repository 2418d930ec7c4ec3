import CallAtlas.Proofs.Declared

/-!
# All nodes of a tree

What holds of all nodes of a tree holds of its root and of all nodes of the trees right inside it. `Levels.All` says it
of the levels that a walk goes through, with one lemma for each kind of list that a tree is made of.
-/

namespace CallAtlas.Source.Levels

/-- All nodes of a forest have the property. -/
def All (P : Node → Prop) (forest : Levels) : Prop := ∀ n ∈ forest.flatten, P n

variable {P : Node → Prop}

@[simp] theorem all_nil : All P [] := by simp [All]

@[simp] theorem all_cons {x : List Node} {xs : Levels} : All P (x :: xs) ↔ (∀ n ∈ x, P n) ∧ All P xs := by
  simp [All, or_imp, forall_and]

@[simp] theorem all_beside {a b : Levels} : (beside a b).All P ↔ a.All P ∧ b.All P := by
  simp only [All, (flatten_beside a b).mem_iff, List.mem_append, or_imp, forall_and]

@[simp] theorem all_levelsOfAll {es : List Expr} : (levelsOfAll es).All P ↔ ∀ e ∈ es, e.levels.All P := by
  induction es with
  | nil => simp [levelsOfAll]
  | cons e es ih => simp [levelsOfAll, ih]

@[simp] theorem all_levelsOfOption {o : Option Expr} :
    (levelsOfOption o).All P ↔ ∀ e, o = some e → e.levels.All P := by
  cases o <;> simp [levelsOfOption]

@[simp] theorem all_levelsOfKeys {items : List DictItem} :
    (levelsOfKeys items).All P ↔ ∀ i ∈ items, ∀ e, i.key = some e → e.levels.All P := by
  induction items with
  | nil => simp [levelsOfKeys]
  | cons i items ih =>
    cases i
    simp [levelsOfKeys, ih]

@[simp] theorem all_levelsOfValues {items : List DictItem} :
    (levelsOfValues items).All P ↔ ∀ i ∈ items, i.value.levels.All P := by
  induction items with
  | nil => simp [levelsOfValues]
  | cons i items ih =>
    cases i
    simp [levelsOfValues, ih]

@[simp] theorem all_levelsOfComparisons {rest : List Comparison} :
    (levelsOfComparisons rest).All P ↔ ∀ c ∈ rest, c.operand.levels.All P := by
  induction rest with
  | nil => simp [levelsOfComparisons]
  | cons c rest ih =>
    cases c
    simp [levelsOfComparisons, ih]

@[simp] theorem all_levelsOfClauses {clauses : List Clause} : (levelsOfClauses clauses).All P ↔
    ∀ c ∈ clauses, c.target.levels.All P ∧ c.iter.levels.All P ∧ ∀ e ∈ c.conditions, e.levels.All P := by
  induction clauses with
  | nil => simp [levelsOfClauses]
  | cons c clauses ih =>
    cases c
    simp [levelsOfClauses, ih]

@[simp] theorem all_levelsOfKeywords {keywords : List Keyword} :
    (levelsOfKeywords keywords).All P ↔ ∀ k ∈ keywords, k.value.levels.All P := by
  induction keywords with
  | nil => simp [levelsOfKeywords]
  | cons k keywords ih =>
    cases k
    simp [levelsOfKeywords, ih]

@[simp] theorem all_levelsOfParams {ps : List Param} :
    (levelsOfParams ps).All P ↔ ∀ p ∈ ps, ∀ e, p.typeHint = some e → e.levels.All P := by
  induction ps with
  | nil => simp [levelsOfParams]
  | cons p ps ih =>
    cases p
    simp [levelsOfParams, ih]

@[simp] theorem all_levelsOfDefaults {ps : List Param} :
    (levelsOfDefaults ps).All P ↔ ∀ p ∈ ps, ∀ e, p.default = some e → e.levels.All P := by
  induction ps with
  | nil => simp [levelsOfDefaults]
  | cons p ps ih =>
    cases p
    simp [levelsOfDefaults, ih]

@[simp] theorem all_levelsOfParam? {o : Option Param} :
    (levelsOfParam? o).All P ↔ ∀ p, o = some p → ∀ e, p.typeHint = some e → e.levels.All P := by
  cases o with
  | none => simp [levelsOfParam?]
  | some p =>
    cases p
    simp [levelsOfParam?]

@[simp] theorem all_levelsOfPatterns {ps : List Pattern} : (levelsOfPatterns ps).All P ↔ ∀ p ∈ ps, p.levels.All P := by
  induction ps with
  | nil => simp [levelsOfPatterns]
  | cons p ps ih => simp [levelsOfPatterns, ih]

@[simp] theorem all_levelsOfKeywordPatterns {ps : List KeywordPattern} :
    (levelsOfKeywordPatterns ps).All P ↔ ∀ p ∈ ps, p.pattern.levels.All P := by
  induction ps with
  | nil => simp [levelsOfKeywordPatterns]
  | cons p ps ih =>
    cases p
    simp [levelsOfKeywordPatterns, ih]

@[simp] theorem all_levelsOfItems {items : List WithItem} : (levelsOfItems items).All P ↔
    ∀ i ∈ items, i.context.levels.All P ∧ ∀ t, i.target = some t → t.levels.All P := by
  induction items with
  | nil => simp [levelsOfItems]
  | cons i items ih => simp [levelsOfItems, ih]

@[simp] theorem all_levelsOfBlock {ss : List Stmt} : (levelsOfBlock ss).All P ↔ ∀ s ∈ ss, s.levels.All P := by
  induction ss with
  | nil => simp [levelsOfBlock]
  | cons s ss ih => simp [levelsOfBlock, ih]

@[simp] theorem all_levelsOfHandlers {hs : List Handler} : (levelsOfHandlers hs).All P ↔
    ∀ h ∈ hs, (∀ e, h.type = some e → e.levels.All P) ∧ ∀ s ∈ h.body, s.levels.All P := by
  induction hs with
  | nil => simp [levelsOfHandlers]
  | cons h hs ih =>
    cases h
    simp [levelsOfHandlers, ih]

@[simp] theorem all_levelsOfCases {cs : List MatchCase} : (levelsOfCases cs).All P ↔
    ∀ c ∈ cs, c.pattern.levels.All P ∧ (∀ e, c.guard = some e → e.levels.All P) ∧ ∀ s ∈ c.body, s.levels.All P := by
  induction cs with
  | nil => simp [levelsOfCases]
  | cons c cs ih =>
    cases c
    simp [levelsOfCases, ih]

end CallAtlas.Source.Levels
