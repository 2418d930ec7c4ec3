import CallAtlas.Proofs.Grammar.Judgements
import CallAtlas.Proofs.Grammar.Targets

/-!
# Parsed expressions are marked

One lemma for each rule of the grammar of expressions: if the parser of inner expressions gives marked ones, so does the
rule. The knot is tied over the depth of nesting.
-/

namespace CallAtlas.Source

namespace Parser

/-- The parser gives marked expressions. -/
abbrev Marks (p : Parser Expr) : Prop := Gives p fun e => e.levels.Marked

/-- The parser gives lists of marked expressions. -/
abbrev MarksAll (p : Parser (List Expr)) : Prop := Gives p fun es => ∀ e ∈ es, e.levels.Marked

theorem Gives.orMalformed {α : Type} (o : Option α) : Gives (orMalformed o) (o = some ·) := by
  cases o with
  | none => exact .throw _
  | some a => exact .pure rfl

section Expression

variable {inner : Inner} {primary operand : Parser Expr}

/-! ## Operators -/

theorem marks_leftAssociative (h : Marks operand) (op? : String → Option BinaryOp) :
    Marks (leftAssociative operand op?) := by
  refine h.bind fun first hfirst => .iterate (fun e => e.levels.Marked) hfirst fun left hleft => .skip .peek fun l => ?_
  split
  · split
    · refine .skip .advance fun _ => h.bind fun right hright => .pure ?_
      simp [Expr.levels, hleft, hright]
    · exact .pure hleft
  · exact .pure hleft

theorem marks_power (h : ∀ level, Marks (inner level)) (hp : Marks primary) : Marks (power inner primary) := by
  refine .skip (.acceptKeyword _) fun _ => ?_
  extract_lets next
  have rest : ∀ base, base.levels.Marked → Marks (next base) := by
    intro base hbase
    refine .skip (.acceptMark _) fun _ => ?_
    split
    · exact (h _).bind fun e he => .pure (by simp [Expr.levels, hbase, he])
    · exact .pure hbase
  split
  · exact .bind (hp.map fun e he => by simpa [Expr.levels] using he) rest
  · exact hp.bind rest

theorem marks_factor (h : ∀ level, Marks (inner level)) (hp : Marks primary) : Marks (factor inner primary) := by
  refine .skip .peek fun l => ?_
  have signed (op : UnaryOp) : Marks (do advance; return .unary op (← inner .factor)) :=
    .skip .advance fun _ => (h _).bind fun e he => .pure (by simpa [Expr.levels] using he)
  split
  · exact signed _
  · exact signed _
  · exact signed _
  · exact marks_power h hp

theorem marks_bitOr (h : ∀ level, Marks (inner level)) (hp : Marks primary) : Marks (bitOr inner primary) := by
  have product : Marks (term inner primary) := marks_leftAssociative (marks_factor h hp) _
  have shift : Marks (shift inner primary) := marks_leftAssociative (marks_leftAssociative product _) _
  exact marks_leftAssociative (marks_leftAssociative (marks_leftAssociative shift _) _) _

theorem takes_compareOp? : Takes compareOp? := by
  have read (op : CompareOp) : Takes (do advance; return some op) := .skip .advance fun _ => .pure trivial
  refine .skip .peek fun l => ?_
  split
  · exact read _
  · exact read _
  · exact read _
  · exact read _
  · exact read _
  · exact read _
  · exact read _
  · refine .skip .peekSecond fun _ => ?_
    split
    · exact .skip .advance fun _ => read _
    · exact .pure trivial
  · refine .skip .advance fun _ => .skip (.acceptKeyword _) fun _ => ?_
    split <;> exact .pure trivial
  · exact .pure trivial

theorem marks_comparison (h : ∀ level, Marks (inner level)) (hp : Marks primary) :
    Marks (comparison inner primary) := by
  have operand := marks_bitOr h hp
  refine operand.bind fun left hleft => .bind (P := fun cs => ∀ c ∈ cs, c.operand.levels.Marked) ?_ fun rest hrest => ?_
  · refine .iterate (fun acc => ∀ c ∈ acc, c.operand.levels.Marked) (by simp) fun acc hacc =>
      .skip takes_compareOp? fun _ => ?_
    split
    · exact operand.bind fun e he => .pure (by simpa [he] using hacc)
    · exact .pure (by simpa using hacc)
  · split
    · exact .pure hleft
    · exact .pure (by simpa [Expr.levels, hleft] using hrest)

theorem marks_inversion (h : ∀ level, Marks (inner level)) (hp : Marks primary) : Marks (inversion inner primary) := by
  refine .skip (.acceptKeyword _) fun _ => ?_
  split
  · exact (h _).bind fun e he => .pure (by simpa [Expr.levels] using he)
  · exact marks_comparison h hp

theorem marks_joined (word : String) (op : BoolOp) (h : Marks operand) : Marks (joined word op operand) := by
  refine h.bind fun first hfirst => .bind (P := fun es => ∀ e ∈ es, e.levels.Marked) ?_ fun all hall => ?_
  · refine .iterate (fun acc => ∀ e ∈ acc, e.levels.Marked) (by simpa using hfirst) fun acc hacc =>
      .skip (.acceptKeyword _) fun _ => ?_
    split
    · exact h.bind fun e he => .pure (by simpa [he] using hacc)
    · exact .pure (by simpa using hacc)
  · split
    · exact .pure (hall _ (by simp))
    · exact .pure (by simpa [Expr.levels] using hall)

theorem marks_disjunction (h : ∀ level, Marks (inner level)) (hp : Marks primary) : Marks (disjunction inner primary) :=
  marks_joined _ _ (marks_joined _ _ (marks_inversion h hp))

/-! ## Lists of expressions -/

theorem marks_starExpression (h : ∀ level, Marks (inner level)) : Marks (starExpression inner) := by
  refine .skip (.acceptMark _) fun _ => ?_
  split
  · exact (h _).bind fun e he => .pure (by simpa [Expr.levels] using he)
  · exact h _

/-- Entries divided by commas, of which the last may be followed by one more. -/
theorem marksAll_commas {item : Parser Expr} {starts : Lexeme → Bool} {P : Expr → Prop} (h : Gives item P)
    {first : Expr} (hfirst : P first) :
    Gives (iterate [first] fun (acc : List Expr) => do
      if ← acceptMark "," then
        if starts (← peek) then return .inl ((← item) :: acc) else return .inr acc.reverse
      else return .inr acc.reverse) fun es => ∀ e ∈ es, P e := by
  refine .iterate (fun acc => ∀ e ∈ acc, P e) (by simpa using hfirst) fun acc hacc => .skip (.acceptMark _) fun _ => ?_
  split
  · refine .skip .peek fun _ => ?_
    split
    · exact h.bind fun e he => .pure (by simpa [he] using hacc)
    · exact .pure (by simpa using hacc)
  · exact .pure (by simpa using hacc)

theorem marks_starExpressions (h : ∀ level, Marks (inner level)) : Marks (starExpressions inner) := by
  refine (marks_starExpression h).bind fun first hfirst => .skip (.atMark _) fun _ => ?_
  split
  · exact (marksAll_commas (marks_starExpression h) hfirst).bind fun es hes => .pure (by simpa [Expr.levels] using hes)
  · exact .pure hfirst

theorem marks_namedExpression (h : ∀ level, Marks (inner level)) : Marks (namedExpression inner) := by
  have plain : Marks (namedExpression.plain inner) := by
    refine (h _).bind fun e he => .skip (.atMark _) fun _ => ?_
    split
    · exact .unexpected
    · exact .pure he
  refine .skip .peek fun l => ?_
  split
  · refine .skip .peekSecond fun _ => ?_
    split
    · refine .skip .advance fun _ => .skip .advance fun _ => (h _).bind fun e he => .pure ?_
      simp [Expr.levels, he, Expr.IsTarget, Expr.targetNames]
    · exact plain
  · exact plain

theorem marks_starNamedExpression (h : ∀ level, Marks (inner level)) : Marks (starNamedExpression inner) := by
  refine .skip (.acceptMark _) fun _ => ?_
  split
  · exact (h _).bind fun e he => .pure (by simpa [Expr.levels] using he)
  · exact marks_namedExpression h

/-- Items with commas between them, up to a closing mark. -/
theorem gives_listUntil {α : Type} {item : Parser α} {P : α → Prop} (h : Gives item P) (close : String) {first : α}
    (hfirst : P first) :
    Gives (iterate [first] fun (acc : List α) => do
      if ← acceptMark close then return .inr acc.reverse
      else
        expectMark ","
        if ← acceptMark close then return .inr acc.reverse else return .inl ((← item) :: acc))
      fun items => ∀ i ∈ items, P i := by
  refine .iterate (fun acc => ∀ i ∈ acc, P i) (by simpa using hfirst) fun acc hacc => .skip (.acceptMark _) fun _ => ?_
  split
  · exact .pure (by simpa using hacc)
  · refine .skip (.expectMark _) fun _ => .skip (.acceptMark _) fun _ => ?_
    split
    · exact .pure (by simpa using hacc)
    · exact h.bind fun i hi => .pure (List.forall_mem_cons.2 ⟨hi, hacc⟩)

theorem marksAll_restUntil {item : Parser Expr} (h : Marks item) (close : String) {first : Expr}
    (hfirst : first.levels.Marked) : MarksAll (restUntil close item first) := gives_listUntil h close hfirst

theorem marks_yieldExpression (h : ∀ level, Marks (inner level)) : Marks (yieldExpression inner) := by
  refine .skip (.expectKeyword _) fun _ => .skip (.acceptKeyword _) fun _ => ?_
  split
  · exact (h _).bind fun e he => .pure (by simpa [Expr.levels] using he)
  · refine .skip .peek fun _ => ?_
    split
    · exact (marks_starExpressions h).bind fun e he => .pure (by simpa [Expr.levels] using he)
    · exact .pure (by simp [Expr.levels])

/-! ## Targets and comprehensions -/

theorem gives_starTarget (h : ∀ level, Marks (inner level)) :
    Gives (starTarget inner) fun t => t.IsTarget ∧ t.levels.Marked := by
  have target : Gives (do let e ← inner .primary; orMalformed (e.asTarget? .store true)) fun t =>
      t.IsTarget ∧ t.levels.Marked := by
    refine (h _).bind fun e he => (Gives.orMalformed _).mono fun t ht => ?_
    obtain ⟨isTarget, marked⟩ := e.asTarget?_eq_some (by decide) ht
    exact ⟨isTarget, marked he⟩
  refine .skip (.acceptMark _) fun _ => ?_
  split
  · refine .skip (.atMark _) fun _ => ?_
    extract_lets next
    have rest : ∀ u, Gives (next u) fun t => t.IsTarget ∧ t.levels.Marked := by
      intro u
      refine (h _).bind fun e he => (Gives.orMalformed _).map fun t ht => ?_
      obtain ⟨isTarget, marked⟩ := e.asTarget?_eq_some (by decide) ht
      exact ⟨isTarget_starred.2 isTarget, by simpa [Expr.levels] using marked he⟩
    split
    · exact .unexpected_bind
    · exact rest ()
  · exact target

theorem gives_starTargets (h : ∀ level, Marks (inner level)) :
    Gives (starTargets inner) fun t => t.IsTarget ∧ t.levels.Marked := by
  refine (gives_starTarget h).bind fun first hfirst => .skip (.atMark _) fun _ => ?_
  split
  · refine (marksAll_commas (gives_starTarget h) hfirst).bind fun ts hts => .pure ?_
    exact ⟨isTarget_tuple.2 fun t ht => (hts t ht).1, by simpa [Expr.levels] using fun t ht => (hts t ht).2⟩
  · exact .pure hfirst

theorem takes_atClause : Takes atClause := by
  refine .skip .peek fun l => ?_
  split <;> exact .pure trivial

theorem marksAll_conditions (h : ∀ level, Marks (inner level)) : MarksAll (conditions inner) := by
  refine .iterate (fun acc => ∀ e ∈ acc, e.levels.Marked) (by simp) fun acc hacc => .skip (.acceptKeyword _) fun _ => ?_
  split
  · exact (h _).bind fun e he => .pure (by simpa [he] using hacc)
  · exact .pure (by simpa using hacc)

theorem gives_clauses (h : ∀ level, Marks (inner level)) :
    Gives (clauses inner) fun cs => (levelsOfClauses cs).Marked := by
  refine .iterate (fun acc => (levelsOfClauses acc).Marked) (by simp) fun acc hacc => .skip takes_atClause fun _ => ?_
  split
  · refine .skip (.acceptKeyword _) fun _ => .skip (.expectKeyword _) fun _ => (gives_starTargets h).bind fun t ht => ?_
    refine .skip (.expectKeyword _) fun _ => (h _).bind fun iter hiter => (marksAll_conditions h).bind fun es hes => ?_
    exact .pure (Levels.all_levelsOfClauses.2
      (List.forall_mem_cons.2 ⟨⟨ht.2, hiter, hes⟩, Levels.all_levelsOfClauses.1 hacc⟩))
  · exact .pure (by simpa using hacc)

/-! ## Arguments and parameters -/

/-- All arguments read so far are marked. -/
def ArgState.Marked (st : ArgState) : Prop :=
  (∀ e ∈ st.args, e.levels.Marked) ∧ ∀ k ∈ st.keywords, k.value.levels.Marked

theorem gives_argument (h : ∀ level, Marks (inner level)) {st : ArgState} (hst : st.Marked) :
    Gives (argument inner st) ArgState.Marked := by
  have plain : Gives (argument.plain inner st) ArgState.Marked := by
    unfold argument.plain
    extract_lets next
    have rest : ∀ u, Gives (next u) ArgState.Marked := by
      intro u
      refine (marks_namedExpression h).bind fun e he => .skip (.atMark _) fun _ => ?_
      split
      · exact .unexpected_bind
      · exact .pure ⟨List.forall_mem_cons.2 ⟨he, hst.1⟩, hst.2⟩
    split
    · exact .unexpected_bind
    · exact rest ()
  refine .skip .peek fun l => ?_
  split
  · extract_lets next
    have rest : ∀ u, Gives (next u) ArgState.Marked := fun u => .skip .advance fun _ => (h _).bind fun e he =>
      .pure ⟨List.forall_mem_cons.2 ⟨by simpa [Expr.levels] using he, hst.1⟩, hst.2⟩
    split
    · exact .unexpected_bind
    · exact rest ()
  · exact .skip .advance fun _ => (h _).bind fun e he => .pure ⟨hst.1, List.forall_mem_cons.2 ⟨he, hst.2⟩⟩
  · refine .skip .peekSecond fun _ => ?_
    split
    · exact .skip .advance fun _ => .skip .advance fun _ => (h _).bind fun e he =>
        .pure ⟨hst.1, List.forall_mem_cons.2 ⟨he, hst.2⟩⟩
    · exact plain
  · exact plain

theorem gives_arguments (h : ∀ level, Marks (inner level)) (allowGenerator : Bool) :
    Gives (arguments inner allowGenerator) fun r =>
      (∀ e ∈ r.1, e.levels.Marked) ∧ ∀ k ∈ r.2, k.value.levels.Marked := by
  refine .skip (.acceptMark _) fun _ => ?_
  split
  · exact .pure (by simp)
  refine (gives_argument h (by simp [ArgState.Marked])).bind fun first hfirst => .skip takes_atClause fun _ => ?_
  extract_lets next
  have rest : ∀ u, Gives (next u) fun r => (∀ e ∈ r.1, e.levels.Marked) ∧ ∀ k ∈ r.2, k.value.levels.Marked := by
    intro u
    refine .iterate ArgState.Marked hfirst fun st hst => .skip (.acceptMark _) fun _ => ?_
    have all : (∀ e ∈ st.args.reverse, e.levels.Marked) ∧ ∀ k ∈ st.keywords.reverse, k.value.levels.Marked := by
      simpa [ArgState.Marked] using hst
    split
    · exact .pure all
    · refine .skip (.expectMark _) fun _ => .skip (.acceptMark _) fun _ => ?_
      split
      · exact .pure all
      · exact (gives_argument h hst).bind fun st hst => .pure hst
  split
  · split
    · rename_i e args keywords
      extract_lets generator
      have single : ∀ u, Gives (generator u) fun r =>
          (∀ e ∈ r.1, e.levels.Marked) ∧ ∀ k ∈ r.2, k.value.levels.Marked := by
        intro u
        refine (gives_clauses h).bind fun cs hcs => .skip (.expectMark _) fun _ => .pure ⟨?_, by simp⟩
        have he : e.levels.Marked := hfirst.1 e (by simp [args])
        simpa [Expr.levels, he] using hcs
      split
      · exact .unexpected_bind
      · exact single ()
    · exact .unexpected_bind
  · exact rest ()

/-- The type hint and the default of a parameter are marked. -/
def MarkedParam (p : Param) : Prop :=
  (∀ e, p.typeHint = some e → e.levels.Marked) ∧ ∀ e, p.default = some e → e.levels.Marked

/-- All parameters read so far are marked. -/
structure ParamState.Marked (st : ParamState) : Prop where
  positionalOnly : ∀ p ∈ st.positionalOnly, MarkedParam p
  regular : ∀ p ∈ st.regular, MarkedParam p
  variadic : ∀ p, st.variadic = some p → MarkedParam p
  keywordOnly : ∀ p ∈ st.keywordOnly, MarkedParam p
  keywordVariadic : ∀ p, st.keywordVariadic = some p → MarkedParam p

theorem ParamState.Marked.params {st : ParamState} (h : st.Marked) : st.params.levels.Marked := by
  rw [ParamState.params, Params.levels]
  simp only [Levels.all_cons, Levels.all_beside, Levels.all_levelsOfParams, Levels.all_levelsOfDefaults,
    Levels.all_levelsOfParam?, List.mem_reverse]
  exact ⟨by simp, fun p hp => (h.positionalOnly p hp).1, fun p hp => (h.regular p hp).1,
    fun p hp => (h.variadic p hp).1, fun p hp => (h.keywordOnly p hp).1, fun p hp => (h.keywordOnly p hp).2,
    fun p hp => (h.keywordVariadic p hp).1, fun p hp => (h.positionalOnly p hp).2, fun p hp => (h.regular p hp).2⟩

/-- The parser gives marked expressions or none. -/
abbrev MarksOption (p : Parser (Option Expr)) : Prop := Gives p fun o => ∀ e, o = some e → e.levels.Marked

theorem marksOption_some {p : Parser Expr} (h : Marks p) : MarksOption (some <$> p) :=
  h.map fun e he e' same => by cases same; exact he

theorem marksOption_typeHint (h : ∀ level, Marks (inner level)) (annotated allowStar : Bool) :
    MarksOption (typeHint inner annotated allowStar) := by
  unfold typeHint
  split
  · refine .skip (.acceptMark _) fun _ => ?_
    split
    · split
      · exact marksOption_some (marks_starExpression h)
      · exact marksOption_some (h _)
    · exact .pure (by simp)
  · exact .pure (by simp)

theorem gives_parameter (h : ∀ level, Marks (inner level)) (annotated : Bool) {st : ParamState} (hst : st.Marked) :
    Gives (parameter inner annotated st) ParamState.Marked := by
  unfold parameter
  extract_lets behindSlash behindStar sawDefault entry
  have afterSlash : ∀ u, Gives (behindSlash u) ParamState.Marked := fun u => .skip .advance fun _ => .pure
    ⟨hst.regular, by simp, hst.variadic, hst.keywordOnly, hst.keywordVariadic⟩
  have afterStar : ∀ u, Gives (behindStar u) ParamState.Marked := by
    intro u
    refine .skip .advance fun _ => .skip (.atMark _) fun _ => ?_
    split
    · refine .skip .peekSecond fun l => ?_
      split
      · exact .pure ⟨hst.positionalOnly, hst.regular, hst.variadic, hst.keywordOnly, hst.keywordVariadic⟩
      · exact .skip .advance fun _ => .unexpected
    · refine .skip .name fun id => (marksOption_typeHint h _ _).bind fun hint hhint => .pure
        ⟨hst.positionalOnly, hst.regular, ?_, hst.keywordOnly, hst.keywordVariadic⟩
      rintro p ⟨⟩
      exact ⟨by simpa using hhint, by simp⟩
  have read : ∀ u, Gives (entry u) ParamState.Marked := by
    intro u
    refine .skip .peek fun l => ?_
    split
    · split
      · exact .unexpected_bind
      · exact afterSlash ()
    · split
      · exact .unexpected_bind
      · exact afterStar ()
    · refine .skip .advance fun _ => .skip .name fun id => (marksOption_typeHint h _ _).bind fun hint hhint => .pure
        ⟨hst.positionalOnly, hst.regular, hst.variadic, hst.keywordOnly, ?_⟩
      rintro p ⟨⟩
      exact ⟨by simpa using hhint, by simp⟩
    · refine .skip .name fun id => (marksOption_typeHint h _ _).bind fun hint hhint => .skip (.acceptMark _) fun _ => ?_
      extract_lets next
      have rest : ∀ d, (∀ e, d = some e → e.levels.Marked) → Gives (next d) ParamState.Marked := by
        intro d hd
        have marked : MarkedParam ⟨id, hint, d⟩ := ⟨by simpa using hhint, by simpa using hd⟩
        simp only [next]
        split
        · exact .pure ⟨hst.positionalOnly, hst.regular, hst.variadic,
            List.forall_mem_cons.2 ⟨marked, hst.keywordOnly⟩, hst.keywordVariadic⟩
        · split
          · exact .unexpected_bind
          · exact .pure ⟨hst.positionalOnly, List.forall_mem_cons.2 ⟨marked, hst.regular⟩, hst.variadic,
              hst.keywordOnly, hst.keywordVariadic⟩
      split
      · exact (marksOption_some (h _)).bind rest
      · exact .bind (.pure (Q := (· = none)) rfl) fun d hd => rest d (by simp [hd])
  split
  · exact .unexpected_bind
  · exact read ()

theorem gives_parameters (h : ∀ level, Marks (inner level)) (annotated : Bool) (close : String) :
    Gives (parameters inner annotated close) fun ps => ps.levels.Marked := by
  have empty : ParamState.Marked {} := ⟨by simp, by simp, by simp, by simp, by simp⟩
  refine .skip (.acceptMark _) fun _ => ?_
  split
  · exact .pure empty.params
  · refine (gives_parameter h annotated empty).bind fun first hfirst =>
      .iterate ParamState.Marked hfirst fun st hst => .skip (.acceptMark _) fun _ => ?_
    split
    · exact .pure hst.params
    · refine .skip (.expectMark _) fun _ => .skip (.acceptMark _) fun _ => ?_
      split
      · exact .pure hst.params
      · exact (gives_parameter h annotated hst).bind fun st hst => .pure hst

/-! ## Displays -/

theorem marks_roundBrackets (h : ∀ level, Marks (inner level)) : Marks (roundBrackets inner) := by
  refine .skip (.expectMark _) fun _ => .skip (.acceptMark _) fun _ => ?_
  split
  · exact .pure (by simp [Expr.levels])
  refine .skip (.atKeyword _) fun _ => ?_
  split
  · exact (marks_yieldExpression h).bind fun e he => .skip (.expectMark _) fun _ => .pure he
  refine (marks_starNamedExpression h).bind fun first hfirst => .skip (.atMark _) fun _ => ?_
  split
  · exact (marksAll_restUntil (marks_starNamedExpression h) _ hfirst).bind fun es hes =>
      .pure (by simpa [Expr.levels] using hes)
  extract_lets next
  have rest : ∀ u, Marks (next u) := by
    intro u
    refine .skip takes_atClause fun _ => ?_
    split
    · exact (gives_clauses h).bind fun cs hcs => .skip (.expectMark _) fun _ =>
        .pure (by simpa [Expr.levels, hfirst] using hcs)
    · exact .skip (.expectMark _) fun _ => .pure hfirst
  split
  · exact .unexpected_bind
  · exact rest ()

theorem marks_squareBrackets (h : ∀ level, Marks (inner level)) : Marks (squareBrackets inner) := by
  refine .skip (.expectMark _) fun _ => .skip (.acceptMark _) fun _ => ?_
  split
  · exact .pure (by simp [Expr.levels])
  refine (marks_starNamedExpression h).bind fun first hfirst => .skip takes_atClause fun _ => ?_
  split
  · extract_lets next
    have rest : ∀ u, Marks (next u) := fun u => (gives_clauses h).bind fun cs hcs => .skip (.expectMark _) fun _ =>
      .pure (by simpa [Expr.levels, hfirst] using hcs)
    split
    · exact .unexpected_bind
    · exact rest ()
  · exact (marksAll_restUntil (marks_starNamedExpression h) _ hfirst).bind fun es hes =>
      .pure (by simpa [Expr.levels] using hes)

/-- The key and the value of an entry are marked. -/
def MarkedItem (i : DictItem) : Prop := (∀ e, i.key = some e → e.levels.Marked) ∧ i.value.levels.Marked

theorem gives_dictItem (h : ∀ level, Marks (inner level)) : Gives (dictItem inner) MarkedItem := by
  refine .skip (.acceptMark _) fun _ => ?_
  split
  · exact (h _).bind fun e he => .pure ⟨by simp, he⟩
  · exact (h _).bind fun key hkey => .skip (.expectMark _) fun _ => (h _).bind fun value hvalue =>
      .pure ⟨by simpa using hkey, hvalue⟩

theorem marks_restOfDict (h : ∀ level, Marks (inner level)) {first : DictItem} (hfirst : MarkedItem first) :
    Marks (restOfDict inner first) := by
  refine (gives_listUntil (gives_dictItem h) _ hfirst).bind fun items hitems => .pure ?_
  simp only [Expr.levels, Levels.all_cons, Levels.all_beside, Levels.all_levelsOfKeys, Levels.all_levelsOfValues]
  exact ⟨by simp, fun i hi => (hitems i hi).1, fun i hi => (hitems i hi).2⟩

theorem marks_restOfSet (h : ∀ level, Marks (inner level)) {first : Expr} (hfirst : first.levels.Marked) :
    Marks (restOfSet inner first) := by
  refine .skip takes_atClause fun _ => ?_
  split
  · extract_lets next
    have rest : ∀ u, Marks (next u) := fun u => (gives_clauses h).bind fun cs hcs => .skip (.expectMark _) fun _ =>
      .pure (by simpa [Expr.levels, hfirst] using hcs)
    split
    · exact .unexpected_bind
    · exact rest ()
  · exact (marksAll_restUntil (marks_starNamedExpression h) _ hfirst).bind fun es hes =>
      .pure (by simpa [Expr.levels] using hes)

theorem marks_curlyBrackets (h : ∀ level, Marks (inner level)) : Marks (curlyBrackets inner) := by
  have keyed : Marks (curlyBrackets.keyed inner) := by
    refine (h _).bind fun e he => .skip (.acceptMark _) fun _ => ?_
    split
    · refine (h _).bind fun value hvalue => .skip takes_atClause fun _ => ?_
      split
      · exact (gives_clauses h).bind fun cs hcs => .skip (.expectMark _) fun _ =>
          .pure (by simpa [Expr.levels, he, hvalue] using hcs)
      · exact marks_restOfDict h ⟨by simpa using he, hvalue⟩
    · refine .skip (.atMark _) fun _ => ?_
      split
      · exact .unexpected_bind
      · exact marks_restOfSet h he
  refine .skip (.expectMark _) fun _ => .skip (.acceptMark _) fun _ => ?_
  split
  · exact .pure (by simp [Expr.levels, levelsOfKeys, levelsOfValues])
  refine .skip .peek fun l => ?_
  split
  · exact (gives_dictItem h).bind fun i hi => marks_restOfDict h hi
  · exact (marks_starNamedExpression h).bind fun e he => marks_restOfSet h he
  · refine .skip .peekSecond fun _ => ?_
    split
    · exact (marks_namedExpression h).bind fun e he => marks_restOfSet h he
    · exact keyed
  · exact keyed

theorem marksOption_sliceBound (h : ∀ level, Marks (inner level)) : MarksOption (sliceBound inner) := by
  refine .skip .peek fun l => ?_
  split
  · exact .pure (by simp)
  · exact .pure (by simp)
  · exact .pure (by simp)
  · exact marksOption_some (h _)

theorem marks_sliceFrom (h : ∀ level, Marks (inner level)) {lower : Option Expr}
    (hlower : ∀ e, lower = some e → e.levels.Marked) : Marks (sliceFrom inner lower) := by
  refine (marksOption_sliceBound h).bind fun upper hupper => .skip (.acceptMark _) fun _ => ?_
  split
  · exact (marksOption_sliceBound h).bind fun step hstep =>
      .pure (by simpa [Expr.levels] using ⟨hlower, hupper, hstep⟩)
  · exact .pure (by simpa [Expr.levels] using ⟨hlower, hupper⟩)

theorem marks_index (h : ∀ level, Marks (inner level)) : Marks (index inner) := by
  have bounded : Marks (index.bounded inner) := by
    refine (h _).bind fun e he => .skip (.acceptMark _) fun _ => ?_
    split
    · exact marks_sliceFrom h (by simpa using he)
    · refine .skip (.atMark _) fun _ => ?_
      split
      · exact .unexpected
      · exact .pure he
  refine .skip (.acceptMark _) fun _ => ?_
  split
  · exact (h _).bind fun e he => .pure (by simpa [Expr.levels] using he)
  refine .skip (.acceptMark _) fun _ => ?_
  split
  · exact marks_sliceFrom h (by simp)
  refine .skip .peek fun l => ?_
  split
  · refine .skip .peekSecond fun _ => ?_
    split
    · exact marks_namedExpression h
    · exact bounded
  · exact bounded

theorem marks_indices (h : ∀ level, Marks (inner level)) : Marks (indices inner) := by
  refine (marks_index h).bind fun first hfirst => .skip (.atMark _) fun _ => ?_
  split
  · exact (marksAll_restUntil (marks_index h) _ hfirst).bind fun es hes => .pure (by simpa [Expr.levels] using hes)
  · refine .skip (.expectMark _) fun _ => ?_
    split
    · exact .pure (by simpa [Expr.levels] using hfirst)
    · exact .pure hfirst

/-! ## Literals -/

theorem marked_mergeTexts (isMarked : Bool) {es : List Expr} (h : ∀ e ∈ es, e.levels.Marked) :
    ∀ e ∈ mergeTexts isMarked es, e.levels.Marked := by
  fun_induction mergeTexts isMarked es with
  | case1 a _ rest b _ more merged ih =>
    have others := ih fun e he => h e (by simp [he])
    rw [merged] at others
    exact List.forall_mem_cons.2 ⟨by simp [Expr.levels], fun e he => others e (by simp [he])⟩
  | case2 a _ rest _ ih =>
    exact List.forall_mem_cons.2 ⟨by simp [Expr.levels], ih fun e he => h e (by simp [he])⟩
  | case3 e rest _ ih => exact List.forall_mem_cons.2 ⟨h e (by simp), ih fun e he => h e (by simp [he])⟩
  | case4 => simp

variable {field : List Char → Position → Except Fault Expr}

mutual

theorem marked_segmentExpr (hf : ∀ text start e, field text start = .ok e → e.levels.Marked) {isMarked : Bool}
    (s : Segment) {e : Expr} (h : segmentExpr field isMarked s = .ok e) : e.levels.Marked := by
  cases s with
  | text codes =>
    cases h
    simp [Expr.levels]
  | field expression start conversion spec =>
    rw [segmentExpr] at h
    obtain ⟨value, spec', read, readSpec, rfl⟩ := bind_bind_pure_eq_ok.1 h
    simpa [Expr.levels, hf _ _ _ read] using marked_specExpr hf spec readSpec

theorem marked_specExpr (hf : ∀ text start e, field text start = .ok e → e.levels.Marked) {isMarked : Bool}
    (spec : Option (List Segment)) {o : Option Expr} (h : specExpr field isMarked spec = .ok o) :
    ∀ e, o = some e → e.levels.Marked := by
  cases spec with
  | none =>
    cases h
    simp
  | some segments =>
    rw [specExpr] at h
    obtain ⟨es, read, rfl⟩ := bind_pure_eq_ok.1 h
    rintro e ⟨⟩
    simpa [Expr.levels] using marked_mergeTexts _ (marked_segmentExprs hf segments read)

theorem marked_segmentExprs (hf : ∀ text start e, field text start = .ok e → e.levels.Marked) {isMarked : Bool}
    (ss : List Segment) {es : List Expr} (h : segmentExprs field isMarked ss = .ok es) :
    ∀ e ∈ es, e.levels.Marked := by
  cases ss with
  | nil =>
    cases h
    simp
  | cons s ss =>
    rw [segmentExprs] at h
    obtain ⟨e, es, first, rest, rfl⟩ := bind_bind_pure_eq_ok.1 h
    exact List.forall_mem_cons.2 ⟨marked_segmentExpr hf s first, marked_segmentExprs hf ss rest⟩

end

theorem marked_literalExprs (hf : ∀ text start e, field text start = .ok e → e.levels.Marked) {isMarked : Bool}
    {parts : LiteralParts} {start : Position} {es : List Expr} (h : literalExprs field isMarked parts start = .ok es) :
    ∀ e ∈ es, e.levels.Marked := by
  unfold literalExprs at h
  split at h
  · split at h
    · exact marked_segmentExprs hf _ h
    · cases h
  · split at h
    · cases h
      split <;> simp [Expr.levels]
    · cases h

theorem marked_joinLiterals (hf : ∀ text start e, field text start = .ok e → e.levels.Marked)
    {all : List (LiteralParts × Position)} {e : Expr} (h : joinLiterals field all = .ok e) : e.levels.Marked := by
  unfold joinLiterals at h
  dsimp only at h
  split at h
  · obtain ⟨bytes, -, rfl⟩ := bind_pure_eq_ok.1 h
    simp [Expr.levels]
  split at h
  · cases h
  obtain ⟨pieces, read, h⟩ := bind_eq_ok.1 h
  have marked : ∀ e ∈ pieces.flatten, e.levels.Marked := by
    intro e he
    obtain ⟨es, hes, he⟩ := List.mem_flatten.1 he
    obtain ⟨literal, -, made⟩ := mem_of_mapM read hes
    exact marked_literalExprs hf made e he
  have merged := marked_mergeTexts (all.head?.any fun p => p.1.isMarked) marked
  split at h
  · cases pure_eq_ok.1 h
    simpa [Expr.levels] using merged
  · split at h
    · rename_i single
      cases pure_eq_ok.1 h
      exact merged e (by simp [single])
    · cases pure_eq_ok.1 h
      simp [Expr.levels]

theorem takes_literals : Takes literals := by
  refine .iterate (fun _ => True) trivial fun acc _ => .skip .peek fun l => ?_
  split
  · exact .skip .place fun _ => .skip .advance fun _ => .pure trivial
  · exact .pure trivial

/-! ## Primaries -/

theorem Gives.run {α : Type} {p : Parser α} {Q : α → Prop} (h : Gives p Q) {tokens : List Token} {a : α}
    (run : p.run tokens = .ok a) : Q a := by
  obtain ⟨r, read, rfl⟩ := map_eq_ok.1 run
  exact (h _ _ _ read).2

theorem marks_atom (h : ∀ level, Marks (inner level)) : Marks (atom inner) := by
  have read (c : Constant) : Marks (do advance; return .constant c) :=
    .skip .advance fun _ => .pure (by simp [Expr.levels])
  refine .skip .peek fun l => ?_
  split
  · exact .skip .advance fun _ => .pure (by simp [Expr.levels])
  · exact .skip (Gives.orMalformed _) fun c => read c
  · refine .skip takes_literals fun all => ?_
    extract_lets field
    split
    · rename_i e joined
      exact .pure (marked_joinLiterals (fun text start e parsed => (marks_starExpressions h).run parsed) joined)
    · exact .throw _
  · exact marks_roundBrackets h
  · exact marks_squareBrackets h
  · exact marks_curlyBrackets h
  · exact read _
  · exact read _
  · exact read _
  · exact read _
  · exact .unexpected

theorem marks_primary (h : ∀ level, Marks (inner level)) : Marks (Parser.primary inner) := by
  refine .skip .place fun start => (marks_atom h).bind fun first hfirst =>
    .iterate (fun e => e.levels.Marked) hfirst fun e he => .skip .peek fun l => ?_
  split
  · exact .skip .advance fun _ => .skip .name fun _ => .pure (by simpa [Expr.levels] using he)
  · refine .skip .advance fun _ => (gives_arguments h _).bind fun r hr => .pure ?_
    simpa [Expr.levels, he] using hr
  · exact .skip .advance fun _ => (marks_indices h).bind fun i hi => .pure (by simp [Expr.levels, he, hi])
  · exact .pure he

theorem marks_lambda (h : ∀ level, Marks (inner level)) : Marks (lambda inner) :=
  .skip (.expectKeyword _) fun _ => (gives_parameters h _ _).bind fun ps hps => (h _).bind fun e he =>
    .pure (by simp [Expr.levels, hps, he])

theorem marks_expression (h : ∀ level, Marks (inner level)) : Marks (expression inner) := by
  have choice := marks_disjunction h (marks_primary h)
  refine .skip (.atKeyword _) fun _ => ?_
  split
  · exact marks_lambda h
  · refine choice.bind fun body hbody => .skip (.acceptKeyword _) fun _ => ?_
    split
    · exact choice.bind fun test htest => .skip (.expectKeyword _) fun _ => (h _).bind fun e he =>
        .pure (by simp [Expr.levels, hbody, htest, he])
    · exact .pure hbody

/-- Expressions are marked, however deep they nest. -/
theorem marks_expressionAt (depth : Nat) (level : Level) : Marks (expressionAt depth level) := by
  induction depth generalizing level with
  | zero => exact .throw _
  | succ depth ih =>
    cases level with
    | expression => exact marks_expression ih
    | disjunction => exact marks_disjunction ih (marks_primary ih)
    | inversion => exact marks_inversion ih (marks_primary ih)
    | bitOr => exact marks_bitOr ih (marks_primary ih)
    | factor => exact marks_factor ih (marks_primary ih)
    | primary => exact marks_primary ih

end Expression

end Parser

end CallAtlas.Source
