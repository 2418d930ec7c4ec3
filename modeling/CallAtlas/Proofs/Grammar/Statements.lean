import CallAtlas.Proofs.Grammar.Patterns
import CallAtlas.Proofs.Grammar.Places
import CallAtlas.Source.Grammar.Statement

/-!
# Parsed statements

What the grammar of statements gives: trees in which all targets are marked, and in which definitions and imports start
one after the other in the order of the text. A definition starts at its keyword, and its parser reads this keyword
before what is inside; so the starts are some of the starts of the keywords, in their order.
-/

namespace CallAtlas.Source

mutual

/-- Where the definitions and imports in a statement start, at any depth, in the order of the text. -/
def Stmt.starts : Stmt → List Position
  | .functionDef ⟨_, _, body, _, _, _, span⟩ => span.start :: startsOf body
  | .classDef ⟨_, _, _, body, _, span⟩ => span.start :: startsOf body
  | .imports _ start => [start]
  | .forLoop _ _ _ body otherwise => startsOf body ++ startsOf otherwise
  | .whileLoop _ body otherwise => startsOf body ++ startsOf otherwise
  | .ifElse _ body otherwise => startsOf body ++ startsOf otherwise
  | .withBlock _ _ body => startsOf body
  | .matchBlock _ cases => startsOfCases cases
  | .tryBlock _ body handlers otherwise final =>
    startsOf body ++ startsOfHandlers handlers ++ startsOf otherwise ++ startsOf final
  | _ => []

/-- Where the definitions and imports in a block start. -/
def startsOf : List Stmt → List Position
  | [] => []
  | s :: ss => s.starts ++ startsOf ss

/-- Where the definitions and imports in handlers start. -/
def startsOfHandlers : List Handler → List Position
  | [] => []
  | ⟨_, _, body⟩ :: rest => startsOf body ++ startsOfHandlers rest

/-- Where the definitions and imports in the cases of a `match` statement start. -/
def startsOfCases : List MatchCase → List Position
  | [] => []
  | ⟨_, _, body⟩ :: rest => startsOf body ++ startsOfCases rest

end

theorem startsOf_eq_flatMap (ss : List Stmt) : startsOf ss = ss.flatMap Stmt.starts := by
  induction ss with
  | nil => rfl
  | cons s ss ih => rw [startsOf, List.flatMap_cons, ih]

theorem startsOfHandlers_eq_flatMap (hs : List Handler) :
    startsOfHandlers hs = hs.flatMap fun h => startsOf h.body := by
  induction hs with
  | nil => rfl
  | cons h hs ih =>
    cases h
    rw [startsOfHandlers, List.flatMap_cons, ih]

theorem startsOfCases_eq_flatMap (cs : List MatchCase) : startsOfCases cs = cs.flatMap fun c => startsOf c.body := by
  induction cs with
  | nil => rfl
  | cons c cs ih =>
    cases c
    rw [startsOfCases, List.flatMap_cons, ih]

namespace Parser

/-! ## Simple statements -/

theorem gives_commaSeparated {α : Type} {item : Parser α} {P : α → Prop} (h : Gives item P) :
    Gives (commaSeparated item) fun all => ∀ a ∈ all, P a := by
  refine h.bind fun first hfirst => .iterate (fun acc => ∀ a ∈ acc, P a) (by simpa using hfirst) fun acc hacc =>
    .skip (.acceptMark _) fun _ => ?_
  split
  · exact h.bind fun a ha => .pure (List.forall_mem_cons.2 ⟨ha, hacc⟩)
  · exact .pure (by simpa using hacc)

theorem takes_commaSeparated {α : Type} {item : Parser α} (h : Takes item) : Takes (commaSeparated item) :=
  (gives_commaSeparated h).mono fun _ _ => trivial

theorem takes_dottedPath : Takes dottedPath := by
  refine .skip .name fun first => .iterate (fun _ => True) trivial fun acc _ => .skip (.acceptMark _) fun _ => ?_
  split
  · exact .skip .name fun _ => .pure trivial
  · exact .pure trivial

theorem takes_boundAs : Takes boundAs := by
  refine .skip (.acceptKeyword _) fun _ => ?_
  split
  · exact Gives.name.map fun _ _ => trivial
  · exact .pure trivial

theorem takes_importLevel : Takes importLevel := by
  refine .iterate (fun _ => True) trivial fun n _ => .skip (.acceptMark _) fun _ => ?_
  split
  · exact .pure trivial
  · refine .skip (.acceptMark _) fun _ => ?_
    split <;> exact .pure trivial

theorem takes_importedName : Takes importedName := .skip .name fun _ => .skip takes_boundAs fun _ => .pure trivial

theorem takes_importedNames : Takes importedNames := by
  refine .skip (.acceptMark _) fun _ => ?_
  split
  · exact .pure trivial
  refine .skip (.acceptMark _) fun _ => ?_
  split
  · refine .skip takes_importedName fun first => .iterate (fun _ => True) trivial fun acc _ =>
      .skip (.acceptMark _) fun _ => ?_
    split
    · exact .pure trivial
    · refine .skip (.expectMark _) fun _ => .skip (.acceptMark _) fun _ => ?_
      split
      · exact .pure trivial
      · exact .skip takes_importedName fun _ => .pure trivial
  · exact takes_commaSeparated takes_importedName

section Imports

variable {pre : Input → Prop} {noted : List Position} {q : Position}

theorem collects_importModules (starts : ∀ i, pre i → AtPlace q i) :
    Collects pre noted importModules fun n _ => n = noted ++ [q] := by
  have item : Takes (do let n ← dottedPath; return (⟨n, ← boundAs⟩ : Alias)) :=
    .skip takes_dottedPath fun _ => .skip takes_boundAs fun _ => .pure trivial
  exact (Collects.expectKeyword starts).bind fun _ n hn =>
    .of_gives (P := fun _ => True) ((takes_commaSeparated item).map fun _ _ => trivial) fun _ _ => hn

theorem collects_importMembers (starts : ∀ i, pre i → AtPlace q i) :
    Collects pre noted importMembers fun n _ => n = noted ++ [q] := by
  refine (Collects.expectKeyword starts).bind fun _ n hn => .of_gives (P := fun _ => True) ?_ fun _ _ => hn
  refine .skip takes_importLevel fun level => ?_
  extract_lets next
  have rest : ∀ module, Takes (next module) := fun module =>
    .skip (.expectKeyword _) fun _ => .skip takes_importedNames fun _ => .pure trivial
  refine .skip (.atKeyword _) fun _ => ?_
  split
  · exact .skip (.pure (Q := fun _ => True) trivial) rest
  · exact .skip (P := fun _ => True) (takes_dottedPath.map fun _ _ => trivial) rest

end Imports

section Simple

variable {inner : Inner}

/-- A marked statement without definitions in it. -/
def IsPlain (s : Stmt) : Prop := s.levels.Marked ∧ s.starts = []

theorem marks_assignedValue (h : ∀ level, Marks (inner level)) : Marks (assignedValue inner) := by
  refine .skip (.atKeyword _) fun _ => ?_
  split
  · exact marks_yieldExpression h
  · exact marks_starExpressions h

theorem gives_assignment (h : ∀ level, Marks (inner level)) {first : Expr} (hfirst : first.levels.Marked) :
    Gives (assignment inner first) IsPlain := by
  refine .iterate (fun r => (∀ t ∈ r.1, t.IsTarget ∧ t.levels.Marked) ∧ r.2.levels.Marked) ⟨by simp, hfirst⟩ ?_
  rintro ⟨targets, e⟩ ⟨htargets, he⟩
  refine .skip (.acceptMark _) fun _ => ?_
  split
  · refine (Gives.orMalformed _).bind fun t ht => (marks_assignedValue h).bind fun value hvalue => ?_
    obtain ⟨isTarget, marked⟩ := e.asTarget?_eq_some (by decide) ht
    have kept : (∀ t' ∈ t :: targets, t'.IsTarget ∧ t'.levels.Marked) ∧ value.levels.Marked :=
      ⟨List.forall_mem_cons.2 ⟨⟨isTarget, marked he⟩, htargets⟩, hvalue⟩
    split
    · refine .skip (.atMark _) fun _ => ?_
      split
      · exact .unexpected
      · exact .pure kept
    · refine .skip (.atMark _) fun _ => ?_
      split
      · exact .unexpected
      · exact .pure kept
    · exact .pure kept
  · refine .pure ⟨?_, rfl⟩
    simp_all [Stmt.levels, Node.Marked, Node.targets]

theorem gives_expressionStatement (h : ∀ level, Marks (inner level)) : Gives (expressionStatement inner) IsPlain := by
  refine (marks_starExpressions h).bind fun e he => .skip .peek fun l => ?_
  have evaluated : IsPlain (.evaluate e) := ⟨by simpa [Stmt.levels, Node.Marked, Node.targets] using he, rfl⟩
  split
  · exact gives_assignment h he
  · refine (Gives.orMalformed _).bind fun t ht => .skip .advance fun _ => (h _).bind fun hint hhint => ?_
    obtain ⟨isTarget, marked⟩ := Expr.asSingleTarget?_eq_some ht
    refine .skip (.acceptMark _) fun _ => ?_
    extract_lets next
    have rest : ∀ value, (∀ e, value = some e → e.levels.Marked) → Gives (next value) IsPlain := fun value hvalue =>
      .pure ⟨by simpa [Stmt.levels, Node.Marked, Node.targets, isTarget, marked he, hhint] using hvalue, rfl⟩
    split
    · exact (marksOption_some (marks_assignedValue h)).bind rest
    · exact .bind (.pure (Q := (· = none)) rfl) fun value hvalue => rest value (by simp [hvalue])
  · split
    · refine (Gives.orMalformed _).bind fun t ht => .skip .advance fun _ => (marks_assignedValue h).bind fun v hv => ?_
      obtain ⟨isTarget, marked⟩ := Expr.asSingleTarget?_eq_some ht
      exact .pure ⟨by simp [Stmt.levels, Node.Marked, Node.targets, isTarget, marked he, hv], rfl⟩
    · exact .pure evaluated
  · exact .pure evaluated

theorem takes_atStatementEnd : Takes atStatementEnd := by
  refine .skip .peek fun l => ?_
  split <;> exact .pure trivial

theorem gives_deleteTargets (h : ∀ level, Marks (inner level)) :
    Gives (deleteTargets inner) fun ts => ∀ t ∈ ts, t.IsTarget ∧ t.levels.Marked := by
  unfold deleteTargets
  extract_lets target
  have single : Gives target fun t => t.IsTarget ∧ t.levels.Marked := by
    refine (h _).bind fun e he => (Gives.orMalformed _).mono fun t ht => ?_
    obtain ⟨isTarget, marked⟩ := e.asTarget?_eq_some (by decide) ht
    exact ⟨isTarget, marked he⟩
  refine single.bind fun first hfirst =>
    .bind (P := fun ts => ∀ t ∈ ts, t.IsTarget ∧ t.levels.Marked) ?_ fun all hall =>
    .skip takes_atStatementEnd fun _ => ?_
  · refine .iterate (fun acc => ∀ t ∈ acc, t.IsTarget ∧ t.levels.Marked) (by simpa using hfirst) fun acc hacc =>
      .skip (.acceptMark _) fun _ => ?_
    split
    · refine .skip takes_atStatementEnd fun _ => ?_
      split
      · exact .pure (by simpa using hacc)
      · exact single.bind fun t ht => .pure (List.forall_mem_cons.2 ⟨ht, hacc⟩)
    · exact .pure (by simpa using hacc)
  · split
    · exact .pure hall
    · exact .unexpected

/-- The parser gives a marked statement and notes where the definitions in it start. -/
abbrev Notes (pre : Input → Prop) (p : Parser Stmt) : Prop :=
  ∀ noted, Collects pre noted p fun n s => n = noted ++ s.starts ∧ s.levels.Marked

theorem notes_of_gives {pre : Input → Prop} {p : Parser Stmt} (h : Gives p IsPlain) : Notes pre p := fun noted =>
  .of_gives h fun s hs => ⟨by rw [hs.2, List.append_nil], hs.1⟩

theorem gives_simple {s : Stmt} (hs : IsPlain s) : Gives (do advance; return s) IsPlain :=
  .skip .advance fun _ => .pure hs

theorem notes_simpleStatement (h : ∀ level, Marks (inner level)) : Notes anywhere (simpleStatement inner) := by
  intro noted
  refine .peek fun l => ?_
  split
  · exact notes_of_gives (gives_simple ⟨by simp [Stmt.levels, Node.Marked, Node.targets], rfl⟩) noted
  · exact notes_of_gives (gives_simple ⟨by simp [Stmt.levels, Node.Marked, Node.targets], rfl⟩) noted
  · exact notes_of_gives (gives_simple ⟨by simp [Stmt.levels, Node.Marked, Node.targets], rfl⟩) noted
  · refine notes_of_gives (.skip .advance fun _ => .skip takes_atStatementEnd fun _ => ?_) noted
    split
    · exact .pure ⟨by simp [Stmt.levels, Node.Marked, Node.targets], rfl⟩
    · exact (marks_starExpressions h).bind fun e he =>
        .pure ⟨by simpa [Stmt.levels, Node.Marked, Node.targets] using he, rfl⟩
  · exact .place fun q => (collects_importModules fun i hi => hi.2).bind fun i n hn =>
      .pure ⟨hn, by simp [Stmt.levels, Node.Marked, Node.targets]⟩
  · exact .place fun q => (collects_importMembers fun i hi => hi.2).bind fun i n hn =>
      .pure ⟨hn, by simp [Stmt.levels, Node.Marked, Node.targets]⟩
  · refine notes_of_gives (.skip .advance fun _ => .skip takes_atStatementEnd fun _ => ?_) noted
    split
    · exact .pure ⟨by simp [Stmt.levels, Node.Marked, Node.targets], rfl⟩
    refine (h _).bind fun exception hexception => .skip (.acceptKeyword _) fun _ => ?_
    extract_lets next
    have rest : ∀ cause, (∀ e, cause = some e → e.levels.Marked) → Gives (next cause) IsPlain := fun cause hcause =>
      .pure ⟨by simpa [Stmt.levels, Node.Marked, Node.targets, hexception] using hcause, rfl⟩
    split
    · exact (marksOption_some (h _)).bind rest
    · exact .bind (.pure (Q := (· = none)) rfl) fun cause hcause => rest cause (by simp [hcause])
  · refine notes_of_gives (.skip .advance fun _ => (gives_deleteTargets h).map fun ts hts => ⟨?_, rfl⟩) noted
    simpa [Stmt.levels, Node.Marked, Node.targets, forall_and] using hts
  · exact notes_of_gives ((marks_yieldExpression h).map fun e he =>
      ⟨by simpa [Stmt.levels, Node.Marked, Node.targets] using he, rfl⟩) noted
  · refine notes_of_gives (.skip .advance fun _ => (h _).bind fun test htest => .skip (.acceptMark _) fun _ => ?_) noted
    extract_lets next
    have rest : ∀ message, (∀ e, message = some e → e.levels.Marked) → Gives (next message) IsPlain :=
      fun message hmessage => .pure ⟨by simpa [Stmt.levels, Node.Marked, Node.targets, htest] using hmessage, rfl⟩
    split
    · exact (marksOption_some (h _)).bind rest
    · exact .bind (.pure (Q := (· = none)) rfl) fun message hmessage => rest message (by simp [hmessage])
  · exact notes_of_gives (.skip .advance fun _ => (takes_commaSeparated .name).map fun names _ =>
      ⟨by simp [Stmt.levels, Node.Marked, Node.targets], rfl⟩) noted
  · exact notes_of_gives (.skip .advance fun _ => (takes_commaSeparated .name).map fun names _ =>
      ⟨by simp [Stmt.levels, Node.Marked, Node.targets], rfl⟩) noted
  · exact notes_of_gives (gives_expressionStatement h) noted

/-- The parser gives marked statements and notes where the definitions in them start. -/
abbrev NotesAll (pre : Input → Prop) (p : Parser (List Stmt)) : Prop :=
  ∀ noted, Collects pre noted p fun n ss => n = noted ++ startsOf ss ∧ ∀ s ∈ ss, s.levels.Marked

theorem notes_simpleStatements (h : ∀ level, Marks (inner level)) : NotesAll anywhere (simpleStatements inner) := by
  intro noted
  refine (notes_simpleStatement h noted).bind fun first n hfirst => ?_
  refine .iterate (fun n acc => n = noted ++ startsOf acc.reverse ∧ ∀ s ∈ acc, s.levels.Marked) ?_ fun acc n hacc => ?_
  · simpa [startsOf] using hfirst
  · have done : n = noted ++ startsOf acc.reverse ∧ ∀ s ∈ acc.reverse, s.levels.Marked := by simpa using hacc
    refine .skip (.accept _) fun _ _ => ?_
    split
    · exact .pure done
    · refine .skip (.expectMark _) fun _ _ => .skip (.accept _) fun _ _ => ?_
      split
      · exact .pure done
      · refine (notes_simpleStatement h n).bind fun s n' hs => .pure ⟨?_, List.forall_mem_cons.2 ⟨hs.2, hacc.2⟩⟩
        rw [hs.1, hacc.1]
        simp [startsOf_eq_flatMap]

end Simple

/-! ## Compound statements -/

section Compound

variable {rules : Rules}

/-- What the parsers of statements build on does its part. -/
structure Sound (rules : Rules) : Prop where
  inner : ∀ level, Marks (rules.inner level)
  pattern : MarksPattern rules.pattern
  block : NotesAll anywhere rules.block

theorem notes_suite (h : Sound rules) : NotesAll anywhere (suite rules) := by
  intro noted
  refine .skip (.expectMark _) fun _ _ => .skip (.accept _) fun _ _ => ?_
  split
  · refine .skip (.accept _) fun _ _ => ?_
    split
    · exact (h.block noted).bind fun ss n hss => .skip (.expect _) fun _ _ => .pure hss
    · exact .of_never .missingBlock
  · exact notes_simpleStatements h.inner noted

theorem notes_elseBlock (h : Sound rules) : NotesAll anywhere (elseBlock rules) := by
  intro noted
  refine .skip (.acceptKeyword _) fun _ _ => ?_
  split
  · exact notes_suite h noted
  · exact .pure ⟨by simp [startsOf], by simp⟩

/-- A function definition, whose start is noted before or with its keyword. -/
theorem collects_functionDefinition (h : Sound rules) {ds : List Expr} (hds : ∀ e ∈ ds, e.levels.Marked)
    (isAsync : Bool) {start : Position} {pre : Input → Prop} {before noted : List Position}
    (keyword : Collects pre before (expectKeyword "def") fun n _ => n = noted ++ [start]) :
    Collects pre before (functionDefinition rules ds isAsync start) fun n s =>
      n = noted ++ s.starts ∧ s.levels.Marked := by
  refine keyword.bind fun _ n hn => .skip .name fun id _ => .skip (.expectMark _) fun _ _ =>
    .skip (gives_parameters h.inner _ _) fun ps hps => .skip (.acceptMark _) fun _ _ => ?_
  extract_lets next
  have rest : ∀ returns, (∀ e, returns = some e → e.levels.Marked) → Collects anywhere n (next returns) fun n s =>
      n = noted ++ s.starts ∧ s.levels.Marked := by
    intro returns hreturns
    refine (notes_suite h n).bind fun body n' hbody => .skip .lastPlace fun stop _ => .pure ⟨?_, ?_⟩
    · rw [hbody.1, hn]
      simp [Stmt.starts]
    · simpa [Stmt.levels, Node.Marked, Node.targets, hps] using ⟨hbody.2, hds, hreturns⟩
  split
  · exact .skip (marksOption_some (h.inner _)) rest
  · exact .skip (.pure (Q := (· = none)) rfl) fun returns hreturns => rest returns (by simp [hreturns])

theorem notes_classDefinition (h : Sound rules) {ds : List Expr} (hds : ∀ e ∈ ds, e.levels.Marked) :
    Notes anywhere (classDefinition rules ds) := by
  intro noted
  refine .place fun start => (Collects.expectKeyword fun i hi => hi.2).bind fun _ n hn => .skip .name fun id _ =>
    .skip (.acceptMark _) fun _ _ => ?_
  extract_lets next
  have rest : ∀ r : List Expr × List Keyword, (∀ e ∈ r.1, e.levels.Marked) ∧ (∀ k ∈ r.2, k.value.levels.Marked) →
      Collects anywhere n (next r) fun n s => n = noted ++ s.starts ∧ s.levels.Marked := by
    rintro ⟨bases, keywords⟩ ⟨hbases, hkeywords⟩
    refine (notes_suite h n).bind fun body n' hbody => .skip .lastPlace fun stop _ => .pure ⟨?_, ?_⟩
    · rw [hbody.1, hn]
      simp [Stmt.starts]
    · simpa [Stmt.levels, Node.Marked, Node.targets] using ⟨hbases, hkeywords, hbody.2, hds⟩
  split
  · exact .skip (gives_arguments h.inner _) rest
  · exact .skip (.pure (Q := (· = ([], []))) rfl) fun r hr => rest r (by simp [hr])

theorem marksAll_decorators {inner : Inner} (h : ∀ level, Marks (inner level)) : MarksAll (decorators inner) := by
  refine .iterate (fun acc => ∀ e ∈ acc, e.levels.Marked) (by simp) fun acc hacc => .skip (.acceptMark _) fun _ => ?_
  split
  · exact (marks_namedExpression h).bind fun e he => .skip (.expect _) fun _ =>
      .pure (List.forall_mem_cons.2 ⟨he, hacc⟩)
  · exact .pure (by simpa using hacc)

/-- Branches that nest in the last one start one after the other. -/
theorem startsOf_branches (branches : List (Expr × List Stmt)) (last : List Stmt) :
    startsOf (branches.foldl (fun otherwise b => [Stmt.ifElse b.1 b.2 otherwise]) last) =
      branches.reverse.flatMap (fun b => startsOf b.2) ++ startsOf last := by
  induction branches generalizing last with
  | nil => rfl
  | cons b branches ih =>
    rw [List.foldl_cons, ih]
    simp [startsOf, Stmt.starts]

theorem marked_branches {branches : List (Expr × List Stmt)} {last : List Stmt}
    (h : ∀ b ∈ branches, b.1.levels.Marked ∧ ∀ s ∈ b.2, s.levels.Marked) (hlast : ∀ s ∈ last, s.levels.Marked) :
    ∀ s ∈ branches.foldl (fun otherwise b => [Stmt.ifElse b.1 b.2 otherwise]) last, s.levels.Marked := by
  induction branches generalizing last with
  | nil => exact hlast
  | cons b branches ih =>
    obtain ⟨test, body⟩ := h b (by simp)
    refine ih (fun b' hb' => h b' (by simp [hb'])) ?_
    simpa [Stmt.levels, Node.Marked, Node.targets, test] using ⟨body, hlast⟩

theorem notes_ifStatement (h : Sound rules) : Notes anywhere (ifStatement rules) := by
  intro noted
  refine .skip .advance fun _ _ => .skip (marks_namedExpression h.inner) fun test htest =>
    (notes_suite h noted).bind fun body n hbody => .bind (Q := fun n branches =>
      n = noted ++ branches.reverse.flatMap (fun b => startsOf b.2) ∧
        ∀ b ∈ branches, b.1.levels.Marked ∧ ∀ s ∈ b.2, s.levels.Marked) ?_ fun branches n hbranches => ?_
  · refine .iterate (fun n acc => n = noted ++ acc.reverse.flatMap (fun b => startsOf b.2) ∧
      ∀ b ∈ acc, b.1.levels.Marked ∧ ∀ s ∈ b.2, s.levels.Marked) ?_ fun acc n hacc => ?_
    · simpa using ⟨hbody.1, htest, hbody.2⟩
    · refine .skip (.acceptKeyword _) fun _ _ => ?_
      split
      · refine .skip (marks_namedExpression h.inner) fun test htest => (notes_suite h n).bind fun body n' hbody =>
          .pure ⟨?_, List.forall_mem_cons.2 ⟨⟨htest, hbody.2⟩, hacc.2⟩⟩
        rw [hbody.1, hacc.1]
        simp
      · exact .pure hacc
  · refine (notes_elseBlock h n).bind fun last n' hlast => ?_
    extract_lets nested
    have marked : ∀ s ∈ nested, s.levels.Marked := marked_branches hbranches.2 hlast.2
    have all : n' = noted ++ startsOf nested := by
      rw [hlast.1, hbranches.1, List.append_assoc]
      exact congrArg _ (startsOf_branches branches last).symm
    clear_value nested
    split
    · exact .pure ⟨by simpa [startsOf] using all, marked _ (by simp)⟩
    · exact .of_never (.throw _)

theorem notes_forStatement (h : Sound rules) (isAsync : Bool) : Notes anywhere (forStatement rules isAsync) := by
  intro noted
  refine .skip (.expectKeyword _) fun _ _ => .skip (gives_starTargets h.inner) fun t ht =>
    .skip (.expectKeyword _) fun _ _ => .skip (marks_starExpressions h.inner) fun iter hiter =>
    (notes_suite h noted).bind fun body n hbody => (notes_elseBlock h n).bind fun otherwise n' hotherwise =>
    .pure ⟨?_, ?_⟩
  · rw [hotherwise.1, hbody.1]
    simp [Stmt.starts]
  · simpa [Stmt.levels, Node.Marked, Node.targets, ht, hiter] using ⟨hbody.2, hotherwise.2⟩

/-- The context and the target of an item are marked, and the target is one. -/
def MarkedWithItem (i : WithItem) : Prop :=
  i.context.levels.Marked ∧ ∀ t, i.target = some t → t.IsTarget ∧ t.levels.Marked

theorem gives_withItem {inner : Inner} (h : ∀ level, Marks (inner level)) : Gives (withItem inner) MarkedWithItem := by
  refine (h _).bind fun context hcontext => .skip (.acceptKeyword _) fun _ => ?_
  split
  · refine (gives_starTarget h).bind fun t ht => .skip .peek fun l => ?_
    have item : MarkedWithItem ⟨context, some t⟩ := ⟨hcontext, by rintro _ ⟨⟩; exact ht⟩
    split
    · exact .pure item
    · exact .pure item
    · exact .pure item
    · exact .unexpected
  · exact .pure ⟨hcontext, by simp⟩

theorem gives_bracketedItems {inner : Inner} (h : ∀ level, Marks (inner level)) :
    Gives (bracketedItems inner) fun items => ∀ i ∈ items, MarkedWithItem i := by
  refine .skip (.expectMark _) fun _ => (gives_withItem h).bind fun first hfirst =>
    (gives_listUntil (gives_withItem h) _ hfirst).bind fun items hitems => .skip (.atMark _) fun _ => ?_
  split
  · exact .pure hitems
  · exact .throw _

theorem notes_withStatement (h : Sound rules) (isAsync : Bool) : Notes anywhere (withStatement rules isAsync) := by
  intro noted
  refine .skip (.expectKeyword _) fun _ _ =>
    .skip (.attempt (gives_bracketedItems h.inner) (gives_commaSeparated (gives_withItem h.inner))) fun items hitems =>
    (notes_suite h noted).bind fun body n hbody => .pure ⟨hbody.1, ?_⟩
  simp only [Stmt.levels, Levels.all_cons, Levels.all_beside, Levels.all_levelsOfItems, Levels.all_levelsOfBlock]
  refine ⟨?_, fun i hi => ⟨(hitems i hi).1, fun t ht => ((hitems i hi).2 t ht).2⟩, hbody.2⟩
  simp only [List.mem_singleton, forall_eq, Node.Marked, Node.targets, List.mem_filterMap]
  rintro t ⟨i, hi, ht⟩
  exact ((hitems i hi).2 t ht).1

/-- The type and the body of a handler are marked. -/
def MarkedHandler (h : Handler) : Prop :=
  (∀ e, h.type = some e → e.levels.Marked) ∧ ∀ s ∈ h.body, s.levels.Marked

theorem collects_handler (h : Sound rules) (isStar : Bool) (noted : List Position) :
    Collects anywhere noted (handler rules isStar) fun n r => n = noted ++ startsOf r.body ∧ MarkedHandler r := by
  refine .skip (.expectKeyword _) fun _ _ => ?_
  extract_lets untyped next
  have bare : Collects anywhere noted (untyped ()) fun n r => n = noted ++ startsOf r.body ∧ MarkedHandler r :=
    (notes_suite h noted).bind fun body n hbody => .pure ⟨hbody.1, by simp, hbody.2⟩
  have rest : ∀ u, Collects anywhere noted (next u) fun n r => n = noted ++ startsOf r.body ∧ MarkedHandler r := by
    intro u
    refine .skip (.atMark _) fun _ _ => ?_
    split
    · split
      · exact .of_never .unexpected_bind
      · exact bare
    · refine .skip (h.inner _) fun type htype => .skip (.acceptKeyword _) fun _ _ => ?_
      extract_lets typed
      have named : ∀ bound, Collects anywhere noted (typed bound) fun n r =>
          n = noted ++ startsOf r.body ∧ MarkedHandler r := fun bound =>
        (notes_suite h noted).bind fun body n hbody => .pure ⟨hbody.1, by simpa using htype, hbody.2⟩
      split
      · exact .skip (P := fun _ => True) (Gives.name.map fun _ _ => trivial) fun bound _ => named bound
      · exact .skip (.pure (Q := fun _ => True) trivial) fun bound _ => named bound
  split
  · exact .skip (.expectMark _) fun u _ => rest u
  · exact rest ()

theorem notes_tryStatement (h : Sound rules) : Notes anywhere (tryStatement rules) := by
  intro noted
  refine .skip (.expectKeyword _) fun _ _ => (notes_suite h noted).bind fun body n hbody =>
    .skip (.atKeyword _) fun _ _ => ?_
  extract_lets next
  have rest : ∀ isStar, Collects anywhere n (next isStar) fun n s => n = noted ++ s.starts ∧ s.levels.Marked := by
    intro isStar
    -- the parser keeps the handlers that it has read in reverse
    refine .bind (Q := fun n' hs => n' = n ++ startsOfHandlers hs ∧ ∀ r ∈ hs, MarkedHandler r) ?_
      fun handlers n' hhandlers => ?_
    · refine .iterate (fun n' acc => n' = n ++ startsOfHandlers acc.reverse ∧ ∀ r ∈ acc, MarkedHandler r)
        (by simp [startsOfHandlers]) fun acc n' hacc => .skip (.atKeyword _) fun _ _ => ?_
      split
      · refine .skip .peekSecond fun _ _ => ?_
        split
        · refine (collects_handler h isStar n').bind fun r n'' hr =>
            .pure ⟨?_, List.forall_mem_cons.2 ⟨hr.2, hacc.2⟩⟩
          rw [hr.1, hacc.1]
          simp [startsOfHandlers_eq_flatMap]
        · exact .of_never (.throw _)
      · exact .pure (by simpa using hacc)
    extract_lets behindElse
    have closed : ∀ otherwise m, (m = n' ++ startsOf otherwise ∧ ∀ s ∈ otherwise, s.levels.Marked) →
        Collects anywhere m (behindElse otherwise) fun n s => n = noted ++ s.starts ∧ s.levels.Marked := by
      intro otherwise m hotherwise
      refine .skip (.acceptKeyword _) fun _ _ => ?_
      extract_lets built
      have done : ∀ final l, (l = m ++ startsOf final ∧ ∀ s ∈ final, s.levels.Marked) →
          Collects anywhere l (built final) fun n s => n = noted ++ s.starts ∧ s.levels.Marked := by
        intro final l hfinal
        simp only [built]
        split
        · exact .of_never (.bind (.throw (Q := fun _ => False) _) fun _ never => never.elim)
        · refine .pure ⟨?_, ?_⟩
          · rw [hfinal.1, hotherwise.1, hhandlers.1, hbody.1]
            simp [Stmt.starts]
          · rw [Stmt.levels]
            simp only [Levels.all_cons, Levels.all_beside, Levels.all_levelsOfBlock,
              Levels.all_levelsOfHandlers]
            exact ⟨by simp [Node.Marked, Node.targets], hbody.2, hhandlers.2, hotherwise.2, hfinal.2⟩
      split
      · exact (notes_suite h m).bind fun final l hfinal => done final l hfinal
      · exact .skip (.pure (Q := (· = [])) rfl) fun final hfinal => done final m (by simp [hfinal, startsOf])
    split
    · exact .skip (.pure (Q := (· = [])) rfl) fun otherwise hotherwise =>
        closed otherwise n' (by simp [hotherwise, startsOf])
    · exact (notes_elseBlock h n').bind fun otherwise m hotherwise => closed otherwise m hotherwise
  split
  · exact .skip .peekSecond fun _ _ => .skip (.pure (Q := fun _ => True) trivial) fun isStar _ => rest isStar
  · exact .skip (.pure (Q := fun _ => True) trivial) fun isStar _ => rest isStar

theorem gives_matchHeader {inner : Inner} (h : ∀ level, Marks (inner level)) : Marks (matchHeader inner) := by
  refine .skip .advance fun _ => (marks_starNamedExpression h).bind fun first hfirst => .skip (.atMark _) fun _ => ?_
  extract_lets next
  have rest : ∀ subject, subject.levels.Marked → Marks (next subject) := fun subject hsubject =>
    .skip (.expectMark _) fun _ => .skip (.expect _) fun _ => .pure hsubject
  split
  · exact (marksAll_commas (marks_starNamedExpression h) hfirst).bind fun es hes =>
      .bind (.pure (Q := fun e => e.levels.Marked) (by simpa [Expr.levels] using hes)) rest
  · split
    · exact .bind (.throw (Q := fun e => e.levels.Marked) _) rest
    · exact .bind (.pure (Q := fun e => e.levels.Marked) hfirst) rest

/-- The pattern, the guard and the body of a case are marked. -/
def MarkedCase (c : MatchCase) : Prop :=
  c.pattern.levels.Marked ∧ (∀ e, c.guard = some e → e.levels.Marked) ∧ ∀ s ∈ c.body, s.levels.Marked

theorem collects_matchCase (h : Sound rules) (noted : List Position) :
    Collects anywhere noted (matchCase rules) fun n c => n = noted ++ startsOf c.body ∧ MarkedCase c := by
  refine .skip (.expect _) fun _ _ => .skip (marks_openPattern h.pattern) fun p hp =>
    .skip (.acceptKeyword _) fun _ _ => ?_
  extract_lets next
  have rest : ∀ guard, (∀ e, guard = some e → e.levels.Marked) → Collects anywhere noted (next guard) fun n c =>
      n = noted ++ startsOf c.body ∧ MarkedCase c := fun guard hguard =>
    (notes_suite h noted).bind fun body n hbody => .pure ⟨hbody.1, hp, hguard, hbody.2⟩
  split
  · exact .skip (marksOption_some (marks_namedExpression h.inner)) rest
  · exact .skip (.pure (Q := (· = none)) rfl) fun guard hguard => rest guard (by simp [hguard])

theorem notes_matchCases (h : Sound rules) {subject : Expr} (hsubject : subject.levels.Marked) :
    Notes anywhere (matchCases rules subject) := by
  intro noted
  refine .skip (.accept _) fun _ _ => ?_
  split
  · refine (collects_matchCase h noted).bind fun first n hfirst => .bind (Q := fun n cs =>
      n = noted ++ cs.flatMap (fun c => startsOf c.body) ∧ ∀ c ∈ cs, MarkedCase c) ?_ fun cs n hcs => .pure ⟨?_, ?_⟩
    · refine .iterate (fun n acc => n = noted ++ acc.reverse.flatMap (fun c => startsOf c.body) ∧
        ∀ c ∈ acc, MarkedCase c) (by simpa using hfirst) fun acc n hacc => ?_
      refine .skip (.accept _) fun _ _ => ?_
      split
      · exact .pure (by simpa using hacc)
      · refine (collects_matchCase h n).bind fun c n' hc => .pure ⟨?_, List.forall_mem_cons.2 ⟨hc.2, hacc.2⟩⟩
        rw [hc.1, hacc.1]
        simp
    · rw [hcs.1, Stmt.starts, startsOfCases_eq_flatMap]
    · simp only [Stmt.levels, Levels.all_cons, Levels.all_beside, Levels.all_levelsOfCases]
      exact ⟨by simp [Node.Marked, Node.targets], hsubject, hcs.2⟩
  · exact .of_never .missingBlock

/-- A single statement. -/
theorem notesAll_single {pre : Input → Prop} {noted before : List Position} {p : Parser Stmt}
    (h : Collects pre before p fun n s => n = noted ++ s.starts ∧ s.levels.Marked) :
    Collects pre before (do return [← p]) fun n ss => n = noted ++ startsOf ss ∧ ∀ s ∈ ss, s.levels.Marked :=
  h.bind fun s n hs => .pure (by simpa [startsOf] using hs)

theorem notes_statement (h : Sound rules) : NotesAll anywhere (statement rules) := by
  intro noted
  have function {pre : Input → Prop} {ds : List Expr} (hds : ∀ e ∈ ds, e.levels.Marked) :
      Collects pre noted (do return [← functionDefinition rules ds false (← place)]) fun n ss =>
        n = noted ++ startsOf ss ∧ ∀ s ∈ ss, s.levels.Marked :=
    .place fun q => notesAll_single (collects_functionDefinition h hds false (.expectKeyword fun i hi => hi.2))
  refine .peek fun l => ?_
  split
  · refine .skip (marksAll_decorators h.inner) fun ds hds => .peek fun l => ?_
    split
    · exact function hds
    · exact notesAll_single (notes_classDefinition h hds noted).weaken
    · refine .place fun q => (Collects.advance (fun i hi => hi.1.2) fun i hi => hi.2).bind fun _ n hn => ?_
      exact notesAll_single (collects_functionDefinition h hds true (.of_gives (.expectKeyword _) fun _ _ => hn))
    · exact .of_never .unexpected
  · exact function (by simp)
  · exact notesAll_single (notes_classDefinition h (by simp) noted).weaken
  · exact notesAll_single (notes_ifStatement h noted).weaken
  · exact notesAll_single (notes_forStatement h false noted).weaken
  · refine .skip .advance fun _ _ => .skip (marks_namedExpression h.inner) fun test htest =>
      (notes_suite h noted).bind fun body n hbody => (notes_elseBlock h n).bind fun otherwise n' hotherwise =>
      .pure ⟨?_, ?_⟩
    · rw [hotherwise.1, hbody.1]
      simp [startsOf, Stmt.starts]
    · simpa [Stmt.levels, Node.Marked, Node.targets, htest] using ⟨hbody.2, hotherwise.2⟩
  · exact notesAll_single (notes_withStatement h false noted).weaken
  · exact notesAll_single (notes_tryStatement h noted).weaken
  · -- a definition starts at its `async`, a loop or a `with` block has no start to note
    refine .advance_peek (fun i hi => hi.2) fun q l => ?_
    split
    · exact ⟨_, .inr rfl, notesAll_single (collects_functionDefinition h (by simp) true
        (.of_gives (.expectKeyword _) fun _ _ => rfl))⟩
    · exact ⟨_, .inl rfl, notesAll_single (notes_forStatement h true noted)⟩
    · exact ⟨_, .inl rfl, notesAll_single (notes_withStatement h true noted)⟩
    · exact ⟨_, .inl rfl, .of_never .unexpected⟩
  · refine .skip (.attempt (marksOption_some (gives_matchHeader h.inner)) (.pure (by simp))) fun subject hsubject => ?_
    split
    · exact notesAll_single (notes_matchCases h (hsubject _ rfl) noted)
    · exact notes_simpleStatements h.inner noted
  · exact (notes_simpleStatements h.inner noted).weaken

theorem notes_statements (h : Sound rules) : NotesAll anywhere (statements rules) := by
  intro noted
  refine .iterate (fun n acc => n = noted ++ startsOf acc.reverse.flatten ∧ ∀ ss ∈ acc, ∀ s ∈ ss, s.levels.Marked)
    (by simp [startsOf]) fun acc n hacc => .peek fun l => ?_
  have done : n = noted ++ startsOf acc.reverse.flatten ∧ ∀ s ∈ acc.reverse.flatten, s.levels.Marked := by
    refine ⟨hacc.1, fun s hs => ?_⟩
    obtain ⟨ss, mem, hs⟩ := List.mem_flatten.1 hs
    exact hacc.2 ss (List.mem_reverse.1 mem) s hs
  split
  · exact .pure done
  · exact .pure done
  · refine (notes_statement h n).weaken.bind fun ss n' hss => .pure ⟨?_, List.forall_mem_cons.2 ⟨hss.2, hacc.2⟩⟩
    rw [hss.1, hacc.1]
    simp [startsOf_eq_flatMap]

end Compound

/-- Blocks are marked and their definitions noted, however deep they nest. -/
theorem notes_blockAt {inner : Inner} {pattern : Parser Pattern} (h : ∀ level, Marks (inner level))
    (hp : MarksPattern pattern) (depth : Nat) : NotesAll anywhere (blockAt inner pattern depth) := by
  induction depth with
  | zero => exact fun noted => .of_never (.throw _)
  | succ depth ih => exact notes_statements ⟨h, hp, ih⟩

end Parser

/-- **Parsed statements are marked, and the definitions and imports in them start one after the other.** -/
theorem parseModule_spec {text : List Char} {body : List Stmt} (parsed : parseModule text = .ok body) :
    (levelsOfBlock body).Marked ∧ (startsOf body).Pairwise fun p q => p.before q = true := by
  unfold parseModule at parsed
  split at parsed
  · cases parsed
  obtain ⟨⟨all, rest⟩, run, rfl⟩ := map_eq_ok.1 parsed
  have inner := Parser.marks_expressionAt (text.length + 2)
  have block := Parser.notes_blockAt inner (Parser.marks_patternAt inner (text.length + 2)) (text.length + 2) []
  have file : Parser.Collects Parser.anywhere [] (Parser.file (Parser.expressionAt (text.length + 2))
      (Parser.patternAt (Parser.expressionAt (text.length + 2)) (text.length + 2)) (text.length + 2)) fun n ss =>
      n = startsOf ss ∧ ∀ s ∈ ss, s.levels.Marked := by
    refine block.bind fun ss n hss => .skip (.at? _) fun _ _ => ?_
    split
    · exact .pure hss
    · exact .of_never .unexpected
  obtain ⟨found, sublist, starts, marked⟩ := file _ all rest trivial run
  refine ⟨Levels.all_levelsOfBlock.2 marked, ?_⟩
  rw [← starts]
  exact (pairwise_tokens text).sublist ((List.sublist_append_left _ _).trans sublist)

end CallAtlas.Source
