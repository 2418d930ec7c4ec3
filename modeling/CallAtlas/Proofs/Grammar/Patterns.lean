import CallAtlas.Proofs.Grammar.Expressions

/-!
# Parsed patterns are marked

Patterns hold expressions: the values that are compared, the keys of mappings and the classes. Each rule of the grammar
of patterns keeps them marked.
-/

namespace CallAtlas.Source

namespace Parser

/-- The parser gives patterns in which all expressions are marked. -/
abbrev MarksPattern (p : Parser Pattern) : Prop := Gives p fun q => q.levels.Marked

section Pattern

variable {inner : Inner} {pattern : Parser Pattern}

theorem takes_captureTarget : Takes captureTarget := by
  refine .skip .name fun id => ?_
  extract_lets next
  have rest : ∀ u, Takes (next u) := by
    intro u
    refine .skip .peek fun l => ?_
    split
    · exact .unexpected
    · exact .unexpected
    · exact .unexpected
    · exact .pure trivial
  split
  · exact .skip (.throw (Q := fun _ => True) _) rest
  · exact rest ()

theorem marks_patternNumber (imaginary : Bool) : Marks (patternNumber imaginary) := by
  refine .skip .peek fun l => ?_
  split
  · refine .skip (Gives.orMalformed _) fun c => ?_
    extract_lets next
    have rest : ∀ u, Marks (next u) := fun u => .skip .advance fun _ => .pure (by simp [Expr.levels])
    split
    · exact .skip (.throw (Q := fun _ => True) _) rest
    · exact rest ()
    · exact .skip (.throw (Q := fun _ => True) _) rest
    · exact rest ()
  · exact .unexpected

theorem marks_signedNumber : Marks signedNumber := by
  refine .skip (.acceptMark _) fun negative => .skip .peek fun l => ?_
  split
  · refine .skip (Gives.orMalformed _) fun c => .skip .advance fun _ => ?_
    extract_lets e
    have he : e.levels.Marked := by
      simp only [e]
      split <;> simp [Expr.levels]
    refine .skip .peek fun l => ?_
    split
    · exact .unexpected
    · exact .unexpected
    · exact .skip .advance fun _ => (marks_patternNumber _).bind fun n hn => .pure (by simp [Expr.levels, he, hn])
    · exact .skip .advance fun _ => (marks_patternNumber _).bind fun n hn => .pure (by simp [Expr.levels, he, hn])
    · exact .pure he
  · exact .unexpected

theorem marks_dottedExpr (first : String) : Marks (dottedExpr first) := by
  refine .iterate (fun e => e.levels.Marked) (by simp [Expr.levels]) fun e he => .skip (.acceptMark _) fun _ => ?_
  split
  · exact .skip .name fun _ => .pure (by simpa [Expr.levels] using he)
  · exact .pure he

theorem marks_literalValue (h : ∀ level, Marks (inner level)) : Marks (literalValue inner) := by
  refine .skip .peek fun l => ?_
  split
  · exact marks_atom h
  · exact marks_atom h
  · exact marks_atom h
  · exact marks_atom h
  · exact marks_signedNumber

theorem marks_maybeStarPattern (hp : MarksPattern pattern) : MarksPattern (maybeStarPattern pattern) := by
  refine .skip (.acceptMark _) fun _ => ?_
  split
  · refine .skip .peek fun _ => ?_
    split
    · exact .skip .advance fun _ => .pure (by simp [Pattern.levels])
    · exact .skip takes_captureTarget fun _ => .pure (by simp [Pattern.levels])
  · exact hp

theorem gives_restOfSequence (hp : MarksPattern pattern) (close : String) {first : Pattern}
    (hfirst : first.levels.Marked) :
    Gives (restOfSequence close pattern first) fun ps => ∀ p ∈ ps, p.levels.Marked :=
  gives_listUntil (marks_maybeStarPattern hp) close hfirst

theorem marks_mappingKey (h : ∀ level, Marks (inner level)) : Marks (mappingKey inner) := by
  refine .skip .peek fun l => ?_
  split
  · refine .skip .advance fun _ => (marks_dottedExpr _).bind fun e he => ?_
    split
    · exact .pure he
    · exact .throw _
  · exact marks_literalValue h

/-- All keys and patterns read so far are marked. -/
def MappingState.Marked (st : MappingState) : Prop :=
  (∀ e ∈ st.keys, e.levels.Marked) ∧ ∀ p ∈ st.patterns, p.levels.Marked

theorem gives_mappingItem (h : ∀ level, Marks (inner level)) (hp : MarksPattern pattern) {st : MappingState}
    (hst : st.Marked) : Gives (mappingItem inner pattern st) MappingState.Marked := by
  unfold mappingItem
  extract_lets next
  have rest : ∀ u, Gives (next u) MappingState.Marked := by
    intro u
    refine .skip (.acceptMark _) fun _ => ?_
    split
    · exact .skip takes_captureTarget fun _ => .pure hst
    · exact (marks_mappingKey h).bind fun key hkey => .skip (.expectMark _) fun _ => hp.bind fun p hp =>
        .pure ⟨List.forall_mem_cons.2 ⟨hkey, hst.1⟩, List.forall_mem_cons.2 ⟨hp, hst.2⟩⟩
  split
  · exact .unexpected_bind
  · exact rest ()

theorem marks_mappingPattern (h : ∀ level, Marks (inner level)) (hp : MarksPattern pattern) :
    MarksPattern (mappingPattern inner pattern) := by
  have empty : MappingState.Marked ⟨[], [], none⟩ := ⟨by simp, by simp⟩
  unfold mappingPattern
  refine .skip (.expectMark _) fun _ => ?_
  extract_lets close
  have closed : ∀ st : MappingState, st.Marked → (close st).levels.Marked := fun st hst => by
    simpa [close, Pattern.levels, MappingState.Marked] using hst
  refine .skip (.acceptMark _) fun _ => ?_
  split
  · exact .pure (closed _ empty)
  · refine (gives_mappingItem h hp empty).bind fun first hfirst =>
      .iterate MappingState.Marked hfirst fun st hst => .skip (.acceptMark _) fun _ => ?_
    split
    · exact .pure (closed st hst)
    · refine .skip (.expectMark _) fun _ => .skip (.acceptMark _) fun _ => ?_
      split
      · exact .pure (closed st hst)
      · exact (gives_mappingItem h hp hst).bind fun st hst => .pure hst

/-- All patterns read so far are marked. -/
def ClassPatternState.Marked (st : ClassPatternState) : Prop :=
  (∀ p ∈ st.positional, p.levels.Marked) ∧ ∀ p ∈ st.keywords, p.pattern.levels.Marked

theorem gives_classPatternItem (hp : MarksPattern pattern) {st : ClassPatternState} (hst : st.Marked) :
    Gives (classPatternItem pattern st) ClassPatternState.Marked := by
  unfold classPatternItem
  refine .skip .peek fun l => ?_
  extract_lets next
  have rest : ∀ keyword, Gives (next keyword) ClassPatternState.Marked := by
    intro keyword
    simp only [next]
    split
    · exact .skip .advance fun _ => .skip .advance fun _ => hp.bind fun p hp =>
        .pure ⟨hst.1, List.forall_mem_cons.2 ⟨hp, hst.2⟩⟩
    · split
      · exact hp.bind fun p hp => .pure ⟨List.forall_mem_cons.2 ⟨hp, hst.1⟩, hst.2⟩
      · exact .unexpected
  split
  · refine .skip .peekSecond fun _ => ?_
    split
    · exact .skip (.pure (Q := fun _ => True) trivial) rest
    · exact .skip (.pure (Q := fun _ => True) trivial) rest
  · exact .skip (.pure (Q := fun _ => True) trivial) rest

theorem marks_classPattern (hp : MarksPattern pattern) {cls : Expr} (hcls : cls.levels.Marked) :
    MarksPattern (classPattern pattern cls) := by
  have empty : ClassPatternState.Marked ⟨[], []⟩ := ⟨by simp, by simp⟩
  unfold classPattern
  refine .skip (.expectMark _) fun _ => ?_
  extract_lets close
  have closed : ∀ st : ClassPatternState, st.Marked → (close st).levels.Marked := fun st hst => by
    simpa [close, Pattern.levels, hcls, ClassPatternState.Marked] using hst
  refine .skip (.acceptMark _) fun _ => ?_
  split
  · exact .pure (closed _ empty)
  · refine (gives_classPatternItem hp empty).bind fun first hfirst =>
      .iterate ClassPatternState.Marked hfirst fun st hst => .skip (.acceptMark _) fun _ => ?_
    split
    · exact .pure (closed st hst)
    · refine .skip (.expectMark _) fun _ => .skip (.acceptMark _) fun _ => ?_
      split
      · exact .pure (closed st hst)
      · exact (gives_classPatternItem hp hst).bind fun st hst => .pure hst

theorem marks_closedPattern (h : ∀ level, Marks (inner level)) (hp : MarksPattern pattern) :
    MarksPattern (closedPattern inner pattern) := by
  have first := marks_maybeStarPattern hp
  have value : MarksPattern (do return .value (← literalValue inner)) :=
    (marks_literalValue h).bind fun e he => .pure (by simpa [Pattern.levels] using he)
  have read (q : Pattern) (hq : q.levels.Marked) : MarksPattern (do advance; return q) :=
    .skip .advance fun _ => .pure hq
  have sequence {ps : List Pattern} (hps : ∀ p ∈ ps, p.levels.Marked) : (Pattern.sequence ps).levels.Marked := by
    simpa [Pattern.levels] using hps
  refine .skip .peek fun l => ?_
  split
  · exact read _ (by simp [Pattern.levels])
  · exact read _ (by simp [Pattern.levels])
  · exact read _ (by simp [Pattern.levels])
  · exact value
  · exact value
  · exact value
  · exact read _ (by simp [Pattern.levels, levelsOfPattern?])
  · refine .skip .advance fun _ => (marks_dottedExpr _).bind fun e he => .skip (.atMark _) fun _ => ?_
    split
    · exact marks_classPattern hp he
    · refine .skip (.atMark _) fun _ => ?_
      split
      · exact .unexpected
      · split
        · exact .pure (by simpa [Pattern.levels] using he)
        · exact .pure (by simp [Pattern.levels, levelsOfPattern?])
  · refine .skip .advance fun _ => .skip (.acceptMark _) fun _ => ?_
    split
    · exact .pure (sequence (by simp))
    refine first.bind fun p hp' => .skip (.atMark _) fun _ => ?_
    split
    · exact (gives_restOfSequence hp _ hp').bind fun ps hps => .pure (sequence hps)
    · split
      · exact .unexpected_bind
      · exact .skip (.expectMark _) fun _ => .pure hp'
  · refine .skip .advance fun _ => .skip (.acceptMark _) fun _ => ?_
    split
    · exact .pure (sequence (by simp))
    · exact first.bind fun p hp' => (gives_restOfSequence hp _ hp').bind fun ps hps => .pure (sequence hps)
  · exact marks_mappingPattern h hp
  · exact .unexpected

theorem marks_patternWith (h : ∀ level, Marks (inner level)) (hp : MarksPattern pattern) :
    MarksPattern (patternWith inner pattern) := by
  have closed := marks_closedPattern h hp
  refine closed.bind fun first hfirst => .bind (P := fun ps => ∀ p ∈ ps, p.levels.Marked) ?_ fun all hall => ?_
  · refine .iterate (fun acc => ∀ p ∈ acc, p.levels.Marked) (by simpa using hfirst) fun acc hacc =>
      .skip (.acceptMark _) fun _ => ?_
    split
    · exact closed.bind fun p hp => .pure (List.forall_mem_cons.2 ⟨hp, hacc⟩)
    · exact .pure (by simpa using hacc)
  · extract_lets whole
    have marked : whole.levels.Marked := by
      simp only [whole]
      split
      · exact hall _ (by simp)
      · simpa [Pattern.levels] using hall
    refine .skip (.acceptKeyword _) fun _ => ?_
    split
    · exact .skip takes_captureTarget fun _ => .pure (by simpa [Pattern.levels, levelsOfPattern?] using marked)
    · exact .pure marked

theorem marks_patternAt (h : ∀ level, Marks (inner level)) (depth : Nat) : MarksPattern (patternAt inner depth) := by
  induction depth with
  | zero => exact .throw _
  | succ depth ih => exact marks_patternWith h ih

theorem marks_openPattern (hp : MarksPattern pattern) : MarksPattern (openPattern pattern) := by
  have entry := marks_maybeStarPattern hp
  refine entry.bind fun first hfirst => .skip (.atMark _) fun _ => ?_
  split
  · refine .bind (P := fun ps => ∀ p ∈ ps, p.levels.Marked) ?_ fun all hall =>
      .pure (by simpa [Pattern.levels] using hall)
    refine .iterate (fun acc => ∀ p ∈ acc, p.levels.Marked) (by simpa using hfirst) fun acc hacc =>
      .skip (.acceptMark _) fun _ => ?_
    have done : ∀ p ∈ acc.reverse, p.levels.Marked := by simpa using hacc
    split
    · refine .skip .peek fun l => ?_
      split
      · exact .pure done
      · exact .pure done
      · exact entry.bind fun p hp => .pure (List.forall_mem_cons.2 ⟨hp, hacc⟩)
    · exact .pure done
  · split
    · exact .unexpected
    · exact .pure hfirst

end Pattern

end Parser

end CallAtlas.Source
