import CallAtlas.Proofs.Survey
import Mathlib.Data.List.Nodup
import Mathlib.Data.List.Pairwise

/-!
# Gaps stay where they are

Two surveys side by side: one of a code base, one of the same code base with further gaps in some of its projects,
documents and declarations. If no declaration is made twice, the second survey is the first one without what the gaps
concern. The register of such a code base is just its list of sightings, so all of this is about filtering that list.
-/

namespace CallAtlas

open Callable CallGraph

/-- Further gaps, with the reasons. -/
structure Gaps where
  project : Project → Option String
  document : Document → Option String
  declaration : Document → Callable → Option String

/-- An answer that a gap may stand in front of. -/
def gapped {α : Type} (reason : Option String) (answer : Except Refusal α) : Except Refusal α :=
  match reason with
  | some reason => .error (.gap reason)
  | none => answer

theorem answers_gapped {α : Type} (reason : Option String) (answer : Except Refusal (List α)) :
    answers (gapped reason answer) = if reason.isSome then [] else answers answer := by
  cases reason <;> rfl

theorem isAnswer_gapped {α : Type} (reason : Option String) (answer : Except Refusal α) :
    isAnswer (gapped reason answer) = (!reason.isSome && isAnswer answer) := by
  cases reason <;> rfl

theorem settled_gapped {α : Type} {answer : Except Refusal α} (h : Settled answer) (reason : Option String) :
    Settled (gapped reason answer) := by
  cases reason with
  | none => exact h
  | some reason => exact settled_iff.2 (Or.inr rfl)

namespace CodeBase

variable (r : CodeBase) (gaps : Gaps)

/-- The code base with further gaps. -/
def withGaps : CodeBase :=
  { r with
    documents := fun project => gapped (gaps.project project) (r.documents project)
    declared := fun d => gapped (gaps.document d) (r.declared d)
    calls := fun d u => gapped (gaps.declaration d u) (r.calls d u) }

/-- The sighting belongs to a project, a document or a declaration with one of the gaps. -/
def isConcerned (e : Sighting) : Bool :=
  (r.projects.any fun project => (gaps.project project).isSome && (answers (r.documents project)).contains e.2) ||
    (gaps.document e.2).isSome || (gaps.declaration e.2 e.1).isSome

variable {r} {gaps}

theorem declarations_eq : r.declarations = r.projects.flatMap fun project =>
    (answers (r.documents project)).flatMap r.declaredIn := List.flatMap_assoc

/-- A document that declares something belongs to one project only. -/
theorem DeclaresOnce.project_unique (once : r.DeclaresOnce) {p q : Project} (hp : p ∈ r.projects) (hq : q ∈ r.projects)
    {e : Sighting} (mem : e ∈ r.declaredIn e.2) (inP : e.2 ∈ answers (r.documents p))
    (inQ : e.2 ∈ answers (r.documents q)) : p = q := by
  have nodup : r.declarations.Nodup := by
    refine List.Nodup.of_map (fun e => e.1.identity) ?_
    simpa [DeclaresOnce, Distinct, Function.comp_def] using once
  rw [declarations_eq] at nodup
  have apart := (List.nodup_flatMap.1 nodup).2
  have : Std.Symm (Function.onFun List.Disjoint fun project =>
      (answers (r.documents project)).flatMap r.declaredIn) := ⟨fun _ _ h _ hx hy => h hy hx⟩
  by_contra other
  have disjoint := apart.forall hp hq other
  exact disjoint (List.mem_flatMap.2 ⟨e.2, inP, mem⟩) (List.mem_flatMap.2 ⟨e.2, inQ, mem⟩)

theorem declaredIn_withGaps (d : Document) :
    (r.withGaps gaps).declaredIn d = if (gaps.document d).isSome then [] else r.declaredIn d := by
  unfold declaredIn
  change (answers (gapped (gaps.document d) (r.declared d))).map _ = _
  rw [answers_gapped]
  split <;> rfl

theorem isSighted_withGaps (e : Sighting) :
    (r.withGaps gaps).isSighted e = (!(gaps.declaration e.2 e.1).isSome && r.isSighted e) := by
  unfold isSighted
  change (r.isAsked e && isAnswer (gapped (gaps.declaration e.2 e.1) (r.calls e.2 e.1))) = _
  rw [isAnswer_gapped, Bool.and_left_comm]

/-- A sighting in a document of the project `p` is concerned by the gaps of `p`, of the document and of itself only. -/
theorem DeclaresOnce.isConcerned_eq (once : r.DeclaresOnce) {p : Project} (hp : p ∈ r.projects) {e : Sighting}
    (mem : e ∈ r.declaredIn e.2) (inP : e.2 ∈ answers (r.documents p)) :
    r.isConcerned gaps e =
      ((gaps.project p).isSome || (gaps.document e.2).isSome || (gaps.declaration e.2 e.1).isSome) := by
  have same : (r.projects.any fun q => (gaps.project q).isSome && (answers (r.documents q)).contains e.2) =
      (gaps.project p).isSome := by
    rw [Bool.eq_iff_iff, List.any_eq_true]
    constructor
    · rintro ⟨q, hq, h⟩
      rw [Bool.and_eq_true, List.contains_iff_mem] at h
      rw [once.project_unique hp hq mem inP h.2]
      exact h.1
    · intro h
      exact ⟨p, hp, by simp [h, inP]⟩
  rw [isConcerned, same]

/-- In a document of a project without a gap, those are left that no gap concerns. -/
theorem filter_declaredIn_withGaps {d : Document}
    (concerned : ∀ e ∈ r.declaredIn d, r.isConcerned gaps e =
      ((gaps.document d).isSome || (gaps.declaration e.2 e.1).isSome)) :
    ((r.withGaps gaps).declaredIn d).filter (r.withGaps gaps).isSighted =
      ((r.declaredIn d).filter r.isSighted).filter fun e => !r.isConcerned gaps e := by
  rw [declaredIn_withGaps, List.filter_filter]
  cases gap : (gaps.document d).isSome with
  | true =>
    rw [gap] at concerned
    symm
    rw [if_pos rfl, List.filter_nil, List.filter_eq_nil_iff]
    intro e he
    simp [concerned e he]
  | false =>
    rw [gap] at concerned
    rw [if_neg (by simp)]
    apply List.filter_congr
    intro e he
    rw [isSighted_withGaps, concerned e he, Bool.false_or]

/-- **The sightings that are left** are those that no gap concerns. -/
theorem DeclaresOnce.sightings_withGaps (once : r.DeclaresOnce) :
    (r.withGaps gaps).sightings = r.sightings.filter fun e => !r.isConcerned gaps e := by
  rw [sightings, sightings, declarations_eq, declarations_eq, List.filter_flatMap, List.filter_flatMap,
    List.filter_flatMap]
  change r.projects.flatMap _ = _
  apply List.flatMap_congr
  intro p hp
  change ((answers (gapped (gaps.project p) (r.documents p))).flatMap _).filter _ = _
  rw [answers_gapped, List.filter_flatMap, List.filter_flatMap, List.filter_flatMap]
  have concerned : ∀ d ∈ answers (r.documents p), ∀ e ∈ r.declaredIn d, r.isConcerned gaps e =
      ((gaps.project p).isSome || (gaps.document d).isSome || (gaps.declaration e.2 e.1).isSome) := by
    intro d hd e he
    obtain ⟨rfl, -⟩ := mem_declaredIn_iff.1 he
    exact once.isConcerned_eq hp he hd
  cases gap : (gaps.project p).isSome with
  | true =>
    rw [gap] at concerned
    symm
    rw [if_pos rfl, List.flatMap_nil, List.flatMap_eq_nil_iff]
    intro d hd
    rw [List.filter_eq_nil_iff]
    intro e he
    simp [concerned d hd e (List.mem_filter.1 he).1]
  | false =>
    rw [gap] at concerned
    rw [if_neg (by simp)]
    apply List.flatMap_congr
    intro d hd
    exact filter_declaredIn_withGaps fun e he => by rw [concerned d hd e he, Bool.false_or]

theorem OnlyGaps.withGaps (only : r.OnlyGaps) (gaps : Gaps) : (r.withGaps gaps).OnlyGaps := by
  have listed : ∀ d ∈ (r.withGaps gaps).listed, d ∈ r.listed := by
    intro d hd
    obtain ⟨p, hp, mem⟩ := List.mem_flatMap.1 hd
    change d ∈ answers (gapped (gaps.project p) (r.documents p)) at mem
    rw [answers_gapped] at mem
    split at mem
    · cases mem
    · exact List.mem_flatMap.2 ⟨p, hp, mem⟩
  constructor
  · exact fun p hp => settled_gapped (only.projects p hp) _
  · exact fun d hd => settled_gapped (only.documents d (listed d hd)) _
  · intro e he asked
    obtain ⟨d, hd, mem⟩ := List.mem_flatMap.1 he
    rw [declaredIn_withGaps] at mem
    split at mem
    · cases mem
    · exact settled_gapped (only.declarations e (List.mem_flatMap.2 ⟨d, listed d hd, mem⟩) asked) _

end CodeBase

namespace Survey

open CodeBase

variable {r : CodeBase} {s t : Survey} {gaps : Gaps}

/-- A sighting that is left refers to the same declarations as before. -/
theorem refers_withGaps {d : Document} {u v : Callable} (left : (r.withGaps gaps).Sights d u) :
    (r.withGaps gaps).Refers d u v ↔ r.Refers d u v := by
  obtain ⟨found, answered⟩ := left.answered
  change gapped (gaps.declaration d u) (r.calls d u) = .ok found at answered
  have same : (r.withGaps gaps).calls d u = r.calls d u := by
    change gapped (gaps.declaration d u) (r.calls d u) = r.calls d u
    cases gap : gaps.declaration d u with
    | none => rfl
    | some reason =>
      rw [gap] at answered
      cases answered
  unfold Refers
  rw [same]

theorem sights_of_withGaps (once : r.DeclaresOnce) {d : Document} {u : Callable} (left : (r.withGaps gaps).Sights d u) :
    r.Sights d u := by
  have mem : (u, d) ∈ (r.withGaps gaps).sightings := mem_sightings_iff.2 left
  rw [once.sightings_withGaps] at mem
  exact mem_sightings_iff.1 (List.mem_of_mem_filter mem)

/-- A sighting of a declaration that is still registered is still a sighting. -/
theorem Tells.sights_of_has (ht : t.Tells (r.withGaps gaps)) (once : r.DeclaresOnce) {d : Document} {u : Callable}
    (sights : r.Sights d u) (left : t.register.has u = true) : (r.withGaps gaps).Sights d u := by
  obtain ⟨d', u', sights', same⟩ := ht.has_iff.1 left
  have before : (u', d') ∈ r.sightings := mem_sightings_iff.2 (sights_of_withGaps once sights')
  have nodup : (r.sightings.map fun e => e.1.identity).Nodup := by
    simpa [Distinct, Function.comp_def] using once.distinct_sightings
  have e : (u', d') = (u, d) := List.inj_on_of_nodup_map nodup before (mem_sightings_iff.2 sights) same
  cases e
  exact sights'

/-- **Gaps are isolated**: with further gaps a survey registers what it registered before, in the same order and for the
same documents, without what the gaps concern; and of the declarations linked before it links exactly those that are
both still registered. -/
theorem gaps_isolated {r : CodeBase} (only : r.OnlyGaps) (once : r.DeclaresOnce) (gaps : Gaps) :
    ∃ s t, ofCodeBase r = .ok s ∧ ofCodeBase (r.withGaps gaps) = .ok t ∧
      t.register = s.register.filter (fun e => !r.isConcerned gaps e) ∧
      ∀ u v : Callable, Linked t.graph.calls u.identity v.identity ↔
        Linked s.graph.calls u.identity v.identity ∧ t.register.has u = true ∧ t.register.has v = true := by
  obtain ⟨s, run⟩ := exists_ofCodeBase_iff.2 only
  obtain ⟨t, runWith⟩ := exists_ofCodeBase_iff.2 (only.withGaps gaps)
  have hs := tells_of_eq_ok run
  have ht := tells_of_eq_ok runWith
  have distinct : Distinct ((r.withGaps gaps).sightings.map (·.1)) := by
    rw [once.sightings_withGaps]
    exact List.Nodup.sublist ((List.filter_sublist.map _).map _) once.distinct_sightings
  refine ⟨s, t, run, runWith, ?_, ?_⟩
  · rw [hs.register_of_once once, ht.register, Register.foldl_of_distinct distinct, once.sightings_withGaps]
  intro u v
  rw [ht.linked_iff, hs.linked_iff]
  constructor
  · rintro ⟨d, a, b, sights, refers, inScope, registered, ea, eb⟩
    have before : ∃ d v, r.Sights d v ∧ v.identity = b.identity := by
      obtain ⟨d', b', sights', same⟩ := ht.has_iff.1 registered
      exact ⟨d', b', sights_of_withGaps once sights', same⟩
    refine ⟨⟨d, a, b, sights_of_withGaps once sights, (refers_withGaps sights).1 refers, inScope,
      hs.has_iff.2 before, ea, eb⟩, ht.has_iff.2 ⟨d, a, sights, ea⟩, ?_⟩
    rw [← registered, Register.has_eq_isIn, Register.has_eq_isIn, isIn_congr eb]
  · rintro ⟨⟨d, a, b, sights, refers, inScope, -, ea, eb⟩, hu, hv⟩
    have left : t.register.has a = true := by rw [← hu, Register.has_eq_isIn, Register.has_eq_isIn, isIn_congr ea]
    have sights' := ht.sights_of_has once sights left
    refine ⟨d, a, b, sights', (refers_withGaps sights').2 refers, inScope, ?_, ea, eb⟩
    rw [← hv, Register.has_eq_isIn, Register.has_eq_isIn, isIn_congr eb]

/-- Further gaps take the last document and `g` from the sample. -/
def Sample.furtherGaps : Gaps :=
  { project := fun _ => none
    document := fun d => if d = Sample.document "c.py" then some "not read" else none
    declaration := fun _ u => if u = Sample.unit "g" 2 then some "no body" else none }

theorem gaps_isolated_sample :
    (Sample.codeBase []).OnlyGaps ∧ (Sample.codeBase []).DeclaresOnce ∧
      ∃ s t, ofCodeBase (Sample.codeBase []) = .ok s ∧
        ofCodeBase ((Sample.codeBase []).withGaps Sample.furtherGaps) = .ok t ∧
        t.register = s.register.filter (fun e => !(Sample.codeBase []).isConcerned Sample.furtherGaps e) ∧
        ∀ u v : Callable, Linked t.graph.calls u.identity v.identity ↔
          Linked s.graph.calls u.identity v.identity ∧ t.register.has u = true ∧ t.register.has v = true :=
  ⟨by decide, by decide, gaps_isolated (by decide) (by decide) Sample.furtherGaps⟩

end Survey

end CallAtlas
