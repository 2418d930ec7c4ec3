import CallAtlas.Proofs.Answer
import CallAtlas.Proofs.CallGraph

/-!
# What a survey finds

A survey against what its code base can say. The second side is a plain list: all declarations of all documents that
could be listed, by project, document and place (`declarations`), and those of them that are in scope and whose calls
are known (`sightings`). What is found in a declaration, a document and the list of documents is read off these lists
step by step; the register keeps the first sighting of each declaration, and the graph the calls between registered
ones.
-/

namespace CallAtlas

open Callable CallGraph

/-- A declaration in a document. -/
abbrev Sighting := Callable × Document

namespace CodeBase

variable (r : CodeBase)

/-- What belongs to the code base. -/
def extent : Extent := ⟨r.assemblies⟩

/-- The documents of the projects that could be listed, in order. -/
def listed : List Document := r.projects.flatMap fun project => answers (r.documents project)

/-- The declarations of a document, in order. -/
def declaredIn (d : Document) : List Sighting := (answers (r.declared d)).map fun u => (u, d)

/-- The declarations of all documents, in order. -/
def declarations : List Sighting := r.listed.flatMap r.declaredIn

/-- In scope, so that its calls are asked for. -/
def isAsked (e : Sighting) : Bool := r.extent.contains e.1

/-- In scope, and its calls are known. -/
def isSighted (e : Sighting) : Bool := r.isAsked e && isAnswer (r.calls e.2 e.1)

/-- In scope, but its calls are missing by a gap. -/
def isPassed (e : Sighting) : Bool := r.isAsked e && isGap (r.calls e.2 e.1)

/-- The declarations in scope whose calls are known, repeated ones included, in order. -/
def sightings : List Sighting := r.declarations.filter r.isSighted

/-- The calls from a declaration in a document to declarations in scope. -/
def callsAt (e : Sighting) : List Call := callsInto r.extent e.1 (answers (r.calls e.2 e.1))

/-- A project that could be listed has the document `d`, which declares `u`; `u` is in scope and its calls are known. -/
structure Sights (d : Document) (u : Callable) : Prop where
  listed : ∃ project ∈ r.projects, ∃ documents, r.documents project = .ok documents ∧ d ∈ documents
  declared : ∃ units, r.declared d = .ok units ∧ u ∈ units
  inScope : r.extent.contains u = true
  answered : ∃ found, r.calls d u = .ok found

/-- One of the calls in the declaration `u` of the document `d` counts for `t`. -/
def Refers (d : Document) (u t : Callable) : Prop :=
  ∃ found, r.calls d u = .ok found ∧ ∃ resolution, some resolution ∈ found ∧ resolution.unit? = some t

/-- Everything that a survey asks is answered or met by a gap. -/
structure OnlyGaps : Prop where
  projects : ∀ project ∈ r.projects, Settled (r.documents project)
  documents : ∀ d ∈ r.listed, Settled (r.declared d)
  declarations : ∀ e ∈ r.declarations, r.isAsked e = true → Settled (r.calls e.2 e.1)

instance : Decidable r.OnlyGaps :=
  decidable_of_iff
    ((∀ project ∈ r.projects, Settled (r.documents project)) ∧ (∀ d ∈ r.listed, Settled (r.declared d)) ∧
      ∀ e ∈ r.declarations, r.isAsked e = true → Settled (r.calls e.2 e.1))
    ⟨fun h => ⟨h.1, h.2.1, h.2.2⟩, fun h => ⟨h.projects, h.documents, h.declarations⟩⟩

/-- No declaration is made twice. -/
def DeclaresOnce : Prop := Distinct (r.declarations.map (·.1))

instance : Decidable r.DeclaresOnce := inferInstanceAs (Decidable (List.Nodup _))

variable {r}

theorem mem_listed_iff {d : Document} :
    d ∈ r.listed ↔ ∃ project ∈ r.projects, ∃ documents, r.documents project = .ok documents ∧ d ∈ documents := by
  simp only [listed, List.mem_flatMap, mem_answers_iff]

theorem mem_declaredIn_iff {d : Document} {e : Sighting} :
    e ∈ r.declaredIn d ↔ e.2 = d ∧ ∃ units, r.declared d = .ok units ∧ e.1 ∈ units := by
  obtain ⟨u, d'⟩ := e
  simp only [declaredIn, List.mem_map, mem_answers_iff, Prod.mk.injEq]
  constructor
  · rintro ⟨v, h, rfl, rfl⟩
    exact ⟨rfl, h⟩
  · rintro ⟨rfl, h⟩
    exact ⟨u, h, rfl, rfl⟩

theorem mem_declarations_iff {e : Sighting} :
    e ∈ r.declarations ↔ e.2 ∈ r.listed ∧ ∃ units, r.declared e.2 = .ok units ∧ e.1 ∈ units := by
  simp only [declarations, List.mem_flatMap, mem_declaredIn_iff]
  constructor
  · rintro ⟨d, hd, rfl, h⟩
    exact ⟨hd, h⟩
  · rintro ⟨hd, h⟩
    exact ⟨e.2, hd, rfl, h⟩

/-- The list of sightings holds exactly what the code base sights. -/
theorem mem_sightings_iff {e : Sighting} : e ∈ r.sightings ↔ r.Sights e.2 e.1 := by
  simp only [sightings, List.mem_filter, mem_declarations_iff, mem_listed_iff, isSighted, isAsked, Bool.and_eq_true,
    isAnswer_iff]
  constructor
  · rintro ⟨⟨listed, declared⟩, inScope, answered⟩
    exact ⟨listed, declared, inScope, answered⟩
  · rintro ⟨listed, declared, inScope, answered⟩
    exact ⟨⟨listed, declared⟩, inScope, answered⟩

theorem mem_callsAt_iff {e : Sighting} {call : Call} :
    call ∈ r.callsAt e ↔ call.1 = e.1 ∧ r.Refers e.2 e.1 call.2 ∧ r.extent.contains call.2 = true := by
  obtain ⟨a, b⟩ := call
  simp only [callsAt, callsInto, Refers, List.mem_map, List.mem_filter, List.mem_filterMap, mem_answers_iff,
    Option.bind_eq_some_iff, Prod.mk.injEq]
  constructor
  · rintro ⟨t, ⟨⟨o, ⟨found, answered, mem⟩, resolution, rfl, unit⟩, inScope⟩, rfl, rfl⟩
    exact ⟨rfl, ⟨found, answered, resolution, mem, unit⟩, inScope⟩
  · rintro ⟨rfl, ⟨found, answered, resolution, mem, unit⟩, inScope⟩
    exact ⟨b, ⟨⟨_, ⟨found, answered, mem⟩, resolution, rfl, unit⟩, inScope⟩, rfl, rfl⟩

theorem DeclaresOnce.distinct_sightings (once : r.DeclaresOnce) : Distinct (r.sightings.map (·.1)) := by
  have sub : (r.sightings.map (·.1)).Sublist (r.declarations.map (·.1)) := List.filter_sublist.map _
  exact List.Nodup.sublist (sub.map _) once

end CodeBase

/-! ## Declarations one by one -/

/-- The ways in which the findings grow by a declaration. -/
theorem Findings.add_eq_ok {r : CodeBase} {extent : Extent} {d : Document} {found result : Findings} {u : Callable}
    (h : Findings.add r extent d found u = .ok result) :
    (extent.contains u = false ∧ result = found) ∨
      (extent.contains u = true ∧ ∃ resolutions, r.calls d u = .ok resolutions ∧
        result = { found with
          units := found.units ++ [u], calls := found.calls ++ callsInto extent u resolutions }) ∨
      (extent.contains u = true ∧ ∃ reason, r.calls d u = .error (.gap reason) ∧
        result = { found with passed := found.passed ++ [(u, reason)] }) := by
  unfold Findings.add at h
  cases inScope : extent.contains u with
  | false =>
    rw [inScope] at h
    exact Or.inl ⟨rfl, (pure_eq_ok.1 h).symm⟩
  | true =>
    rw [inScope] at h
    obtain ⟨answer, attempted, h⟩ := bind_eq_ok.1 h
    rcases attempt_eq_ok attempted with ⟨resolutions, e, rfl⟩ | ⟨reason, e, rfl⟩
    · exact Or.inr (Or.inl ⟨rfl, resolutions, e, (pure_eq_ok.1 h).symm⟩)
    · exact Or.inr (Or.inr ⟨rfl, reason, e, (pure_eq_ok.1 h).symm⟩)

theorem Findings.exists_add_iff {r : CodeBase} {extent : Extent} {d : Document} (found : Findings) {u : Callable} :
    (∃ result, Findings.add r extent d found u = .ok result) ↔
      (extent.contains u = true → Settled (r.calls d u)) := by
  unfold Findings.add
  cases inScope : extent.contains u with
  | false => simpa using ⟨found, rfl⟩
  | true =>
    simp only [Bool.not_true, Bool.false_eq_true, if_false, forall_const, ← exists_attempt_iff]
    constructor
    · rintro ⟨result, h⟩
      obtain ⟨answer, attempted, -⟩ := bind_eq_ok.1 h
      exact ⟨answer, attempted⟩
    · rintro ⟨answer, attempted⟩
      rw [attempted]
      cases answer with
      | error reason => exact ⟨_, rfl⟩
      | ok resolutions => exact ⟨_, rfl⟩

/-- What was found in some declarations of a document is what the code base can say of them. -/
structure Findings.Tells (r : CodeBase) (found : Findings) (es : List Sighting) (d : Document) : Prop where
  units : (found.units.map fun u => (u, d)) = es.filter r.isSighted
  calls : found.calls = (es.filter r.isSighted).flatMap r.callsAt
  passed : found.passed.length = es.countP r.isPassed

theorem Findings.Tells.add {r : CodeBase} {found result : Findings} {es : List Sighting} {d : Document} {u : Callable}
    (h : found.Tells r es d) (step : Findings.add r r.extent d found u = .ok result) :
    result.Tells r (es ++ [(u, d)]) d := by
  rcases Findings.add_eq_ok step with ⟨out, rfl⟩ | ⟨inScope, resolutions, answered, rfl⟩ | ⟨inScope, reason, gap, rfl⟩
  · have sighted : r.isSighted (u, d) = false := by simp [CodeBase.isSighted, CodeBase.isAsked, out]
    have passed : r.isPassed (u, d) = false := by simp [CodeBase.isPassed, CodeBase.isAsked, out]
    constructor
    · simp [List.filter_append, sighted, h.units]
    · simp [List.filter_append, sighted, h.calls]
    · simp [List.countP_append, passed, h.passed]
  · have sighted : r.isSighted (u, d) = true := by
      simp [CodeBase.isSighted, CodeBase.isAsked, inScope, answered, isAnswer]
    have passed : r.isPassed (u, d) = false := by simp [CodeBase.isPassed, answered, isGap]
    have calls : r.callsAt (u, d) = callsInto r.extent u resolutions := by simp [CodeBase.callsAt, answered, answers]
    constructor
    · simp [List.filter_append, sighted, h.units]
    · simp [List.filter_append, sighted, h.calls, calls]
    · simp [List.countP_append, passed, h.passed]
  · have sighted : r.isSighted (u, d) = false := by simp [CodeBase.isSighted, gap, isAnswer]
    have passed : r.isPassed (u, d) = true := by simp [CodeBase.isPassed, CodeBase.isAsked, inScope, gap, isGap]
    constructor
    · simp [List.filter_append, sighted, h.units]
    · simp [List.filter_append, sighted, h.calls]
    · simp [List.countP_append, passed, h.passed]

theorem Findings.Tells.foldlM {r : CodeBase} {found result : Findings} {es : List Sighting} {d : Document}
    {us : List Callable} (h : found.Tells r es d) (run : us.foldlM (Findings.add r r.extent d) found = .ok result) :
    result.Tells r (es ++ us.map fun u => (u, d)) d := by
  induction us generalizing found es with
  | nil =>
    cases pure_eq_ok.1 run
    simpa using h
  | cons u us ih =>
    rw [List.foldlM_cons] at run
    obtain ⟨next, step, rest⟩ := bind_eq_ok.1 run
    simpa using ih (h.add step) rest

theorem Findings.exists_foldlM_iff {r : CodeBase} {extent : Extent} {d : Document} {us : List Callable}
    (found : Findings) :
    (∃ result, us.foldlM (Findings.add r extent d) found = .ok result) ↔
      ∀ u ∈ us, extent.contains u = true → Settled (r.calls d u) := by
  induction us generalizing found with
  | nil => simpa using ⟨found, rfl⟩
  | cons u us ih =>
    rw [List.forall_mem_cons, List.foldlM_cons, ← Findings.exists_add_iff found]
    constructor
    · rintro ⟨result, run⟩
      obtain ⟨next, step, rest⟩ := bind_eq_ok.1 run
      exact ⟨⟨next, step⟩, (ih next).1 ⟨result, rest⟩⟩
    · rintro ⟨⟨next, step⟩, settled⟩
      obtain ⟨result, rest⟩ := (ih next).2 settled
      exact ⟨result, bind_eq_ok.2 ⟨next, step, rest⟩⟩

/-! ## Documents one by one -/

/-- An outcome is what the code base can say of a document. -/
structure Outcome.Tells (r : CodeBase) (d : Document) (o : Outcome) : Prop where
  units : (o.units.map fun u => (u, o.document)) = (r.declaredIn d).filter r.isSighted
  calls : o.calls = ((r.declaredIn d).filter r.isSighted).flatMap r.callsAt
  passed : o.passed.length = (r.declaredIn d).countP r.isPassed
  skipped : o.isSkipped = isGap (r.declared d)

theorem extract_tells {r : CodeBase} {d : Document} {o : Outcome} (h : extract r r.extent d = .ok o) : o.Tells r d := by
  unfold extract at h
  obtain ⟨answer, attempted, h⟩ := bind_eq_ok.1 h
  rcases attempt_eq_ok attempted with ⟨declared, e, rfl⟩ | ⟨reason, e, rfl⟩
  · obtain ⟨found, run, rfl⟩ := bind_pure_eq_ok.1 h
    have start : Findings.Tells r {} [] d := ⟨rfl, rfl, rfl⟩
    have tells := start.foldlM run
    have declaredIn : r.declaredIn d = [] ++ declared.map fun u => (u, d) := by simp [CodeBase.declaredIn, e, answers]
    rw [← declaredIn] at tells
    exact ⟨tells.units, tells.calls, tells.passed, by simp [Outcome.isSkipped, e, isGap]⟩
  · cases pure_eq_ok.1 h
    have none : r.declaredIn d = [] := by simp [CodeBase.declaredIn, e, answers]
    constructor <;> simp [Outcome.units, Outcome.calls, Outcome.passed, Outcome.isSkipped, none, e, isGap]

theorem exists_extract_iff {r : CodeBase} {d : Document} :
    (∃ o, extract r r.extent d = .ok o) ↔
      Settled (r.declared d) ∧ ∀ e ∈ r.declaredIn d, r.isAsked e = true → Settled (r.calls e.2 e.1) := by
  unfold extract
  rw [← exists_attempt_iff]
  constructor
  · rintro ⟨o, h⟩
    obtain ⟨answer, attempted, h⟩ := bind_eq_ok.1 h
    refine ⟨⟨answer, attempted⟩, ?_⟩
    rintro ⟨u, _⟩ mem asked
    obtain ⟨rfl, units, e, hu⟩ := CodeBase.mem_declaredIn_iff.1 mem
    rcases attempt_eq_ok attempted with ⟨declared, e', rfl⟩ | ⟨reason, e', rfl⟩
    · obtain ⟨found, run, -⟩ := bind_eq_ok.1 h
      cases e.symm.trans e'
      exact (Findings.exists_foldlM_iff {}).1 ⟨found, run⟩ u hu asked
    · cases e.symm.trans e'
  · rintro ⟨⟨answer, attempted⟩, settled⟩
    rw [attempted]
    rcases attempt_eq_ok attempted with ⟨declared, e, rfl⟩ | ⟨reason, e, rfl⟩
    · have settled : ∀ u ∈ declared, r.extent.contains u = true → Settled (r.calls d u) := by
        intro u hu asked
        exact settled (u, d) (CodeBase.mem_declaredIn_iff.2 ⟨rfl, declared, e, hu⟩) asked
      obtain ⟨found, run⟩ := (Findings.exists_foldlM_iff {}).2 settled
      exact ⟨_, bind_eq_ok.2 ⟨_, rfl, bind_eq_ok.2 ⟨found, run, rfl⟩⟩⟩
    · exact ⟨_, rfl⟩

namespace Survey

/-- The documents come from the projects that could be listed; the others are counted. -/
theorem listDocuments_eq_ok {r : CodeBase} {projects : List Project} {documents : List Document}
    {skipped : List (Project × String)} (h : listDocuments r projects = .ok (documents, skipped)) :
    documents = (projects.flatMap fun project => answers (r.documents project)) ∧
      skipped.length = projects.countP fun project => isGap (r.documents project) := by
  induction projects generalizing documents skipped with
  | nil =>
    cases h
    exact ⟨rfl, rfl⟩
  | cons project rest ih =>
    obtain ⟨answer, attempted, h⟩ := bind_eq_ok.1 h
    obtain ⟨⟨documents', skipped'⟩, others, h⟩ := bind_eq_ok.1 h
    obtain ⟨rfl, counted⟩ := ih others
    rcases attempt_eq_ok attempted with ⟨more, e, rfl⟩ | ⟨reason, e, rfl⟩
    · cases pure_eq_ok.1 h
      simp [e, answers, isGap, counted]
    · cases pure_eq_ok.1 h
      simp [e, answers, isGap, counted]

theorem exists_listDocuments_iff {r : CodeBase} {projects : List Project} :
    (∃ result, listDocuments r projects = .ok result) ↔ ∀ project ∈ projects, Settled (r.documents project) := by
  induction projects with
  | nil => simpa using ⟨[], [], rfl⟩
  | cons project rest ih =>
    rw [List.forall_mem_cons, ← ih, ← exists_attempt_iff]
    constructor
    · rintro ⟨result, h⟩
      obtain ⟨answer, attempted, h⟩ := bind_eq_ok.1 h
      obtain ⟨others, listed, -⟩ := bind_eq_ok.1 h
      exact ⟨⟨answer, attempted⟩, ⟨others, listed⟩⟩
    · rintro ⟨⟨answer, attempted⟩, ⟨⟨documents, skipped⟩, listed⟩⟩
      cases answer with
      | ok more => exact ⟨_, bind_eq_ok.2 ⟨_, attempted, bind_eq_ok.2 ⟨_, listed, rfl⟩⟩⟩
      | error reason => exact ⟨_, bind_eq_ok.2 ⟨_, attempted, bind_eq_ok.2 ⟨_, listed, rfl⟩⟩⟩

end Survey

/-! ## The register -/

namespace Register

variable {register : Register}

/-- Two sightings of one declaration. -/
def isSameUnit (a b : Sighting) : Bool := a.1.sameAs b.1

/-- The register after a sighting. -/
def addSighting (register : Register) (e : Sighting) : Register := register.add e.2 e.1

theorem has_iff {u : Callable} : register.has u = true ↔ ∃ e ∈ register, e.1.identity = u.identity := by
  simp [has, sameAs_iff]

theorem has_eq_isIn (u : Callable) : register.has u = u.isIn register.units := by
  rw [Bool.eq_iff_iff, has_iff, isIn_iff]
  simp [units]

theorem distinct_addSighting (h : Distinct register.units) (e : Sighting) :
    Distinct (register.addSighting e).units := by
  unfold addSighting add
  split
  · exact h
  · rename_i new
    rw [units, List.map_append, List.map_singleton]
    refine distinct_append_singleton h ?_
    change e.1.isIn register.units = false
    rw [← has_eq_isIn]
    simpa using new

theorem distinct_foldl (h : Distinct register.units) (es : List Sighting) :
    Distinct (es.foldl addSighting register).units := by
  induction es generalizing register with
  | nil => exact h
  | cons e es ih => exact ih (distinct_addSighting h e)

theorem find?_addSighting (e : Sighting) (u : Callable) :
    (register.addSighting e).find? (·.1.sameAs u) = (register ++ [e]).find? (·.1.sameAs u) := by
  unfold addSighting add
  split
  · rename_i old
    rw [List.find?_append]
    cases found : register.find? (·.1.sameAs u) with
    | some f => rfl
    | none =>
      -- an earlier sighting of `e` would have been found
      have other : e.1.sameAs u = false := by
        obtain ⟨f, mem, same⟩ := has_iff.1 old
        have := List.find?_eq_none.1 found f mem
        rw [sameAs_iff, same] at this
        simpa [sameAs] using this
      simp [other]
  · rfl

/-- Of several sightings of a declaration the first one counts. -/
theorem find?_foldl (es : List Sighting) (u : Callable) :
    (es.foldl addSighting register).find? (·.1.sameAs u) = (register ++ es).find? (·.1.sameAs u) := by
  induction es generalizing register with
  | nil => simp
  | cons e es ih =>
    rw [List.foldl_cons, ih, List.find?_append, find?_addSighting, ← List.find?_append, List.append_assoc]
    rfl

theorem mem_of_mem_foldl {es : List Sighting} {e : Sighting} (h : e ∈ es.foldl addSighting register) :
    e ∈ register ∨ e ∈ es := by
  induction es generalizing register with
  | nil => exact Or.inl h
  | cons f es ih =>
    rcases ih h with old | rest
    · unfold addSighting add at old
      split at old
      · exact Or.inl old
      · rcases List.mem_append.1 old with old | new
        · exact Or.inl old
        · exact Or.inr (List.mem_cons.2 (Or.inl (List.mem_singleton.1 new)))
    · exact Or.inr (List.mem_cons_of_mem _ rest)

theorem has_addSighting (e : Sighting) (u : Callable) :
    (register.addSighting e).has u = (register.has u || e.1.sameAs u) := by
  unfold addSighting add
  split
  · rename_i old
    rw [Bool.eq_iff_iff, Bool.or_eq_true, sameAs_iff]
    constructor
    · exact Or.inl
    · rintro (h | h)
      · exact h
      · rw [has_iff] at old ⊢
        rwa [← h]
  · simp [has]

/-- The register lists the first sighting of each declaration, in order. -/
theorem foldl_eq (es : List Sighting) :
    es.foldl addSighting register = register ++ (es.filter fun e => !register.has e.1).eraseDupsBy isSameUnit := by
  induction es generalizing register with
  | nil => simp
  | cons e es ih =>
    rw [List.foldl_cons, ih]
    cases old : register.has e.1 with
    | true => simp [addSighting, add, old]
    | false =>
      have new : register.addSighting e = register ++ [e] := by simp [addSighting, add, old]
      have keep : (fun x : Sighting => !(register.addSighting e).has x.1) =
          fun x => decide (isSameUnit x e = false) && !register.has x.1 := by
        funext x
        rw [has_addSighting, sameAs_comm]
        cases same : x.1.sameAs e.1 <;> simp [isSameUnit, same]
      rw [List.filter_cons_of_pos (by simp [old]), List.eraseDupsBy_cons, List.filter_filter, keep, new,
        List.append_assoc, List.singleton_append]

theorem eq_eraseDupsBy (es : List Sighting) : es.foldl addSighting [] = es.eraseDupsBy isSameUnit := by
  rw [foldl_eq]
  simp [has]

/-- Where no declaration comes twice, every sighting is registered. -/
theorem foldl_of_distinct {es : List Sighting} (h : Distinct (es.map (·.1))) : es.foldl addSighting [] = es := by
  rw [eq_eraseDupsBy]
  induction es with
  | nil => rfl
  | cons e es ih =>
    have apart := List.nodup_cons.1 h
    have keep : (es.filter fun x => isSameUnit x e = false) = es := by
      rw [List.filter_eq_self]
      intro x hx
      have other : x.1.identity ≠ e.1.identity := by
        intro same
        refine apart.1 ?_
        change e.1.identity ∈ _
        rw [← same]
        exact List.mem_map_of_mem (List.mem_map_of_mem hx)
      simpa [isSameUnit, sameAs] using other
    rw [List.eraseDupsBy_cons, keep, ih apart.2]

end Register

namespace Survey

/-- A survey is what its code base can say. -/
structure Tells (r : CodeBase) (s : Survey) : Prop where
  found : (s.outcomes.flatMap fun o => o.units.map fun u => (u, o.document)) = r.sightings
  calls : s.outcomes.flatMap (·.calls) = r.sightings.flatMap r.callsAt
  register : s.register = r.sightings.foldl Register.addSighting []
  graph : s.graph = .ofCalls ((r.sightings.flatMap r.callsAt).filter fun call =>
    s.register.has call.1 && s.register.has call.2)
  projects : s.projectsSkipped = r.projects.countP fun project => isGap (r.documents project)
  documents : s.documentsSkipped = r.listed.countP fun d => isGap (r.declared d)
  declarations : s.declarationsSkipped = r.declarations.countP r.isPassed

theorem registerOf_eq (outcomes : List Outcome) :
    registerOf outcomes = (outcomes.flatMap fun o => o.units.map fun u => (u, o.document)).foldl
      Register.addSighting [] := by
  rw [registerOf, List.foldl_flatMap]
  congr 1
  funext register o
  rw [List.foldl_map]
  rfl

theorem sightings_eq (r : CodeBase) : r.sightings = r.listed.flatMap fun d => (r.declaredIn d).filter r.isSighted :=
  List.filter_flatMap

theorem tells_of_eq_ok {r : CodeBase} {s : Survey} (h : ofCodeBase r = .ok s) : s.Tells r := by
  obtain ⟨⟨documents, skipped⟩, listing, h⟩ := bind_eq_ok.1 h
  obtain ⟨outcomes, run, rfl⟩ := bind_pure_eq_ok.1 h
  obtain ⟨listed, counted⟩ := listDocuments_eq_ok listing
  change documents = r.listed at listed
  subst listed
  have units := map_of_mapM run fun d o e => (extract_tells e).units
  have calls := map_of_mapM run fun d o e => (extract_tells e).calls
  have passed := map_of_mapM run fun d o e => (extract_tells e).passed
  have skips := map_of_mapM run fun d o e => (extract_tells e).skipped
  have found : (outcomes.flatMap fun o => o.units.map fun u => (u, o.document)) = r.sightings := by
    rw [sightings_eq, List.flatMap_def, units]
    rfl
  have called : outcomes.flatMap (·.calls) = r.sightings.flatMap r.callsAt := by
    rw [sightings_eq, List.flatMap_assoc, List.flatMap_def, calls]
    rfl
  constructor
  case found => exact found
  case calls => exact called
  case register =>
    change registerOf outcomes = _
    rw [registerOf_eq, found]
  case graph =>
    change CallGraph.ofCalls (registeredCalls (registerOf outcomes) outcomes) = _
    rw [registeredCalls, called]
    rfl
  case projects => exact counted
  case documents =>
    calc outcomes.countP (·.isSkipped)
      _ = (outcomes.map (·.isSkipped)).countP id := by rw [List.countP_map]; rfl
      _ = (r.listed.map fun d => isGap (r.declared d)).countP id := by rw [skips]
      _ = r.listed.countP fun d => isGap (r.declared d) := by rw [List.countP_map]; rfl
  case declarations =>
    change (outcomes.flatMap (·.passed)).length = _
    rw [CodeBase.declarations, List.countP_flatMap, List.length_flatMap, passed]
    rfl

/-- A survey comes to its end exactly if everything it asks is answered or met by a gap. -/
theorem exists_ofCodeBase_iff {r : CodeBase} : (∃ s, ofCodeBase r = .ok s) ↔ r.OnlyGaps := by
  constructor
  · rintro ⟨s, h⟩
    obtain ⟨⟨documents, skipped⟩, listing, h⟩ := bind_eq_ok.1 h
    obtain ⟨outcomes, run, -⟩ := bind_eq_ok.1 h
    obtain ⟨listed, -⟩ := listDocuments_eq_ok listing
    change documents = r.listed at listed
    subst listed
    have each : ∀ d ∈ r.listed, _ ∧ _ := fun d hd => exists_extract_iff.1 (exists_mapM_iff.1 ⟨outcomes, run⟩ d hd)
    refine ⟨exists_listDocuments_iff.1 ⟨_, listing⟩, fun d hd => (each d hd).1, ?_⟩
    intro e he asked
    obtain ⟨d, hd, mem⟩ := List.mem_flatMap.1 he
    exact (each d hd).2 e mem asked
  · rintro ⟨projects, documents, declarations⟩
    obtain ⟨⟨found, skipped⟩, listing⟩ := exists_listDocuments_iff.2 projects
    obtain ⟨listed, -⟩ := listDocuments_eq_ok listing
    change found = r.listed at listed
    subst listed
    have each : ∀ d ∈ r.listed, ∃ o, extract r r.extent d = .ok o := by
      intro d hd
      refine exists_extract_iff.2 ⟨documents d hd, fun e mem => declarations e ?_⟩
      exact List.mem_flatMap.2 ⟨d, hd, mem⟩
    obtain ⟨outcomes, run⟩ := exists_mapM_iff.2 each
    exact ⟨_, bind_eq_ok.2 ⟨_, listing, bind_eq_ok.2 ⟨outcomes, run, rfl⟩⟩⟩

namespace Tells

variable {r : CodeBase} {s : Survey}

theorem has_iff (h : s.Tells r) {u : Callable} :
    s.register.has u = true ↔ ∃ d v, r.Sights d v ∧ v.identity = u.identity := by
  have found : s.register.has u = (s.register.find? (·.1.sameAs u)).isSome := by
    rw [Bool.eq_iff_iff, List.find?_isSome]
    simp [Register.has]
  rw [found, h.register, Register.find?_foldl, List.nil_append, List.find?_isSome]
  constructor
  · rintro ⟨⟨v, d⟩, mem, same⟩
    exact ⟨d, v, CodeBase.mem_sightings_iff.1 mem, sameAs_iff.1 same⟩
  · rintro ⟨d, v, sights, same⟩
    exact ⟨(v, d), CodeBase.mem_sightings_iff.2 sights, sameAs_iff.2 same⟩

theorem mem_sightings (h : s.Tells r) {e : Sighting} (mem : e ∈ s.register) : e ∈ r.sightings := by
  rw [h.register] at mem
  rcases Register.mem_of_mem_foldl mem with none | mem
  · cases none
  · exact mem

theorem distinct (h : s.Tells r) : Distinct s.register.units := by
  have empty : Distinct (Register.units []) := List.nodup_nil
  rw [h.register]
  exact Register.distinct_foldl empty _

theorem register_of_once (h : s.Tells r) (once : r.DeclaresOnce) : s.register = r.sightings := by
  rw [h.register, Register.foldl_of_distinct once.distinct_sightings]

theorem document? (h : s.Tells r) (u : Callable) :
    s.register.document? u = (r.sightings.find? (·.1.sameAs u)).map (·.2) := by
  rw [Register.document?, h.register, Register.find?_foldl, List.nil_append]

/-- The calls that the graph was made of. -/
theorem linked_registered_iff (h : s.Tells r) {i j : CallableId} :
    Linked ((r.sightings.flatMap r.callsAt).filter fun call => s.register.has call.1 && s.register.has call.2) i j ↔
      ∃ d u t, r.Sights d u ∧ r.Refers d u t ∧ r.extent.contains t = true ∧ s.register.has t = true ∧
        u.identity = i ∧ t.identity = j := by
  simp only [Linked, List.mem_filter, List.mem_flatMap, Bool.and_eq_true]
  constructor
  · rintro ⟨⟨a, t⟩, ⟨⟨⟨u, d⟩, mem, call⟩, -, registered⟩, rfl, rfl⟩
    obtain ⟨rfl, refers, inScope⟩ := CodeBase.mem_callsAt_iff.1 call
    exact ⟨d, a, t, CodeBase.mem_sightings_iff.1 mem, refers, inScope, registered, rfl, rfl⟩
  · rintro ⟨d, u, t, sights, refers, inScope, registered, rfl, rfl⟩
    have caller : s.register.has u = true := h.has_iff.2 ⟨d, u, sights, rfl⟩
    exact ⟨(u, t), ⟨⟨(u, d), CodeBase.mem_sightings_iff.2 sights, CodeBase.mem_callsAt_iff.2 ⟨rfl, refers, inScope⟩⟩,
      caller, registered⟩, rfl, rfl⟩

theorem shows (h : s.Tells r) : Shows s.graph.rows ((r.sightings.flatMap r.callsAt).filter fun call =>
    s.register.has call.1 && s.register.has call.2) := by
  rw [h.graph]
  exact shows_ofCalls _

/-- The graph links two declarations exactly if a sighting of the first refers to the second and that is registered. -/
theorem linked_iff (h : s.Tells r) {i j : CallableId} :
    Linked s.graph.calls i j ↔
      ∃ d u t, r.Sights d u ∧ r.Refers d u t ∧ r.extent.contains t = true ∧ s.register.has t = true ∧
        u.identity = i ∧ t.identity = j :=
  h.shows.linked_calls.trans h.linked_registered_iff

theorem has_row (h : s.Tells r) {row : CallGraph.Row} (mem : row ∈ s.graph.rows) :
    s.register.has row.unit = true := by
  obtain ⟨call, given, e⟩ := h.shows.given row mem
  have both := (List.mem_filter.1 given).2
  rw [Bool.and_eq_true] at both
  rcases e with e | e
  · rw [← e]
    exact both.1
  · rw [← e]
    exact both.2

end Tells

/-! ## Exactness -/

/-- The survey `s` holds what the code base `r` can say and nothing else. -/
structure Exact (r : CodeBase) (s : Survey) : Prop where
  /-- The sightings are listed by project, document and place. -/
  sightings : ∀ d u, (u, d) ∈ r.sightings ↔ r.Sights d u
  /-- Of the sightings of a declaration the first one is kept, with its document. -/
  register : s.register = r.sightings.eraseDupsBy Register.isSameUnit
  registered : ∀ u : Callable, s.register.has u = true ↔ ∃ d v, r.Sights d v ∧ v.identity = u.identity
  once : (s.register.units.map (·.identity)).Nodup
  document : ∀ u, s.register.document? u = (r.sightings.find? (·.1.sameAs u)).map (·.2)
  /-- Calls of repeated sightings count too. -/
  calls : ∀ u t : Callable, Linked s.graph.calls u.identity t.identity ↔
    ∃ d v target, r.Sights d v ∧ r.Refers d v target ∧ r.extent.contains target = true ∧
      s.register.has target = true ∧ v.identity = u.identity ∧ target.identity = t.identity
  nodes : ∀ row ∈ s.graph.rows, s.register.has row.unit = true
  frozen : s.graph.isFrozen = true
  projectsSkipped : s.projectsSkipped = r.projects.countP fun project => isGap (r.documents project)
  documentsSkipped : s.documentsSkipped = r.listed.countP fun d => isGap (r.declared d)
  declarationsSkipped : s.declarationsSkipped =
    (r.declarations.filter fun e => r.extent.contains e.1).countP fun e => isGap (r.calls e.2 e.1)

/-- **A survey is exact**: if everything it asks is answered or met by a gap, it comes to its end and holds what was
answered. -/
theorem exact_of_onlyGaps {r : CodeBase} (gaps : r.OnlyGaps) : ∃ s, ofCodeBase r = .ok s ∧ s.Exact r := by
  obtain ⟨s, run⟩ := exists_ofCodeBase_iff.2 gaps
  have h := tells_of_eq_ok run
  refine ⟨s, run, ?_⟩
  constructor
  case sightings => exact fun d u => CodeBase.mem_sightings_iff
  case register => rw [h.register, Register.eq_eraseDupsBy]
  case registered => exact fun u => h.has_iff
  case once => exact h.distinct
  case document => exact h.document?
  case calls => exact fun u t => h.linked_iff
  case nodes => exact fun row mem => h.has_row mem
  case frozen => rw [h.graph]; rfl
  case projectsSkipped => exact h.projects
  case documentsSkipped => exact h.documents
  case declarationsSkipped =>
    rw [h.declarations, List.countP_filter]
    congr 1
    funext e
    exact Bool.and_comm _ _

/-! A code base with a gap at every level: the project `lost` cannot be listed, `b.py` cannot be read, and the calls of
`h`, which `f` refers to, are not known. -/

namespace Sample

/-- A declaration of the sample. -/
def unit (name : String) (line : Nat) : Callable :=
  { identity := { assembly := "App", qualname := "a." ++ name, path := "/App/a.py", line }
    name, path := "/App/a.py", span := ⟨⟨line, 0⟩, ⟨line + 1, 0⟩⟩, assembly := "App" }

def app : Project := { name := "App", assembly := "App", root := "/App", language := "python" }

def lost : Project := { name := "Lost", assembly := "Lost" }

/-- A document of the sample. -/
def document (name : String) : Document := { path := "/App/" ++ name, project := app }

/-- What the calls of `f` refer to. -/
def found : List (Option Resolution) :=
  [some (.one (.declaration (unit "g" 2))), none, some (.one (.bound (.declaration (unit "h" 3)) "self"))]

/-- The sample, where `c.py` declares `again` besides `h`. -/
def codeBase (again : List Callable) : CodeBase :=
  { projects := [app, lost]
    documents := fun project =>
      if project = app then .ok [document "a.py", document "b.py", document "c.py"] else .error (.gap "not listed")
    declared := fun d =>
      if d = document "a.py" then .ok [unit "f" 1, unit "g" 2]
      else if d = document "c.py" then .ok (unit "h" 3 :: again)
      else .error (.gap "not read")
    calls := fun _ u =>
      if u = unit "h" 3 then .error (.gap "no body") else if u = unit "f" 1 then .ok found else .ok [] }

end Sample

/-- The survey of the sample in which a second document declares `f` again. -/
theorem exact_sample :
    (Sample.codeBase [Sample.unit "f" 1]).OnlyGaps ∧
      ∃ s, ofCodeBase (Sample.codeBase [Sample.unit "f" 1]) = .ok s ∧ s.Exact (Sample.codeBase [Sample.unit "f" 1]) :=
  ⟨by decide, exact_of_onlyGaps (by decide)⟩

end Survey

end CallAtlas
