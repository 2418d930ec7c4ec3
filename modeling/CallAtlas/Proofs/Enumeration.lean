import CallAtlas.Proofs.Modes
import CallAtlas.Proofs.Phases

/-!
# The order of enumeration

A code base lists its projects, and the documents of each, in some order. The notes do not show it. A survey of the same
code base in another order registers the same declarations in another order and links the same ones; each list that is
written up is sorted, and by keys that differ, so it comes out the same. What a run writes is the same then, too, and the
order shows only where a survey has several reasons to stop: it names the first one that it meets.
-/

namespace CallAtlas

open Callable CallGraph

/-! ## Lists in another order -/

section Keys

variable {α β : Type} [LinearOrder β] {key : α → β} {given other sorted sorted' : List α}

/-- Sorting by keys that differ forgets the order in which a list was given. -/
theorem StablySorted.eq_of_perm (h : StablySorted key given sorted) (h' : StablySorted key other sorted')
    (perm : given.Perm other) (apart : ∀ a ∈ given, ∀ b ∈ given, key a = key b → a = b) : sorted = sorted' := by
  refine List.Perm.eq_of_pairwise ?_ h.rising h'.rising (h.perm.trans (perm.trans h'.perm.symm))
  intro a b ha hb le ge
  exact apart a (h.perm.mem_iff.1 ha) b (perm.mem_iff.2 (h'.perm.mem_iff.1 hb)) (le_antisymm le ge)

/-- The keys of a sorted list are those of the list that was given. -/
theorem StablySorted.map_key_eq (h : StablySorted key given sorted) (h' : StablySorted key other sorted')
    (perm : (given.map key).Perm (other.map key)) : sorted.map key = sorted'.map key := by
  have same := ((h.perm.map key).trans perm).trans (h'.perm.map key).symm
  refine List.Perm.eq_of_pairwise ?_ (List.pairwise_map.2 h.rising) (List.pairwise_map.2 h'.rising) same
  exact fun _ _ _ _ le ge => le_antisymm le ge

end Keys

theorem find?_eq_of_perm {α : Type} {p : α → Bool} {xs ys : List α} (perm : xs.Perm ys)
    (only : ∀ a ∈ xs, ∀ b ∈ xs, p a = true → p b = true → a = b) : xs.find? p = ys.find? p := by
  cases found : xs.find? p with
  | none =>
    have none : ∀ a ∈ ys, ¬p a = true := fun a ha => List.find?_eq_none.1 found a (perm.mem_iff.2 ha)
    exact (List.find?_eq_none.2 none).symm
  | some a =>
    have mem := List.mem_of_find?_eq_some found
    cases found' : ys.find? p with
    | none => exact absurd (List.find?_some found) (List.find?_eq_none.1 found' a (perm.mem_iff.1 mem))
    | some b =>
      have mem' := perm.mem_iff.2 (List.mem_of_find?_eq_some found')
      rw [only a mem b mem' (List.find?_some found) (List.find?_some found')]

/-- What counts of a declaration in a list of links: which one it is, and a key of it. -/
def Callable.keyed {κ : Type} (key : Callable → κ) (u : Callable) : CallableId × κ := (u.identity, key u)

section Keyed

variable {κ : Type} {key : Callable → κ} {us vs : List Callable}

theorem keyed_subset (members : ∀ w : Callable, w.isIn us = true → w.isIn vs = true)
    (keys : ∀ a ∈ us, ∀ b ∈ vs, a.identity = b.identity → key a = key b) : us.map (keyed key) ⊆ vs.map (keyed key) := by
  intro x mem
  obtain ⟨a, ha, rfl⟩ := List.mem_map.1 mem
  obtain ⟨b, hb, same⟩ := isIn_iff.1 (members a (isIn_of_mem ha))
  refine List.mem_map.2 ⟨b, hb, ?_⟩
  rw [keyed, keyed, same, keys a ha b hb same.symm]

/-- Lists of the same declarations have the same keys. -/
theorem perm_map_key (distinct : Distinct us) (distinct' : Distinct vs)
    (members : ∀ w : Callable, w.isIn us = true ↔ w.isIn vs = true)
    (keys : ∀ a ∈ us, ∀ b ∈ vs, a.identity = b.identity → key a = key b) : (us.map key).Perm (vs.map key) := by
  have nodup : ∀ ws : List Callable, Distinct ws → (ws.map (keyed key)).Nodup := by
    intro ws distinct
    refine List.Nodup.of_map Prod.fst ?_
    rw [List.map_map]
    exact distinct
  have perm : (us.map (keyed key)).Perm (vs.map (keyed key)) := by
    refine (List.perm_ext_iff_of_nodup (nodup us distinct) (nodup vs distinct')).2 fun x => ⟨?_, ?_⟩
    · exact fun mem => keyed_subset (fun w => (members w).1) keys mem
    · exact fun mem => keyed_subset (fun w => (members w).2) (fun a ha b hb same => (keys b hb a ha same.symm).symm) mem
  have perm := perm.map Prod.snd
  rwa [List.map_map, List.map_map] at perm

end Keyed

/-- Lists of the same declarations have the same keys once they are sorted. -/
theorem map_sortKey_sort {us vs : List Callable} (distinct : Distinct us) (distinct' : Distinct vs)
    (members : ∀ w : Callable, w.isIn us = true ↔ w.isIn vs = true)
    (keys : ∀ a ∈ us, ∀ b ∈ vs, a.identity = b.identity → a.sortKey = b.sortKey) :
    (sort us).map sortKey = (sort vs).map sortKey :=
  (stablySorted_sort us).map_key_eq (stablySorted_sort vs) (perm_map_key distinct distinct' members keys)

/-! ## The code base in another order -/

/-- The same answer, but for the order of the list. -/
inductive Shuffled {α : Type} : Except Refusal (List α) → Except Refusal (List α) → Prop where
  | answered {xs ys : List α} (perm : xs.Perm ys) : Shuffled (.ok xs) (.ok ys)
  | refused (refusal : Refusal) : Shuffled (.error refusal) (.error refusal)

theorem Shuffled.answers {α : Type} {a b : Except Refusal (List α)} (h : Shuffled a b) :
    (answers a).Perm (answers b) := by
  cases h with
  | answered perm => exact perm
  | refused => exact .refl _

theorem Shuffled.settled_iff {α : Type} {a b : Except Refusal (List α)} (h : Shuffled a b) :
    Settled a ↔ Settled b := by
  cases h with
  | answered => simp [Settled]
  | refused => exact Iff.rfl

namespace CodeBase

/-- The code base with other lists of its projects and their documents. -/
def listing (r : CodeBase) (projects : List Project) (documents : Project → Except Refusal (List Document)) :
    CodeBase :=
  { r with projects, documents }

/-- The lists hold what those of the code base hold, in any order. -/
structure Reorders (r : CodeBase) (projects : List Project) (documents : Project → Except Refusal (List Document)) :
    Prop where
  projects : projects.Perm r.projects
  documents : ∀ project ∈ r.projects, Shuffled (documents project) (r.documents project)

/-- All declarations of a code base, and what the calls in them refer to. -/
def spoken (r : CodeBase) : List Callable :=
  r.declarations.flatMap fun e => e.1 :: (answers (r.calls e.2 e.1)).filterMap fun o => o.bind (·.unit?)

/-- No declaration is made twice, those that are registered start at different places, and what is one declaration has
the same fields everywhere. Only the tag, which tells values apart, is no field. -/
structure Orderly (r : CodeBase) : Prop where
  once : r.DeclaresOnce
  places : ∀ e ∈ r.sightings, ∀ f ∈ r.sightings, e.1.path = f.1.path →
    e.1.span.start.line = f.1.span.start.line → e.1.span.start.column = f.1.span.start.column →
    e.1.identity = f.1.identity
  fields : ∀ a ∈ r.spoken, ∀ b ∈ r.spoken, a.identity = b.identity → { a with tag := b.tag } = b

namespace Orderly

variable {r : CodeBase}

theorem sortKey_eq (h : r.Orderly) {a b : Callable} (ha : a ∈ r.spoken) (hb : b ∈ r.spoken)
    (same : a.identity = b.identity) : a.sortKey = b.sortKey := by
  rw [← h.fields a ha b hb same]
  rfl

/-- A registered declaration is known by its key. -/
theorem sighting_eq (h : r.Orderly) {e f : Sighting} (he : e ∈ r.sightings) (hf : f ∈ r.sightings)
    (same : e.1.sortKey = f.1.sortKey) : e = f := by
  have distinct : (r.sightings.map fun e => e.1.identity).Nodup := by
    have distinct := h.once.distinct_sightings
    unfold Distinct at distinct
    rwa [List.map_map] at distinct
  simp only [sortKey, EmbeddingLike.apply_eq_iff_eq, Prod.mk.injEq] at same
  obtain ⟨-, -, path, line, column⟩ := same
  exact List.inj_on_of_nodup_map distinct he hf (h.places e he f hf path line column)

end Orderly

theorem spoken_of_mentioned {r : CodeBase} {u : Callable} (h : u ∈ r.mentioned) : u ∈ r.spoken := by
  obtain ⟨e, he, mem⟩ := List.mem_flatMap.1 h
  exact List.mem_flatMap.2 ⟨e, (List.mem_filter.1 he).1, mem⟩

namespace Reorders

variable {r : CodeBase} {projects : List Project} {documents : Project → Except Refusal (List Document)}

theorem contains_extent (h : r.Reorders projects documents) (u : Callable) :
    (r.listing projects documents).extent.contains u = r.extent.contains u := by
  have same : (projects.map (·.assembly)).contains u.assembly = (r.projects.map (·.assembly)).contains u.assembly := by
    rw [Bool.eq_iff_iff, List.contains_iff_mem, List.contains_iff_mem]
    exact (h.projects.map _).mem_iff
  change ((projects.map (·.assembly)).contains u.assembly && _ && _ && _ && _) = _
  rw [same]
  rfl

theorem perm_listed (h : r.Reorders projects documents) : (r.listing projects documents).listed.Perm r.listed := by
  have each : (projects.flatMap fun project => answers (documents project)).Perm
      (projects.flatMap fun project => answers (r.documents project)) :=
    List.Perm.flatMap_left _ fun project mem => (h.documents project (h.projects.mem_iff.1 mem)).answers
  exact each.trans (h.projects.flatMap_right _)

theorem perm_declarations (h : r.Reorders projects documents) :
    (r.listing projects documents).declarations.Perm r.declarations :=
  h.perm_listed.flatMap_right _

theorem perm_sightings (h : r.Reorders projects documents) :
    (r.listing projects documents).sightings.Perm r.sightings := by
  have sighted : (r.listing projects documents).isSighted = r.isSighted := by
    funext e
    unfold isSighted isAsked
    rw [h.contains_extent]
    rfl
  rw [sightings, sightings, sighted]
  exact h.perm_declarations.filter _

theorem declaresOnce (h : r.Reorders projects documents) (once : r.DeclaresOnce) :
    (r.listing projects documents).DeclaresOnce :=
  ((h.perm_declarations.map _).map _).nodup_iff.2 once

theorem spoken_iff (h : r.Reorders projects documents) {u : Callable} :
    u ∈ (r.listing projects documents).spoken ↔ u ∈ r.spoken :=
  (h.perm_declarations.flatMap_right _).mem_iff

theorem sights_iff (h : r.Reorders projects documents) {d : Document} {u : Callable} :
    (r.listing projects documents).Sights d u ↔ r.Sights d u := by
  have sighted := h.perm_sightings.mem_iff (a := (u, d))
  rwa [mem_sightings_iff, mem_sightings_iff] at sighted

theorem onlyGaps_iff (h : r.Reorders projects documents) :
    (r.listing projects documents).OnlyGaps ↔ r.OnlyGaps := by
  constructor
  · intro only
    constructor
    · intro project mem
      exact (h.documents project mem).settled_iff.1 (only.projects project (h.projects.mem_iff.2 mem))
    · exact fun d mem => only.documents d (h.perm_listed.mem_iff.2 mem)
    · intro e mem asked
      refine only.declarations e (h.perm_declarations.mem_iff.2 mem) ?_
      rw [isAsked, h.contains_extent]
      exact asked
  · intro only
    constructor
    · intro project mem
      have mem := h.projects.mem_iff.1 mem
      exact (h.documents project mem).settled_iff.2 (only.projects project mem)
    · exact fun d mem => only.documents d (h.perm_listed.mem_iff.1 mem)
    · intro e mem asked
      refine only.declarations e (h.perm_declarations.mem_iff.1 mem) ?_
      rw [isAsked, h.contains_extent] at asked
      exact asked

end Reorders

end CodeBase

/-! ## The survey in another order -/

namespace Survey

/-- Two surveys of one code base: `s` in the order of the code base, and `t` in another one. -/
structure Reordered (r : CodeBase) (projects : List Project) (documents : Project → Except Refusal (List Document))
    (s t : Survey) : Prop where
  order : r.Reorders projects documents
  orderly : r.Orderly
  given : s.Tells r
  other : t.Tells (r.listing projects documents)

namespace Reordered

variable {r : CodeBase} {projects : List Project} {documents : Project → Except Refusal (List Document)} {s t : Survey}

theorem perm_register (h : Reordered r projects documents s t) : t.register.Perm s.register := by
  rw [h.given.register_of_once h.orderly.once, h.other.register_of_once (h.order.declaresOnce h.orderly.once)]
  exact h.order.perm_sightings

theorem perm_units (h : Reordered r projects documents s t) : t.register.units.Perm s.register.units :=
  h.perm_register.map _

theorem documentsSkipped_eq (h : Reordered r projects documents s t) : t.documentsSkipped = s.documentsSkipped := by
  rw [h.given.documents, h.other.documents]
  exact h.order.perm_listed.countP_eq _

theorem document?_eq (h : Reordered r projects documents s t) (u : Callable) :
    t.register.document? u = s.register.document? u := by
  have distinct := h.other.distinct
  unfold Distinct Register.units at distinct
  rw [List.map_map] at distinct
  have same : t.register.find? (·.1.sameAs u) = s.register.find? (·.1.sameAs u) := by
    refine find?_eq_of_perm h.perm_register fun e he f hf here there => ?_
    exact List.inj_on_of_nodup_map distinct he hf ((sameAs_iff.1 here).trans (sameAs_iff.1 there).symm)
  rw [Register.document?, Register.document?, same]

/-! ### Lists of links -/

theorem linked_iff (h : Reordered r projects documents s t) {i j : CallableId} :
    Linked t.graph.calls i j ↔ Linked s.graph.calls i j := by
  have has : ∀ u, t.register.has u = s.register.has u := by
    intro u
    rw [Bool.eq_iff_iff, h.other.has_iff, h.given.has_iff]
    simp only [h.order.sights_iff]
  rw [h.other.linked_iff, h.given.linked_iff]
  simp only [h.order.sights_iff, h.order.contains_extent, has]
  exact Iff.rfl

/-- The same declarations are listed under the same names. -/
theorem map_name_sort (h : Reordered r projects documents s t) {us vs : List Callable} (distinct : Distinct us)
    (distinct' : Distinct vs) (members : ∀ w : Callable, w.isIn us = true ↔ w.isIn vs = true)
    (mentioned : ∀ a ∈ us, a ∈ (r.listing projects documents).mentioned) (mentioned' : ∀ b ∈ vs, b ∈ r.mentioned) :
    (sort us).map (·.name) = (sort vs).map (·.name) := by
  have keys : (sort us).map sortKey = (sort vs).map sortKey := by
    refine map_sortKey_sort distinct distinct' members fun a ha b hb same => ?_
    have spoken := h.order.spoken_iff.1 (CodeBase.spoken_of_mentioned (mentioned a ha))
    exact h.orderly.sortKey_eq spoken (CodeBase.spoken_of_mentioned (mentioned' b hb)) same
  have names := congrArg (List.map fun key => (ofLex key).1) keys
  rwa [List.map_map, List.map_map] at names

theorem map_name_callsOf (h : Reordered r projects documents s t) (u : Callable) :
    (Note.callsOf t u).map (·.name) = (Note.callsOf s u).map (·.name) := by
  refine h.map_name_sort (h.other.shows.distinct_callees u) (h.given.shows.distinct_callees u) (fun w => ?_) ?_ ?_
  · rw [h.other.shows.isIn_callees, h.given.shows.isIn_callees, ← h.other.shows.linked_calls,
      ← h.given.shows.linked_calls, h.linked_iff]
  · intro a ha
    obtain ⟨call, listed, rfl⟩ := h.other.shows.callees_given ha
    exact (Tells.call_registered listed).2.2
  · intro b hb
    obtain ⟨call, listed, rfl⟩ := h.given.shows.callees_given hb
    exact (Tells.call_registered listed).2.2

theorem map_name_callersOf (h : Reordered r projects documents s t) (u : Callable) :
    (Note.callersOf t u).map (·.name) = (Note.callersOf s u).map (·.name) := by
  refine h.map_name_sort (h.other.shows.distinct_callers u) (h.given.shows.distinct_callers u) (fun w => ?_) ?_ ?_
  · rw [h.other.shows.isIn_callers, h.given.shows.isIn_callers, ← h.other.shows.linked_calls,
      ← h.given.shows.linked_calls, h.linked_iff]
  · intro a ha
    obtain ⟨call, listed, rfl⟩ := h.other.shows.callers_given ha
    exact (Tells.call_registered listed).1.2
  · intro b hb
    obtain ⟨call, listed, rfl⟩ := h.given.shows.callers_given hb
    exact (Tells.call_registered listed).1.2

end Reordered

end Survey

/-! ## The notes in another order -/

namespace Note

/-- Only names are shown. -/
theorem linkLines_congr {heading : String} {us vs : List Callable} (names : us.map (·.name) = vs.map (·.name)) :
    linkLines heading us = linkLines heading vs := by
  have lines : ∀ ws : List Callable, (ws.map fun v => "- [[" ++ v.name ++ "]]") =
      (ws.map (·.name)).map fun name => "- [[" ++ name ++ "]]" := by
    intro ws
    rw [List.map_map]
    rfl
  match us, vs with
  | [], [] => rfl
  | u :: us, v :: vs => rw [linkLines, linkLines, lines, lines, names]

end Note

namespace Survey.Reordered

variable {r : CodeBase} {projects : List Project} {documents : Project → Except Refusal (List Document)} {s t : Survey}

theorem surveySection_eq (h : Reordered r projects documents s t) (u : Callable) :
    Note.surveySection (r.listing projects documents) t u = Note.surveySection r s u := by
  have links : Note.sectionLinks u t.graph = Note.sectionLinks u s.graph := by
    rw [Note.sectionLinks_eq, Note.sectionLinks_eq, Note.linkLines_congr (h.map_name_callsOf u),
      Note.linkLines_congr (h.map_name_callersOf u)]
  unfold Note.surveySection Note.sectionText
  rw [h.document?_eq, links]
  rfl

theorem shownPath_eq (h : Reordered r projects documents s t) (current : String) (u : Callable) :
    Note.shownPath current t u = Note.shownPath current s u := by
  unfold Note.shownPath
  rw [h.document?_eq]

theorem sectionRefusal?_eq (h : Reordered r projects documents s t) (u : Callable) :
    Note.sectionRefusal? (r.listing projects documents) t u = Note.sectionRefusal? r s u := by
  unfold Note.sectionRefusal?
  rw [h.document?_eq]
  rfl

/-! ### Sorted declarations -/

theorem unit_eq (h : Reordered r projects documents s t) {a b : Callable} (ha : a ∈ t.register.units)
    (hb : b ∈ t.register.units) (same : a.sortKey = b.sortKey) : a = b := by
  obtain ⟨e, he, rfl⟩ := List.mem_map.1 ha
  obtain ⟨f, hf, rfl⟩ := List.mem_map.1 hb
  have sighted : ∀ e ∈ t.register, e ∈ r.sightings :=
    fun e he => h.order.perm_sightings.mem_iff.1 (h.other.mem_sightings he)
  rw [h.orderly.sighting_eq (sighted e he) (sighted f hf) same]

theorem unitsByNote_eq (h : Reordered r projects documents s t) : Note.unitsByNote t = Note.unitsByNote s := by
  refine (Note.stablySorted_unitsByNote t).eq_of_perm (Note.stablySorted_unitsByNote s) h.perm_units ?_
  intro a ha b hb same
  simp only [EmbeddingLike.apply_eq_iff_eq, Prod.mk.injEq] at same
  exact h.unit_eq ha hb same.2

theorem paths_eq (h : Reordered r projects documents s t) : t.paths = s.paths := by
  have members : ∀ path, path ∈ t.paths ↔ path ∈ s.paths := by
    intro path
    rw [Note.mem_paths_iff, Note.mem_paths_iff]
    simp only [h.perm_units.mem_iff]
  have nodup : ∀ s : Survey, s.paths.Nodup := fun s => (Note.paths_rising s).imp fun h => ne_of_lt h
  have perm := (List.perm_ext_iff_of_nodup (nodup t) (nodup s)).2 members
  refine perm.eq_of_pairwise ?_ (Note.paths_rising t) (Note.paths_rising s)
  exact fun _ _ _ _ before after => absurd before after.not_gt

theorem unitsPerFile_eq (h : Reordered r projects documents s t) : t.unitsPerFile = s.unitsPerFile := by
  unfold unitsPerFile
  rw [h.paths_eq]
  refine List.map_congr_left fun path _ => ?_
  have perm := h.perm_units.filter (·.path == path)
  rw [(stablySorted_sort _).eq_of_perm (stablySorted_sort _) perm]
  intro a ha b hb same
  exact h.unit_eq (List.mem_filter.1 ha).1 (List.mem_filter.1 hb).1 same

theorem writtenOrder_eq (h : Reordered r projects documents s t) (mode : Mode) :
    Note.writtenOrder mode t = Note.writtenOrder mode s := by
  cases mode with
  | perFile => rw [Note.writtenOrder, Note.writtenOrder, h.unitsPerFile_eq]
  | perUnit => exact h.unitsByNote_eq

/-- The notes do not show the order. -/
theorem render_eq (h : Reordered r projects documents s t) (current : String) (mode : Mode) :
    Note.render current mode (r.listing projects documents) t = Note.render current mode r s := by
  have sections : Note.surveySection (r.listing projects documents) t = Note.surveySection r s :=
    funext h.surveySection_eq
  cases mode with
  | perFile =>
    change Note.fileNotes _ t = Note.fileNotes r s
    unfold Note.fileNotes
    rw [h.unitsPerFile_eq, sections]
  | perUnit =>
    change Note.unitNotes current _ t = Note.unitNotes current r s
    unfold Note.unitNotes
    rw [h.unitsByNote_eq]
    refine List.map_congr_left fun u _ => ?_
    rw [h.surveySection_eq, h.shownPath_eq]

theorem refusal?_eq (h : Reordered r projects documents s t) (mode : Mode) :
    Note.refusal? mode (r.listing projects documents) t = Note.refusal? mode r s := by
  unfold Note.refusal?
  rw [h.writtenOrder_eq, funext h.sectionRefusal?_eq]

end Survey.Reordered

/-! ## The run in another order -/

/-- The states differ in their logs only. -/
structure RunState.SameButLog (s s' : RunState) : Prop where
  tree : s'.tree = s.tree
  terminal : s'.terminal = s.terminal

namespace RunStep

variable {α α' β β' : Type} {R : α → α' → Prop} {S : β → β' → Prop} {E : RunFault → RunFault → Prop}
  {step : RunStep α} {step' : RunStep α'} {next : α → RunStep β} {next' : α' → RunStep β'}

/-- Two steps give related values, or stop for the same fault or for related ones. -/
inductive Agree (E : RunFault → RunFault → Prop) (R : α → α' → Prop) :
    Except RunFault α → Except RunFault α' → Prop where
  | ok {a : α} {a' : α'} (related : R a a') : Agree E R (.ok a) (.ok a')
  | error (fault : RunFault) : Agree E R (.error fault) (.error fault)
  | errors {fault fault' : RunFault} (related : E fault fault') : Agree E R (.error fault) (.error fault')

theorem Agree.eq_or {a b : Except RunFault α} (h : Agree E (· = ·) a b) :
    b = a ∨ ∃ fault fault', E fault fault' ∧ a = .error fault ∧ b = .error fault' := by
  cases h with
  | ok related => exact Or.inl (by rw [related])
  | error => exact Or.inl rfl
  | errors related => exact Or.inr ⟨_, _, related, rfl, rfl⟩

/-- From states that differ in their logs only both steps come to such states, and agree. -/
def Alike (E : RunFault → RunFault → Prop) (R : α → α' → Prop) (step : RunStep α) (step' : RunStep α') : Prop :=
  ∀ s s' : RunState, s.SameButLog s' → (step s).1.SameButLog (step' s').1 ∧ Agree E R (step s).2 (step' s').2

theorem Alike.andThen (h : Alike E R step step') (h' : ∀ a a', R a a' → Alike E S (next a) (next' a')) :
    Alike E S (step.andThen next) (step'.andThen next') := by
  intro s s' same
  obtain ⟨after, agree⟩ := h s s' same
  cases result : step s with
  | mk mid r =>
    cases result' : step' s' with
    | mk mid' r' =>
      rw [result, result'] at after agree
      dsimp only at after agree
      cases agree with
      | ok related =>
        rw [andThen_of_ok result, andThen_of_ok result']
        exact h' _ _ related mid mid' after
      | error fault =>
        rw [andThen_of_error result, andThen_of_error result']
        exact ⟨after, .error fault⟩
      | errors related =>
        rw [andThen_of_error result, andThen_of_error result']
        exact ⟨after, .errors related⟩

theorem Alike.inPhase (h : Alike E R step step') (name : String) :
    Alike E R (inPhase name step) (inPhase name step') := by
  intro s s' same
  cases began : s.terminal.begin name with
  | error fault =>
    have began' : s'.terminal.begin name = .error fault := by rw [same.terminal, began]
    rw [RunStep.inPhase, RunStep.inPhase, began, began']
    exact ⟨same, .error _⟩
  | ok terminal =>
    have began' : s'.terminal.begin name = .ok terminal := by rw [same.terminal, began]
    obtain ⟨after, agree⟩ := h { s with terminal } { s' with terminal } ⟨same.tree, rfl⟩
    rw [inPhase_of_begin began, inPhase_of_begin began']
    unfold close
    rw [after.terminal]
    split
    · exact ⟨⟨after.tree, rfl⟩, agree⟩
    · exact ⟨⟨after.tree, rfl⟩, .error _⟩

theorem alike_value {a : α} {a' : α'} (related : R a a') : Alike E R (value a) (value a') :=
  fun _ _ same => ⟨same, .ok related⟩

end RunStep

open RunStep

variable {E : RunFault → RunFault → Prop}

theorem alike_writeNote (outDir : String) (p : Progress) (n : Note) :
    Alike E (· = ·) (writeNote outDir p n) (writeNote outDir p n) := by
  intro s s' same
  unfold writeNote
  rw [same.tree]
  split
  · exact ⟨⟨rfl, same.terminal⟩, .ok rfl⟩
  · split
    · exact ⟨⟨rfl, same.terminal⟩, .ok rfl⟩
    · exact ⟨⟨rfl, same.terminal⟩, .error _⟩

theorem alike_writeNotes (outDir : String) (p : Progress) (notes : List Note) :
    Alike E (· = ·) (writeNotes outDir p notes) (writeNotes outDir p notes) := by
  induction notes generalizing p with
  | nil => exact alike_value rfl
  | cons n notes ih =>
    refine (alike_writeNote outDir p n).andThen fun q q' same => ?_
    rw [← same]
    exact ih q

theorem alike_reportMemory : Alike E (· = ·) reportMemory reportMemory := by
  intro s s' same
  unfold reportMemory
  rw [same.terminal]
  split
  · exact ⟨⟨same.tree, rfl⟩, .ok rfl⟩
  · exact ⟨same, .error _⟩

/-- Each of the faults is what the survey of its code base stops for. -/
def CodeBase.StopsLike (r r' : CodeBase) (fault fault' : RunFault) : Prop :=
  ∃ own own', Survey.ofCodeBase r = .error own ∧ Survey.ofCodeBase r' = .error own' ∧
    fault = .unwritable own ∧ fault' = .unwritable own'

namespace CodeBase.Reorders

variable {r : CodeBase} {projects : List Project} {documents : Project → Except Refusal (List Document)}

theorem ends_iff (h : r.Reorders projects documents) :
    (∃ t, Survey.ofCodeBase (r.listing projects documents) = .ok t) ↔ ∃ s, Survey.ofCodeBase r = .ok s := by
  rw [Survey.exists_ofCodeBase_iff, Survey.exists_ofCodeBase_iff, h.onlyGaps_iff]

theorem reordered (h : r.Reorders projects documents) (orderly : r.Orderly) {s t : Survey}
    (given : Survey.ofCodeBase r = .ok s) (other : Survey.ofCodeBase (r.listing projects documents) = .ok t) :
    Survey.Reordered r projects documents s t :=
  ⟨h, orderly, Survey.tells_of_eq_ok given, Survey.tells_of_eq_ok other⟩

theorem alike_surveyStep (h : r.Reorders projects documents) (orderly : r.Orderly) :
    Alike (r.StopsLike (r.listing projects documents)) (Survey.Reordered r projects documents) (surveyStep r)
      (surveyStep (r.listing projects documents)) := by
  intro s s' same
  have told : (r.listing projects documents).projectsRefusal = r.projectsRefusal := rfl
  unfold surveyStep
  rw [told]
  cases r.projectsRefusal with
  | some refusal => exact ⟨same, .error _⟩
  | none =>
    have ends := h.ends_iff
    cases given : Survey.ofCodeBase r with
    | ok survey =>
      cases other : Survey.ofCodeBase (r.listing projects documents) with
      | ok survey' => exact ⟨⟨same.tree, same.terminal⟩, .ok (h.reordered orderly given other)⟩
      | error fault =>
        rw [given, other] at ends
        obtain ⟨_, ended⟩ := ends.2 ⟨_, rfl⟩
        cases ended
    | error fault =>
      cases other : Survey.ofCodeBase (r.listing projects documents) with
      | ok survey' =>
        rw [given, other] at ends
        obtain ⟨_, ended⟩ := ends.1 ⟨_, rfl⟩
        cases ended
      | error fault' => exact ⟨same, .errors ⟨fault, fault', given, other, rfl, rfl⟩⟩

end CodeBase.Reorders

namespace Survey.Reordered

variable {r : CodeBase} {projects : List Project} {documents : Project → Except Refusal (List Document)} {s t : Survey}

theorem alike_renderStep (h : Reordered r projects documents s t) (mode : Mode) :
    Alike E (· = ·) (renderStep mode r s) (renderStep mode (r.listing projects documents) t) := by
  intro state state' same
  refine ⟨⟨same.tree, same.terminal⟩, ?_⟩
  unfold renderStep
  dsimp only
  rw [h.refusal?_eq, h.render_eq, same.tree]
  split
  · exact .error _
  · exact .ok rfl

theorem alike_writeStep (h : Reordered r projects documents s t) (plan : Plan) (notes : List Note) :
    Alike E (· = ·) (writeStep plan s notes) (writeStep plan t notes) := by
  unfold writeStep
  rw [h.documentsSkipped_eq]
  refine (alike_writeNotes _ _ notes).andThen fun p p' same => ?_
  rw [← same]
  intro state state' same
  unfold reportNotes
  rw [same.terminal]
  exact ⟨⟨same.tree, rfl⟩, .ok rfl⟩

end Survey.Reordered

/-- Runs on the two code bases do the same, but for what they log. -/
theorem CodeBase.Reorders.alike_run {r : CodeBase} {projects : List Project}
    {documents : Project → Except Refusal (List Document)} (h : r.Reorders projects documents) (orderly : r.Orderly)
    (plan : Plan) (log log' : Log) :
    Alike (r.StopsLike (r.listing projects documents)) (· = ·) (run plan fun _ => .ok (r, log))
      (run plan fun _ => .ok (r.listing projects documents, log')) := by
  have load : Alike (r.StopsLike (r.listing projects documents)) (fun a b => a = r ∧ b = r.listing projects documents)
      (loadStep fun _ => .ok (r, log)) (loadStep fun _ => .ok (r.listing projects documents, log')) :=
    fun _ _ same => ⟨⟨same.tree, same.terminal⟩, .ok ⟨rfl, rfl⟩⟩
  have prepared : Alike (r.StopsLike (r.listing projects documents))
      (fun a b => Survey.Reordered r projects documents a.1 b.1 ∧ a.2 = b.2)
      (prepare plan fun _ => .ok (r, log)) (prepare plan fun _ => .ok (r.listing projects documents, log')) := by
    refine (load.inPhase _).andThen ?_
    rintro _ _ ⟨rfl, rfl⟩
    refine ((h.alike_surveyStep orderly).inPhase _).andThen fun s t reordered => ?_
    refine ((reordered.alike_renderStep plan.mode).inPhase _).andThen fun notes notes' same => ?_
    exact alike_value ⟨reordered, same⟩
  refine prepared.andThen ?_
  rintro ⟨s, notes⟩ ⟨t, _⟩ ⟨reordered, rfl⟩
  refine ((reordered.alike_writeStep plan notes).inPhase _).andThen fun summary summary' same => ?_
  refine alike_reportMemory.andThen fun _ _ _ => ?_
  exact alike_value same

/-- Surveys of the two code bases lead to the same notes. -/
structure CodeBase.SameNotes (r r' : CodeBase) : Prop where
  ends : (∃ t, Survey.ofCodeBase r' = .ok t) ↔ ∃ s, Survey.ofCodeBase r = .ok s
  notes : ∀ s t, Survey.ofCodeBase r = .ok s → Survey.ofCodeBase r' = .ok t → ∀ current mode,
    Note.render current mode r' t = Note.render current mode r s
  refusals : ∀ s t, Survey.ofCodeBase r = .ok s → Survey.ofCodeBase r' = .ok t → ∀ mode,
    Note.refusal? mode r' t = Note.refusal? mode r s
  winners : ∀ s t, Survey.ofCodeBase r = .ok s → Survey.ofCodeBase r' = .ok t → ∀ current mode,
    Note.winners (Note.render current mode r' t) = Note.winners (Note.render current mode r s)
  /-- Runs leave the same files and end in the same way, unless each stops for what stops its survey. -/
  runs : ∀ plan log log' state,
    (run plan (fun _ => .ok (r', log')) state).1.tree = (run plan (fun _ => .ok (r, log)) state).1.tree ∧
      ((run plan (fun _ => .ok (r', log')) state).2 = (run plan (fun _ => .ok (r, log)) state).2 ∨
        ∃ fault fault', r.StopsLike r' fault fault' ∧ (run plan (fun _ => .ok (r, log)) state).2 = .error fault ∧
          (run plan (fun _ => .ok (r', log')) state).2 = .error fault')

theorem CodeBase.Reorders.sameNotes {r : CodeBase} {projects : List Project}
    {documents : Project → Except Refusal (List Document)} (h : r.Reorders projects documents) (orderly : r.Orderly) :
    r.SameNotes (r.listing projects documents) := by
  have notes : ∀ s t, Survey.ofCodeBase r = .ok s → Survey.ofCodeBase (r.listing projects documents) = .ok t →
      ∀ current mode, Note.render current mode (r.listing projects documents) t = Note.render current mode r s :=
    fun _ _ given other => (h.reordered orderly given other).render_eq
  constructor
  case ends => exact h.ends_iff
  case notes => exact notes
  case refusals => exact fun _ _ given other => (h.reordered orderly given other).refusal?_eq
  case winners =>
    intro s t given other current mode
    rw [notes s t given other]
  case runs =>
    intro plan log log' state
    obtain ⟨after, agree⟩ := h.alike_run orderly plan log log' state state ⟨rfl, rfl⟩
    exact ⟨after.tree, agree.eq_or⟩

end CallAtlas
