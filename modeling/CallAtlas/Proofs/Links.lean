import CallAtlas.Note.Render
import CallAtlas.Proofs.Order
import CallAtlas.Proofs.Survey

/-!
# Links lead both ways

The sections of the notes list callees and callers as links. Both lists are read off one graph, so a declaration is
listed among the callees of another exactly if that is listed among its callers (`Consistent.bothWays`). Only registered
declarations are in the graph, and every registered declaration has a section in one of the notes, in either mode; so no
link leads nowhere.
-/

namespace CallAtlas

open Callable CallGraph

/-- The declarations sighted in a code base and those that their calls refer to. -/
def CodeBase.mentioned (r : CodeBase) : List Callable :=
  r.sightings.flatMap fun e => e.1 :: (answers (r.calls e.2 e.1)).filterMap fun o => o.bind (·.unit?)

/-- What is mentioned as one declaration has one name and one place in every order. -/
def CodeBase.KeysAgree (r : CodeBase) : Prop :=
  ∀ a ∈ r.mentioned, ∀ b ∈ r.mentioned, a.identity = b.identity → a.name = b.name ∧ a.sortKey = b.sortKey

instance (r : CodeBase) : Decidable r.KeysAgree :=
  inferInstanceAs (Decidable (∀ a ∈ r.mentioned, ∀ b ∈ r.mentioned, _ → _))

namespace CodeBase

variable {r : CodeBase}

theorem mentioned_of_sighting {e : Sighting} (mem : e ∈ r.sightings) : e.1 ∈ r.mentioned :=
  List.mem_flatMap.2 ⟨e, mem, List.mem_cons_self⟩

theorem mentioned_of_callsAt {e : Sighting} (mem : e ∈ r.sightings) {call : Call} (h : call ∈ r.callsAt e) :
    call.1 ∈ r.mentioned ∧ call.2 ∈ r.mentioned := by
  obtain ⟨caller, ⟨found, answered, resolution, given, unit⟩, -⟩ := mem_callsAt_iff.1 h
  constructor
  · rw [caller]
    exact mentioned_of_sighting mem
  · refine List.mem_flatMap.2 ⟨e, mem, List.mem_cons_of_mem _ (List.mem_filterMap.2 ⟨some resolution, ?_, unit⟩)⟩
    exact mem_answers_iff.2 ⟨found, answered, given⟩

end CodeBase

namespace Survey.Tells

variable {r : CodeBase} {s : Survey}

theorem mentioned_of_mem (h : s.Tells r) {u : Callable} (mem : u ∈ s.register.units) : u ∈ r.mentioned := by
  obtain ⟨e, he, rfl⟩ := List.mem_map.1 mem
  exact CodeBase.mentioned_of_sighting (h.mem_sightings he)

/-- A declaration that counts as registered has its registered form, with the same name and key. -/
theorem registered_form (h : s.Tells r) (agree : r.KeysAgree) {v : Callable} (has : s.register.has v = true)
    (mentioned : v ∈ r.mentioned) :
    ∃ w ∈ s.register.units, w.identity = v.identity ∧ w.name = v.name ∧ w.sortKey = v.sortKey := by
  rw [Register.has_eq_isIn, isIn_iff] at has
  obtain ⟨w, hw, same⟩ := has
  exact ⟨w, hw, same, agree w (h.mentioned_of_mem hw) v mentioned same⟩

/-- Both ends of every call in the graph have a registered form. -/
theorem call_registered {call : Call}
    (mem : call ∈ (r.sightings.flatMap r.callsAt).filter fun call => s.register.has call.1 && s.register.has call.2) :
    (s.register.has call.1 = true ∧ call.1 ∈ r.mentioned) ∧ s.register.has call.2 = true ∧ call.2 ∈ r.mentioned := by
  obtain ⟨given, both⟩ := List.mem_filter.1 mem
  obtain ⟨e, he, at_⟩ := List.mem_flatMap.1 given
  rw [Bool.and_eq_true] at both
  obtain ⟨caller, callee⟩ := CodeBase.mentioned_of_callsAt he at_
  exact ⟨⟨both.1, caller⟩, both.2, callee⟩

end Survey.Tells

namespace Note

/-- The declarations listed as callees of `u`, in order. -/
def callsOf (s : Survey) (u : Callable) : List Callable := Callable.sort (s.graph.callees u)

/-- The declarations listed as callers of `u`, in order. -/
def callersOf (s : Survey) (u : Callable) : List Callable := Callable.sort (s.graph.callers u)

/-- A heading and a line for each declaration below it; no heading without declarations. -/
def linkLines (heading : String) : List Callable → List String
  | [] => []
  | u :: us => heading :: ((u :: us).map fun v => "- [[" ++ v.name ++ "]]") ++ [""]

/-- One of the notes holds the text. -/
def Shown (notes : List Note) (text : String) : Prop :=
  ∃ note ∈ notes, ∃ before after, note.text = before ++ text ++ after

/-- The list holds those that are linked, each once and in order, and all of them are registered. -/
structure Listing (s : Survey) (us : List Callable) (linked : Callable → Prop) : Prop where
  members : ∀ v : Callable, v.isIn us = true ↔ linked v
  once : (us.map (·.identity)).Nodup
  sorted : us.Pairwise fun a b => a.sortKey ≤ b.sortKey
  registered : ∀ v ∈ us, ∃ w ∈ s.register.units, w.identity = v.identity ∧ w.name = v.name ∧ w.sortKey = v.sortKey

theorem isIn_sort (v : Callable) (us : List Callable) : v.isIn (Callable.sort us) = v.isIn us := by
  rw [Bool.eq_iff_iff, isIn_iff, isIn_iff]
  simp only [(perm_sort us).mem_iff]

theorem listing_sort {s : Survey} {us : List Callable} {linked : Callable → Prop}
    (members : ∀ v : Callable, v.isIn us = true ↔ linked v) (once : Distinct us)
    (registered : ∀ v ∈ us, ∃ w ∈ s.register.units, w.identity = v.identity ∧ w.name = v.name ∧ w.sortKey = v.sortKey) :
    Listing s (Callable.sort us) linked where
  members v := by rw [isIn_sort, members]
  once := ((perm_sort us).map _).nodup_iff.2 once
  sorted := (stablySorted_sort us).rising
  registered v hv := registered v ((perm_sort us).mem_iff.1 hv)

theorem linksUnder_eq (heading : String) (us : List Callable) :
    linksUnder heading us = linkLines heading (Callable.sort us) := by
  unfold linksUnder
  cases us with
  | nil => simp [Callable.sort, linkLines]
  | cons u us =>
    have some : Callable.sort (u :: us) ≠ [] := by
      intro none
      have := (perm_sort (u :: us)).length_eq
      simp [none] at this
    cases sorted : Callable.sort (u :: us) with
    | nil => exact absurd sorted some
    | cons v vs =>
      simp [linkLines, link, ← String.append_assoc]

theorem sectionLinks_eq_linkLines (u : Callable) (g : CallGraph) : sectionLinks u g =
    linkLines callsHeading (Callable.sort (g.callees u)) ++ linkLines calledByHeading (Callable.sort (g.callers u)) := by
  rw [sectionLinks, linksUnder_eq, linksUnder_eq]

theorem sectionLinks_eq (s : Survey) (u : Callable) :
    sectionLinks u s.graph = linkLines callsHeading (callsOf s u) ++ linkLines calledByHeading (callersOf s u) :=
  sectionLinks_eq_linkLines u s.graph

theorem mem_linkLines_iff {line heading : String} {us : List Callable} :
    line ∈ linkLines heading us ↔
      us ≠ [] ∧ (line = heading ∨ (∃ v ∈ us, "- [[" ++ v.name ++ "]]" = line) ∨ line = "") := by
  cases us with
  | nil => simp [linkLines]
  | cons u us =>
    rw [linkLines, List.cons_append, List.mem_cons, List.mem_append, List.mem_map, List.mem_singleton]
    simp

/-- A heading is no link. -/
theorem link_ne_heading (name : String) :
    "- [[" ++ name ++ "]]" ≠ callsHeading ∧ "- [[" ++ name ++ "]]" ≠ calledByHeading := by
  have first : ∀ line : String, "- [[" ++ name ++ "]]" = line → line.toList.head? = some '-' := by
    rintro _ rfl
    simp
  constructor
  · intro h
    exact absurd (first _ h) (by decide)
  · intro h
    exact absurd (first _ h) (by decide)

/-- **A heading stands exactly over a list that is not empty.** -/
theorem headings_iff (s : Survey) (u : Callable) :
    (callsHeading ∈ sectionLinks u s.graph ↔ callsOf s u ≠ []) ∧
      (calledByHeading ∈ sectionLinks u s.graph ↔ callersOf s u ≠ []) := by
  have other : callsHeading ≠ calledByHeading ∧ callsHeading ≠ "" ∧ calledByHeading ≠ "" := by decide
  rw [sectionLinks_eq, List.mem_append, List.mem_append, mem_linkLines_iff, mem_linkLines_iff, mem_linkLines_iff,
    mem_linkLines_iff]
  have noCalls : ∀ us : List Callable, ¬ ∃ v ∈ us, "- [[" ++ v.name ++ "]]" = callsHeading :=
    fun us ⟨v, _, e⟩ => (link_ne_heading v.name).1 e
  have noCallers : ∀ us : List Callable, ¬ ∃ v ∈ us, "- [[" ++ v.name ++ "]]" = calledByHeading :=
    fun us ⟨v, _, e⟩ => (link_ne_heading v.name).2 e
  constructor
  · simp [noCalls, other.1, other.2.1]
  · simp [noCallers, Ne.symm other.1, other.2.2]

/-! ## Every registered declaration has a section -/

theorem exists_join {texts : List String} {text : String} (mem : text ∈ texts) :
    ∃ before after, String.join texts = before ++ text ++ after := by
  obtain ⟨front, back, rfl⟩ := List.append_of_mem mem
  exact ⟨String.join front, String.join back, by rw [String.join_append, String.join_cons, String.append_assoc]⟩

theorem shown_in_fileNotes (r : CodeBase) {s : Survey} {u : Callable} (mem : u ∈ s.register.units) :
    Shown (fileNotes r s) (surveySection r s u) := by
  have path : u.path ∈ s.paths := by
    rw [Survey.paths, List.mem_mergeSort, List.mem_eraseDups]
    exact List.mem_map_of_mem mem
  let units := Callable.sort (s.register.units.filter (·.path == u.path))
  have inFile : u ∈ units := (perm_sort _).mem_iff.2 (List.mem_filter.2 ⟨mem, by simp⟩)
  obtain ⟨before, after, e⟩ := exists_join (List.mem_map_of_mem (f := surveySection r s) inFile)
  refine ⟨ofFile u.path (units.map (surveySection r s)), ?_, textOf (openingLines "file" ++
    ["# " ++ Path.base u.path, ""]) ++ before, after, ?_⟩
  · exact List.mem_map.2 ⟨(u.path, units), List.mem_map.2 ⟨u.path, path, rfl⟩, rfl⟩
  · rw [ofFile, e, String.append_assoc, String.append_assoc, String.append_assoc]

theorem shown_in_unitNotes (current : String) (r : CodeBase) {s : Survey} {u : Callable}
    (mem : u ∈ s.register.units) : Shown (unitNotes current r s) (surveySection r s u) := by
  have listed : u ∈ unitsByNote s := List.mem_mergeSort.2 mem
  have text : ∃ before, (ofUnit u (surveySection r s u) (shownPath current s u)).text = before ++ surveySection r s u :=
    ⟨_, rfl⟩
  obtain ⟨before, e⟩ := text
  exact ⟨_, List.mem_map.2 ⟨u, listed, rfl⟩, before, "", by rw [e, String.append_empty]⟩

theorem shown_in_render (current : String) (mode : Mode) (r : CodeBase) {s : Survey} {u : Callable}
    (mem : u ∈ s.register.units) : Shown (render current mode r s) (surveySection r s u) := by
  cases mode with
  | perFile => exact shown_in_fileNotes r mem
  | perUnit => exact shown_in_unitNotes current r mem

/-- A section opens with the link to its declaration. -/
theorem surveySection_opening (r : CodeBase) (s : Survey) (u : Callable) :
    ∃ rest, surveySection r s u = "\n#### [[" ++ u.name ++ "]]\n" ++ rest := by
  have opening : "\n#### [[" = "\n" ++ ("#### " ++ "[[") := by decide
  have closing : "]]\n" = "]]" ++ "\n" := by decide
  unfold surveySection sectionText sectionHead textOf link
  simp only [List.cons_append, List.nil_append, String.intercalate_cons_cons, opening, closing, String.append_assoc,
    String.empty_append, String.append_right_inj, exists_eq']

theorem surveySection_lines (r : CodeBase) (s : Survey) (u : Callable) :
    ∃ block language, surveySection r s u = textOf (sectionHead u block language ++
      linkLines callsHeading (callsOf s u) ++ linkLines calledByHeading (callersOf s u)) := by
  refine ⟨Documentation.extract (r.documentation u), ((s.register.document? u).map r.language).getD "", ?_⟩
  rw [List.append_assoc, ← sectionLinks_eq]
  rfl

/-! ## Both ways -/

/-- The notes of a survey list the calls of its graph from both ends, and every link leads to a section. -/
structure Consistent (r : CodeBase) (s : Survey) (notes : List Note) : Prop where
  sections : ∀ u ∈ s.register.units, Shown notes (surveySection r s u)
  /-- The lists of links are the last lines of a section. -/
  lines : ∀ u ∈ s.register.units, ∃ block language, surveySection r s u = textOf (sectionHead u block language ++
    linkLines callsHeading (callsOf s u) ++ linkLines calledByHeading (callersOf s u))
  headings : ∀ u ∈ s.register.units, (callsHeading ∈ sectionLinks u s.graph ↔ callsOf s u ≠ []) ∧
    (calledByHeading ∈ sectionLinks u s.graph ↔ callersOf s u ≠ [])
  calls : ∀ u ∈ s.register.units,
    Listing s (callsOf s u) fun v => Linked s.graph.calls u.identity v.identity
  callers : ∀ u ∈ s.register.units,
    Listing s (callersOf s u) fun v => Linked s.graph.calls v.identity u.identity
  bothWays : ∀ u ∈ s.register.units, ∀ v ∈ s.register.units,
    v.isIn (callsOf s u) = true ↔ u.isIn (callersOf s v) = true
  /-- What a link names has a section of that name. -/
  links : ∀ u ∈ s.register.units, ∀ v ∈ callsOf s u ++ callersOf s u, ∃ w ∈ s.register.units, w.name = v.name ∧
    Shown notes (surveySection r s w) ∧ ∃ rest, surveySection r s w = "\n#### [[" ++ v.name ++ "]]\n" ++ rest

theorem listing_callsOf {r : CodeBase} {s : Survey} (h : s.Tells r) (agree : r.KeysAgree) (u : Callable) :
    Listing s (callsOf s u) fun v => Linked s.graph.calls u.identity v.identity := by
  refine listing_sort (fun v => ?_) (h.shows.distinct_callees u) (fun v hv => ?_)
  · rw [h.shows.isIn_callees, h.shows.linked_calls]
  · obtain ⟨call, given, rfl⟩ := h.shows.callees_given hv
    obtain ⟨-, has, mentioned⟩ := Survey.Tells.call_registered given
    exact h.registered_form agree has mentioned

theorem listing_callersOf {r : CodeBase} {s : Survey} (h : s.Tells r) (agree : r.KeysAgree) (u : Callable) :
    Listing s (callersOf s u) fun v => Linked s.graph.calls v.identity u.identity := by
  refine listing_sort (fun v => ?_) (h.shows.distinct_callers u) (fun v hv => ?_)
  · rw [h.shows.isIn_callers, h.shows.linked_calls]
  · obtain ⟨call, given, rfl⟩ := h.shows.callers_given hv
    obtain ⟨⟨has, mentioned⟩, -⟩ := Survey.Tells.call_registered given
    exact h.registered_form agree has mentioned

/-- **The notes are consistent**, in both modes. -/
theorem links_consistent {r : CodeBase} (only : r.OnlyGaps) (agree : r.KeysAgree) :
    ∃ s, Survey.ofCodeBase r = .ok s ∧ ∀ current mode, Consistent r s (render current mode r s) := by
  obtain ⟨s, run⟩ := Survey.exists_ofCodeBase_iff.2 only
  have h := Survey.tells_of_eq_ok run
  refine ⟨s, run, fun current mode => ?_⟩
  constructor
  case sections => exact fun u hu => shown_in_render current mode r hu
  case lines => exact fun u _ => surveySection_lines r s u
  case headings => exact fun u _ => headings_iff s u
  case calls => exact fun u _ => listing_callsOf h agree u
  case callers => exact fun u _ => listing_callersOf h agree u
  case bothWays =>
    intro u _ v _
    rw [(listing_callsOf h agree u).members, (listing_callersOf h agree v).members]
  case links =>
    intro u _ v hv
    have registered : ∃ w ∈ s.register.units, w.identity = v.identity ∧ w.name = v.name ∧ w.sortKey = v.sortKey := by
      rcases List.mem_append.1 hv with hv | hv
      · exact (listing_callsOf h agree u).registered v hv
      · exact (listing_callersOf h agree u).registered v hv
    obtain ⟨w, hw, -, name, -⟩ := registered
    refine ⟨w, hw, name, shown_in_render current mode r hw, ?_⟩
    rw [← name]
    exact surveySection_opening r s w

theorem links_consistent_sample :
    (Survey.Sample.codeBase [Survey.Sample.unit "f" 1]).OnlyGaps ∧
      (Survey.Sample.codeBase [Survey.Sample.unit "f" 1]).KeysAgree ∧
      ∃ s, Survey.ofCodeBase (Survey.Sample.codeBase [Survey.Sample.unit "f" 1]) = .ok s ∧
        ∀ current mode, Consistent (Survey.Sample.codeBase [Survey.Sample.unit "f" 1]) s
          (render current mode (Survey.Sample.codeBase [Survey.Sample.unit "f" 1]) s) :=
  ⟨by decide, by decide, links_consistent (by decide) (by decide)⟩

end Note

end CallAtlas
