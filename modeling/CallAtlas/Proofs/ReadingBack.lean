import CallAtlas.Proofs.Enumeration
import CallAtlas.Proofs.Finding

/-!
# Reading the links of a section

What a section says about calls can be read back from its text. Lines without line ends are read back from a text of them,
whatever stands before; and the links of either kind are what follows their heading up to the next empty line. So the text
of a section shows the sorted names of the callees and of the callers, and nothing else about the graph.
-/

namespace CallAtlas.Note

open Callable CallGraph

/-! ## Lines -/

/-- The lines of a text are those of its parts. -/
theorem splitOn_textOf {lines : List String} (some : lines ≠ []) : Text.splitOn '\n' (textOf lines).toList =
    (lines.flatMap fun line => Text.splitOn '\n' line.toList) ++ [[]] := by
  induction lines with
  | nil => exact absurd rfl some
  | cons line lines ih =>
    cases lines with
    | nil =>
      have text : (textOf [line]).toList = line.toList ++ '\n' :: [] := by simp [textOf]
      rw [text, Text.splitOn_append, List.flatMap_singleton]
      rfl
    | cons next lines =>
      have text : (textOf (line :: next :: lines)).toList = line.toList ++ '\n' :: (textOf (next :: lines)).toList := by
        simp [textOf, String.intercalate_cons_cons]
      rw [text, Text.splitOn_append, ih (List.cons_ne_nil _ _)]
      simp only [List.flatMap_cons, List.append_assoc]

/-- Behind the same lines, lines without line ends can be read back. -/
theorem textOf_append_inj {front lines others : List String} (some : front ≠ [])
    (whole : ∀ line ∈ lines ++ others, '\n' ∉ line.toList) :
    textOf (front ++ lines) = textOf (front ++ others) ↔ lines = others := by
  have single : ∀ ls : List String, (∀ line ∈ ls, '\n' ∉ line.toList) →
      (ls.flatMap fun line => Text.splitOn '\n' line.toList) = ls.map String.toList := by
    intro ls whole
    induction ls with
    | nil => rfl
    | cons line ls ih =>
      obtain ⟨first, rest⟩ := List.forall_mem_cons.1 whole
      rw [List.flatMap_cons, Text.splitOn_of_not_mem first, ih rest]
      rfl
  constructor
  · intro same
    have split := congrArg (fun text : String => Text.splitOn '\n' text.toList) same
    rw [splitOn_textOf (by simp [some]), splitOn_textOf (by simp [some]), List.append_left_inj, List.flatMap_append,
      List.flatMap_append, List.append_right_inj, single lines fun line mem => whole line (List.mem_append_left _ mem),
      single others fun line mem => whole line (List.mem_append_right _ mem)] at split
    exact List.map_injective_iff.2 (fun _ _ => String.toList_injective) split
  · rintro rfl
    rfl

/-! ## Links -/

/-- The line of a link. -/
def linkLine (name : String) : String := "- [[" ++ name ++ "]]"

/-- The lines under a heading, up to the next empty line. -/
def linesUnder (heading : String) (lines : List String) : List String :=
  (lines.dropWhile (· != heading)).tail.takeWhile (· != "")

theorem linkLine_injective : Function.Injective linkLine := by
  intro name other same
  rwa [linkLine, linkLine, String.append_left_inj, String.append_right_inj] at same

theorem linkLine_ne_empty (name : String) : linkLine name ≠ "" := by
  intro empty
  have chars := congrArg String.toList empty
  simp [linkLine] at chars

theorem linesUnder_linkLines {heading : String} {front back : List String} (before : heading ∉ front)
    (after : heading ∉ back) (us : List Callable) :
    linesUnder heading (front ++ linkLines heading us ++ back) = (us.map (·.name)).map linkLine := by
  have skip : (front ++ linkLines heading us ++ back).dropWhile (· != heading) =
      (linkLines heading us ++ back).dropWhile (· != heading) := by
    rw [List.append_assoc, List.dropWhile_append_of_pos]
    intro line mem
    simpa using fun same : line = heading => before (same ▸ mem)
  have none : back.dropWhile (· != heading) = [] := by
    refine List.dropWhile_eq_nil_iff.2 fun line mem => ?_
    simpa using fun same : line = heading => after (same ▸ mem)
  rw [linesUnder, skip]
  cases us with
  | nil =>
    rw [linkLines, List.nil_append, none]
    rfl
  | cons u us =>
    have items : ∀ line ∈ ((u :: us).map (·.name)).map linkLine, (line != "") = true := by
      intro line mem
      obtain ⟨name, -, rfl⟩ := List.mem_map.1 mem
      simpa using linkLine_ne_empty name
    have shown : linkLines heading (u :: us) ++ back =
        heading :: (((u :: us).map (·.name)).map linkLine ++ "" :: back) := by
      simp [linkLines, linkLine]
    rw [shown, List.dropWhile_cons_of_neg (by simp), List.tail_cons, List.takeWhile_append_of_pos items,
      List.takeWhile_cons_of_neg (by simp), List.append_nil]

/-- The names of some declarations in order, each as often as it is the name of one. -/
def namesInOrder (us : List Callable) : List String := (us.map (·.name)).mergeSort

theorem map_name_sort (us : List Callable) : (sort us).map (·.name) = namesInOrder us := by
  have rising : ((sort us).map (·.name)).Pairwise (· ≤ ·) := by
    refine List.pairwise_map.2 ((stablySorted_sort us).rising.imp fun {a b} le => ?_)
    rcases Prod.Lex.toLex_le_toLex.1 le with less | ⟨same, -⟩
    · exact less.le
    · exact le_of_eq same
  refine List.Perm.eq_of_pairwise (fun a b _ _ => le_antisymm) rising (List.pairwise_mergeSort' (· ≤ ·) _) ?_
  exact ((perm_sort us).map _).trans (List.mergeSort_perm _ _).symm

section Sections

variable {u : Callable} {g h : CallGraph}

/-- The links of a section give back the names. -/
theorem linesUnder_sectionLinks (u : Callable) (g : CallGraph) :
    linesUnder callsHeading (sectionLinks u g) = (namesInOrder (g.callees u)).map linkLine ∧
      linesUnder calledByHeading (sectionLinks u g) = (namesInOrder (g.callers u)).map linkLine := by
  have other : callsHeading ≠ calledByHeading ∧ callsHeading ≠ "" ∧ calledByHeading ≠ "" := by decide
  have before : ∀ us, calledByHeading ∉ linkLines callsHeading us := by
    intro us
    simp [mem_linkLines_iff, Ne.symm other.1, other.2.2, link_ne_heading]
  have after : ∀ us, callsHeading ∉ linkLines calledByHeading us := by
    intro us
    simp [mem_linkLines_iff, other.1, other.2.1, link_ne_heading]
  rw [sectionLinks_eq_linkLines, ← map_name_sort, ← map_name_sort]
  constructor
  · exact linesUnder_linkLines List.not_mem_nil (after _) _
  · have read := linesUnder_linkLines (before (sort (g.callees u))) List.not_mem_nil (sort (g.callers u))
    rwa [List.append_nil] at read

theorem sectionLinks_inj : sectionLinks u g = sectionLinks u h ↔
    namesInOrder (g.callees u) = namesInOrder (h.callees u) ∧ namesInOrder (g.callers u) = namesInOrder (h.callers u) := by
  constructor
  · intro same
    obtain ⟨calls, callers⟩ := linesUnder_sectionLinks u g
    rw [same] at calls callers
    obtain ⟨calls', callers'⟩ := linesUnder_sectionLinks u h
    exact ⟨List.map_injective_iff.2 linkLine_injective (calls.symm.trans calls'),
      List.map_injective_iff.2 linkLine_injective (callers.symm.trans callers')⟩
  · rw [← map_name_sort, ← map_name_sort, ← map_name_sort, ← map_name_sort]
    rintro ⟨calls, callers⟩
    rw [sectionLinks_eq_linkLines, sectionLinks_eq_linkLines, linkLines_congr calls, linkLines_congr callers]

/-- No name that the section of a declaration shows has a line end in it. -/
def OneLined (u : Callable) (g : CallGraph) : Prop := ∀ v ∈ g.callees u ++ g.callers u, '\n' ∉ v.name.toList

instance (u : Callable) (g : CallGraph) : Decidable (OneLined u g) := inferInstanceAs (Decidable (∀ v ∈ _, _))

theorem OneLined.lines (one : OneLined u g) : ∀ line ∈ sectionLinks u g, '\n' ∉ line.toList := by
  have items : ∀ heading us, '\n' ∉ heading.toList → (∀ v ∈ us, '\n' ∉ v.name.toList) →
      ∀ line ∈ linkLines heading us, '\n' ∉ line.toList := by
    intro heading us first names line mem
    rcases (mem_linkLines_iff.1 mem).2 with rfl | ⟨v, listed, rfl⟩ | rfl
    · exact first
    · simpa using names v listed
    · exact List.not_mem_nil
  rw [sectionLinks_eq_linkLines]
  intro line mem
  rcases List.mem_append.1 mem with mem | mem
  · refine items _ _ (by decide) (fun v listed => one v ?_) line mem
    exact List.mem_append_left _ ((perm_sort _).mem_iff.1 listed)
  · refine items _ _ (by decide) (fun v listed => one v ?_) line mem
    exact List.mem_append_right _ ((perm_sort _).mem_iff.1 listed)

/-- **The text of a section shows the sorted names and nothing else of the graph.** -/
theorem sectionText_inj (one : OneLined u g) (one' : OneLined u h) (block : Documentation.Block) (language : String) :
    sectionText u g block language = sectionText u h block language ↔
      namesInOrder (g.callees u) = namesInOrder (h.callees u) ∧ namesInOrder (g.callers u) = namesInOrder (h.callers u) := by
  rw [← sectionLinks_inj, sectionText, sectionText]
  refine textOf_append_inj (by simp [sectionHead]) fun line mem => ?_
  rcases List.mem_append.1 mem with mem | mem
  · exact one.lines line mem
  · exact one'.lines line mem

end Sections

/-! ## The order of the calls -/

/-- Callees that are one declaration have one name, and so have callers. -/
def NamedAlike (calls : List Call) : Prop := ∀ c ∈ calls, ∀ d ∈ calls,
  (c.1.identity = d.1.identity → c.1.name = d.1.name) ∧ (c.2.identity = d.2.identity → c.2.name = d.2.name)

instance (calls : List Call) : Decidable (NamedAlike calls) :=
  inferInstanceAs (Decidable (∀ c ∈ calls, ∀ d ∈ calls, _ ∧ _))

theorem namesInOrder_of_perm {us vs : List Callable} (perm : (us.map (·.name)).Perm (vs.map (·.name))) :
    namesInOrder us = namesInOrder vs := Files.Tree.mergeSort_eq_of_perm perm

theorem linked_of_perm {calls others : List Call} (perm : calls.Perm others) {i j : CallableId} :
    Linked calls i j ↔ Linked others i j := by
  simp only [Linked, perm.mem_iff]

theorem sectionLinks_of_perm {calls others : List Call} (perm : calls.Perm others) (alike : NamedAlike calls)
    (u : Callable) : sectionLinks u (ofCalls calls) = sectionLinks u (ofCalls others) := by
  have shows := shows_ofCalls calls
  have shows' := shows_ofCalls others
  refine sectionLinks_inj.2 ⟨namesInOrder_of_perm ?_, namesInOrder_of_perm ?_⟩
  · refine perm_map_key (shows.distinct_callees u) (shows'.distinct_callees u) (fun w => ?_) fun a ha b hb same => ?_
    · rw [shows.isIn_callees, shows'.isIn_callees, linked_of_perm perm]
    · obtain ⟨c, given, rfl⟩ := shows.callees_given ha
      obtain ⟨d, given', rfl⟩ := shows'.callees_given hb
      exact (alike c given d (perm.mem_iff.2 given')).2 same
  · refine perm_map_key (shows.distinct_callers u) (shows'.distinct_callers u) (fun w => ?_) fun a ha b hb same => ?_
    · rw [shows.isIn_callers, shows'.isIn_callers, linked_of_perm perm]
    · obtain ⟨c, given, rfl⟩ := shows.callers_given ha
      obtain ⟨d, given', rfl⟩ := shows'.callers_given hb
      exact (alike c given d (perm.mem_iff.2 given')).1 same

/-- **Links can be read back**: two graphs give the section of a declaration one text exactly if the sorted names of its
callees and those of its callers are the same. So the order of the callees and callers does not matter, nor does the order
of the calls, if what is one declaration has one name. -/
theorem links_read_back (u : Callable) (block : Documentation.Block) (language : String) :
    (∀ g h, OneLined u g → OneLined u h → (sectionText u g block language = sectionText u h block language ↔
      namesInOrder (g.callees u) = namesInOrder (h.callees u) ∧
        namesInOrder (g.callers u) = namesInOrder (h.callers u))) ∧
    (∀ g h : CallGraph, (g.callees u).Perm (h.callees u) → (g.callers u).Perm (h.callers u) →
      sectionText u g block language = sectionText u h block language) ∧
    ∀ calls others, calls.Perm others → NamedAlike calls →
      sectionText u (ofCalls calls) block language = sectionText u (ofCalls others) block language := by
  refine ⟨fun g h one one' => sectionText_inj one one' block language, ?_, ?_⟩
  · intro g h callees callers
    have names := And.intro (namesInOrder_of_perm (callees.map _)) (namesInOrder_of_perm (callers.map _))
    rw [sectionText, sectionText, sectionLinks_inj.2 names]
  · intro calls others perm alike
    rw [sectionText, sectionText, sectionLinks_of_perm perm alike u]

namespace Sample

/-- A declaration that may be known by more than one name. -/
def known (qualname name : String) : Callable := { identity := { assembly := "App", qualname }, name }

end Sample

open Sample in
theorem links_read_back_sample :
    sectionText (known "f" "f") (ofCalls [(known "f" "f", known "g" "g")]) {} "" ≠
        sectionText (known "f" "f") (ofCalls [(known "f" "f", known "h" "h")]) {} "" ∧
      sectionText (known "f" "f") (ofCalls [(known "f" "f", known "g" "g"), (known "f" "f", known "h" "h")]) {} "" =
        sectionText (known "f" "f") (ofCalls [(known "f" "f", known "h" "h"), (known "f" "f", known "g" "g")]) {} "" := by
  obtain ⟨inj, -, order⟩ := links_read_back (known "f" "f") {} ""
  refine ⟨fun same => ?_, order _ _ (List.Perm.swap _ _ _) (by decide)⟩
  have names := (inj _ _ (by decide) (by decide)).1 same
  exact absurd names (by decide +kernel)

open Sample in
/-- Of one declaration with two names, the one that is added first is shown. -/
theorem first_name_shown :
    sectionText (known "f" "f") (ofCalls [(known "f" "f", known "g" "a"), (known "f" "f", known "g" "b")]) {} "" ≠
      sectionText (known "f" "f") (ofCalls [(known "f" "f", known "g" "b"), (known "f" "f", known "g" "a")]) {} "" := by
  decide +kernel

end CallAtlas.Note
