import CallAtlas.CallGraph
import Mathlib.Data.List.Nodup

/-!
# What a graph shows of its calls

The rows of a graph against the plain list of the calls that were put into it. `Shows rows calls` says that each row
lists exactly the callees and the callers that the calls give its declaration, each once, and that exactly the
declarations of the calls have a row. One more call keeps this (`Shows.insertCall`), so it holds of every graph that is
made of calls (`shows_ofCalls`), and all questions to the graph are answered from it.
-/

namespace CallAtlas

namespace Callable

/-- No two of the declarations are the same. -/
def Distinct (us : List Callable) : Prop := (us.map (·.identity)).Nodup

theorem isIn_of_mem {u : Callable} {us : List Callable} (h : u ∈ us) : u.isIn us = true := isIn_iff.2 ⟨u, h, rfl⟩

theorem isIn_congr {u v : Callable} (h : u.identity = v.identity) (us : List Callable) : u.isIn us = v.isIn us := by
  rw [Bool.eq_iff_iff, isIn_iff, isIn_iff, h]

theorem mem_addTo {u v : Callable} {us : List Callable} (h : v ∈ u.addTo us) : v = u ∨ v ∈ us := by
  unfold addTo at h
  split at h
  · exact Or.inr h
  · rcases List.mem_append.1 h with h | h
    · exact Or.inr h
    · exact Or.inl (List.mem_singleton.1 h)

theorem distinct_append_singleton {u : Callable} {us : List Callable} (h : Distinct us) (new : u.isIn us = false) :
    Distinct (us ++ [u]) := by
  unfold Distinct at h ⊢
  rw [List.map_append, List.map_singleton]
  refine h.append (List.nodup_singleton _) ?_
  intro i hi e
  rw [List.mem_singleton] at e
  obtain ⟨v, hv, rfl⟩ := List.mem_map.1 hi
  have : u.isIn us = true := isIn_iff.2 ⟨v, hv, e⟩
  rw [new] at this
  cases this

theorem Distinct.addTo {us : List Callable} (h : Distinct us) (u : Callable) : Distinct (u.addTo us) := by
  unfold Callable.addTo
  split
  · exact h
  · rename_i new
    exact distinct_append_singleton h (by simpa using new)

end Callable

open Callable

namespace CallGraph

/-- One of the calls goes from `i` to `j`. -/
def Linked (calls : List Call) (i j : CallableId) : Prop :=
  ∃ call ∈ calls, call.1.identity = i ∧ call.2.identity = j

/-- One of the calls goes from or to `i`. -/
def Touched (calls : List Call) (i : CallableId) : Prop :=
  ∃ call ∈ calls, call.1.identity = i ∨ call.2.identity = i

theorem linked_append {calls more : List Call} {i j : CallableId} :
    Linked (calls ++ more) i j ↔ Linked calls i j ∨ Linked more i j := by
  simp only [Linked, List.mem_append, or_and_right, exists_or]

theorem linked_singleton {call : Call} {i j : CallableId} :
    Linked [call] i j ↔ call.1.identity = i ∧ call.2.identity = j := by
  simp [Linked]

theorem touched_append {calls more : List Call} {i : CallableId} :
    Touched (calls ++ more) i ↔ Touched calls i ∨ Touched more i := by
  simp only [Touched, List.mem_append, or_and_right, exists_or]

theorem touched_singleton {call : Call} {i : CallableId} :
    Touched [call] i ↔ call.1.identity = i ∨ call.2.identity = i := by
  simp [Touched]

theorem Linked.touched {calls : List Call} {i j : CallableId} (h : Linked calls i j) :
    Touched calls i ∧ Touched calls j := by
  obtain ⟨call, mem, rfl, rfl⟩ := h
  exact ⟨⟨call, mem, Or.inl rfl⟩, ⟨call, mem, Or.inr rfl⟩⟩

/-- A row lists what the calls say about its declaration, each callee and each caller once. -/
structure Row.Shows (r : Row) (calls : List Call) : Prop where
  callees : ∀ v : Callable, v.isIn r.callees = true ↔ Linked calls r.unit.identity v.identity
  callers : ∀ v : Callable, v.isIn r.callers = true ↔ Linked calls v.identity r.unit.identity
  calleesOnce : Distinct r.callees
  callersOnce : Distinct r.callers
  calleesGiven : ∀ v ∈ r.callees, ∃ call ∈ calls, call.2 = v
  callersGiven : ∀ v ∈ r.callers, ∃ call ∈ calls, call.1 = v

/-- The rows are those of the declarations in the calls, and show the calls. -/
structure Shows (rows : List Row) (calls : List Call) : Prop where
  row : ∀ r ∈ rows, r.Shows calls
  once : Distinct (rows.map (·.unit))
  touched : ∀ i, (∃ r ∈ rows, r.unit.identity = i) ↔ Touched calls i
  given : ∀ r ∈ rows, ∃ call ∈ calls, call.1 = r.unit ∨ call.2 = r.unit

/-! ## One more call -/

/-- A row after one more call. -/
def Row.withCall (caller callee : Callable) (r : Row) : Row :=
  { unit := r.unit
    callees := if r.unit.sameAs caller then callee.addTo r.callees else r.callees
    callers := if r.unit.sameAs callee then caller.addTo r.callers else r.callers }

theorem insertCall_eq (rows : List Row) (caller callee : Callable) :
    insertCall rows caller callee = (touch callee (touch caller rows)).map (Row.withCall caller callee) := by
  unfold insertCall updateRow
  rw [List.map_map]
  apply List.map_congr_left
  intro r _
  by_cases hc : r.unit.sameAs caller = true <;> by_cases hd : r.unit.sameAs callee = true <;>
    simp [Row.withCall, Row.addCallee, Row.addCaller, hc, hd]

/-- A list of a row grows by `u` exactly if the row is that of `w`. -/
theorem isIn_addTo_if {r w u v : Callable} {us : List Callable} :
    v.isIn (if r.sameAs w then u.addTo us else us) = true ↔
      v.isIn us = true ∨ (w.identity = r.identity ∧ u.identity = v.identity) := by
  split
  · rename_i h
    have e := sameAs_iff.1 h
    rw [isIn_addTo, or_comm]
    exact or_congr_right ⟨fun i => ⟨e.symm, i.symm⟩, fun i => i.2.symm⟩
  · rename_i h
    rw [sameAs_iff] at h
    simp [Ne.symm h]

theorem distinct_addTo_if {us : List Callable} (h : Distinct us) (r w u : Callable) :
    Distinct (if r.sameAs w then u.addTo us else us) := by
  split
  · exact h.addTo u
  · exact h

theorem mem_addTo_if {r w u v : Callable} {us : List Callable} (h : v ∈ if r.sameAs w then u.addTo us else us) :
    v = u ∨ v ∈ us := by
  split at h
  · exact mem_addTo h
  · exact Or.inr h

theorem Row.Shows.withCall {r : Row} {calls : List Call} (h : r.Shows calls) (caller callee : Callable) :
    (r.withCall caller callee).Shows (calls ++ [(caller, callee)]) where
  callees v := by
    change _ ↔ Linked _ r.unit.identity v.identity
    rw [linked_append, linked_singleton, ← h.callees]
    exact isIn_addTo_if
  callers v := by
    change _ ↔ Linked _ v.identity r.unit.identity
    rw [linked_append, linked_singleton, ← h.callers, and_comm]
    exact isIn_addTo_if
  calleesOnce := distinct_addTo_if h.calleesOnce _ _ _
  callersOnce := distinct_addTo_if h.callersOnce _ _ _
  calleesGiven v hv := by
    rcases mem_addTo_if hv with rfl | hv
    · exact ⟨(caller, v), by simp, rfl⟩
    · obtain ⟨call, mem, e⟩ := h.calleesGiven v hv
      exact ⟨call, List.mem_append_left _ mem, e⟩
  callersGiven v hv := by
    rcases mem_addTo_if hv with rfl | hv
    · exact ⟨(v, callee), by simp, rfl⟩
    · obtain ⟨call, mem, e⟩ := h.callersGiven v hv
      exact ⟨call, List.mem_append_left _ mem, e⟩

/-- A declaration outside of all calls has an empty row. -/
theorem Row.shows_empty {u : Callable} {calls : List Call} (new : ¬ Touched calls u.identity) :
    Row.Shows { unit := u } calls where
  callees v := by
    have : ¬ Linked calls u.identity v.identity := fun h => new h.touched.1
    simpa [isIn] using this
  callers v := by
    have : ¬ Linked calls v.identity u.identity := fun h => new h.touched.2
    simpa [isIn] using this
  calleesOnce := List.nodup_nil
  callersOnce := List.nodup_nil
  calleesGiven v hv := by cases hv
  callersGiven v hv := by cases hv

theorem any_sameAs_iff {rows : List Row} {u : Callable} :
    (rows.any (·.unit.sameAs u)) = true ↔ ∃ r ∈ rows, r.unit.identity = u.identity := by
  simp [sameAs_iff]

theorem mem_touch {u : Callable} {rows : List Row} {r : Row} (h : r ∈ touch u rows) :
    r ∈ rows ∨ (r = { unit := u } ∧ ¬ ∃ r ∈ rows, r.unit.identity = u.identity) := by
  unfold touch at h
  split at h
  · exact Or.inl h
  · rename_i new
    rw [any_sameAs_iff] at new
    rcases List.mem_append.1 h with h | h
    · exact Or.inl h
    · exact Or.inr ⟨List.mem_singleton.1 h, new⟩

theorem exists_touch {u : Callable} {rows : List Row} {i : CallableId} :
    (∃ r ∈ touch u rows, r.unit.identity = i) ↔ u.identity = i ∨ ∃ r ∈ rows, r.unit.identity = i := by
  unfold touch
  split
  · rename_i old
    rw [any_sameAs_iff] at old
    constructor
    · exact Or.inr
    · rintro (rfl | h)
      · exact old
      · exact h
  · simp only [List.mem_append, List.mem_singleton, or_and_right, exists_or, exists_eq_left]
    exact or_comm

theorem distinct_touch {rows : List Row} (h : Distinct (rows.map (·.unit))) (u : Callable) :
    Distinct ((touch u rows).map (·.unit)) := by
  unfold touch
  split
  · exact h
  · rename_i new
    rw [List.map_append, List.map_singleton]
    refine distinct_append_singleton h ?_
    simpa [isIn] using new

/-- **One more call** is shown by the rows after it. -/
theorem Shows.insertCall {rows : List Row} {calls : List Call} (h : Shows rows calls) (caller callee : Callable) :
    Shows (insertCall rows caller callee) (calls ++ [(caller, callee)]) := by
  -- a row before the call is an old one, or the empty one of the caller or the callee
  have before : ∀ r ∈ touch callee (touch caller rows),
      r ∈ rows ∨ (r.Shows calls ∧ (r.unit = caller ∨ r.unit = callee)) := by
    intro r hr
    rcases mem_touch hr with hr | ⟨rfl, new⟩
    · rcases mem_touch hr with hr | ⟨rfl, new⟩
      · exact Or.inl hr
      · rw [h.touched] at new
        exact Or.inr ⟨Row.shows_empty new, Or.inl rfl⟩
    · rw [exists_touch, not_or, h.touched] at new
      exact Or.inr ⟨Row.shows_empty new.2, Or.inr rfl⟩
  have units : ((touch callee (touch caller rows)).map (Row.withCall caller callee)).map (·.unit) =
      (touch callee (touch caller rows)).map (·.unit) := by
    rw [List.map_map]
    rfl
  rw [insertCall_eq]
  constructor
  case row =>
    intro _ mem
    obtain ⟨r, hr, rfl⟩ := List.mem_map.1 mem
    rcases before r hr with old | ⟨shows, -⟩
    · exact (h.row r old).withCall caller callee
    · exact shows.withCall caller callee
  case once =>
    rw [units]
    exact distinct_touch (distinct_touch h.once caller) callee
  case touched =>
    intro i
    rw [touched_append, touched_singleton, ← h.touched]
    have same : (∃ r ∈ (touch callee (touch caller rows)).map (Row.withCall caller callee), r.unit.identity = i) ↔
        ∃ r ∈ touch callee (touch caller rows), r.unit.identity = i := by
      simp only [List.mem_map, exists_exists_and_eq_and]
      rfl
    rw [same, exists_touch, exists_touch, ← or_assoc, or_comm, or_comm (a := callee.identity = i)]
  case given =>
    intro _ mem
    obtain ⟨r, hr, rfl⟩ := List.mem_map.1 mem
    rcases before r hr with old | ⟨-, rfl | rfl⟩
    · obtain ⟨call, mem, e⟩ := h.given r old
      exact ⟨call, List.mem_append_left _ mem, e⟩
    · exact ⟨(r.unit, callee), by simp, Or.inl rfl⟩
    · exact ⟨(caller, r.unit), by simp, Or.inr rfl⟩

theorem shows_nil : Shows [] [] := ⟨by simp, List.nodup_nil, by simp [Touched], by simp⟩

theorem Shows.foldl {rows : List Row} {calls : List Call} (h : Shows rows calls) (more : List Call) :
    Shows (more.foldl (fun rows call => CallGraph.insertCall rows call.1 call.2) rows) (calls ++ more) := by
  induction more generalizing rows calls with
  | nil => simpa using h
  | cons call more ih =>
    have := ih (h.insertCall call.1 call.2)
    rwa [List.append_assoc] at this

/-- The graph of some calls shows them. -/
theorem shows_ofCalls (calls : List Call) : Shows (ofCalls calls).rows calls := shows_nil.foldl calls

/-! ## Questions to a graph -/

section Questions

variable {g : CallGraph} {calls : List Call}

theorem Shows.row?_iff (h : Shows g.rows calls) {u : Callable} {r : Row} :
    g.row? u = some r ↔ r ∈ g.rows ∧ r.unit.identity = u.identity := by
  constructor
  · intro found
    exact ⟨List.mem_of_find?_eq_some found, sameAs_iff.1 (by simpa using List.find?_some found)⟩
  · rintro ⟨mem, e⟩
    obtain ⟨r', found⟩ : ∃ r', g.row? u = some r' := by
      rw [← Option.isSome_iff_exists]
      exact List.find?_isSome.2 ⟨r, mem, sameAs_iff.2 e⟩
    have mem' := List.mem_of_find?_eq_some found
    have e' : r'.unit.identity = u.identity := sameAs_iff.1 (by simpa using List.find?_some found)
    have once : (g.rows.map fun r => r.unit.identity).Nodup := by simpa [Distinct, Function.comp_def] using h.once
    rw [found, List.inj_on_of_nodup_map once mem' mem (e'.trans e.symm)]

/-- Outside of all calls there is no row, so both lists are empty. -/
theorem Shows.row?_none (h : Shows g.rows calls) {u : Callable} (none : g.row? u = none) :
    ¬ Touched calls u.identity := by
  rw [← h.touched]
  rintro ⟨r, mem, e⟩
  rw [(h.row?_iff).2 ⟨mem, e⟩] at none
  cases none

/-- The callees of a declaration are those that the calls give it. -/
theorem Shows.isIn_callees (h : Shows g.rows calls) {u v : Callable} :
    v.isIn (g.callees u) = true ↔ Linked calls u.identity v.identity := by
  unfold CallGraph.callees
  cases found : g.row? u with
  | none =>
    have : ¬ Linked calls u.identity v.identity := fun l => h.row?_none found l.touched.1
    simpa [isIn] using this
  | some r =>
    obtain ⟨mem, e⟩ := h.row?_iff.1 found
    rw [← e]
    exact (h.row r mem).callees v

/-- The callers of a declaration are those that the calls give it. -/
theorem Shows.isIn_callers (h : Shows g.rows calls) {u v : Callable} :
    v.isIn (g.callers u) = true ↔ Linked calls v.identity u.identity := by
  unfold CallGraph.callers
  cases found : g.row? u with
  | none =>
    have : ¬ Linked calls v.identity u.identity := fun l => h.row?_none found l.touched.2
    simpa [isIn] using this
  | some r =>
    obtain ⟨mem, e⟩ := h.row?_iff.1 found
    rw [← e]
    exact (h.row r mem).callers v

theorem Shows.distinct_callees (h : Shows g.rows calls) (u : Callable) : Distinct (g.callees u) := by
  unfold CallGraph.callees
  cases found : g.row? u with
  | none => exact List.nodup_nil
  | some r => exact (h.row r (h.row?_iff.1 found).1).calleesOnce

theorem Shows.distinct_callers (h : Shows g.rows calls) (u : Callable) : Distinct (g.callers u) := by
  unfold CallGraph.callers
  cases found : g.row? u with
  | none => exact List.nodup_nil
  | some r => exact (h.row r (h.row?_iff.1 found).1).callersOnce

theorem Shows.callees_given (h : Shows g.rows calls) {u v : Callable} (mem : v ∈ g.callees u) :
    ∃ call ∈ calls, call.2 = v := by
  unfold CallGraph.callees at mem
  cases found : g.row? u with
  | none => simp [found] at mem
  | some r =>
    rw [found] at mem
    exact (h.row r (h.row?_iff.1 found).1).calleesGiven v mem

theorem Shows.callers_given (h : Shows g.rows calls) {u v : Callable} (mem : v ∈ g.callers u) :
    ∃ call ∈ calls, call.1 = v := by
  unfold CallGraph.callers at mem
  cases found : g.row? u with
  | none => simp [found] at mem
  | some r =>
    rw [found] at mem
    exact (h.row r (h.row?_iff.1 found).1).callersGiven v mem

/-- The calls that a graph lists link the same declarations as those put into it. -/
theorem Shows.linked_calls (h : Shows g.rows calls) {i j : CallableId} : Linked g.calls i j ↔ Linked calls i j := by
  constructor
  · rintro ⟨call, mem, rfl, rfl⟩
    obtain ⟨r, hr, hc⟩ := List.mem_flatMap.1 mem
    obtain ⟨v, hv, rfl⟩ := List.mem_map.1 hc
    exact ((h.row r hr).callees v).1 (isIn_of_mem hv)
  · intro l
    obtain ⟨r, hr, rfl⟩ := (h.touched i).2 l.touched.1
    obtain ⟨call, -, -, rfl⟩ := id l
    obtain ⟨v, hv, e⟩ := isIn_iff.1 (((h.row r hr).callees call.2).2 l)
    exact ⟨(r.unit, v), List.mem_flatMap.2 ⟨r, hr, List.mem_map.2 ⟨v, hv, rfl⟩⟩, rfl, e⟩

end Questions

end CallGraph

end CallAtlas
