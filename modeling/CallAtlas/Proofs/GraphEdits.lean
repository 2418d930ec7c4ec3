import CallAtlas.Proofs.CallGraph
import Mathlib.Data.Finset.Card

/-!
# Graphs after any edits

A graph is made by edits: calls are added one by one or several at a time, and at some point it is frozen. Whatever the
edits are, the graph is that of the calls added before it was first frozen (`edited_eq`), and its rows are known in full
from the list of these calls (`rows_ofCalls`): a row for each declaration as it came first, with the callees and the
callers as they came first for it. So the graph answers every question as the set of pairs of identities does that the
calls make, and from the moment it is frozen it never changes.
-/

namespace CallAtlas

namespace Callable

/-- Each declaration once, as it came first. -/
def firsts (us : List Callable) : List Callable := us.eraseDupsBy sameAs

theorem firsts_cons (u : Callable) (us : List Callable) :
    firsts (u :: us) = u :: firsts (us.filter fun v => v.sameAs u = false) := List.eraseDupsBy_cons

theorem foldl_addTo (us start : List Callable) :
    us.foldl (fun found u => u.addTo found) start = start ++ firsts (us.filter fun u => !u.isIn start) := by
  induction us generalizing start with
  | nil => simp [firsts]
  | cons u us ih =>
    rw [List.foldl_cons, ih]
    cases old : u.isIn start with
    | true => simp [addTo, old]
    | false =>
      have new : u.addTo start = start ++ [u] := by simp [addTo, old]
      have keep : (fun v : Callable => !v.isIn (start ++ [u])) =
          fun v => decide (v.sameAs u = false) && !v.isIn start := by
        funext v
        cases same : v.sameAs u <;> simp [isIn, sameAs_comm u v, same]
      rw [List.filter_cons_of_pos (by simp [old]), firsts_cons, List.filter_filter, new, keep, List.append_assoc,
        List.singleton_append]

/-- One more declaration changes nothing if it is there, and comes last otherwise. -/
theorem firsts_concat (us : List Callable) (u : Callable) : firsts (us ++ [u]) = u.addTo (firsts us) := by
  have whole : ∀ us : List Callable, firsts us = us.foldl (fun found u => u.addTo found) [] := by
    intro us
    rw [foldl_addTo]
    simp [isIn]
  rw [whole, List.foldl_append, ← whole]
  rfl

theorem isIn_firsts (v : Callable) (us : List Callable) : v.isIn (firsts us) = v.isIn us := by
  induction us using List.reverseRecOn with
  | nil => rfl
  | append_singleton us u ih =>
    rw [firsts_concat, Bool.eq_iff_iff, isIn_addTo, ih]
    simp only [isIn, List.any_append, List.any_cons, List.any_nil, Bool.or_false, Bool.or_eq_true, sameAs_iff]
    rw [or_comm, eq_comm (a := v.identity)]

end Callable

open Callable

namespace CallGraph

/-! ## The rows of a graph in full -/

/-- Both ends of the calls, each caller before its callee. -/
def ends (calls : List Call) : List Callable := calls.flatMap fun call => [call.1, call.2]

/-- Those that `u` calls, in order. -/
def calleesIn (calls : List Call) (u : Callable) : List Callable := (calls.filter (·.1.sameAs u)).map (·.2)

/-- Those that call `u`, in order. -/
def callersIn (calls : List Call) (u : Callable) : List Callable := (calls.filter (·.2.sameAs u)).map (·.1)

/-- The row that the calls give to a declaration. -/
def Row.ofCalls (calls : List Call) (u : Callable) : Row :=
  { unit := u, callees := firsts (calleesIn calls u), callers := firsts (callersIn calls u) }

theorem isIn_ends {u : Callable} {calls : List Call} : u.isIn (ends calls) = true ↔ Touched calls u.identity := by
  simp only [isIn_iff, ends, Touched, List.mem_flatMap, List.mem_cons, List.not_mem_nil, or_false]
  constructor
  · rintro ⟨v, ⟨call, mem, rfl | rfl⟩, same⟩
    · exact ⟨call, mem, Or.inl same⟩
    · exact ⟨call, mem, Or.inr same⟩
  · rintro ⟨call, mem, same | same⟩
    · exact ⟨call.1, ⟨call, mem, Or.inl rfl⟩, same⟩
    · exact ⟨call.2, ⟨call, mem, Or.inr rfl⟩, same⟩

theorem calleesIn_of_untouched {u : Callable} {calls : List Call} (new : ¬ Touched calls u.identity) :
    calleesIn calls u = [] := by
  rw [calleesIn, List.map_eq_nil_iff, List.filter_eq_nil_iff]
  intro call mem same
  exact new ⟨call, mem, Or.inl (sameAs_iff.1 same)⟩

theorem callersIn_of_untouched {u : Callable} {calls : List Call} (new : ¬ Touched calls u.identity) :
    callersIn calls u = [] := by
  rw [callersIn, List.map_eq_nil_iff, List.filter_eq_nil_iff]
  intro call mem same
  exact new ⟨call, mem, Or.inr (sameAs_iff.1 same)⟩

theorem calleesIn_congr {u v : Callable} (same : u.identity = v.identity) (calls : List Call) :
    calleesIn calls u = calleesIn calls v := by
  simp only [calleesIn, sameAs, same]

theorem callersIn_congr {u v : Callable} (same : u.identity = v.identity) (calls : List Call) :
    callersIn calls u = callersIn calls v := by
  simp only [callersIn, sameAs, same]

/-- A declaration gets its row when it is first met, and that is the row of the calls so far. -/
theorem touch_ofCalls {units : List Callable} {calls : List Call} {u : Callable}
    (known : ∀ v : Callable, Touched calls v.identity → v.isIn units = true) :
    touch u (units.map (Row.ofCalls calls)) = (u.addTo units).map (Row.ofCalls calls) := by
  have any : ((units.map (Row.ofCalls calls)).any (·.unit.sameAs u)) = u.isIn units := by
    rw [List.any_map]
    rfl
  unfold touch addTo
  rw [any]
  cases old : u.isIn units with
  | true => rfl
  | false =>
    have new : ¬ Touched calls u.identity := by
      intro touched
      rw [known u touched] at old
      cases old
    have row : Row.ofCalls calls u = { unit := u } := by
      rw [Row.ofCalls, calleesIn_of_untouched new, callersIn_of_untouched new]
      rfl
    rw [if_neg (by simp), if_neg (by simp), List.map_append, List.map_singleton, row]

/-- What one more call does to the row of the calls before it. -/
theorem withCall_ofCalls (calls : List Call) (caller callee u : Callable) :
    (Row.ofCalls calls u).withCall caller callee = Row.ofCalls (calls ++ [(caller, callee)]) u := by
  have callees : calleesIn (calls ++ [(caller, callee)]) u =
      if u.sameAs caller then calleesIn calls u ++ [callee] else calleesIn calls u := by
    cases same : u.sameAs caller <;> simp [calleesIn, List.filter_append, sameAs_comm caller u, same]
  have callers : callersIn (calls ++ [(caller, callee)]) u =
      if u.sameAs callee then callersIn calls u ++ [caller] else callersIn calls u := by
    cases same : u.sameAs callee <;> simp [callersIn, List.filter_append, sameAs_comm callee u, same]
  unfold Row.withCall Row.ofCalls
  rw [callees, callers, apply_ite firsts, apply_ite firsts, firsts_concat, firsts_concat]

/-- **The rows of a graph**: one for each declaration as it came first, with what the calls say about it. -/
theorem rows_ofCalls (calls : List Call) :
    (ofCalls calls).rows = (firsts (ends calls)).map (Row.ofCalls calls) := by
  induction calls using List.reverseRecOn with
  | nil => rfl
  | append_singleton calls call ih =>
    obtain ⟨caller, callee⟩ := call
    have known : ∀ v : Callable, Touched calls v.identity → v.isIn (firsts (ends calls)) = true := by
      intro v touched
      rw [isIn_firsts, isIn_ends]
      exact touched
    have known' : ∀ v : Callable, Touched calls v.identity → v.isIn (caller.addTo (firsts (ends calls))) = true := by
      intro v touched
      exact isIn_addTo.2 (Or.inr (known v touched))
    have step : (ofCalls (calls ++ [(caller, callee)])).rows = insertCall (ofCalls calls).rows caller callee := by
      simp [ofCalls, List.foldl_append]
    have units : ends (calls ++ [(caller, callee)]) = (ends calls ++ [caller]) ++ [callee] := by
      simp [ends]
    rw [step, ih, insertCall_eq, touch_ofCalls known, touch_ofCalls known', List.map_map, units, firsts_concat,
      firsts_concat]
    exact List.map_congr_left fun u _ => withCall_ofCalls calls caller callee u

/-! ## First come, first kept -/

/-- Of equal declarations every list of the graph keeps the one that came first in it. -/
structure KeepsFirst (g : CallGraph) (calls : List Call) : Prop where
  nodes : g.rows.map (·.unit) = firsts (ends calls)
  callees : ∀ u, g.callees u = firsts (calleesIn calls u)
  callers : ∀ u, g.callers u = firsts (callersIn calls u)
  /-- The tables and the list of calls show these very declarations. -/
  forward : ∀ entry ∈ g.forward, entry.1 ∈ firsts (ends calls)
  reverse : ∀ entry ∈ g.reverse, entry.1 ∈ firsts (ends calls)
  calls : ∀ call ∈ g.calls, call.1 ∈ firsts (ends calls) ∧ call.2 ∈ firsts (calleesIn calls call.1)

/-- An entry of the table of callees is a row that has some. -/
theorem mem_forward_iff {g : CallGraph} {entry : Callable × List Callable} :
    entry ∈ g.forward ↔ ∃ r ∈ g.rows, r.callees ≠ [] ∧ (r.unit, r.callees) = entry := by
  simp [CallGraph.forward, and_assoc]

/-- An entry of the table of callers is a row that has some. -/
theorem mem_reverse_iff {g : CallGraph} {entry : Callable × List Callable} :
    entry ∈ g.reverse ↔ ∃ r ∈ g.rows, r.callers ≠ [] ∧ (r.unit, r.callers) = entry := by
  simp [CallGraph.reverse, and_assoc]

theorem row?_of_rows {g : CallGraph} {calls : List Call} (rows : g.rows = (firsts (ends calls)).map (Row.ofCalls calls))
    (u : Callable) :
    (∃ v, v.identity = u.identity ∧ g.row? u = some (Row.ofCalls calls v)) ∨
      (¬ Touched calls u.identity ∧ g.row? u = none) := by
  have found : g.row? u = ((firsts (ends calls)).find? (·.sameAs u)).map (Row.ofCalls calls) := by
    rw [row?, rows, List.find?_map]
    rfl
  rw [found]
  cases first : (firsts (ends calls)).find? (·.sameAs u) with
  | some v => exact Or.inl ⟨v, sameAs_iff.1 (by simpa using List.find?_some first), rfl⟩
  | none =>
    refine Or.inr ⟨?_, rfl⟩
    rw [← isIn_ends, ← isIn_firsts, isIn, List.any_eq_true]
    rintro ⟨v, mem, same⟩
    exact List.find?_eq_none.1 first v mem same

theorem keepsFirst_of_rows {g : CallGraph} {calls : List Call}
    (rows : g.rows = (firsts (ends calls)).map (Row.ofCalls calls)) : g.KeepsFirst calls := by
  have unit_mem : ∀ r ∈ g.rows, r.unit ∈ firsts (ends calls) := by
    rw [rows]
    intro r mem
    obtain ⟨u, hu, rfl⟩ := List.mem_map.1 mem
    exact hu
  constructor
  case nodes =>
    rw [rows, List.map_map]
    exact List.map_id _
  case callees =>
    intro u
    rw [CallGraph.callees]
    rcases row?_of_rows rows u with ⟨v, same, found⟩ | ⟨new, found⟩
    · rw [found, ← calleesIn_congr same]
      rfl
    · rw [found, calleesIn_of_untouched new]
      rfl
  case callers =>
    intro u
    rw [CallGraph.callers]
    rcases row?_of_rows rows u with ⟨v, same, found⟩ | ⟨new, found⟩
    · rw [found, ← callersIn_congr same]
      rfl
    · rw [found, callersIn_of_untouched new]
      rfl
  case forward =>
    intro entry mem
    obtain ⟨r, row, -, rfl⟩ := mem_forward_iff.1 mem
    exact unit_mem r row
  case reverse =>
    intro entry mem
    obtain ⟨r, row, -, rfl⟩ := mem_reverse_iff.1 mem
    exact unit_mem r row
  case calls =>
    intro call mem
    obtain ⟨r, row, mem⟩ := List.mem_flatMap.1 mem
    obtain ⟨v, hv, rfl⟩ := List.mem_map.1 mem
    refine ⟨unit_mem r row, ?_⟩
    rw [rows] at row
    obtain ⟨u, -, rfl⟩ := List.mem_map.1 row
    exact hv

/-! ## A set of pairs -/

/-- The identities of the two ends of a call. -/
def linkOf (call : Call) : CallableId × CallableId := (call.1.identity, call.2.identity)

/-- The pairs of identities that the calls make. -/
def links (calls : List Call) : Finset (CallableId × CallableId) := (calls.map linkOf).toFinset

theorem mem_links_iff {calls : List Call} {i j : CallableId} : (i, j) ∈ links calls ↔ Linked calls i j := by
  simp only [links, Linked, linkOf, List.mem_toFinset, List.mem_map, Prod.mk.injEq]

theorem touched_iff {calls : List Call} {i : CallableId} :
    Touched calls i ↔ ∃ link ∈ links calls, link.1 = i ∨ link.2 = i := by
  constructor
  · rintro ⟨call, mem, same⟩
    exact ⟨linkOf call, mem_links_iff.2 ⟨call, mem, rfl, rfl⟩, same⟩
  · rintro ⟨⟨a, b⟩, mem, same⟩
    obtain ⟨call, given, rfl, rfl⟩ := mem_links_iff.1 mem
    exact ⟨call, given, same⟩

/-- A table of declarations leads from `i` to `j`. -/
def Leads (table : List (Callable × List Callable)) (i j : CallableId) : Prop :=
  ∃ entry ∈ table, entry.1.identity = i ∧ ∃ v ∈ entry.2, v.identity = j

/-- The graph answers every question as a set of pairs does. -/
structure Presents (g : CallGraph) (links : Finset (CallableId × CallableId)) : Prop where
  contains : ∀ u : Callable, g.contains u = true ↔ ∃ link ∈ links, link.1 = u.identity ∨ link.2 = u.identity
  callees : ∀ u v : Callable, v.isIn (g.callees u) = true ↔ (u.identity, v.identity) ∈ links
  calleesOnce : ∀ u, ((g.callees u).map (·.identity)).Nodup
  callers : ∀ u v : Callable, v.isIn (g.callers u) = true ↔ (v.identity, u.identity) ∈ links
  callersOnce : ∀ u, ((g.callers u).map (·.identity)).Nodup
  /-- The table of callees has an entry exactly for those that call something, and the entry holds the callees. -/
  forwardKeys : ∀ i, i ∈ g.forward.map (·.1.identity) ↔ ∃ j, (i, j) ∈ links
  forwardOnce : (g.forward.map (·.1.identity)).Nodup
  forward : ∀ entry ∈ g.forward, entry.2 = g.callees entry.1
  /-- The table of callers likewise. -/
  reverseKeys : ∀ j, j ∈ g.reverse.map (·.1.identity) ↔ ∃ i, (i, j) ∈ links
  reverseOnce : (g.reverse.map (·.1.identity)).Nodup
  reverse : ∀ entry ∈ g.reverse, entry.2 = g.callers entry.1
  transpose : ∀ i j, Leads g.reverse j i ↔ Leads g.forward i j
  /-- Every pair is listed once. -/
  calls : ∀ link, link ∈ g.calls.map linkOf ↔ link ∈ links
  callsOnce : (g.calls.map linkOf).Nodup
  callCount : g.callCount = links.card

section Presents

variable {g : CallGraph} {calls : List Call}

theorem Shows.isIn_row_callees (h : Shows g.rows calls) {r : Row} (mem : r ∈ g.rows) {j : CallableId} :
    (∃ v ∈ r.callees, v.identity = j) ↔ Linked calls r.unit.identity j := by
  constructor
  · rintro ⟨v, hv, rfl⟩
    exact ((h.row r mem).callees v).1 (isIn_of_mem hv)
  · intro linked
    obtain ⟨call, -, -, rfl⟩ := id linked
    exact isIn_iff.1 (((h.row r mem).callees call.2).2 linked)

theorem Shows.isIn_row_callers (h : Shows g.rows calls) {r : Row} (mem : r ∈ g.rows) {i : CallableId} :
    (∃ v ∈ r.callers, v.identity = i) ↔ Linked calls i r.unit.identity := by
  constructor
  · rintro ⟨v, hv, rfl⟩
    exact ((h.row r mem).callers v).1 (isIn_of_mem hv)
  · intro linked
    obtain ⟨call, -, rfl, -⟩ := id linked
    exact isIn_iff.1 (((h.row r mem).callers call.1).2 linked)

theorem Shows.leads_forward_iff (h : Shows g.rows calls) {i j : CallableId} :
    Leads g.forward i j ↔ Linked calls i j := by
  constructor
  · rintro ⟨_, mem, rfl, inside⟩
    obtain ⟨r, row, -, rfl⟩ := mem_forward_iff.1 mem
    exact (h.isIn_row_callees row).1 inside
  · intro linked
    obtain ⟨r, mem, rfl⟩ := (h.touched i).2 linked.touched.1
    obtain ⟨v, hv, same⟩ := (h.isIn_row_callees mem).2 linked
    exact ⟨_, mem_forward_iff.2 ⟨r, mem, List.ne_nil_of_mem hv, rfl⟩, rfl, v, hv, same⟩

theorem Shows.leads_reverse_iff (h : Shows g.rows calls) {i j : CallableId} :
    Leads g.reverse j i ↔ Linked calls i j := by
  constructor
  · rintro ⟨_, mem, rfl, inside⟩
    obtain ⟨r, row, -, rfl⟩ := mem_reverse_iff.1 mem
    exact (h.isIn_row_callers row).1 inside
  · intro linked
    obtain ⟨r, mem, rfl⟩ := (h.touched j).2 linked.touched.2
    obtain ⟨v, hv, same⟩ := (h.isIn_row_callers mem).2 linked
    exact ⟨_, mem_reverse_iff.2 ⟨r, mem, List.ne_nil_of_mem hv, rfl⟩, rfl, v, hv, same⟩

/-- A table without empty entries has the keys that it leads from. -/
theorem mem_keys_iff {table : List (Callable × List Callable)} (filled : ∀ entry ∈ table, entry.2 ≠ [])
    {i : CallableId} : i ∈ table.map (·.1.identity) ↔ ∃ j, Leads table i j := by
  rw [List.mem_map]
  constructor
  · rintro ⟨entry, mem, rfl⟩
    obtain ⟨v, hv⟩ := List.exists_mem_of_ne_nil _ (filled entry mem)
    exact ⟨v.identity, entry, mem, rfl, v, hv, rfl⟩
  · rintro ⟨j, entry, mem, same, -⟩
    exact ⟨entry, mem, same⟩

theorem Shows.nodup_rows (h : Shows g.rows calls) : (g.rows.map fun r => r.unit.identity).Nodup := by
  simpa [Distinct, Function.comp_def] using h.once

theorem Shows.nodup_calls (h : Shows g.rows calls) : (g.calls.map linkOf).Nodup := by
  have listed : g.calls.map linkOf =
      g.rows.flatMap fun r => (r.callees.map (·.identity)).map fun j => (r.unit.identity, j) := by
    simp [CallGraph.calls, List.map_flatMap, linkOf, Function.comp_def]
  have units : g.rows.Pairwise fun r r' => r.unit.identity ≠ r'.unit.identity := List.pairwise_map.1 h.nodup_rows
  rw [listed, List.nodup_flatMap]
  constructor
  · intro r mem
    exact (h.row r mem).calleesOnce.map fun j k same => congrArg Prod.snd same
  · refine units.imp fun apart => ?_
    intro link mem mem'
    obtain ⟨j, -, rfl⟩ := List.mem_map.1 mem
    obtain ⟨k, -, same⟩ := List.mem_map.1 mem'
    exact apart (congrArg Prod.fst same).symm

/-- **A graph that shows some calls is the set of the pairs that they make.** -/
theorem Shows.presents (h : Shows g.rows calls) : g.Presents (links calls) := by
  have listed : ∀ link, link ∈ g.calls.map linkOf ↔ link ∈ links calls := by
    rintro ⟨i, j⟩
    rw [mem_links_iff, ← h.linked_calls, ← mem_links_iff, links, List.mem_toFinset]
  constructor
  case contains =>
    intro u
    rw [← touched_iff, ← h.touched, CallGraph.contains, any_sameAs_iff]
  case callees =>
    intro u v
    rw [mem_links_iff, h.isIn_callees]
  case calleesOnce => exact h.distinct_callees
  case callers =>
    intro u v
    rw [mem_links_iff, h.isIn_callers]
  case callersOnce => exact h.distinct_callers
  case forwardKeys =>
    intro i
    have filled : ∀ entry ∈ g.forward, entry.2 ≠ [] := by
      intro entry mem
      obtain ⟨r, -, some, rfl⟩ := mem_forward_iff.1 mem
      exact some
    simp only [mem_keys_iff filled, h.leads_forward_iff, mem_links_iff]
  case forwardOnce =>
    rw [CallGraph.forward, List.map_map]
    exact h.nodup_rows.sublist (List.filter_sublist.map _)
  case forward =>
    intro entry mem
    obtain ⟨r, row, -, rfl⟩ := mem_forward_iff.1 mem
    rw [CallGraph.callees, h.row?_iff.2 ⟨row, rfl⟩]
    rfl
  case reverseKeys =>
    intro j
    have filled : ∀ entry ∈ g.reverse, entry.2 ≠ [] := by
      intro entry mem
      obtain ⟨r, -, some, rfl⟩ := mem_reverse_iff.1 mem
      exact some
    simp only [mem_keys_iff filled, h.leads_reverse_iff, mem_links_iff]
  case reverseOnce =>
    rw [CallGraph.reverse, List.map_map]
    exact h.nodup_rows.sublist (List.filter_sublist.map _)
  case reverse =>
    intro entry mem
    obtain ⟨r, row, -, rfl⟩ := mem_reverse_iff.1 mem
    rw [CallGraph.callers, h.row?_iff.2 ⟨row, rfl⟩]
    rfl
  case transpose =>
    intro i j
    rw [h.leads_forward_iff, h.leads_reverse_iff]
  case calls => exact listed
  case callsOnce => exact h.nodup_calls
  case callCount =>
    have same : (g.calls.map linkOf).toFinset = links calls := by
      ext link
      rw [List.mem_toFinset, listed]
    rw [← same, List.toFinset_card_of_nodup h.nodup_calls, List.length_map]
    rfl

end Presents

/-! ## Edits -/

/-- One request to change a graph. -/
inductive Edit where
  | addCall (caller callee : Callable)
  | addCalls (calls : List Call)
  | freeze

namespace Edit

/-- The calls that an edit asks to add. -/
def calls : Edit → List Call
  | .addCall caller callee => [(caller, callee)]
  | .addCalls calls => calls
  | .freeze => []

/-- Asks to freeze the graph. -/
def isFreeze : Edit → Bool
  | .freeze => true
  | _ => false

/-- The graph after an edit, or why it is refused. -/
def apply (g : CallGraph) : Edit → Except Fault CallGraph
  | .addCall caller callee => g.addCall caller callee
  | .addCalls calls => g.addCalls calls
  | .freeze => .ok g.freeze

end Edit

/-- The graph with some calls, up to the first one that is refused. -/
def addUntil (g : CallGraph) : List Call → CallGraph
  | [] => g
  | call :: calls =>
    match g.addCall call.1 call.2 with
    | .ok g => addUntil g calls
    | .error _ => g

/-- The graph that an edit leaves behind, refused or not. -/
def edit (g : CallGraph) (e : Edit) : CallGraph := if e.isFreeze then g.freeze else g.addUntil e.calls

/-- The graph after some edits, one after the other. -/
def edited (g : CallGraph) (edits : List Edit) : CallGraph := edits.foldl edit g

/-- The calls added before the first freeze. -/
def callsBefore (edits : List Edit) : List Call := (edits.takeWhile fun e => !e.isFreeze).flatMap (·.calls)

/-- The rows with more calls. -/
def insertCalls (rows : List Row) (calls : List Call) : List Row :=
  calls.foldl (fun rows call => insertCall rows call.1 call.2) rows

theorem addCall_of_open {g : CallGraph} (isOpen : g.isFrozen = false) (caller callee : Callable) :
    g.addCall caller callee = .ok { g with rows := insertCall g.rows caller callee } := by simp [addCall, isOpen]

theorem addCalls_of_open {g : CallGraph} (isOpen : g.isFrozen = false) (calls : List Call) :
    g.addCalls calls = .ok { g with rows := insertCalls g.rows calls } := by
  induction calls generalizing g with
  | nil => rfl
  | cons call calls ih =>
    rw [addCalls, List.foldlM_cons, addCall_of_open isOpen]
    exact ih isOpen

/-- A graph that is not frozen accepts every edit. -/
theorem apply_of_open {g : CallGraph} (isOpen : g.isFrozen = false) (e : Edit) :
    e.apply g = .ok { rows := insertCalls g.rows e.calls, isFrozen := e.isFreeze } := by
  cases e with
  | addCall caller callee => simp [Edit.apply, addCall, isOpen, insertCalls, Edit.calls, Edit.isFreeze]
  | addCalls calls =>
    rw [Edit.apply, addCalls_of_open isOpen, isOpen]
    rfl
  | freeze => rfl

/-- A frozen graph refuses at once whatever asks to add something. -/
theorem apply_of_frozen {g : CallGraph} (frozen : g.isFrozen = true) (e : Edit) :
    e.apply g = if e.calls = [] then .ok g else .error .frozen := by
  have refused : ∀ caller callee, g.addCall caller callee = .error .frozen := by
    intro caller callee
    simp [addCall, frozen]
  cases e with
  | addCall caller callee => simp [Edit.apply, refused, Edit.calls]
  | addCalls calls =>
    cases calls with
    | nil => rfl
    | cons call calls =>
      rw [Edit.apply, addCalls, List.foldlM_cons, refused, Edit.calls, if_neg (by simp)]
      rfl
  | freeze =>
    cases g
    cases frozen
    rfl

theorem addUntil_of_open {g : CallGraph} (isOpen : g.isFrozen = false) (calls : List Call) :
    g.addUntil calls = { g with rows := insertCalls g.rows calls } := by
  induction calls generalizing g with
  | nil => rfl
  | cons call calls ih =>
    rw [addUntil, addCall_of_open isOpen]
    exact ih isOpen

theorem edit_of_open {g : CallGraph} (isOpen : g.isFrozen = false) (e : Edit) :
    g.edit e = { rows := insertCalls g.rows e.calls, isFrozen := e.isFreeze } := by
  cases e with
  | freeze => rfl
  | _ => simp [edit, Edit.isFreeze, addUntil_of_open isOpen, isOpen]

theorem edit_of_frozen {g : CallGraph} (frozen : g.isFrozen = true) (e : Edit) : g.edit e = g := by
  have same : g.freeze = g := by
    cases g
    cases frozen
    rfl
  unfold edit
  split
  · exact same
  · cases e.calls with
    | nil => rfl
    | cons call calls => simp [addUntil, addCall, frozen]

theorem edited_of_frozen {g : CallGraph} (frozen : g.isFrozen = true) (edits : List Edit) : g.edited edits = g := by
  induction edits with
  | nil => rfl
  | cons e edits ih =>
    rw [edited, List.foldl_cons, edit_of_frozen frozen]
    exact ih

/-- **Only what was added before the first freeze counts.** -/
theorem edited_eq {g : CallGraph} (isOpen : g.isFrozen = false) (edits : List Edit) :
    g.edited edits = { rows := insertCalls g.rows (callsBefore edits), isFrozen := edits.any (·.isFreeze) } := by
  induction edits generalizing g with
  | nil =>
    cases g
    cases isOpen
    rfl
  | cons e edits ih =>
    rw [edited, List.foldl_cons, edit_of_open isOpen]
    cases freeze : e.isFreeze with
    | true =>
      have none : e.calls = [] := by
        cases e with
        | freeze => rfl
        | _ => cases freeze
      rw [← edited, edited_of_frozen rfl]
      simp [callsBefore, freeze, none, insertCalls]
    | false =>
      rw [← edited, ih rfl]
      simp [callsBefore, freeze, insertCalls, List.foldl_append]

/-- What a graph is after some edits of the empty one. -/
structure Accounted (g : CallGraph) (edits : List Edit) : Prop where
  /-- It answers as the set of pairs added before the first freeze. -/
  presents : g.Presents (links (callsBefore edits))
  keepsFirst : g.KeepsFirst (callsBefore edits)
  frozen : g.isFrozen = true ↔ ∃ e ∈ edits, e.isFreeze = true
  /-- An edit is refused exactly if the graph is frozen and something is to be added. -/
  refused : ∀ e : Edit, e.apply g = .error .frozen ↔ g.isFrozen = true ∧ e.calls ≠ []
  accepted : ∀ e : Edit, ¬ (g.isFrozen = true ∧ e.calls ≠ []) → e.apply g = .ok (g.edit e)
  /-- Once frozen, it stays as it is whatever is asked for. -/
  stays : g.isFrozen = true → ∀ more, g.edited more = g

/-- **A graph refines a set of pairs**: after any edits of the empty graph all answers are those of the pairs added
before the first freeze, every list keeps what came first, and a frozen graph refuses to grow and never changes. -/
theorem edits_refine_links (edits : List Edit) : (edited {} edits).Accounted edits := by
  have whole : edited {} edits = { rows := (ofCalls (callsBefore edits)).rows, isFrozen := edits.any (·.isFreeze) } :=
    edited_eq rfl edits
  have rows : (edited {} edits).rows = (ofCalls (callsBefore edits)).rows := by rw [whole]
  have shows : Shows (edited {} edits).rows (callsBefore edits) := rows ▸ shows_ofCalls _
  constructor
  case presents => exact shows.presents
  case keepsFirst => exact keepsFirst_of_rows (rows.trans (rows_ofCalls _))
  case frozen =>
    rw [whole]
    exact List.any_eq_true
  case refused =>
    intro e
    cases frozen : (edited {} edits).isFrozen with
    | true => simp [apply_of_frozen frozen]
    | false => simp [apply_of_open frozen]
  case accepted =>
    intro e grows
    cases frozen : (edited {} edits).isFrozen with
    | true =>
      have none : e.calls = [] := by simpa [frozen] using grows
      rw [apply_of_frozen frozen, if_pos none, edit_of_frozen frozen]
    | false => rw [apply_of_open frozen, edit_of_open frozen]
  case stays => exact fun frozen more => edited_of_frozen frozen more

/-! Edits that add equal declarations again, a call of a declaration by itself, and calls to a frozen graph. -/

namespace Sample

/-- A declaration of the sample; the tag tells apart those that are the same. -/
def unit (name : String) (tag : Nat) : Callable :=
  { identity := { assembly := "App", qualname := name }, name, assembly := "App", tag }

def edits : List Edit :=
  [.addCall (unit "f" 1) (unit "g" 1), .addCalls [(unit "f" 2, unit "g" 2), (unit "g" 3, unit "g" 3)], .addCalls [],
    .freeze, .addCall (unit "h" 1) (unit "f" 3), .addCalls [], .freeze]

end Sample

theorem edits_refine_links_sample :
    (edited {} Sample.edits).Accounted Sample.edits ∧ (edited {} Sample.edits).callCount = 2 ∧
      (edited {} Sample.edits).callees (Sample.unit "f" 0) = [Sample.unit "g" 1] ∧
      (edited {} Sample.edits).callers (Sample.unit "g" 0) = [Sample.unit "f" 1, Sample.unit "g" 3] ∧
      (Edit.addCall (Sample.unit "h" 1) (Sample.unit "f" 3)).apply (edited {} Sample.edits) = .error .frozen ∧
      (edited {} Sample.edits).edited Sample.edits = edited {} Sample.edits := by
  have accounted := edits_refine_links Sample.edits
  have frozen : (edited {} Sample.edits).isFrozen = true := by decide
  refine ⟨accounted, by decide, by decide, by decide, ?_, accounted.stays frozen _⟩
  exact (accounted.refused _).2 ⟨frozen, by decide⟩

end CallGraph

end CallAtlas
