import CallAtlas.Callable

/-!
# Call graphs

Who calls whom. A graph is a table with one row for each declaration that occurs in it, in order of first occurrence;
a row lists the callees and the callers of its declaration, each once and again in order of first occurrence. Of equal
declarations, every list keeps the one that came first. A frozen graph does not change any more.
-/

namespace CallAtlas

namespace Callable

/-- At the end of the list, unless it is there already. -/
def addTo (u : Callable) (us : List Callable) : List Callable := if u.isIn us then us else us ++ [u]

theorem isIn_addTo {u v : Callable} {us : List Callable} :
    v.isIn (u.addTo us) = true ↔ v.identity = u.identity ∨ v.isIn us = true := by
  unfold addTo
  split
  · rename_i h
    rw [isIn_iff] at h ⊢
    obtain ⟨w, hw, e⟩ := h
    constructor
    · exact Or.inr
    · rintro (hv | hv)
      · exact ⟨w, hw, e.trans hv.symm⟩
      · exact hv
  · simp only [isIn_iff, List.mem_append, List.mem_singleton]
    constructor
    · rintro ⟨w, hw | rfl, e⟩
      · exact Or.inr ⟨w, hw, e⟩
      · exact Or.inl e.symm
    · rintro (e | ⟨w, hw, e⟩)
      · exact ⟨u, Or.inr rfl, e.symm⟩
      · exact ⟨w, Or.inl hw, e⟩

end Callable

/-- A caller and a callee. -/
abbrev Call := Callable × Callable

/-- One declaration with those it calls and those that call it. -/
structure CallGraph.Row where
  unit : Callable
  callees : List Callable := []
  callers : List Callable := []
  deriving Repr, DecidableEq

/-- Who calls whom. -/
structure CallGraph where
  rows : List CallGraph.Row := []
  isFrozen : Bool := false
  deriving Repr, DecidableEq

namespace CallGraph

/-- No more calls can be added to a frozen graph. -/
inductive Fault where
  | frozen
  deriving Repr, DecidableEq

/-- The wording of a fault. -/
def Fault.message : Fault → String
  | .frozen => "cannot add edges to a frozen call graph"

/-- The row of a declaration. -/
def row? (g : CallGraph) (u : Callable) : Option Row := g.rows.find? (·.unit.sameAs u)

/-- Occurs in the graph. -/
def contains (g : CallGraph) (u : Callable) : Bool := g.rows.any (·.unit.sameAs u)

/-- With a row for the declaration. -/
def touch (u : Callable) (rows : List Row) : List Row :=
  if rows.any (·.unit.sameAs u) then rows else rows ++ [{ unit := u }]

/-- With one more callee. -/
def Row.addCallee (callee : Callable) (r : Row) : Row := { r with callees := callee.addTo r.callees }

/-- With one more caller. -/
def Row.addCaller (caller : Callable) (r : Row) : Row := { r with callers := caller.addTo r.callers }

/-- The rows with `change` applied to that of `u`. -/
def updateRow (u : Callable) (change : Row → Row) (rows : List Row) : List Row :=
  rows.map fun r => if r.unit.sameAs u then change r else r

/-- The rows with one more call. -/
def insertCall (rows : List Row) (caller callee : Callable) : List Row :=
  updateRow callee (·.addCaller caller) (updateRow caller (·.addCallee callee) (touch callee (touch caller rows)))

/-- With one more call. -/
def addCall (g : CallGraph) (caller callee : Callable) : Except Fault CallGraph :=
  if g.isFrozen then .error .frozen else .ok { g with rows := insertCall g.rows caller callee }

/-- With more calls, in order. -/
def addCalls (g : CallGraph) (calls : List Call) : Except Fault CallGraph :=
  calls.foldlM (fun g call => g.addCall call.1 call.2) g

/-- Not to be changed any more. -/
def freeze (g : CallGraph) : CallGraph := { g with isFrozen := true }

/-- The frozen graph of some calls. -/
def ofCalls (calls : List Call) : CallGraph :=
  { rows := calls.foldl (fun rows call => insertCall rows call.1 call.2) [], isFrozen := true }

/-- Those that a declaration calls. -/
def callees (g : CallGraph) (u : Callable) : List Callable := ((g.row? u).map (·.callees)).getD []

/-- Those that call a declaration. -/
def callers (g : CallGraph) (u : Callable) : List Callable := ((g.row? u).map (·.callers)).getD []

/-- Each declaration that calls something, with those it calls. -/
def forward (g : CallGraph) : List (Callable × List Callable) :=
  (g.rows.filter fun r => !r.callees.isEmpty).map fun r => (r.unit, r.callees)

/-- Each declaration that is called, with those that call it. -/
def reverse (g : CallGraph) : List (Callable × List Callable) :=
  (g.rows.filter fun r => !r.callers.isEmpty).map fun r => (r.unit, r.callers)

/-- All calls, by caller. -/
def calls (g : CallGraph) : List Call := g.rows.flatMap fun r => r.callees.map fun callee => (r.unit, callee)

/-- How many calls there are. -/
def callCount (g : CallGraph) : Nat := g.calls.length

end CallGraph

end CallAtlas
