import CallAtlas.Callable

/-!
# Referents and resolutions

What a call can be found to refer to. A referent may be a declaration, a form of one (reached through a receiver, or
with type arguments), or something else; a resolution is one referent, or several that are all possible. `Resolution.unit?`
maps each resolution to the one declaration that it counts for.
-/

namespace CallAtlas

/-- What a name in a call refers to. -/
inductive Referent where
  /-- Nothing. -/
  | absent
  | declaration (unit : Callable)
  /-- Reached through a receiver. -/
  | bound (inner : Referent) (receiver : String)
  /-- Specialized with type arguments. -/
  | instantiated (inner : Referent) (arguments : List String)
  /-- No declaration; known by a mark only. -/
  | foreign (mark : String)
  deriving Repr, DecidableEq, Inhabited

namespace Referent

/-- Something there. -/
def isPresent : Referent → Bool
  | .absent => false
  | _ => true

/-- What a form was made from; anything else, and a form made from nothing, is itself. -/
def underlying : Referent → Referent
  | .bound inner receiver => if inner.isPresent then inner else .bound inner receiver
  | .instantiated inner arguments => if inner.isPresent then inner else .instantiated inner arguments
  | s => s

/-- The declaration, if it is one. -/
def unit? : Referent → Option Callable
  | .declaration unit => some unit
  | _ => none

end Referent

/-- What one call was found to refer to: one referent, or candidates of which any may be meant. -/
structure Resolution where
  referent : Referent := .absent
  candidates : List Referent := []
  deriving Repr, DecidableEq, Inhabited

namespace Resolution

/-- Only candidates are known. -/
def isUndecided (r : Resolution) : Bool := !r.referent.isPresent && !r.candidates.isEmpty

/-- The one referent that counts: the first candidate, if nothing better is known. -/
def target (r : Resolution) : Referent :=
  if r.referent.isPresent then r.referent else r.candidates.headD .absent

/-- The declaration that a resolution counts for. -/
def unit? (r : Resolution) : Option Callable := r.target.underlying.unit?

/-- Exactly this referent. -/
def one (s : Referent) : Resolution := { referent := s }

/-- Any of these referents: none if there are none, and no ambiguity if there is one. -/
def ofReferents? : List Referent → Option Resolution
  | [] => none
  | [s] => some (one s)
  | ss => some { candidates := ss }

end Resolution

end CallAtlas
