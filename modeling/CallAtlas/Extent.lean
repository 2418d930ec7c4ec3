import CallAtlas.Callable

/-!
# Extent

Which declarations belong to the code base itself.
-/

namespace CallAtlas

/-- The assemblies of the code base. -/
structure Extent where
  assemblies : List String
  deriving Repr, DecidableEq

/-- In one of the assemblies, written down in source text, and neither an accessor nor an operator. -/
def Extent.contains (s : Extent) (u : Callable) : Bool :=
  s.assemblies.contains u.assembly && u.inSource && !u.isImplicit && !u.kind.isAccessor && !u.kind.isOperator

end CallAtlas
