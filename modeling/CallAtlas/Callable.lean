import CallAtlas.Source.Position

/-!
# Callable declarations

One value for each method, constructor or operator that a code base declares. Two of them are the same declaration if
their identities agree, whatever else they say; `sameAs` is that comparison. Lists of declarations are ordered by
name first.
-/

namespace CallAtlas

/-- The kind of a declaration. -/
inductive CallableKind where
  | ordinary
  | constructor
  | destructor
  | propertyGet
  | propertySet
  | propertyDelete
  | eventAdd
  | eventRemove
  | eventRaise
  | builtinOperator
  | userOperator
  deriving Repr, DecidableEq, Inhabited

namespace CallableKind

/-- Reads or changes a property or an event. -/
def isAccessor : CallableKind → Bool
  | .propertyGet | .propertySet | .propertyDelete | .eventAdd | .eventRemove | .eventRaise => true
  | _ => false

/-- Stands for an operator. -/
def isOperator : CallableKind → Bool
  | .builtinOperator | .userOperator => true
  | _ => false

/-- The word for a kind. -/
def word : CallableKind → String
  | .ordinary => "ordinary"
  | .constructor => "constructor"
  | .destructor => "destructor"
  | .propertyGet => "property_get"
  | .propertySet => "property_set"
  | .propertyDelete => "property_delete"
  | .eventAdd => "event_add"
  | .eventRemove => "event_remove"
  | .eventRaise => "event_raise"
  | .builtinOperator => "builtin_operator"
  | .userOperator => "user_defined_operator"

end CallableKind

/-- What makes a declaration the one it is. -/
structure CallableId where
  assembly : String
  qualname : String
  path : String := ""
  line : Nat := 0
  column : Nat := 0
  deriving Repr, DecidableEq, Inhabited

/-- One declaration. -/
structure Callable where
  identity : CallableId
  /-- The name that links show and point to. -/
  name : String
  /-- The declaring type, short and in full. -/
  declaringType : String := ""
  declaringDisplay : String := ""
  /-- The source file; empty if there is none. -/
  path : String := ""
  span : Source.Span := ⟨⟨0, 0⟩, ⟨0, 0⟩⟩
  assembly : String := ""
  /-- Backed by source text. -/
  inSource : Bool := true
  /-- Not written down but generated. -/
  isImplicit : Bool := false
  kind : CallableKind := .ordinary
  signature : String := ""
  documentation : Option String := none
  /-- Tells apart two values with one identity; takes no part in comparisons. -/
  tag : Nat := 0
  deriving Repr, DecidableEq, Inhabited

namespace Callable

/-- The same declaration. -/
def sameAs (a b : Callable) : Bool := a.identity == b.identity

theorem sameAs_iff {a b : Callable} : a.sameAs b = true ↔ a.identity = b.identity := by simp [sameAs]

theorem sameAs_refl (a : Callable) : a.sameAs a = true := by simp [sameAs]

theorem sameAs_comm (a b : Callable) : a.sameAs b = b.sameAs a := by
  rw [Bool.eq_iff_iff, sameAs_iff, sameAs_iff]; exact eq_comm

/-- `u` is declared in the list. -/
def isIn (u : Callable) (us : List Callable) : Bool := us.any (·.sameAs u)

theorem isIn_iff {u : Callable} {us : List Callable} : u.isIn us = true ↔ ∃ v ∈ us, v.identity = u.identity := by
  simp [isIn, sameAs_iff]

/-- Puts a declaration to the first group of its like. -/
def addToGroup (u : Callable) : List (List Callable) → List (List Callable)
  | [] => [[u]]
  | group :: groups => if u.isIn group then (group ++ [u]) :: groups else group :: addToGroup u groups

/-- Equal declarations together, in order of first occurrence. -/
def groups (us : List Callable) : List (List Callable) := us.foldl (fun groups u => addToGroup u groups) []

/-- Declarations of one name together, names in order of first occurrence. -/
def byName (us : List Callable) : List (String × List Callable) :=
  (us.map (·.name)).eraseDups.map fun name => (name, us.filter (·.name == name))

/-- At most as late as `b`: by name, declaring type, file, and place. -/
def le (a b : Callable) : Bool :=
  (compare a.name b.name).then (compare a.declaringDisplay b.declaringDisplay)
    |>.then (compare a.path b.path)
    |>.then (compare a.span.start.line b.span.start.line)
    |>.then (compare a.span.start.column b.span.start.column)
    |>.isLE

/-- In the order of `le`; equal ones keep their order. -/
def sort (us : List Callable) : List Callable := us.mergeSort le

end Callable

end CallAtlas
