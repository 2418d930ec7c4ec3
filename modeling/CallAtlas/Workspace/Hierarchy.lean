/-!
# Class hierarchies and their orders

Which class has which bases, and in which order a class and all classes above it are searched for a member. The order
of a class merges the orders of its bases and the list of the bases: it takes the first head that no other order still
holds further back. If the classes form a cycle or no head can be taken, there is no such order, and `preorder` gives
the plain depth-first one.
-/

namespace CallAtlas.Workspace

/-- Each class with its bases, in order. -/
structure Hierarchy where
  rows : List (String × List String) := []
  deriving Repr, DecidableEq, Inhabited

namespace Hierarchy

/-- The class occurs. -/
def has (h : Hierarchy) (name : String) : Bool := h.rows.any (·.1 == name)

/-- The bases of a class. -/
def bases (h : Hierarchy) (name : String) : List String := (h.rows.lookup name).getD []

/-- With a class. -/
def addClass (h : Hierarchy) (name : String) : Hierarchy := if h.has name then h else ⟨h.rows ++ [(name, [])]⟩

/-- At the end of a list, unless it is there already. -/
def addNew (name : String) (names : List String) : List String :=
  if names.contains name then names else names ++ [name]

/-- With one more base of a class. -/
def addBase (h : Hierarchy) (name base : String) : Hierarchy :=
  ⟨((h.addClass name).addClass base).rows.map fun r => if r.1 == name then (r.1, addNew base r.2) else r⟩

/-- The head of a list, if no list holds it behind its head. -/
def freeHead? (orders : List (List String)) (order : List String) : Option String :=
  match order with
  | [] => none
  | head :: _ => if orders.any (·.tail.contains head) then none else some head

/-- The first head that no list holds behind its own head. -/
def nextHead? (orders : List (List String)) : Option String := orders.findSome? (freeHead? orders)

/-- Without its head, if that is the given one. -/
def dropHead (name : String) (order : List String) : List String :=
  match order with
  | [] => []
  | head :: rest => if head == name then rest else head :: rest

/-- Every list without its head, if that is the given one. -/
def dropHeads (name : String) (orders : List (List String)) : List (List String) := orders.map (dropHead name)

theorem length_dropHead_le (name : String) (order : List String) : (dropHead name order).length ≤ order.length := by
  unfold dropHead
  split
  · exact Nat.le_refl _
  · split <;> simp

theorem length_dropHeads_le (name : String) (orders : List (List String)) :
    (dropHeads name orders).flatten.length ≤ orders.flatten.length := by
  induction orders with
  | nil => exact Nat.le_refl _
  | cons order rest ih =>
    simp only [dropHeads, List.map_cons, List.flatten_cons, List.length_append]
    exact Nat.add_le_add (length_dropHead_le name order) ih

/-- Taking a head away makes the lists shorter altogether. -/
theorem length_dropHeads_lt {name : String} {orders : List (List String)} (h : ∃ rest, name :: rest ∈ orders) :
    (dropHeads name orders).flatten.length < orders.flatten.length := by
  induction orders with
  | nil => simp at h
  | cons order more ih =>
    obtain ⟨rest, h⟩ := h
    simp only [dropHeads, List.map_cons, List.flatten_cons, List.length_append] at ih ⊢
    rcases List.mem_cons.1 h with rfl | h
    · have := length_dropHeads_le name more
      simp only [dropHeads] at this
      simp only [dropHead, beq_self_eq_true, if_true, List.length_cons]
      omega
    · have := ih ⟨rest, h⟩
      have := length_dropHead_le name order
      omega

theorem mem_of_freeHead? {orders : List (List String)} {order : List String} {name : String}
    (h : freeHead? orders order = some name) : ∃ rest, order = name :: rest := by
  unfold freeHead? at h
  split at h
  · cases h
  · split at h
    · cases h
    · exact ⟨_, by cases h; rfl⟩

/-- The head that is taken is the head of one of the lists. -/
theorem exists_mem_of_nextHead? {orders : List (List String)} {name : String} (h : nextHead? orders = some name) :
    ∃ rest, name :: rest ∈ orders := by
  obtain ⟨order, mem, free⟩ := List.exists_of_findSome?_eq_some h
  obtain ⟨rest, rfl⟩ := mem_of_freeHead? free
  exact ⟨rest, mem⟩

/-- The one order that keeps to all given ones, taking the first head that can be taken each time. -/
def merge (orders : List (List String)) : Option (List String) :=
  if orders.all (·.isEmpty) then some []
  else
    match _h : nextHead? orders with
    | none => none
    | some head => (merge (dropHeads head orders)).map (head :: ·)
  termination_by orders.flatten.length
  decreasing_by exact length_dropHeads_lt (exists_mem_of_nextHead? _h)

/-- Orders that are known already. -/
abbrev Orders := List (String × List String)

/-- The orders of several classes, as far as each has one, handing on what becomes known. -/
def ordersOf (order : Orders → String → Option (List String) × Orders) (known : Orders) :
    List String → Option (List (List String)) × Orders
  | [] => (some [], known)
  | name :: names =>
    match order known name with
    | (none, known) => (none, known)
    | (some first, known) =>
      match ordersOf order known names with
      | (none, known) => (none, known)
      | (some rest, known) => (some (first :: rest), known)

/-- The order of a class, and what is known after finding it. `active` holds the classes on the way here; `rounds`
bounds how many they can be. -/
def orderFrom (h : Hierarchy) (rounds : Nat) (active : List String) (known : Orders) (name : String) :
    Option (List String) × Orders :=
  match known.lookup name with
  | some order => (some order, known)
  | none =>
    if active.contains name then (none, known)
    else
      match rounds with
      | 0 => (none, known)
      | rounds + 1 =>
        match ordersOf (orderFrom h rounds (name :: active)) known (h.bases name) with
        | (none, known) => (none, known)
        | (some orders, known) =>
          match merge (orders ++ [h.bases name]) with
          | none => (none, known)
          | some rest => (some (name :: rest), (name, name :: rest) :: known)

/-- The order of a class of the hierarchy, given the orders that are known, and what is known then. -/
def orderWith (h : Hierarchy) (known : Orders) (name : String) : Option (List String) × Orders :=
  orderFrom h h.rows.length [] known name

/-- The order of a class of the hierarchy. -/
def order (h : Hierarchy) (name : String) : Option (List String) := (h.orderWith [] name).1

/-- The classes reached from those on the stack, depth first, after those that are `seen`. `rounds` bounds the steps. -/
def preorderFrom (h : Hierarchy) (rounds : Nat) (seen : List String) (stack : List String) : List String :=
  match rounds, stack with
  | 0, _ => seen
  | _, [] => seen
  | rounds + 1, name :: stack =>
    if seen.contains name then preorderFrom h rounds seen stack
    else preorderFrom h rounds (seen ++ [name]) (h.bases name ++ stack)

/-- How often a class is named as a base. -/
def baseCount (h : Hierarchy) : Nat := (h.rows.flatMap (·.2)).length

/-- A class and all classes above it, depth first. -/
def preorder (h : Hierarchy) (name : String) : List String := preorderFrom h (h.baseCount + 2) [] [name]

end Hierarchy

end CallAtlas.Workspace
