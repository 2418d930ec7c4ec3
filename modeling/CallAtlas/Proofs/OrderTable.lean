import CallAtlas.Proofs.Linearization
import CallAtlas.Proofs.Spellings

/-!
# The table of orders

A workspace has an order for each of its classes. The bases of a class are found before there are any orders, through
whatever names, imports and inner classes lead to them, but what is found is a class of the workspace. So the hierarchy
is closed, and a way up from a class never leaves the classes that the workspace knows. The depth-first order then holds
the classes on all ways up, each once: its bound on the steps is the number of bases that can still be met. The merged
order holds the same classes. Every order of the table can thus be read back as a list of classes, which starts with the
class itself.
-/

namespace CallAtlas.Workspace

namespace Hierarchy

variable {h : Hierarchy} {name base other : String} {seen stack : List String} {rounds : Nat}

/-! ## The depth-first order -/

theorem preorderFrom_of_mem (known : name ∈ seen) (h : Hierarchy) (rounds : Nat) (stack : List String) :
    h.preorderFrom (rounds + 1) seen (name :: stack) = h.preorderFrom rounds seen stack := by
  rw [preorderFrom, if_pos (List.contains_iff_mem.2 known)]

theorem preorderFrom_of_not_mem (new : name ∉ seen) (h : Hierarchy) (rounds : Nat) (stack : List String) :
    h.preorderFrom (rounds + 1) seen (name :: stack) =
      h.preorderFrom rounds (seen ++ [name]) (h.bases name ++ stack) := by
  rw [preorderFrom, if_neg (mt List.contains_iff_mem.1 new)]

/-- What has been seen stays in front. -/
theorem prefix_preorderFrom (h : Hierarchy) (rounds : Nat) (seen stack : List String) :
    seen <+: h.preorderFrom rounds seen stack := by
  induction rounds generalizing seen stack with
  | zero => exact List.prefix_refl seen
  | succ rounds ih =>
    cases stack with
    | nil => exact List.prefix_refl seen
    | cons name stack =>
      unfold preorderFrom
      split
      · exact ih seen stack
      · exact (List.prefix_append seen [name]).trans (ih _ _)

theorem head?_preorder (h : Hierarchy) (name : String) : (h.preorder name).head? = some name := by
  have first : h.preorder name = h.preorderFrom (h.baseCount + 1) [name] (h.bases name ++ []) := rfl
  obtain ⟨rest, same⟩ := h.prefix_preorderFrom (h.baseCount + 1) [name] (h.bases name ++ [])
  rw [first, ← same]
  rfl

theorem nodup_preorderFrom (distinct : seen.Nodup) : (h.preorderFrom rounds seen stack).Nodup := by
  induction rounds generalizing seen stack with
  | zero => exact distinct
  | succ rounds ih =>
    cases stack with
    | nil => exact distinct
    | cons name stack =>
      by_cases known : name ∈ seen
      · rw [preorderFrom_of_mem known]
        exact ih distinct
      · rw [preorderFrom_of_not_mem known]
        exact ih (List.nodup_append.2 ⟨distinct, List.nodup_singleton name, by grind⟩)

/-- What is met had been seen, or is reached from what was still to be looked at. -/
theorem reaches_of_mem_preorderFrom (mem : other ∈ h.preorderFrom rounds seen stack) :
    other ∈ seen ∨ ∃ start ∈ stack, h.Reaches start other := by
  induction rounds generalizing seen stack with
  | zero => exact Or.inl mem
  | succ rounds ih =>
    cases stack with
    | nil => exact Or.inl mem
    | cons name stack =>
      by_cases known : name ∈ seen
      · rw [preorderFrom_of_mem known] at mem
        refine (ih mem).imp_right ?_
        rintro ⟨start, later, reached⟩
        exact ⟨start, List.mem_cons_of_mem name later, reached⟩
      · rw [preorderFrom_of_not_mem known] at mem
        rcases ih mem with met | ⟨start, later, reached⟩
        · rcases List.mem_append.1 met with met | met
          · exact Or.inl met
          · rw [List.mem_singleton.1 met]
            exact Or.inr ⟨name, List.mem_cons_self, .refl⟩
        · rcases List.mem_append.1 later with above | later
          · exact Or.inr ⟨name, List.mem_cons_self, .head above reached⟩
          · exact Or.inr ⟨start, List.mem_cons_of_mem name later, reached⟩

/-- How many bases the classes have that have not been seen: no more than these can still come on the stack. -/
def pendingIn (seen : List String) (rows : List (String × List String)) : Nat :=
  ((rows.filter fun row => row.1 ∉ seen).flatMap (·.2)).length

theorem pendingIn_cons (seen : List String) (row : String × List String) (rows : List (String × List String)) :
    pendingIn seen (row :: rows) = (if row.1 ∈ seen then 0 else row.2.length) + pendingIn seen rows := by
  unfold pendingIn
  by_cases known : row.1 ∈ seen <;> simp [known]

theorem pendingIn_append_le (seen : List String) (name : String) (rows : List (String × List String)) :
    pendingIn (seen ++ [name]) rows ≤ pendingIn seen rows := by
  induction rows with
  | nil => exact Nat.le_refl 0
  | cons row rows ih =>
    rw [pendingIn_cons, pendingIn_cons]
    by_cases known : row.1 ∈ seen
    · rw [if_pos (List.mem_append_left _ known), if_pos known]
      omega
    · rw [if_neg known]
      split <;> omega

/-- The bases of a class that is met for the first time are no longer pending then. -/
theorem length_bases_add_pendingIn (new : name ∉ seen) (h : Hierarchy) :
    (h.bases name).length + pendingIn (seen ++ [name]) h.rows ≤ pendingIn seen h.rows := by
  obtain ⟨rows⟩ := h
  unfold bases
  dsimp only
  induction rows with
  | nil => exact Nat.le_refl 0
  | cons row rows ih =>
    rw [pendingIn_cons, pendingIn_cons, List.lookup_cons]
    by_cases same : name = row.1
    · subst same
      have later := pendingIn_append_le seen row.1 rows
      rw [beq_self_eq_true, if_pos (List.mem_append_right seen List.mem_cons_self), if_neg new]
      simpa using later
    · rw [beq_false_of_ne same]
      dsimp only
      have kept : (row.1 ∈ seen ++ [name]) ↔ row.1 ∈ seen := by
        simp [List.mem_append, Ne.symm same]
      rw [if_congr kept rfl rfl]
      omega

/-- All bases of what has been seen have been seen or are still to be looked at. -/
def Tracks (h : Hierarchy) (seen stack : List String) : Prop :=
  ∀ name ∈ seen, ∀ base ∈ h.bases name, base ∈ seen ∨ base ∈ stack

theorem Tracks.drop (tracks : h.Tracks seen (name :: stack)) (known : name ∈ seen) : h.Tracks seen stack := by
  intro other mem base above
  rcases tracks other mem base above with met | later
  · exact Or.inl met
  · rcases List.mem_cons.1 later with rfl | later
    · exact Or.inl known
    · exact Or.inr later

theorem Tracks.visit (tracks : h.Tracks seen (name :: stack)) : h.Tracks (seen ++ [name]) (h.bases name ++ stack) := by
  intro other mem base above
  rcases List.mem_append.1 mem with mem | mem
  · rcases tracks other mem base above with met | later
    · exact Or.inl (List.mem_append_left _ met)
    · rcases List.mem_cons.1 later with rfl | later
      · exact Or.inl (List.mem_append_right _ List.mem_cons_self)
      · exact Or.inr (List.mem_append_right _ later)
  · cases List.mem_singleton.1 mem
    exact Or.inr (List.mem_append_left _ above)

/-- If there are steps enough, all that was to be looked at is met, and with each class its bases. -/
theorem subset_preorderFrom (tracks : h.Tracks seen stack)
    (enough : stack.length + pendingIn seen h.rows ≤ rounds) :
    (∀ name ∈ stack, name ∈ h.preorderFrom rounds seen stack) ∧ h.Tracks (h.preorderFrom rounds seen stack) [] := by
  -- on the steps: each takes a name off the stack, and puts on it only what is no longer pending then
  induction rounds generalizing seen stack with
  | zero =>
    obtain rfl : stack = [] := List.eq_nil_of_length_eq_zero (by omega)
    exact ⟨by simp, tracks⟩
  | succ rounds ih =>
    cases stack with
    | nil => exact ⟨by simp, tracks⟩
    | cons name stack =>
      rw [List.length_cons] at enough
      by_cases known : name ∈ seen
      · rw [preorderFrom_of_mem known]
        obtain ⟨met, whole⟩ := ih (tracks.drop known) (by omega)
        refine ⟨List.forall_mem_cons.2 ⟨?_, met⟩, whole⟩
        exact (h.prefix_preorderFrom rounds seen stack).subset known
      · rw [preorderFrom_of_not_mem known]
        have fewer := length_bases_add_pendingIn known h
        obtain ⟨met, whole⟩ := ih tracks.visit (by rw [List.length_append]; omega)
        refine ⟨List.forall_mem_cons.2 ⟨?_, fun other later => met other (List.mem_append_right _ later)⟩, whole⟩
        exact (h.prefix_preorderFrom rounds _ _).subset (List.mem_append_right _ List.mem_cons_self)

theorem nodup_preorder (h : Hierarchy) (name : String) : (h.preorder name).Nodup := nodup_preorderFrom List.nodup_nil

/-- The depth-first order of a class holds the classes that are reached from it. -/
theorem mem_preorder_iff : other ∈ h.preorder name ↔ h.Reaches name other := by
  constructor
  · intro mem
    rcases reaches_of_mem_preorderFrom mem with none | ⟨start, only, reached⟩
    · cases none
    · cases List.mem_singleton.1 only
      exact reached
  · intro reached
    have all : pendingIn [] h.rows = h.baseCount := by simp [pendingIn, baseCount]
    have nothing : h.Tracks [] [name] := by intro other none; cases none
    have enough : [name].length + pendingIn [] h.rows ≤ h.baseCount + 2 := by rw [all, List.length_singleton]; omega
    obtain ⟨met, whole⟩ := subset_preorderFrom nothing enough
    induction reached with
    | refl => exact met name List.mem_cons_self
    | tail _ last ih => exact (whole _ ih _ last).resolve_right List.not_mem_nil

/-! ## Adding bases -/

theorem has_iff : h.has name = true ↔ name ∈ h.rows.map (·.1) := by
  simp [has, List.any_eq_true]

theorem addClass_of_has (present : h.has name = true) : h.addClass name = h := if_pos present

theorem lookup_mapRows {α β : Type} (f : String → α → β) (rows : List (String × α)) (name : String) :
    (rows.map fun row => (row.1, f row.1 row.2)).lookup name = (rows.lookup name).map (f name) := by
  induction rows with
  | nil => rfl
  | cons row rows ih =>
    rw [List.map_cons, List.lookup_cons, List.lookup_cons]
    by_cases same : name = row.1
    · subst same
      simp
    · rw [beq_false_of_ne same]
      exact ih

theorem exists_lookup {α : Type} {rows : List (String × α)} (mem : name ∈ rows.map (·.1)) :
    ∃ value, rows.lookup name = some value := by
  cases found : rows.lookup name with
  | some value => exact ⟨value, rfl⟩
  | none =>
    obtain ⟨row, inside, rfl⟩ := List.mem_map.1 mem
    have apart := List.lookup_eq_none_iff.1 found row inside
    rw [bne_self_eq_false] at apart
    cases apart

theorem names_addBase (present : h.has name = true) (present' : h.has base = true) :
    (h.addBase name base).rows.map (·.1) = h.rows.map (·.1) := by
  unfold addBase
  rw [addClass_of_has present, addClass_of_has present', List.map_map]
  refine List.map_congr_left fun row _ => ?_
  rw [Function.comp_apply]
  split <;> rfl

theorem mem_addNew {names : List String} : other ∈ addNew name names ↔ other ∈ names ∨ other = name := by
  unfold addNew
  split
  · rename_i present
    refine ⟨Or.inl, fun mem => mem.elim id ?_⟩
    rintro rfl
    exact List.contains_iff_mem.1 present
  · simp

theorem bases_addBase (present : h.has name = true) (present' : h.has base = true) (other : String) :
    (h.addBase name base).bases other = if other = name then addNew base (h.bases name) else h.bases other := by
  have rows : (h.addBase name base).rows =
      h.rows.map fun row => (row.1, if row.1 = name then addNew base row.2 else row.2) := by
    unfold addBase
    rw [addClass_of_has present, addClass_of_has present']
    refine List.map_congr_left fun row _ => ?_
    by_cases own : row.1 = name <;> simp [own]
  unfold bases
  rw [rows, lookup_mapRows fun own bases => if own = name then addNew base bases else bases]
  by_cases same : other = name
  · subst same
    obtain ⟨bases, found⟩ := exists_lookup (has_iff.1 present)
    simp [found]
  · simp [same]

theorem IsClosed.addBase (closed : h.IsClosed) (present : h.has name = true) (present' : h.has base = true) :
    (h.addBase name base).IsClosed := by
  intro row mem above inside
  rw [has_iff, names_addBase present present', ← has_iff]
  unfold Hierarchy.addBase at mem
  rw [addClass_of_has present, addClass_of_has present'] at mem
  obtain ⟨old, known, rfl⟩ := List.mem_map.1 mem
  split at inside
  · rcases mem_addNew.1 inside with inside | rfl
    · exact closed old known above inside
    · exact present'
  · exact closed old known above inside

/-- With the bases that a list names, each with the class that has it. -/
def addBases (h : Hierarchy) (edges : List (String × String)) : Hierarchy :=
  edges.foldl (fun h edge => h.addBase edge.1 edge.2) h

theorem addBases_spec {edges : List (String × String)}
    (present : ∀ edge ∈ edges, h.has edge.1 = true ∧ h.has edge.2 = true) :
    (h.addBases edges).rows.map (·.1) = h.rows.map (·.1) ∧ (h.IsClosed → (h.addBases edges).IsClosed) ∧
      ∀ name base, base ∈ (h.addBases edges).bases name ↔ base ∈ h.bases name ∨ (name, base) ∈ edges := by
  induction edges generalizing h with
  | nil => simp [addBases]
  | cons edge edges ih =>
    obtain ⟨own, above⟩ := present edge List.mem_cons_self
    have names := names_addBase own above
    have still : ∀ later ∈ edges, (h.addBase edge.1 edge.2).has later.1 = true ∧
        (h.addBase edge.1 edge.2).has later.2 = true := by
      intro later mem
      rw [has_iff, has_iff, names, ← has_iff, ← has_iff]
      exact present later (List.mem_cons_of_mem edge mem)
    obtain ⟨kept, closed, bases⟩ := ih still
    refine ⟨kept.trans names, fun start => closed (start.addBase own above), fun name base => ?_⟩
    refine (bases name base).trans ?_
    rw [bases_addBase own above, List.mem_cons, Prod.ext_iff]
    by_cases same : name = edge.1
    · subst same
      rw [if_pos rfl, mem_addNew]
      simp only [true_and, or_assoc]
    · rw [if_neg same]
      simp only [same, false_and, false_or]

end Hierarchy

namespace Index

open Hierarchy

variable {w : Index} {c k : ClassEntry} {name base : String}

/-! ## The hierarchy of a workspace -/

theorem qualname_of_class? (found : w.class? name = some k) : k.qualname = name := by
  have mem := List.mem_of_getLast? found
  exact eq_of_beq (List.mem_filter.1 mem).2

theorem mem_of_class? (found : w.class? name = some k) : k ∈ w.allClasses := by
  have mem := List.mem_of_getLast? found
  exact (List.mem_filter.1 mem).1

theorem exists_class? (hc : c ∈ w.allClasses) : ∃ k, w.class? c.qualname = some k := by
  have mem : c ∈ w.allClasses.filter (·.qualname == c.qualname) := List.mem_filter.2 ⟨hc, beq_self_eq_true _⟩
  cases found : w.class? c.qualname with
  | some k => exact ⟨k, rfl⟩
  | none =>
    rw [List.getLast?_eq_none_iff.1 found] at mem
    cases mem

theorem mem_classNames_iff : name ∈ w.classNames ↔ ∃ c, w.class? name = some c := by
  constructor
  · intro mem
    obtain ⟨c, known, rfl⟩ := List.mem_map.1 (List.mem_eraseDups.1 mem)
    exact exists_class? known
  · rintro ⟨c, found⟩
    refine List.mem_eraseDups.2 (List.mem_map.2 ⟨c, mem_of_class? found, qualname_of_class? found⟩)

theorem mem_classes_iff : c ∈ w.classes ↔ w.class? c.qualname = some c := by
  unfold classes
  rw [List.mem_filterMap]
  constructor
  · rintro ⟨name, -, found⟩
    rw [qualname_of_class? found]
    exact found
  · intro found
    exact ⟨c.qualname, mem_classNames_iff.2 ⟨c, found⟩, found⟩

theorem base?_mem {e : Source.Expr} (found : w.base? c e = some k) : k ∈ w.allClasses := by
  unfold base? at found
  split at found
  · rename_i m known
    split at found
    · rename_i b meant
      cases found
      have inside : ({ module := m } : Context).module ∈ w.modules := mem_of_moduleAt? known
      exact within_expression? inside meant
    · cases found
  · cases found

/-- The bases of all classes, by name. -/
def baseEdges (w : Index) : List (String × String) :=
  w.classes.flatMap fun c => (c.bases.filterMap (w.base? c)).map fun b => (c.qualname, b.qualname)

theorem hierarchy_eq (w : Index) : w.hierarchy = addBases ⟨w.classNames.map fun name => (name, [])⟩ w.baseEdges := by
  unfold hierarchy addBases baseEdges
  dsimp only
  rw [List.foldl_flatMap]
  refine congrArg (fun step => List.foldl step _ w.classes) (funext fun h => funext fun c => ?_)
  rw [List.foldl_map]

/-- The class of the first dotted name has a base that means the class of the second one. -/
def HasBase (w : Index) (name base : String) : Prop :=
  ∃ c, w.class? name = some c ∧ ∃ e ∈ c.bases, ∃ b, w.base? c e = some b ∧ b.qualname = base

theorem mem_baseEdges_iff : (name, base) ∈ w.baseEdges ↔ w.HasBase name base := by
  unfold baseEdges HasBase
  simp only [List.mem_flatMap, List.mem_map, List.mem_filterMap, Prod.mk.injEq, mem_classes_iff]
  constructor
  · rintro ⟨c, known, b, ⟨e, mem, found⟩, rfl, rfl⟩
    exact ⟨c, known, e, mem, b, found, rfl⟩
  · rintro ⟨c, known, e, mem, b, found, rfl⟩
    cases qualname_of_class? known
    exact ⟨c, known, b, ⟨e, mem, found⟩, rfl, rfl⟩

theorem HasBase.mem_classNames (h : w.HasBase name base) : name ∈ w.classNames ∧ base ∈ w.classNames := by
  obtain ⟨c, known, e, -, b, found, rfl⟩ := h
  exact ⟨mem_classNames_iff.2 ⟨c, known⟩, mem_classNames_iff.2 (exists_class? (base?_mem found))⟩

/-- No class has a base yet. -/
def unrelated (names : List String) : Hierarchy := ⟨names.map fun name => (name, [])⟩

theorem names_unrelated (names : List String) : (unrelated names).rows.map (·.1) = names := by
  rw [unrelated, List.map_map]
  exact List.map_id names

theorem bases_unrelated (names : List String) (name : String) : (unrelated names).bases name = [] := by
  have rows : (unrelated names).rows =
      (names.map fun name => (name, ())).map fun row => (row.1, ([] : List String)) := by
    rw [unrelated, List.map_map]
    rfl
  unfold bases
  rw [rows, lookup_mapRows fun _ _ => []]
  cases (names.map fun name => (name, ())).lookup name <;> rfl

theorem isClosed_unrelated (names : List String) : (unrelated names).IsClosed := by
  intro row mem base above
  obtain ⟨name, -, rfl⟩ := List.mem_map.1 mem
  cases above

/-- The hierarchy of a workspace has the dotted names of its classes, and names as bases what the bases mean. -/
theorem hierarchy_spec (w : Index) :
    w.hierarchy.rows.map (·.1) = w.classNames ∧ w.hierarchy.IsClosed ∧
      ∀ name base, w.hierarchy.Extends name base ↔ w.HasBase name base := by
  have present : ∀ edge ∈ w.baseEdges,
      (unrelated w.classNames).has edge.1 = true ∧ (unrelated w.classNames).has edge.2 = true := by
    intro edge mem
    rw [has_iff, has_iff, names_unrelated]
    exact (mem_baseEdges_iff.1 mem).mem_classNames
  obtain ⟨names, closed, bases⟩ := addBases_spec present
  have whole : w.hierarchy = (unrelated w.classNames).addBases w.baseEdges := hierarchy_eq w
  rw [whole]
  refine ⟨names.trans (names_unrelated _), closed (isClosed_unrelated _), fun name base => ?_⟩
  refine (bases name base).trans ?_
  rw [bases_unrelated, mem_baseEdges_iff]
  simp only [List.not_mem_nil, false_or]

theorem has_hierarchy_iff : w.hierarchy.has name = true ↔ name ∈ w.classNames := by
  rw [has_iff, (hierarchy_spec w).1]

/-! ## The orders in the table -/

/-- Merged or depth-first, an order starts with its class and holds each class that is reached from it once. -/
theorem orderNames_spec {h : Hierarchy} (closed : h.IsClosed) (isClass : h.has name = true) :
    (orderNames h [] name).1.1.head? = some name ∧ (orderNames h [] name).1.1.Nodup ∧
      ∀ other, other ∈ (orderNames h [] name).1.1 ↔ h.Reaches name other := by
  have found : ∀ order, (h.orderWith [] name).1 = some order → h.HasOrder name order :=
    fun order found => (order_eq_some_iff closed isClass).1 found
  unfold orderNames
  cases answer : h.orderWith [] name with
  | mk result known =>
    rw [answer] at found
    cases result with
    | some order =>
      have ordered := found order rfl
      exact ⟨ordered.head?_eq, ordered.nodup, fun other => ordered.mem_iff_reaches⟩
    | none => exact ⟨h.head?_preorder name, h.nodup_preorder name, fun other => mem_preorder_iff⟩

theorem allOrders_eq (w : Index) :
    w.allOrders = w.classNames.map fun name => (name, (orderNames w.hierarchy [] name).1) :=
  orderTable_eq (hierarchy_spec w).2.1 (fun _ mem => has_hierarchy_iff.2 mem) sound_nil

theorem lookup_map_self {α : Type} (f : String → α) {names : List String} (mem : name ∈ names) :
    (names.map fun name => (name, f name)).lookup name = some (f name) := by
  induction names with
  | nil => cases mem
  | cons first names ih =>
    rw [List.map_cons, List.lookup_cons]
    by_cases same : name = first
    · rw [same, beq_self_eq_true]
    · rw [beq_false_of_ne same]
      exact ih ((List.mem_cons.1 mem).resolve_left same)

/-- The classes are an order of the first of them: no two have one dotted name, each is the class that its dotted name
stands for, and they are those that are reached from the first one in the hierarchy. -/
structure IsOrderOf (w : Index) (c : ClassEntry) (order : List ClassEntry) : Prop where
  head : order.head? = some c
  distinct : (order.map (·.qualname)).Nodup
  mem_iff : ∀ d, d ∈ order ↔ w.class? d.qualname = some d ∧ w.hierarchy.Reaches c.qualname d.qualname

/-- The orders that a workspace is given: the hierarchy has the classes that the dotted names stand for, with their
bases among them; whatever is asked for on the way up from a class is there, in the hierarchy and among the classes; and
each class has an order. -/
structure WellOrdered (w : Index) : Prop where
  classes : w.hierarchy.rows.map (·.1) = w.classNames
  bases : ∀ name base, w.hierarchy.Extends name base ↔ w.HasBase name base
  reached : ∀ name ∈ w.classNames, ∀ other, w.hierarchy.Reaches name other → w.hierarchy.has other = true
  named : ∀ row ∈ w.allOrders, ∀ name ∈ row.2.1, ∃ c, w.class? name = some c
  rows : w.withOrders.orders.map (·.1) = w.classNames
  ordered : ∀ name c, w.class? name = some c →
    ∃ order, w.withOrders.orders.lookup name = some order ∧ w.IsOrderOf c order

theorem class?_of_mem_orderNames (mem : name ∈ w.classNames) {other : String}
    (inside : other ∈ (orderNames w.hierarchy [] name).1.1) : ∃ c, w.class? other = some c := by
  have closed := (hierarchy_spec w).2.1
  have isClass := has_hierarchy_iff.2 mem
  have reached := ((orderNames_spec closed isClass).2.2 other).1 inside
  exact mem_classNames_iff.1 (has_hierarchy_iff.1 (has_of_reaches closed isClass reached))

/-- The classes that an order names, if each name stands for one, have these names. -/
theorem map_qualname_filterMap {names : List String} (known : ∀ name ∈ names, ∃ c, w.class? name = some c) :
    (names.filterMap w.class?).map (·.qualname) = names := by
  induction names with
  | nil => rfl
  | cons name names ih =>
    obtain ⟨c, found⟩ := known name List.mem_cons_self
    rw [List.filterMap_cons, found]
    dsimp only
    rw [List.map_cons, qualname_of_class? found, ih fun other mem => known other (List.mem_cons_of_mem name mem)]

theorem isOrderOf_orderNames (found : w.class? name = some c) :
    w.IsOrderOf c ((orderNames w.hierarchy [] name).1.1.filterMap w.class?) := by
  have mem := mem_classNames_iff.2 ⟨c, found⟩
  obtain ⟨head, distinct, reached⟩ := orderNames_spec (hierarchy_spec w).2.1 (has_hierarchy_iff.2 mem)
  have names := map_qualname_filterMap fun other inside => class?_of_mem_orderNames mem inside
  constructor
  · obtain ⟨rest, whole⟩ : ∃ rest, (orderNames w.hierarchy [] name).1.1 = name :: rest :=
      List.head?_eq_some_iff.1 head
    rw [whole, List.filterMap_cons, found]
    rfl
  · rw [names]
    exact distinct
  · intro d
    rw [List.mem_filterMap, qualname_of_class? found, ← reached]
    constructor
    · rintro ⟨other, inside, meant⟩
      rw [qualname_of_class? meant]
      exact ⟨meant, inside⟩
    · rintro ⟨meant, inside⟩
      exact ⟨d.qualname, inside, meant⟩

theorem wellOrdered (w : Index) : w.WellOrdered := by
  obtain ⟨names, closed, bases⟩ := hierarchy_spec w
  have orders : w.withOrders.orders =
      w.classNames.map fun name => (name, (orderNames w.hierarchy [] name).1.1.filterMap w.class?) := by
    rw [withOrders, allOrders_eq, List.map_map]
    rfl
  constructor
  case classes => exact names
  case bases => exact bases
  case reached => exact fun name mem other => has_of_reaches closed (has_hierarchy_iff.2 mem)
  case named =>
    rw [allOrders_eq]
    intro row mem name inside
    obtain ⟨start, known, rfl⟩ := List.mem_map.1 mem
    exact class?_of_mem_orderNames known inside
  case rows =>
    rw [orders, List.map_map]
    exact List.map_id _
  case ordered =>
    intro name c found
    refine ⟨_, ?_, isOrderOf_orderNames found⟩
    rw [orders]
    exact lookup_map_self _ (mem_classNames_iff.2 ⟨c, found⟩)

/-- In a workspace whose classes have been put into order, a search from a class starts at the class that its dotted
name stands for, and goes through classes that their dotted names stand for. -/
theorem order_withOrders (hc : c ∈ w.withOrders.allClasses) :
    ∃ k rest, w.withOrders.class? c.qualname = some k ∧ w.withOrders.order c = k :: rest ∧
      ∀ other ∈ rest, w.withOrders.class? other.qualname = some other := by
  obtain ⟨k, found⟩ := exists_class? hc
  obtain ⟨order, listed, ordered⟩ := w.wellOrdered.ordered c.qualname k found
  obtain ⟨rest, rfl⟩ := List.head?_eq_some_iff.1 ordered.head
  refine ⟨k, rest, found, ?_, fun other mem => ?_⟩
  · rw [Index.order, listed, Option.getD_some]
  · exact ((ordered.mem_iff other).1 (List.mem_cons_of_mem k mem)).1

/-- **Every class has an order, and all that it needs is there**: whatever the modules of a workspace say about their
classes, the orders can be put together without asking for a class that there is none of, and each class has one, merged
or depth-first: it starts with the class and holds each class that is reached from it once. A workspace whose modules
can be read is loaded, with these orders. -/
theorem order_table_complete :
    (∀ w : Index, w.WellOrdered) ∧
      ∀ (codecs : Source.Codecs) (tree : Files.Tree) (exclude : List String) (guesses : Bool) (path : String)
        (modules : List ModuleEntry),
        tree.exists? (tree.absolute path) = true → tree.sources exclude (tree.absolute path) ≠ [] →
        (tree.sources exclude (tree.absolute path)).mapM (moduleOf codecs tree (tree.absolute path)) = .ok modules →
        load codecs tree exclude guesses path =
          .ok (withOrders { project := projectAt tree (tree.absolute path), modules, guesses }) := by
  refine ⟨wellOrdered, fun codecs tree exclude guesses path modules there some read => ?_⟩
  exact (load_eq_ok_iff rfl rfl).2 ⟨there, some, modules, read, rfl⟩

namespace Sample

/-- The bases of `X` have no merged order, and `P` and `Q` stand above one another. -/
def tangled : Files.Tree :=
  treeOf [("a.py", "class A: pass\nclass B(A): pass\nclass X(A,B): pass\nclass P(Q): pass\nclass Q(P,X): pass\n")]

/-- The order of `P`, by name. -/
def isTangled (w : Index) : Bool :=
  (w.class? "a.P").isSome &&
    (w.withOrders.orders.lookup "a.P").map (·.map (·.qualname)) == some ["a.P", "a.Q", "a.X", "a.A", "a.B"]

theorem sources_tangled : tangled.sources Files.defaultExcludes root = ["/W/proj/a.py"] := by
  have found : tangled.find true root = .ok (.taken ["W", "proj"] .directory) := by decide +kernel
  exact sources_of_pairwise found (by decide +kernel) (by decide)

theorem exists_tangled : ∃ modules, ["/W/proj/a.py"].mapM (moduleOf Source.usualCodecs tangled root) = .ok modules ∧
    isTangled { project := projectAt tangled root, modules } = true := by
  have checked : ((["/W/proj/a.py"].mapM (moduleOf Source.usualCodecs tangled root)).toOption.any fun modules =>
      isTangled { project := projectAt tangled root, modules }) = true := by decide +kernel
  exact exists_ok_of_any checked

end Sample

theorem order_table_tangled :
    ∃ (w : Index) (c : ClassEntry) (order : List ClassEntry),
      load Source.usualCodecs Sample.tangled Files.defaultExcludes false Sample.root = .ok w.withOrders ∧ w.WellOrdered ∧
      w.class? "a.P" = some c ∧ w.withOrders.orders.lookup "a.P" = some order ∧ w.IsOrderOf c order ∧
      order.map (·.qualname) = ["a.P", "a.Q", "a.X", "a.A", "a.B"] := by
  have whole : Sample.tangled.absolute Sample.root = Sample.root := by decide +kernel
  have there : Sample.tangled.exists? Sample.root = true := by decide +kernel
  obtain ⟨modules, read, checked⟩ := Sample.exists_tangled
  have loaded := order_table_complete.2 Source.usualCodecs Sample.tangled Files.defaultExcludes false Sample.root modules
  rw [whole, Sample.sources_tangled] at loaded
  obtain ⟨checked, shown⟩ := Bool.and_eq_true_iff.1 checked
  obtain ⟨c, known⟩ := Option.isSome_iff_exists.1 checked
  have ordered := order_table_complete.1 { project := projectAt Sample.tangled Sample.root, modules }
  obtain ⟨order, found, isOrder⟩ := ordered.ordered "a.P" c known
  rw [found] at shown
  exact ⟨_, c, order, loaded there (by decide) read, ordered, known, found, isOrder, by simpa using shown⟩

end Index

end CallAtlas.Workspace
