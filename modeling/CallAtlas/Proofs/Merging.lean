import CallAtlas.Workspace.Hierarchy

/-!
# Merging orders

Merging takes one head after the other, each time the first that no order holds further back. What comes out has every
name of the given orders once and keeps to each of them (`IsMerge`). The choice of the head never leads astray: taking a
free head away from orders that fit into one list leaves orders that fit into that list without the head, and orders
that fit into a list have a free head. So a merge is found exactly if there is anything to be found.
-/

namespace CallAtlas.Workspace.Hierarchy

variable {orders : List (List String)} {order merged : List String} {name : String}

/-- No order holds the name behind its head. -/
def IsFree (orders : List (List String)) (name : String) : Prop := ∀ order ∈ orders, name ∉ order.tail

theorem isFree_iff : IsFree orders name ↔ orders.any (·.tail.contains name) = false := by
  simp [IsFree]

theorem isFree_of_freeHead? (h : freeHead? orders order = some name) : IsFree orders name := by
  unfold freeHead? at h
  split at h
  · cases h
  · split at h
    · cases h
    · rename_i free
      cases h
      exact isFree_iff.2 (by simpa using free)

theorem freeHead?_of_isFree (free : IsFree orders name) (rest : List String) :
    freeHead? orders (name :: rest) = some name := by
  have never := isFree_iff.1 free
  simp only [freeHead?, never, Bool.false_eq_true, if_false]

theorem isFree_of_nextHead? (h : nextHead? orders = some name) : IsFree orders name := by
  obtain ⟨order, -, free⟩ := List.exists_of_findSome?_eq_some h
  exact isFree_of_freeHead? free

/-! ## Taking a head away -/

/-- Where the name can only be at the head, taking the head away takes the name away. -/
theorem dropHead_eq_erase (free : name ∉ order.tail) : dropHead name order = order.erase name := by
  cases order with
  | nil => rfl
  | cons head rest =>
    have behind : name ∉ rest := free
    by_cases same : head = name
    · subst same
      simp [dropHead]
    · have other : (head == name) = false := beq_false_of_ne same
      simp [dropHead, other, List.erase_of_not_mem behind]

theorem not_mem_dropHead (free : name ∉ order.tail) : name ∉ dropHead name order := by
  rw [dropHead_eq_erase free]
  cases order with
  | nil => exact List.not_mem_nil
  | cons head rest =>
    have behind : name ∉ rest := free
    by_cases same : head = name
    · simpa [same] using behind
    · have other : (head == name) = false := beq_false_of_ne same
      simp only [List.erase_cons, other, Bool.false_eq_true, if_false, List.mem_cons, not_or]
      exact ⟨Ne.symm same, fun mem => behind (List.mem_of_mem_erase mem)⟩

theorem mem_of_mem_dropHead {other : String} (mem : other ∈ dropHead name order) : other ∈ order := by
  cases order with
  | nil => exact mem
  | cons head rest =>
    unfold dropHead at mem
    dsimp only at mem
    split at mem
    · exact List.mem_cons_of_mem head mem
    · exact mem

/-- An order fits behind the head that was taken if it does without it. -/
theorem sublist_cons_of_dropHead (fits : (dropHead name order).Sublist merged) : order.Sublist (name :: merged) := by
  cases order with
  | nil => exact List.nil_sublist _
  | cons head rest =>
    by_cases same : head = name
    · subst same
      have rest_fits : rest.Sublist merged := by simpa [dropHead] using fits
      exact rest_fits.cons_cons head
    · have whole : (head :: rest).Sublist merged := by simpa [dropHead, same] using fits
      exact whole.cons name

/-! ## What a merge is -/

/-- The list has each name of the orders once, and nothing else, and keeps to every order. -/
structure IsMerge (orders : List (List String)) (merged : List String) : Prop where
  nodup : merged.Nodup
  keeps : ∀ order ∈ orders, order.Sublist merged
  covers : ∀ name ∈ merged, ∃ order ∈ orders, name ∈ order

namespace IsMerge

theorem mem_iff (h : IsMerge orders merged) : name ∈ merged ↔ ∃ order ∈ orders, name ∈ order := by
  constructor
  · exact h.covers name
  · rintro ⟨order, given, mem⟩
    exact (h.keeps order given).subset mem

theorem of_empty (empty : orders.all (·.isEmpty) = true) : IsMerge orders [] := by
  constructor
  case nodup => exact List.nodup_nil
  case keeps =>
    intro order given
    have none : order = [] := List.isEmpty_iff.1 (List.all_eq_true.1 empty order given)
    subst none
    exact List.nil_sublist []
  case covers =>
    intro name mem
    cases mem

/-- One round: a free head in front of a merge of what is left. -/
theorem cons (next : nextHead? orders = some name) (h : IsMerge (dropHeads name orders) merged) :
    IsMerge orders (name :: merged) := by
  have free := isFree_of_nextHead? next
  constructor
  case nodup =>
    refine List.nodup_cons.2 ⟨?_, h.nodup⟩
    intro again
    obtain ⟨shorter, left, mem⟩ := h.covers name again
    obtain ⟨order, given, rfl⟩ := List.mem_map.1 left
    exact not_mem_dropHead (free order given) mem
  case keeps =>
    intro order given
    have shorter := h.keeps (dropHead name order) (List.mem_map_of_mem given)
    exact sublist_cons_of_dropHead shorter
  case covers =>
    intro other mem
    rcases List.mem_cons.1 mem with rfl | mem
    · obtain ⟨rest, given⟩ := exists_mem_of_nextHead? next
      exact ⟨_, given, List.mem_cons_self⟩
    · obtain ⟨shorter, left, mem⟩ := h.covers other mem
      obtain ⟨order, given, rfl⟩ := List.mem_map.1 left
      exact ⟨order, given, mem_of_mem_dropHead mem⟩

end IsMerge

/-- What merging gives is a merge of the orders. -/
theorem isMerge_of_merge (h : merge orders = some merged) : IsMerge orders merged := by
  fun_induction merge orders generalizing merged with
  | case1 orders empty =>
    cases h
    exact .of_empty empty
  | case2 => cases h
  | case3 orders _ head next ih =>
    obtain ⟨rest, found, rfl⟩ := Option.map_eq_some_iff.1 h
    exact .cons next (ih found)

/-! ## When there is a merge -/

/-- Orders that fit into one list without repetition have a free head, unless they are all empty. -/
theorem exists_nextHead? {whole : List String} (distinct : whole.Nodup)
    (fit : ∀ order ∈ orders, order.Sublist whole) (some : ¬ orders.all (·.isEmpty) = true) :
    ∃ head, nextHead? orders = .some head := by
  induction whole with
  | nil =>
    refine absurd (List.all_eq_true.2 ?_) some
    intro order given
    exact List.isEmpty_iff.2 (List.sublist_nil.1 (fit order given))
  | cons first whole ih =>
    obtain ⟨new, distinct⟩ := List.nodup_cons.1 distinct
    by_cases starts : ∃ rest, first :: rest ∈ orders
    · -- what comes first in the list is free if it is a head at all
      obtain ⟨rest, given⟩ := starts
      have free : IsFree orders first := by
        intro order given mem
        have behind : order.tail.Sublist whole := (fit order given).tail
        exact new (behind.subset mem)
      have found : (nextHead? orders).isSome = true := by
        refine List.findSome?_isSome_iff.2 ⟨_, given, ?_⟩
        rw [freeHead?_of_isFree free rest]
        rfl
      exact Option.isSome_iff_exists.1 found
    · refine ih distinct ?_
      intro order given
      cases fit order given with
      | cons _ fits => exact fits
      | cons_cons _ _ => exact absurd ⟨_, given⟩ starts

/-- Orders without a free head of theirs fit into the list without it. -/
theorem fit_dropHeads {whole : List String} (free : IsFree orders name) (fit : ∀ order ∈ orders, order.Sublist whole) :
    ∀ order ∈ dropHeads name orders, order.Sublist (whole.erase name) := by
  intro shorter left
  obtain ⟨order, given, rfl⟩ := List.mem_map.1 left
  rw [dropHead_eq_erase (free order given)]
  exact (fit order given).erase name

/-- Orders that fit into one list without repetition can be merged, whichever heads are taken. -/
theorem exists_merge {whole : List String} (distinct : whole.Nodup) (fit : ∀ order ∈ orders, order.Sublist whole) :
    ∃ merged, merge orders = some merged := by
  fun_induction merge orders generalizing whole with
  | case1 => exact ⟨[], rfl⟩
  | case2 orders some none =>
    obtain ⟨head, next⟩ := exists_nextHead? distinct fit some
    cases none.symm.trans next
  | case3 orders _ head next ih =>
    have free := isFree_of_nextHead? next
    obtain ⟨rest, found⟩ := ih (distinct.erase head) (fit_dropHeads free fit)
    exact ⟨head :: rest, by rw [found]; rfl⟩

/-- There is no merge exactly if no list without repetition keeps to all orders. -/
theorem merge_eq_none_iff :
    merge orders = none ↔ ¬ ∃ whole : List String, whole.Nodup ∧ ∀ order ∈ orders, order.Sublist whole := by
  constructor
  · rintro none ⟨whole, distinct, fit⟩
    obtain ⟨merged, found⟩ := exists_merge distinct fit
    cases none.symm.trans found
  · intro unfit
    cases found : merge orders with
    | none => rfl
    | some merged =>
      have isMerge := isMerge_of_merge found
      exact absurd ⟨merged, isMerge.nodup, isMerge.keeps⟩ unfit

end CallAtlas.Workspace.Hierarchy
