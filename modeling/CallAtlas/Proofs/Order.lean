import CallAtlas.Callable
import Mathlib.Data.Prod.Lex
import Mathlib.Data.String.Basic

/-!
# The order of declarations

Declarations are sorted by a key of five parts, compared part by part: the name, the declaring type, the file, and the
line and the column where the declaration starts. `Callable.le` is the order of these keys, so a sorted list is the same
declarations with keys that never go down (`StablySorted`).
-/

namespace CallAtlas

/-- `sorted` holds what `given` does, by rising key, and what has one key in the order in which it was given. -/
structure StablySorted {α β : Type} [LinearOrder β] (key : α → β) (given sorted : List α) : Prop where
  rising : sorted.Pairwise fun a b => key a ≤ key b
  stable : ∀ k, sorted.filter (fun a => key a = k) = given.filter (fun a => key a = k)

section Keys

variable {α β : Type} [LinearOrder β] {key : α → β}

theorem stablySorted_mergeSort {le : α → α → Bool} (agrees : ∀ a b, le a b = true ↔ key a ≤ key b) (given : List α) :
    StablySorted key given (given.mergeSort le) := by
  have trans : ∀ a b c, le a b = true → le b c = true → le a c = true := by
    intro a b c hab hbc
    exact (agrees a c).2 (((agrees a b).1 hab).trans ((agrees b c).1 hbc))
  have total : ∀ a b, (le a b || le b a) = true := by
    intro a b
    rw [Bool.or_eq_true, agrees, agrees]
    exact le_total _ _
  constructor
  · exact (List.pairwise_mergeSort trans total given).imp fun h => (agrees _ _).1 h
  · intro k
    -- what has one key is in order as it is given, so sorting keeps all of it as a sublist
    have level : (given.filter fun a => key a = k).Pairwise fun a b => le a b = true := by
      refine List.pairwise_of_forall_mem_list fun a ha b hb => (agrees a b).2 (le_of_eq ?_)
      have keyA := of_decide_eq_true (List.mem_filter.1 ha).2
      have keyB := of_decide_eq_true (List.mem_filter.1 hb).2
      exact keyA.trans keyB.symm
    have kept := (List.sublist_mergeSort trans total level List.filter_sublist).filter fun a => decide (key a = k)
    simp only [List.filter_filter, Bool.and_self] at kept
    have size := ((List.mergeSort_perm given le).filter fun a => decide (key a = k)).length_eq
    exact (kept.eq_of_length size.symm).symm

theorem StablySorted.perm {given sorted : List α} (h : StablySorted key given sorted) : sorted.Perm given := by
  classical
  refine List.perm_iff_count.2 fun a => ?_
  have same := congrArg (List.count a) (h.stable (key a))
  rwa [List.count_filter (by simp), List.count_filter (by simp)] at same

end Keys

namespace Callable

/-- What a declaration is sorted by. -/
def sortKey (u : Callable) : String ×ₗ String ×ₗ String ×ₗ Nat ×ₗ Nat :=
  toLex (u.name, toLex (u.declaringDisplay, toLex (u.path, toLex (u.span.start.line, u.span.start.column))))

theorem le_iff {a b : Callable} : le a b = true ↔ a.sortKey ≤ b.sortKey := by
  unfold le
  simp only [Ordering.then_assoc, Ordering.isLE_then_iff_or, Std.isLE_compare, compare_lt_iff_lt, compare_eq_iff_eq,
    sortKey, Prod.Lex.toLex_le_toLex]

theorem perm_sort (us : List Callable) : (sort us).Perm us := List.mergeSort_perm us le

theorem stablySorted_sort (units : List Callable) : StablySorted sortKey units (sort units) := by
  refine stablySorted_mergeSort (fun a b => ?_) units
  exact le_iff

end Callable

end CallAtlas
