import CallAtlas.Files.Discovery
import Mathlib.Data.List.Nodup

/-!
# Each source file once

The paths that a search for source files gives are different from each other. Entries stand at different locations, and
locations are made of names: a way below a directory can be cut at its slashes into the names again, and it starts with
none, so it stays below the directory it is joined to.
-/

namespace CallAtlas

theorem Path.join_inj {directory a b : String} (ha : a.toList.head? ≠ some '/') (hb : b.toList.head? ≠ some '/')
    (h : join directory a = join directory b) : a = b := by
  have chars := String.ofList_injective h
  simp only [joinChars, beq_iff_eq, ha, hb, if_false] at chars
  refine String.toList_inj.1 ?_
  split at chars
  · exact List.append_cancel_left chars
  · exact (List.cons.inj (List.append_cancel_left chars)).2

namespace Files

theorem isName_iff {name : String} : isName name = true ↔ name.toList ≠ [] ∧ '/' ∉ name.toList := by
  simp [isName]

theorem splitOn_intercalate {names : Location} (h : names.all isName = true) (nonempty : names ≠ []) :
    ("/".intercalate names).toList.splitOn '/' = names.map String.toList := by
  rw [String.toList_intercalate]
  refine List.splitOn_intercalate '/' ?_ (by simpa using nonempty)
  intro chars mem
  obtain ⟨name, hname, rfl⟩ := List.mem_map.1 mem
  exact (isName_iff.1 (List.all_eq_true.1 h name hname)).2

theorem intercalate_inj {a b : Location} (ha : a.all isName = true) (hb : b.all isName = true) (ane : a ≠ [])
    (bne : b ≠ []) (h : "/".intercalate a = "/".intercalate b) : a = b := by
  refine List.map_injective_iff.2 (fun _ _ => String.toList_inj.1) ?_
  rw [← splitOn_intercalate ha ane, ← splitOn_intercalate hb bne, h]

theorem head?_intercalate_ne {names : Location} (h : names.all isName = true) (nonempty : names ≠ []) :
    ("/".intercalate names).toList.head? ≠ some '/' := by
  cases names with
  | nil => exact absurd rfl nonempty
  | cons name rest =>
    have first := isName_iff.1 (List.all_eq_true.1 h name List.mem_cons_self)
    -- the first character is that of the first name
    have head : ("/".intercalate (name :: rest)).toList.head? = name.toList.head? := by
      cases rest with
      | nil => simp
      | cons _ _ => simp [List.head?_append, List.head?_eq_some_head first.1]
    rw [head]
    exact fun slash => first.2 (List.mem_of_mem_head? slash)

namespace Tree

variable {t : Tree} {exclude : List String} {root found : Location}

theorem nodup_sourcesBelow : (t.sourcesBelow exclude root).Nodup :=
  t.distinct.sublist (List.filter_sublist.map _)

/-- A source file stands below the root, and the way to it is made of names. -/
theorem way_of_mem_sourcesBelow (h : found ∈ t.sourcesBelow exclude root) :
    root <+: found ∧ found.drop root.length ≠ [] ∧ (found.drop root.length).all isName = true := by
  obtain ⟨e, he, rfl⟩ := List.mem_map.1 h
  obtain ⟨entry, kept⟩ := List.mem_filter.1 he
  have kept := (Bool.and_eq_true_iff.1 kept).1
  rw [isSourceBelow, Bool.and_eq_true, Bool.and_eq_true] at kept
  refine ⟨List.isPrefixOf_iff_prefix.1 kept.1.1, ?_, ?_⟩
  · intro none
    rw [none] at kept
    exact absurd kept.2 (by simp)
  · rw [List.all_eq_true]
    intro name mem
    exact List.all_eq_true.1 (t.named e entry) name (List.mem_of_mem_drop mem)

theorem eq_of_drop_eq {other : Location} (hf : root <+: found) (ho : root <+: other)
    (h : found.drop root.length = other.drop root.length) : found = other := by
  obtain ⟨way, rfl⟩ := hf
  obtain ⟨way', rfl⟩ := ho
  rw [List.drop_left, List.drop_left] at h
  rw [h]

/-- No source file is found twice. -/
theorem nodup_sources (t : Tree) (exclude : List String) (path : String) : (t.sources exclude path).Nodup := by
  unfold sources
  split
  · split <;> simp
  · rename_i place _
    rw [(List.mergeSort_perm _ _).nodup_iff]
    refine nodup_sourcesBelow.map_on ?_
    intro a ha b hb same
    obtain ⟨below, ane, names⟩ := way_of_mem_sourcesBelow ha
    obtain ⟨below', bne, names'⟩ := way_of_mem_sourcesBelow hb
    have joined := Path.join_inj (head?_intercalate_ne names ane) (head?_intercalate_ne names' bne) same
    exact eq_of_drop_eq below below' (intercalate_inj names names' ane bne joined)
  · exact List.nodup_nil

end Tree

end Files

end CallAtlas
