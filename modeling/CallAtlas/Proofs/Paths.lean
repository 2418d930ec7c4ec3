import CallAtlas.Files.Path
import Mathlib.Data.List.Infix
import Mathlib.Data.List.TakeWhile

/-!
# The parts of a path

What the operations on paths do to the parts between the slashes. Joining puts parts behind each other, the directory of
a path has the first of its parts, and an absolute path in its shortest form is straight: no part of it steps up or stays
where it is.
-/

namespace CallAtlas

namespace Text

theorem exists_splitOn (sep : Char) (cs : List Char) : ∃ piece pieces, splitOn sep cs = piece :: pieces := by
  cases cs with
  | nil => exact ⟨[], [], rfl⟩
  | cons c cs =>
    unfold splitOn
    split
    · exact ⟨_, _, rfl⟩
    · split
      · exact ⟨_, _, rfl⟩
      · exact ⟨_, _, rfl⟩

theorem splitOn_append (sep : Char) (front back : List Char) :
    splitOn sep (front ++ sep :: back) = splitOn sep front ++ splitOn sep back := by
  induction front with
  | nil =>
    obtain ⟨piece, pieces, h⟩ := exists_splitOn sep back
    simp [splitOn, h]
  | cons c front ih =>
    obtain ⟨piece, pieces, h⟩ := exists_splitOn sep front
    rw [List.cons_append, splitOn, ih, splitOn, h]
    by_cases same : (c == sep) = true
    · simp [same]
    · simp [same]

theorem splitOn_of_not_mem {sep : Char} {cs : List Char} (h : sep ∉ cs) : splitOn sep cs = [cs] := by
  induction cs with
  | nil => rfl
  | cons c cs ih =>
    obtain ⟨other, rest⟩ := not_or.1 (List.mem_cons.not.1 h)
    rw [splitOn, ih rest]
    simp [Ne.symm other]

theorem not_mem_of_mem_splitOn {sep : Char} {cs piece : List Char} (h : piece ∈ splitOn sep cs) : sep ∉ piece := by
  induction cs generalizing piece with
  | nil =>
    cases List.mem_singleton.1 h
    exact List.not_mem_nil
  | cons c cs ih =>
    obtain ⟨first, others, split⟩ := exists_splitOn sep cs
    rw [splitOn, split] at h
    rw [split] at ih
    dsimp only at h
    split at h
    · rcases List.mem_cons.1 h with rfl | h
      · exact List.not_mem_nil
      · exact ih h
    · rename_i other
      rcases List.mem_cons.1 h with rfl | h
      · intro mem
        rcases List.mem_cons.1 mem with rfl | mem
        · exact other (beq_self_eq_true _)
        · exact ih List.mem_cons_self mem
      · exact ih (List.mem_cons_of_mem _ h)

theorem mem_of_mem_splitOn {sep c : Char} {cs piece : List Char} (h : piece ∈ splitOn sep cs) (mem : c ∈ piece) :
    c ∈ cs := by
  induction cs generalizing piece with
  | nil =>
    cases List.mem_singleton.1 h
    cases mem
  | cons first cs ih =>
    obtain ⟨front, others, split⟩ := exists_splitOn sep cs
    rw [splitOn, split] at h
    rw [split] at ih
    dsimp only at h
    split at h
    · rcases List.mem_cons.1 h with rfl | h
      · cases mem
      · exact List.mem_cons_of_mem _ (ih h mem)
    · rcases List.mem_cons.1 h with rfl | h
      · rcases List.mem_cons.1 mem with rfl | mem
        · exact List.mem_cons_self
        · exact List.mem_cons_of_mem _ (ih List.mem_cons_self mem)
      · exact List.mem_cons_of_mem _ (ih (List.mem_cons_of_mem _ h) mem)

theorem exists_mem_splitOn {sep c : Char} {cs : List Char} (other : c ≠ sep) (mem : c ∈ cs) :
    ∃ piece ∈ splitOn sep cs, c ∈ piece := by
  induction cs with
  | nil => cases mem
  | cons first cs ih =>
    obtain ⟨front, others, split⟩ := exists_splitOn sep cs
    rw [split] at ih
    rw [splitOn, split]
    dsimp only
    split
    · rename_i same
      rcases List.mem_cons.1 mem with rfl | mem
      · exact absurd (eq_of_beq same) other
      · obtain ⟨piece, found, inside⟩ := ih mem
        exact ⟨piece, List.mem_cons_of_mem _ found, inside⟩
    · rcases List.mem_cons.1 mem with rfl | mem
      · exact ⟨_, List.mem_cons_self, List.mem_cons_self⟩
      · obtain ⟨piece, found, inside⟩ := ih mem
        rcases List.mem_cons.1 found with rfl | found
        · exact ⟨_, List.mem_cons_self, List.mem_cons_of_mem _ inside⟩
        · exact ⟨piece, List.mem_cons_of_mem _ found, inside⟩

theorem cut?_eq_some {sep : Char} {cs front back : List Char} (h : cut? sep cs = some (front, back)) :
    cs = front ++ sep :: back := by
  induction cs generalizing front with
  | nil => cases h
  | cons c cs ih =>
    unfold cut? at h
    split at h
    · rename_i same
      cases h
      rw [eq_of_beq same]
      rfl
    · obtain ⟨⟨piece, rest⟩, found, same⟩ := Option.map_eq_some_iff.1 h
      cases same
      rw [ih found]
      rfl

theorem cut?_append_of_not_mem {sep : Char} {front : List Char} (h : sep ∉ front) (back : List Char) :
    cut? sep (front ++ sep :: back) = some (front, back) := by
  induction front with
  | nil => simp [cut?]
  | cons c front ih =>
    obtain ⟨other, rest⟩ := not_or.1 (List.mem_cons.not.1 h)
    simp [cut?, Ne.symm other, ih rest]

theorem cutLast?_eq_some {sep : Char} {cs front back : List Char} (h : cutLast? sep cs = some (front, back)) :
    cs = front ++ sep :: back := by
  obtain ⟨⟨piece, rest⟩, found, same⟩ := Option.map_eq_some_iff.1 h
  cases same
  have whole := congrArg List.reverse (cut?_eq_some found)
  simpa using whole

theorem cutLast?_append_of_not_mem {sep : Char} {back : List Char} (front : List Char) (h : sep ∉ back) :
    cutLast? sep (front ++ sep :: back) = some (front, back) := by
  have cut := cut?_append_of_not_mem (mt List.mem_reverse.1 h) front.reverse
  rw [cutLast?, List.reverse_append, List.reverse_cons, List.append_assoc, List.singleton_append, cut]
  simp

theorem joinWith_nil (sep : List Char) : joinWith sep [] = [] := by simp [joinWith]

theorem joinWith_singleton (sep piece : List Char) : joinWith sep [piece] = piece := by simp [joinWith]

theorem joinWith_cons_sep (sep : Char) (piece next : List Char) (pieces : List (List Char)) :
    joinWith [sep] (piece :: next :: pieces) = piece ++ sep :: joinWith [sep] (next :: pieces) := by
  simp [joinWith, List.intercalate_cons_cons]

/-- Pieces can be joined in two parts. -/
theorem joinWith_append {sep : Char} {front back : List (List Char)} (first : front ≠ []) (second : back ≠ []) :
    joinWith [sep] (front ++ back) = joinWith [sep] front ++ sep :: joinWith [sep] back := by
  induction front with
  | nil => exact absurd rfl first
  | cons piece front ih =>
    cases front with
    | nil =>
      obtain ⟨next, back, rfl⟩ := List.exists_cons_of_ne_nil second
      rw [List.singleton_append, joinWith_cons_sep, joinWith_singleton]
    | cons next front =>
      have rest := ih (List.cons_ne_nil _ _)
      rw [List.cons_append] at rest ⊢
      rw [List.cons_append, joinWith_cons_sep, rest, joinWith_cons_sep]
      simp

end Text

namespace Path

open Text

/-! ## Parts -/

theorem parts_nil : parts [] = [] := rfl

theorem parts_append (front back : List Char) : parts (front ++ '/' :: back) = parts front ++ parts back := by
  rw [parts, splitOn_append, List.filter_append]
  rfl

theorem parts_cons (path : List Char) : parts ('/' :: path) = parts path := parts_append [] path

theorem parts_of_part {part : Part} (slash : '/' ∉ part) (nonempty : part ≠ []) : parts part = [part] := by
  rw [parts, splitOn_of_not_mem slash]
  simpa using nonempty

theorem of_mem_parts {path : List Char} {part : Part} (h : part ∈ parts path) : part ≠ [] ∧ '/' ∉ part := by
  obtain ⟨piece, nonempty⟩ := List.mem_filter.1 h
  exact ⟨by simpa using nonempty, not_mem_of_mem_splitOn piece⟩

/-- A path is made of its parts and slashes. -/
theorem mem_iff_mem_parts {path : List Char} {c : Char} (other : c ≠ '/') : c ∈ path ↔ ∃ part ∈ parts path, c ∈ part := by
  constructor
  · intro mem
    obtain ⟨piece, found, inside⟩ := exists_mem_splitOn other mem
    refine ⟨piece, List.mem_filter.2 ⟨found, ?_⟩, inside⟩
    simpa using List.ne_nil_of_mem inside
  · rintro ⟨part, mem, inside⟩
    exact mem_of_mem_splitOn (List.mem_filter.1 mem).1 inside

theorem parts_slashes {path : List Char} (h : path.all (· == '/') = true) : parts path = [] := by
  induction path with
  | nil => rfl
  | cons c path ih =>
    rw [List.all_cons, Bool.and_eq_true] at h
    rw [eq_of_beq h.1, parts_cons, ih h.2]

theorem parts_append_of_ends {front : List Char} (ends : front = [] ∨ front.getLast? = some '/') (back : List Char) :
    parts (front ++ back) = parts front ++ parts back := by
  rcases ends with rfl | slash
  · rfl
  · obtain ⟨before, rfl⟩ := List.getLast?_eq_some_iff.1 slash
    rw [List.append_assoc, List.singleton_append, parts_append, parts_append, parts_nil, List.append_nil]

theorem parts_append_slashes (front : List Char) {slashes : List Char} (h : slashes.all (· == '/') = true) :
    parts (front ++ slashes) = parts front := by
  cases slashes with
  | nil => rw [List.append_nil]
  | cons c slashes =>
    rw [List.all_cons, Bool.and_eq_true] at h
    rw [eq_of_beq h.1, parts_append, parts_slashes h.2, List.append_nil]

theorem parts_joinWith {pieces : List Part} (h : ∀ part ∈ pieces, part ≠ [] ∧ '/' ∉ part) :
    parts (joinWith ['/'] pieces) = pieces := by
  induction pieces with
  | nil => rfl
  | cons part pieces ih =>
    obtain ⟨⟨nonempty, slash⟩, others⟩ := List.forall_mem_cons.1 h
    cases pieces with
    | nil =>
      rw [joinWith, List.intercalate_singleton]
      exact parts_of_part slash nonempty
    | cons next pieces =>
      rw [joinWith_cons_sep, parts_append, parts_of_part slash nonempty, ih others]
      rfl

/-! ## Joining -/

section Join

variable (directory : List Char) {name : List Char} (h : name.head? ≠ some '/')
include h

theorem joinChars_eq : joinChars directory name = directory ++ name ∧ (directory = [] ∨ directory.getLast? = some '/') ∨
    joinChars directory name = directory ++ '/' :: name ∧ directory ≠ [] := by
  unfold joinChars
  rw [if_neg (by simpa using h)]
  split
  · rename_i ends
    rw [Bool.or_eq_true, List.isEmpty_iff, beq_iff_eq] at ends
    exact Or.inl ⟨rfl, ends⟩
  · rename_i ends
    rw [Bool.or_eq_true, List.isEmpty_iff] at ends
    exact Or.inr ⟨rfl, fun empty => ends (Or.inl empty)⟩

theorem parts_joinChars : parts (joinChars directory name) = parts directory ++ parts name := by
  rcases joinChars_eq directory h with ⟨joined, ends⟩ | ⟨joined, -⟩
  · rw [joined, parts_append_of_ends ends]
  · rw [joined, parts_append]

theorem isAbsolute_joinChars : isAbsolute (joinChars directory name) = isAbsolute directory := by
  rcases joinChars_eq directory h with ⟨joined, ends⟩ | ⟨joined, nonempty⟩
  · cases directory with
    | nil =>
      rw [joined]
      simpa [isAbsolute] using h
    | cons c directory => rw [joined]; rfl
  · cases directory with
    | nil => exact absurd rfl nonempty
    | cons c directory => rw [joined]; rfl

theorem mem_joinChars {c : Char} (other : c ≠ '/') : c ∈ joinChars directory name ↔ c ∈ directory ∨ c ∈ name := by
  rcases joinChars_eq directory h with ⟨joined, -⟩ | ⟨joined, -⟩
  · rw [joined, List.mem_append]
  · rw [joined, List.mem_append, List.mem_cons]
    simp [other]

theorem getLast?_joinChars (nonempty : name ≠ []) : (joinChars directory name).getLast? = name.getLast? := by
  have hlast := List.getLast?_eq_some_getLast nonempty
  rcases joinChars_eq directory h with ⟨joined, -⟩ | ⟨joined, -⟩
  · rw [joined, List.getLast?_append, hlast]
    rfl
  · rw [joined, List.getLast?_append, List.getLast?_cons, hlast]
    rfl

end Join

/-! ## Directories -/

/-- What stands before the last part of a path, with the slashes at its end. -/
def headChars (path : List Char) : List Char := (path.reverse.dropWhile (· != '/')).reverse

theorem headChars_append (path : List Char) : headChars path ++ baseChars path = path := by
  rw [headChars, baseChars, ← List.reverse_append, List.takeWhile_append_dropWhile, List.reverse_reverse]

theorem headChars_ends (path : List Char) : headChars path = [] ∨ (headChars path).getLast? = some '/' := by
  rw [headChars, List.getLast?_reverse, List.reverse_eq_nil_iff]
  have stops := List.head?_dropWhile_not (· != '/') path.reverse
  cases left : path.reverse.dropWhile (· != '/') with
  | nil => exact Or.inl rfl
  | cons c rest =>
    rw [left] at stops
    simpa using stops

theorem not_mem_baseChars (path : List Char) : '/' ∉ baseChars path := by
  rw [baseChars, List.mem_reverse]
  intro mem
  simpa using List.all_eq_true.1 List.all_takeWhile '/' mem

/-- The last part of a path that does not end in a slash. -/
theorem parts_of_base {path : List Char} (h : baseChars path ≠ []) :
    parts path = parts (headChars path) ++ [baseChars path] := by
  have split := parts_append_of_ends (headChars_ends path) (baseChars path)
  rwa [headChars_append, parts_of_part (not_mem_baseChars path) h] at split

/-- The directory of a path is its head without the slashes at the end, unless there is nothing else. -/
theorem directoryChars_cases (path : List Char) :
    ∃ slashes, headChars path = directoryChars path ++ slashes ∧ slashes.all (· == '/') = true ∧
      (slashes = [] ∧ (directoryChars path).all (· == '/') = true ∨
        ∃ c, (directoryChars path).getLast? = some c ∧ c ≠ '/') := by
  have unfolded : directoryChars path = if (headChars path).all (· == '/') then headChars path
      else ((headChars path).reverse.dropWhile (· == '/')).reverse := rfl
  rw [unfolded]
  generalize headChars path = head
  split
  · rename_i all
    exact ⟨[], (List.append_nil _).symm, rfl, Or.inl ⟨rfl, all⟩⟩
  · rename_i other
    refine ⟨(head.reverse.takeWhile (· == '/')).reverse, ?_, ?_, Or.inr ?_⟩
    · rw [← List.reverse_append, List.takeWhile_append_dropWhile, List.reverse_reverse]
    · rw [List.all_reverse]
      exact List.all_takeWhile
    · have stops := List.head?_dropWhile_not (· == '/') head.reverse
      rw [List.getLast?_reverse]
      cases left : head.reverse.dropWhile (· == '/') with
      | nil =>
        refine absurd ?_ other
        rw [← List.all_reverse]
        exact List.all_eq_true.2 (List.dropWhile_eq_nil_iff.1 left)
      | cons c rest =>
        rw [left] at stops
        exact ⟨c, rfl, by simpa using stops⟩

theorem parts_directoryChars (path : List Char) : parts (directoryChars path) = parts (headChars path) := by
  obtain ⟨slashes, head, all, -⟩ := directoryChars_cases path
  rw [head, parts_append_slashes _ all]

/-- The directory of a path is the front of it, and has the first of its parts. -/
theorem directoryChars_spec (path : List Char) :
    directoryChars path <+: path ∧ parts (directoryChars path) <+: parts path := by
  obtain ⟨slashes, head, -, -⟩ := directoryChars_cases path
  have whole := headChars_append path
  constructor
  · exact ⟨slashes ++ baseChars path, by rw [← List.append_assoc, ← head, whole]⟩
  · rw [parts_directoryChars, ← congrArg parts whole, parts_append_of_ends (headChars_ends path)]
    exact List.prefix_append _ _

theorem length_directoryChars_lt {path : List Char} (h : baseChars path ≠ []) :
    (directoryChars path).length < path.length := by
  obtain ⟨slashes, head, -, -⟩ := directoryChars_cases path
  have whole := congrArg List.length (headChars_append path)
  have some := List.length_pos_iff.2 h
  rw [head, List.length_append, List.length_append] at whole
  omega

theorem ends_of_baseChars {path : List Char} (h : baseChars path = []) : path = [] ∨ path.getLast? = some '/' := by
  have whole := headChars_append path
  rw [h, List.append_nil] at whole
  exact whole ▸ headChars_ends path

/-- The directory of a path has a last part if it has any. -/
theorem parts_directoryChars_of_base {path : List Char} (h : baseChars (directoryChars path) = []) :
    parts (directoryChars path) = [] := by
  obtain ⟨slashes, -, -, ⟨-, all⟩ | ⟨c, last, other⟩⟩ := directoryChars_cases path
  · exact parts_slashes all
  · rcases ends_of_baseChars h with none | slash
    · rw [none] at last
      cases last
    · exact absurd (Option.some.inj (last.symm.trans slash)) other

theorem isAbsolute_directoryChars {path : List Char} (h : isAbsolute path = true) :
    isAbsolute (directoryChars path) = true := by
  have nonempty : directoryChars path ≠ [] := by
    intro none
    obtain ⟨slashes, head, -, ⟨rfl, -⟩ | ⟨c, last, -⟩⟩ := directoryChars_cases path
    · -- then there is no slash in the path
      have whole := headChars_append path
      rw [head, none] at whole
      refine not_mem_baseChars path (List.mem_of_mem_head? ?_)
      exact (congrArg List.head? whole).trans (eq_of_beq h)
    · rw [none] at last
      cases last
  obtain ⟨rest, whole⟩ := (directoryChars_spec path).1
  rw [isAbsolute, ← whole, List.head?_append_of_ne_nil _ nonempty] at h
  exact h

theorem baseChars_suffix (path : List Char) : baseChars path <:+ path := by
  have back := List.takeWhile_prefix (l := path.reverse) (· != '/')
  rw [← List.reverse_suffix, List.reverse_reverse] at back
  exact back

theorem baseChars_of_not_mem {part : List Char} (h : '/' ∉ part) : baseChars part = part := by
  have all : part.reverse.takeWhile (· != '/') = part.reverse := by
    refine List.takeWhile_eq_self_iff.2 fun c mem => ?_
    simpa using fun same : c = '/' => h (same ▸ List.mem_reverse.1 mem)
  rw [baseChars, all, List.reverse_reverse]

/-- The extension of a path is that of its last part. -/
theorem splitExtension_baseChars (path : List Char) :
    (splitExtension (baseChars path)).2 = (splitExtension path).2 := by
  unfold splitExtension
  rw [baseChars_of_not_mem (not_mem_baseChars path)]
  dsimp only
  split <;> rfl

/-- An extension is the end of its path. -/
theorem splitExtension_suffix (path : List Char) : (splitExtension path).2 <:+ path := by
  unfold splitExtension
  dsimp only
  split
  · rename_i stem extension found
    have rest := cutLast?_eq_some found
    have ends : '.' :: extension <:+ (baseChars path).drop ((baseChars path).takeWhile (· == '.')).length :=
      ⟨stem, rest.symm⟩
    exact (ends.trans (List.drop_suffix _ _)).trans (baseChars_suffix path)
  · exact List.nil_suffix

theorem drop_length_takeWhile (p : Char → Bool) (cs : List Char) : cs.drop (cs.takeWhile p).length = cs.dropWhile p := by
  have left := @List.drop_left _ (cs.takeWhile p) (cs.dropWhile p)
  rwa [List.takeWhile_append_dropWhile] at left

/-- What has a character other than a point before its last point is a stem and an extension. -/
theorem splitExtension_append {stem extension : List Char} (slash : '/' ∉ stem ++ '.' :: extension)
    (solid : ∃ c ∈ stem, c ≠ '.') (point : '.' ∉ extension) :
    splitExtension (stem ++ '.' :: extension) = (stem, '.' :: extension) := by
  have left : stem.dropWhile (· == '.') ≠ [] := by
    obtain ⟨c, mem, other⟩ := solid
    exact fun none => other (eq_of_beq (List.dropWhile_eq_nil_iff.1 none c mem))
  have dots : (stem ++ '.' :: extension).takeWhile (· == '.') = stem.takeWhile (· == '.') := by
    rw [List.takeWhile_append, if_neg]
    intro all
    have whole := congrArg List.length (@List.takeWhile_append_dropWhile _ (· == '.') stem)
    rw [List.length_append, all, Nat.add_eq_left, List.length_eq_zero_iff] at whole
    exact left whole
  unfold splitExtension
  rw [baseChars_of_not_mem slash]
  dsimp only
  rw [drop_length_takeWhile, List.dropWhile_append, if_neg (by simpa using left), dots,
    cutLast?_append_of_not_mem _ point]
  simp

theorem exists_stem_of_splitExtension {path extension : List Char} (slash : '/' ∉ path)
    (h : (splitExtension path).2 = '.' :: extension) : ∃ stem, path = stem ++ '.' :: extension ∧ ∃ c ∈ stem, c ≠ '.' := by
  unfold splitExtension at h
  rw [baseChars_of_not_mem slash] at h
  dsimp only at h
  rw [drop_length_takeWhile] at h
  split at h
  · rename_i stem found cut
    cases h
    have rest := cutLast?_eq_some cut
    refine ⟨path.takeWhile (· == '.') ++ stem, ?_, ?_⟩
    · rw [List.append_assoc, ← rest, List.takeWhile_append_dropWhile]
    · -- after the points at the start there is another character, and it comes before the last point
      have first := List.head?_dropWhile_not (· == '.') path
      rw [rest] at first
      cases stem with
      | nil => exact absurd first (by simp)
      | cons c stem => exact ⟨c, by simp, by simpa using first⟩
  · cases h

/-! ## The shortest form -/

/-- No part of the path steps up or stays where it is. -/
def Straight (path : List Char) : Prop := ∀ part ∈ parts path, part ≠ here ∧ part ≠ up

instance (path : List Char) : Decidable (Straight path) :=
  inferInstanceAs (Decidable (∀ part ∈ parts path, part ≠ here ∧ part ≠ up))

theorem Straight.directoryChars {path : List Char} (h : Straight path) : Straight (directoryChars path) :=
  fun part mem => h part ((directoryChars_spec path).2.subset mem)

theorem Straight.joinChars {directory name : List Char} (hd : Straight directory) (hn : Straight name)
    (h : name.head? ≠ some '/') : Straight (joinChars directory name) := by
  intro part mem
  rw [parts_joinChars directory h, List.mem_append] at mem
  rcases mem with mem | mem
  · exact hd part mem
  · exact hn part mem

/-- What the steps of an absolute path leave are parts of it that neither step up nor stay. -/
theorem of_mem_foldl_step {before after : List Part} (h : ∀ part ∈ before, part ≠ here ∧ part ≠ up) {part : Part}
    (mem : part ∈ after.foldl (step true) before) :
    (part ∈ before ∨ part ∈ after) ∧ part ≠ here ∧ part ≠ up := by
  induction after generalizing before with
  | nil => exact ⟨Or.inl mem, h part mem⟩
  | cons next after ih =>
    rw [List.foldl_cons] at mem
    -- one step keeps straight parts only, each of which was there or is the new one
    have one : ∀ p ∈ step true before next, (p ∈ before ∨ p = next) ∧ p ≠ here ∧ p ≠ up := by
      intro p hp
      unfold step at hp
      split at hp
      · exact ⟨Or.inl hp, h p hp⟩
      · rename_i notHere
        split at hp
        · cases before with
          | nil => cases hp
          | cons last rest =>
            have notUp : (last == up) = false := by simpa using (h last List.mem_cons_self).2
            simp only [notUp] at hp
            have old := List.mem_cons_of_mem last hp
            exact ⟨Or.inl old, h p old⟩
        · rename_i notUp
          rcases List.mem_cons.1 hp with rfl | old
          · exact ⟨Or.inr rfl, by simpa using notHere, by simpa using notUp⟩
          · exact ⟨Or.inl old, h p old⟩
    obtain ⟨origin, straight⟩ := ih (fun p hp => (one p hp).2) mem
    refine ⟨?_, straight⟩
    rcases origin with stepped | later
    · rcases (one part stepped).1 with old | rfl
      · exact Or.inl old
      · exact Or.inr List.mem_cons_self
    · exact Or.inr (List.mem_cons_of_mem _ later)

theorem foldl_step_of_straight {isAbsolute : Bool} {before after : List Part}
    (h : ∀ part ∈ after, part ≠ here ∧ part ≠ up) :
    after.foldl (step isAbsolute) before = after.reverse ++ before := by
  induction after generalizing before with
  | nil => rfl
  | cons part after ih =>
    obtain ⟨⟨notHere, notUp⟩, others⟩ := List.forall_mem_cons.1 h
    have one : step isAbsolute before part = part :: before := by
      simp [step, notHere, notUp]
    rw [List.foldl_cons, one, ih others, List.reverse_cons, List.append_assoc]
    rfl

theorem leadingSlashes_of_absolute {path : List Char} (absolute : isAbsolute path = true) :
    leadingSlashes path = ['/'] ∨ leadingSlashes path = ['/', '/'] := by
  unfold leadingSlashes
  split
  · exact Or.inl rfl
  · exact Or.inr rfl
  · exact Or.inl rfl
  · rename_i none
    cases path with
    | nil => cases absolute
    | cons c rest =>
      have slash : c = '/' := by simpa [isAbsolute] using absolute
      exact absurd (congrArg (· :: rest) slash) (none rest)

theorem parts_append_leading {slashes : List Char} (h : slashes = ['/'] ∨ slashes = ['/', '/']) (rest : List Char) :
    parts (slashes ++ rest) = parts rest := by
  rcases h with rfl | rfl
  · exact parts_cons rest
  · rw [List.cons_append, parts_cons]
    exact parts_cons rest

theorem leadingSlashes_append {slashes rest : List Char} (h : slashes = ['/'] ∨ slashes = ['/', '/'])
    (first : rest.head? ≠ some '/') : leadingSlashes (slashes ++ rest) = slashes := by
  cases rest with
  | nil => rcases h with rfl | rfl <;> rfl
  | cons c rest =>
    have other : c ≠ '/' := by simpa using first
    rcases h with rfl | rfl <;> simp [leadingSlashes, other]

theorem head?_joinWith_ne {pieces : List Part} (h : ∀ part ∈ pieces, part ≠ [] ∧ '/' ∉ part) :
    (joinWith ['/'] pieces).head? ≠ some '/' := by
  cases pieces with
  | nil => simp [joinWith]
  | cons part pieces =>
    obtain ⟨nonempty, slash⟩ := h part List.mem_cons_self
    have head : (joinWith ['/'] (part :: pieces)).head? = part.head? := by
      cases pieces with
      | nil => rw [joinWith, List.intercalate_singleton]
      | cons next pieces => rw [joinWith_cons_sep, List.head?_append_of_ne_nil _ nonempty]
    rw [head]
    exact fun first => slash (List.mem_of_mem_head? first)

theorem getLast?_joinWith_ne {pieces : List Part} (h : ∀ part ∈ pieces, part ≠ [] ∧ '/' ∉ part) :
    (joinWith ['/'] pieces).getLast? ≠ some '/' := by
  induction pieces with
  | nil => simp [joinWith]
  | cons part pieces ih =>
    obtain ⟨⟨nonempty, slash⟩, others⟩ := List.forall_mem_cons.1 h
    cases pieces with
    | nil =>
      rw [joinWith, List.intercalate_singleton]
      exact fun last => slash (List.mem_of_mem_getLast? last)
    | cons next pieces =>
      have rest : joinWith ['/'] (next :: pieces) ≠ [] := by
        intro none
        have parts := parts_joinWith others
        rw [none] at parts
        cases parts
      rw [joinWith_cons_sep, List.getLast?_append_of_ne_nil _ (List.cons_ne_nil _ _), List.getLast?_cons_of_ne_nil rest]
      exact ih others

theorem normalParts_of_straight {path : List Char} (straight : Straight path) : normalParts path = parts path := by
  rw [normalParts, foldl_step_of_straight straight, List.append_nil, List.reverse_reverse]

section Absolute

variable {path : List Char} (absolute : isAbsolute path = true)
include absolute

theorem normalParts_spec : ∀ part ∈ normalParts path, (part ≠ [] ∧ '/' ∉ part) ∧ part ≠ here ∧ part ≠ up := by
  intro part mem
  rw [normalParts, absolute, List.mem_reverse] at mem
  obtain ⟨origin, straight⟩ := of_mem_foldl_step (by simp) mem
  rcases origin with none | mem
  · cases none
  · exact ⟨of_mem_parts mem, straight⟩

theorem normalizeChars_eq : normalizeChars path = leadingSlashes path ++ joinWith ['/'] (normalParts path) := by
  unfold normalizeChars
  rcases leadingSlashes_of_absolute absolute with leading | leading <;> rw [leading] <;> rfl

/-- The shortest form of an absolute path has the parts that its steps leave. -/
theorem parts_normalizeChars :
    parts (normalizeChars path) = normalParts path ∧ Straight (normalizeChars path) ∧
      isAbsolute (normalizeChars path) = true := by
  have proper := fun part mem => (normalParts_spec absolute part mem).1
  have parts_eq : parts (normalizeChars path) = normalParts path := by
    rw [normalizeChars_eq absolute, parts_append_leading (leadingSlashes_of_absolute absolute), parts_joinWith proper]
  refine ⟨parts_eq, ?_, ?_⟩
  · intro part mem
    exact (normalParts_spec absolute part (parts_eq ▸ mem)).2
  · rw [normalizeChars_eq absolute]
    rcases leadingSlashes_of_absolute absolute with leading | leading <;> rw [leading] <;> rfl

/-- The shortest form is its own shortest form. -/
theorem normalizeChars_normalizeChars : normalizeChars (normalizeChars path) = normalizeChars path := by
  obtain ⟨parts, straight, again⟩ := parts_normalizeChars absolute
  have first := head?_joinWith_ne fun part mem => (normalParts_spec absolute part mem).1
  have leading : leadingSlashes (normalizeChars path) = leadingSlashes path := by
    rw [normalizeChars_eq absolute, leadingSlashes_append (leadingSlashes_of_absolute absolute) first]
  rw [normalizeChars_eq again, leading, normalParts_of_straight straight, parts, ← normalizeChars_eq absolute]

end Absolute

theorem baseChars_normalizeChars_ne {path : List Char} (absolute : isAbsolute path = true) (some : normalParts path ≠ []) :
    baseChars (normalizeChars path) ≠ [] := by
  have proper := fun part mem => (normalParts_spec absolute part mem).1
  have nonempty : joinWith ['/'] (normalParts path) ≠ [] := by
    intro none
    rw [← parts_joinWith proper, none] at some
    exact some rfl
  intro none
  have ends := ends_of_baseChars none
  rw [normalizeChars_eq absolute, List.getLast?_append_of_ne_nil _ nonempty] at ends
  rcases ends with none | slash
  · exact nonempty (List.append_eq_nil_iff.1 none).2
  · exact getLast?_joinWith_ne proper slash

/-- What is seen from an absolute path is absolute. -/
theorem isAbsolute_seen {current : List Char} (absolute : isAbsolute current = true) (path : List Char) :
    isAbsolute (if isAbsolute path then path else joinChars current path) = true := by
  split
  · assumption
  · rename_i relative
    rw [isAbsolute_joinChars current (by simpa [isAbsolute] using relative)]
    exact absolute

theorem absoluteChars_spec {current : List Char} (absolute : isAbsolute current = true) (path : List Char) :
    Straight (absoluteChars current path) ∧ isAbsolute (absoluteChars current path) = true ∧
      absoluteChars current (absoluteChars current path) = absoluteChars current path := by
  have whole := isAbsolute_seen absolute path
  obtain ⟨-, straight, again⟩ := parts_normalizeChars whole
  refine ⟨straight, again, ?_⟩
  rw [absoluteChars, absoluteChars, if_pos again, normalizeChars_normalizeChars whole]

end Path

end CallAtlas
