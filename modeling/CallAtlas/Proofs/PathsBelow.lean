import CallAtlas.Proofs.Paths

/-!
# Paths seen from a root

The way from a root to a path below it is made of the parts that the path has more than the root, so joined to the root it
leads back. A path that is not below is shown whole, which is found out by the two points at the start of the way. So a
name right below the root that starts with two points is taken for a step up, and what it leads to is shown whole too.
-/

namespace CallAtlas.Path

open Text

variable {path root : List Char}

/-- Starts with one slash, or with so many that they count as one. -/
def FromRoot (path : List Char) : Prop := leadingSlashes path = ['/']

/-- The shortest form of the path is that of the root, or goes on below it. -/
def Below (path root : List Char) : Prop := parts (normalizeChars root) <+: parts (normalizeChars path)

/-- The path goes on below the root with a name that starts with two points. -/
def SeemsAbove (path root : List Char) : Prop :=
  ∃ name rest, parts (normalizeChars path) = parts (normalizeChars root) ++ name :: rest ∧ up <+: name

instance (path : List Char) : Decidable (FromRoot path) := inferInstanceAs (Decidable (_ = _))

instance (path root : List Char) : Decidable (Below path root) := inferInstanceAs (Decidable (_ <+: _))

theorem FromRoot.cases_start (h : FromRoot path) : path = ['/'] ∨ (∃ c rest, path = '/' :: c :: rest ∧ c ≠ '/') ∨
    ∃ rest, path = '/' :: '/' :: '/' :: rest := by
  unfold FromRoot leadingSlashes at h
  split at h
  · exact Or.inr (Or.inr ⟨_, rfl⟩)
  · cases h
  · rename_i rest _ notTwo
    cases rest with
    | nil => exact Or.inl rfl
    | cons c rest => exact Or.inr (Or.inl ⟨c, rest, rfl, fun same => notTwo rest (by rw [same])⟩)
  · cases h

theorem FromRoot.isAbsolute (h : FromRoot path) : isAbsolute path = true := by
  rcases h.cases_start with rfl | ⟨c, rest, rfl, -⟩ | ⟨rest, rfl⟩ <;> rfl

/-- Goes on with what does not start with a slash. -/
theorem FromRoot.joinChars (h : FromRoot root) {name : List Char} (relative : name.head? ≠ some '/') :
    FromRoot (joinChars root name) := by
  obtain ⟨back, joined, first⟩ : ∃ back, Path.joinChars root name = root ++ back ∧
      (root = ['/'] → back.head? ≠ some '/') := by
    rcases joinChars_eq root relative with ⟨joined, -⟩ | ⟨joined, -⟩
    · exact ⟨name, joined, fun _ => relative⟩
    · refine ⟨'/' :: name, joined, ?_⟩
      rintro rfl
      simp [Path.joinChars, relative] at joined
  rw [joined]
  rcases h.cases_start with rfl | ⟨c, rest, rfl, other⟩ | ⟨rest, rfl⟩
  · cases back with
    | nil => rfl
    | cons c back =>
      have other : c ≠ '/' := by simpa using first rfl
      simp [FromRoot, leadingSlashes, other]
  · simp [FromRoot, leadingSlashes, other]
  · rfl

/-! ## The way to a path -/

theorem dropCommon_spec (start path : List Part) :
    ∃ common, start = common ++ (dropCommon start path).1 ∧ path = common ++ (dropCommon start path).2 := by
  fun_induction dropCommon start path with
  | case1 a as b bs same ih =>
    obtain ⟨common, left, right⟩ := ih
    exact ⟨a :: common, by rw [List.cons_append, ← left], by rw [List.cons_append, ← right, eq_of_beq same]⟩
  | case2 => exact ⟨[], rfl, rfl⟩
  | case3 => exact ⟨[], rfl, rfl⟩

theorem wayTo_append (start rest : List Part) : wayTo start (start ++ rest) = rest := by
  have none : dropCommon start (start ++ rest) = ([], rest) := by
    induction start with
    | nil => cases rest <;> rfl
    | cons part start ih => rw [List.cons_append, dropCommon, if_pos (beq_self_eq_true _), ih]
  rw [wayTo, none]
  rfl

/-- The way to what is not below goes up first. -/
theorem wayTo_of_not_isPrefix {start path : List Part} (h : ¬start <+: path) : ∃ rest, wayTo start path = up :: rest := by
  obtain ⟨common, left, right⟩ := dropCommon_spec start path
  have unfolded : wayTo start path = (dropCommon start path).1.map (fun _ => up) ++ (dropCommon start path).2 := rfl
  rw [unfolded]
  cases ups : (dropCommon start path).1 with
  | nil =>
    rw [ups, List.append_nil] at left
    exact absurd ⟨_, (right.trans (by rw [← left])).symm⟩ h
  | cons part ups => exact ⟨_, rfl⟩

theorem up_isPrefix_joinWith_iff {name : Part} (nonempty : name ≠ []) (notHere : name ≠ here) (rest : List Part) :
    up <+: joinWith ['/'] (name :: rest) ↔ up <+: name := by
  obtain ⟨back, whole⟩ : ∃ back, joinWith ['/'] (name :: rest) = name ++ back := by
    cases rest with
    | nil => exact ⟨[], by rw [joinWith, List.intercalate_singleton, List.append_nil]⟩
    | cons next rest => exact ⟨_, joinWith_cons_sep '/' name next rest⟩
  rw [whole]
  obtain _ | ⟨c, _ | ⟨d, name⟩⟩ := name
  · exact absurd rfl nonempty
  · -- a single character is no point
    have other : '.' ≠ c := fun same => notHere (congrArg (fun c => [c]) same.symm)
    simp [up, List.cons_prefix_cons, other]
  · simp [up, List.cons_prefix_cons]

/-! ## Paths from the root -/

theorem normalizeChars_of_fromRoot (h : FromRoot path) : normalizeChars path = '/' :: joinWith ['/'] (normalParts path) := by
  rw [normalizeChars_eq h.isAbsolute, h]
  rfl

theorem relativeChars_eq (fromRoot : FromRoot path) (rooted : FromRoot root) (current : List Char) :
    relativeChars current path root =
      let way := wayTo (parts (normalizeChars root)) (parts (normalizeChars path))
      if up <+: joinWith ['/'] way then normalizeChars path else if way = [] then here else joinWith ['/'] way := by
  have given : path.isEmpty = false := by
    cases path with
    | nil => cases fromRoot
    | cons c path => rfl
  simp only [relativeChars, absoluteChars, fromRoot.isAbsolute, rooted.isAbsolute, if_true, given, Bool.false_or]
  by_cases none : wayTo (parts (normalizeChars root)) (parts (normalizeChars path)) = []
  · simp [none, joinWith, up, here]
  · simp [none]

/-- Joined to the root, a name leads to the path whose parts it adds. -/
theorem normalizeChars_joinChars (fromRoot : FromRoot path) (rooted : FromRoot root) {name : List Char}
    (relative : name.head? ≠ some '/')
    (adds : (parts name).foldl (step true) (normalParts root).reverse = (normalParts path).reverse) :
    normalizeChars (joinChars root name) = normalizeChars path := by
  have joined := rooted.joinChars relative
  have steps : normalParts (joinChars root name) = normalParts path := by
    rw [normalParts, joined.isAbsolute, parts_joinChars root relative, List.foldl_append]
    rw [normalParts, rooted.isAbsolute, List.reverse_reverse] at adds
    rw [adds, List.reverse_reverse]
  rw [normalizeChars_of_fromRoot joined, normalizeChars_of_fromRoot fromRoot, steps]

/-- What a path is shown as from a root that it is below. -/
structure LeadsBack (path root way : List Char) : Prop where
  isRelative : isAbsolute way = false
  noUp : up ∉ parts way
  back : normalizeChars (joinChars root way) = normalizeChars path

theorem leadsBack_of_parts (fromRoot : FromRoot path) (rooted : FromRoot root) {rest : List Part}
    (whole : parts (normalizeChars path) = parts (normalizeChars root) ++ rest) :
    LeadsBack path root (if rest = [] then here else joinWith ['/'] rest) := by
  obtain ⟨pathParts, straight, -⟩ := parts_normalizeChars fromRoot.isAbsolute
  obtain ⟨rootParts, -, -⟩ := parts_normalizeChars rooted.isAbsolute
  have proper : ∀ part ∈ rest, (part ≠ [] ∧ '/' ∉ part) ∧ part ≠ here ∧ part ≠ up := by
    intro part mem
    have mem : part ∈ parts (normalizeChars path) := whole ▸ List.mem_append_right _ mem
    exact ⟨of_mem_parts mem, straight part mem⟩
  rw [pathParts, rootParts] at whole
  split
  · rename_i none
    rw [none, List.append_nil] at whole
    refine ⟨rfl, by decide, normalizeChars_joinChars fromRoot rooted (by decide) ?_⟩
    rw [whole]
    rfl
  · have names := parts_joinWith fun part mem => (proper part mem).1
    have head := head?_joinWith_ne fun part mem => (proper part mem).1
    refine ⟨by simpa [isAbsolute] using head, ?_, normalizeChars_joinChars fromRoot rooted head ?_⟩
    · rw [names]
      exact fun mem => (proper up mem).2.2 rfl
    · rw [names, foldl_step_of_straight fun part mem => (proper part mem).2, whole, List.reverse_append]

/-- **Relative below the root, whole elsewhere**: the path is shown by a way that leads back to it, if it is the root or
below it and does not go on there with a name that starts with two points. Else its shortest form is shown. -/
theorem shown_from_root (current path root : String) (fromRoot : FromRoot path.toList) (rooted : FromRoot root.toList) :
    (Below path.toList root.toList → ¬SeemsAbove path.toList root.toList →
      LeadsBack path.toList root.toList (relative current path root).toList) ∧
    (¬Below path.toList root.toList ∨ SeemsAbove path.toList root.toList →
      relative current path root = String.ofList (normalizeChars path.toList)) := by
  rw [relative, String.toList_ofList, relativeChars_eq fromRoot rooted]
  dsimp only
  obtain ⟨-, straight, -⟩ := parts_normalizeChars fromRoot.isAbsolute
  by_cases below : Below path.toList root.toList
  · -- the way is what the path has more, and its text starts with two points just if its first name does
    obtain ⟨rest, whole⟩ := below
    rw [← whole, wayTo_append]
    have starts : up <+: joinWith ['/'] rest ↔ SeemsAbove path.toList root.toList := by
      simp only [SeemsAbove, ← whole, List.append_cancel_left_eq]
      cases rest with
      | nil => simp [joinWith, up]
      | cons name rest =>
        have mem : name ∈ parts (normalizeChars path.toList) := by simp [← whole]
        rw [up_isPrefix_joinWith_iff (of_mem_parts mem).1 (straight name mem).1]
        simp
    constructor
    · intro _ notUp
      rw [if_neg (mt starts.1 notUp)]
      exact leadsBack_of_parts fromRoot rooted whole.symm
    · intro apart
      rw [if_pos (starts.2 (apart.resolve_left (not_not_intro ⟨rest, whole⟩)))]
  · obtain ⟨rest, way⟩ := wayTo_of_not_isPrefix below
    rw [way, if_pos ((up_isPrefix_joinWith_iff (by decide) (by decide) rest).2 List.prefix_rfl)]
    exact ⟨fun inside => absurd inside below, fun _ => rfl⟩

theorem shown_from_root_sample :
    LeadsBack "/p/./a//b/../c".toList "/q/../p/".toList (relative "/W" "/p/./a//b/../c" "/q/../p/").toList ∧
      relative "/W" "/pq/./a" "/p" = String.ofList (normalizeChars "/pq/./a".toList) := by
  constructor
  · refine (shown_from_root "/W" "/p/./a//b/../c" "/q/../p/" (by decide) (by decide)).1 (by decide) ?_
    rintro ⟨name, rest, whole, points⟩
    have split : parts (normalizeChars "/p/./a//b/../c".toList) = [['p'], ['a'], ['c']] ∧
        parts (normalizeChars "/q/../p/".toList) = [['p']] := by decide
    rw [split.1, split.2] at whole
    cases whole
    exact absurd points (by decide)
  · exact (shown_from_root "/W" "/pq/./a" "/p" (by decide) (by decide)).2 (Or.inl (by decide))

/-- What goes on below the root with two points is below it, and yet shown whole. -/
theorem points_shown_whole : Below "/p/..a".toList "/p".toList ∧ relative "/W" "/p/..a" "/p" = "/p/..a" ∧
    ¬LeadsBack "/p/..a".toList "/p".toList (relative "/W" "/p/..a" "/p").toList := by
  have whole : relative "/W" "/p/..a" "/p" = "/p/..a" := by decide
  refine ⟨by decide, whole, fun back => ?_⟩
  rw [whole] at back
  exact absurd back.isRelative (by decide)

end CallAtlas.Path
