import CallAtlas.Files.Tree
import Mathlib.Data.List.Basic
import Mathlib.Logic.Relation

/-!
# Trees without links

A tree is plain if it has no links, every entry stands in a directory, and no name is one of the two that paths use for
steps. All that ever happens to it is made of two kinds of changes: a new directory where nothing was, and a file with new
contents where no directory is. What such changes keep is said here once: a plain tree stays plain, and directories and
files stay what they are.
-/

namespace CallAtlas.Files

/-- A name that leads from a directory to an entry of it, being neither of the two for steps nor too long. -/
structure Fits (name : String) : Prop where
  notHere : name ≠ "."
  notUp : name ≠ ".."
  short : name.utf8ByteSize ≤ Tree.maxNameBytes

/-- A name that an entry can have: one part of a path, and one that fits. -/
structure ProperName (name : String) : Prop extends Fits name where
  isName : isName name = true
  noNull : '\x00' ∉ name.toList

namespace Tree

/-! ## Entries by place -/

section Entries

variable {t : Tree} {place : Location} {entry : Entry}

theorem get?_nil (t : Tree) : t.get? [] = some .directory := rfl

theorem get?_eq_lookup (t : Tree) (nonempty : place ≠ []) : t.get? place = t.entries.lookup place := by
  rw [get?, if_neg (by simpa using nonempty)]

theorem mem_entries_iff (nonempty : place ≠ []) : (place, entry) ∈ t.entries ↔ t.get? place = some entry := by
  rw [get?_eq_lookup t nonempty]
  constructor
  · intro mem
    obtain ⟨front, back, split⟩ := List.append_of_mem mem
    refine List.lookup_eq_some_iff.2 ⟨front, back, split, fun e he => ?_⟩
    have distinct := t.distinct
    rw [split, List.map_append, List.nodup_append] at distinct
    have apart := distinct.2.2 e.1 (List.mem_map_of_mem he) place (by simp)
    simpa using Ne.symm apart
  · intro found
    obtain ⟨front, back, split, -⟩ := List.lookup_eq_some_iff.1 found
    rw [split]
    simp

theorem all_isName_of_get? (h : t.get? place = some entry) : place.all isName = true := by
  by_cases empty : place = []
  · rw [empty]
    rfl
  · exact t.named _ ((mem_entries_iff empty).2 h)

theorem lookup_cons_eq (other standing : Location) (entry : Entry) (entries : List (Location × Entry)) :
    ((standing, entry) :: entries).lookup other = if other = standing then some entry else entries.lookup other := by
  rw [List.lookup_cons]
  by_cases same : other = standing
  · simp [same]
  · rw [beq_false_of_ne same, if_neg same]

theorem lookup_replace (entries : List (Location × Entry)) (place : Location) (entry : Entry) (other : Location) :
    (replace entries place entry).lookup other =
      if other = place then (entries.lookup other).map fun _ => entry else entries.lookup other := by
  induction entries with
  | nil => simp [replace]
  | cons e entries ih =>
    obtain ⟨standing, old⟩ := e
    have unfolded : replace ((standing, old) :: entries) place entry =
        (if standing == place then (place, entry) else (standing, old)) :: replace entries place entry := rfl
    rw [unfolded, lookup_cons_eq]
    by_cases here : standing = place
    · subst here
      rw [if_pos (beq_self_eq_true _), lookup_cons_eq, ih]
      by_cases asked : other = standing <;> simp [asked]
    · have away : (standing == place) = false := beq_false_of_ne here
      rw [away, lookup_cons_eq, ih]
      by_cases asked : other = standing
      · simp [asked, here]
      · simp [asked]

theorem current_put (t : Tree) (place : Location) (entry : Entry) : (t.put place entry).current = t.current := by
  unfold put
  split
  · split <;> rfl
  · rfl

theorem get?_put (names : place.all isName = true) (nonempty : place ≠ []) (entry : Entry) (other : Location) :
    (t.put place entry).get? other = if other = place then some entry else t.get? other := by
  by_cases root : other = []
  · rw [root, if_neg (Ne.symm nonempty)]
    rfl
  · rw [get?_eq_lookup _ root, get?_eq_lookup _ root]
    unfold put
    rw [dif_pos names]
    split
    · rename_i taken
      rw [lookup_replace]
      split
      · rename_i same
        obtain ⟨old, found⟩ : ∃ old, t.entries.lookup other = some old := by
          refine Option.isSome_iff_exists.1 (List.lookup_isSome_iff.2 ?_)
          obtain ⟨e, mem, standing⟩ := List.any_eq_true.1 taken
          exact ⟨e, mem, beq_iff_eq.2 (same.trans (eq_of_beq standing).symm)⟩
        rw [found]
        rfl
      · rfl
    · rename_i free
      rw [List.lookup_append, lookup_cons_eq]
      split
      · rename_i same
        have none : t.entries.lookup other = none := by
          refine List.lookup_eq_none_iff.2 fun e mem => ?_
          rw [bne_iff_ne, same]
          intro standing
          exact free (List.any_eq_true.2 ⟨e, mem, by simp [standing]⟩)
        rw [none]
        rfl
      · exact Option.or_none

end Entries

/-! ## Plain trees and their changes -/

/-- No links, every entry in a directory, proper names only, and relative paths start from a directory. -/
structure Plain (t : Tree) : Prop where
  noLinks : ∀ place target, t.get? place ≠ some (.link target)
  proper : ∀ place entry, t.get? place = some entry → ∀ name ∈ place, ProperName name
  inside : ∀ place name entry, t.get? (place ++ [name]) = some entry → t.get? place = some .directory
  current : t.get? t.current = some .directory

instance (name : String) : Decidable (ProperName name) :=
  decidable_of_iff
    ((name ≠ "." ∧ name ≠ ".." ∧ name.utf8ByteSize ≤ maxNameBytes) ∧ isName name = true ∧ '\x00' ∉ name.toList)
    ⟨fun h => ⟨⟨h.1.1, h.1.2.1, h.1.2.2⟩, h.2.1, h.2.2⟩,
      fun h => ⟨⟨h.notHere, h.notUp, h.short⟩, h.isName, h.noNull⟩⟩

/-- An entry of a plain tree: no link, in a directory, and with proper names on the way to it. -/
def isPlainEntry (t : Tree) (e : Location × Entry) : Bool :=
  (match e.2 with
    | .link _ => false
    | _ => true) &&
  e.1.all (fun name => decide (ProperName name)) && t.get? e.1.dropLast == some .directory

/-- Whether a tree is plain can be read off its entries. -/
theorem plain_of_all (t : Tree) (entries : t.entries.all t.isPlainEntry = true)
    (current : t.get? t.current = some .directory) : t.Plain := by
  have each : ∀ place entry, t.get? place = some entry → place ≠ [] → t.isPlainEntry (place, entry) = true :=
    fun place entry found nonempty => List.all_eq_true.1 entries _ ((mem_entries_iff nonempty).2 found)
  simp only [isPlainEntry, Bool.and_eq_true, List.all_eq_true, decide_eq_true_eq, beq_iff_eq] at each
  constructor
  case noLinks =>
    intro place target found
    by_cases empty : place = []
    · rw [empty, get?_nil] at found
      cases found
    · exact Bool.noConfusion (each place _ found empty).1.1
  case proper =>
    intro place entry found
    by_cases empty : place = []
    · rw [empty]
      exact fun _ mem => absurd mem List.not_mem_nil
    · exact (each place _ found empty).1.2
  case inside =>
    intro place name entry found
    have above := (each _ _ found (by simp)).2
    rwa [List.dropLast_concat] at above
  case current => exact current

/-- One change: a directory where nothing was, or new contents for a place without a directory, if a file may be
written there. -/
inductive Change (mayWrite : Location → Prop) (t : Tree) : Tree → Prop where
  | directory {place : Location} {name : String} (inside : t.get? place = some .directory)
      (free : t.get? (place ++ [name]) = none) (proper : ProperName name) :
      Change mayWrite t (t.put (place ++ [name]) .directory)
  | file {place : Location} {name : String} {bytes : List UInt8} (inside : t.get? place = some .directory)
      (noDirectory : t.get? (place ++ [name]) ≠ some .directory) (proper : ProperName name)
      (allowed : mayWrite (place ++ [name])) : Change mayWrite t (t.put (place ++ [name]) (.file bytes))

/-- Changes one after the other. -/
abbrev Changes (mayWrite : Location → Prop) : Tree → Tree → Prop := Relation.ReflTransGen (Change mayWrite)

section Changes

variable {t u : Tree} {mayWrite : Location → Prop} {place : Location} {name : String}

theorem get?_put_inside (inside : t.get? place = some .directory) (proper : ProperName name) (entry : Entry)
    (other : Location) :
    (t.put (place ++ [name]) entry).get? other = if other = place ++ [name] then some entry else t.get? other := by
  refine get?_put ?_ (by simp) entry other
  rw [List.all_append, all_isName_of_get? inside, List.all_cons, proper.isName]
  rfl

/-- What one change does: a new entry at one place, which is no link and covers no directory. -/
theorem Change.cases_at (h : Change mayWrite t u) :
    ∃ place name entry, t.get? place = some .directory ∧ ProperName name ∧
      (∀ other, u.get? other = if other = place ++ [name] then some entry else t.get? other) ∧
      u.current = t.current ∧
      (entry = .directory ∧ t.get? (place ++ [name]) = none ∨
        (∃ bytes, entry = .file bytes) ∧ t.get? (place ++ [name]) ≠ some .directory ∧ mayWrite (place ++ [name])) := by
  cases h with
  | directory inside free proper =>
    exact ⟨_, _, _, inside, proper, get?_put_inside inside proper _, current_put .., Or.inl ⟨rfl, free⟩⟩
  | file inside noDirectory proper allowed =>
    exact ⟨_, _, _, inside, proper, get?_put_inside inside proper _, current_put ..,
      Or.inr ⟨⟨_, rfl⟩, noDirectory, allowed⟩⟩

theorem Change.directory_stays (h : Change mayWrite t u) {other : Location} (was : t.get? other = some .directory) :
    u.get? other = some .directory := by
  obtain ⟨place, name, entry, -, -, lookup, -, kind⟩ := h.cases_at
  rw [lookup, if_neg]
  · exact was
  · rintro rfl
    rcases kind with ⟨-, free⟩ | ⟨-, noDirectory, -⟩
    · rw [was] at free
      cases free
    · exact noDirectory was

theorem Plain.change (plain : t.Plain) (h : Change mayWrite t u) : u.Plain := by
  obtain ⟨place, name, entry, inside, proper, lookup, current, kind⟩ := h.cases_at
  constructor
  case noLinks =>
    intro other target
    rw [lookup]
    split
    · rcases kind with ⟨rfl, -⟩ | ⟨⟨bytes, rfl⟩, -⟩ <;> simp
    · exact plain.noLinks other target
  case proper =>
    intro other found
    rw [lookup]
    split
    · rename_i same
      rintro - n mem
      rw [same, List.mem_append, List.mem_singleton] at mem
      rcases mem with mem | rfl
      · exact plain.proper _ _ inside n mem
      · exact proper
    · exact plain.proper other found
  case inside =>
    intro other n found
    rw [lookup]
    intro present
    refine h.directory_stays ?_
    split at present
    · rename_i same
      rw [List.append_inj_left' same rfl]
      exact inside
    · exact plain.inside other n found present
  case current =>
    rw [current]
    exact h.directory_stays plain.current

theorem Plain.changes (plain : t.Plain) (h : Changes mayWrite t u) : u.Plain := by
  induction h with
  | refl => exact plain
  | tail _ step ih => exact ih.change step

theorem Changes.current (h : Changes mayWrite t u) : u.current = t.current := by
  induction h with
  | refl => rfl
  | tail _ step ih =>
    obtain ⟨-, -, -, -, -, -, current, -⟩ := step.cases_at
    rw [current, ih]

theorem Changes.directory_stays (h : Changes mayWrite t u) {other : Location} (was : t.get? other = some .directory) :
    u.get? other = some .directory := by
  induction h with
  | refl => exact was
  | tail _ step ih => exact step.directory_stays ih

theorem Changes.file_stays (h : Changes mayWrite t u) {other : Location} {bytes : List UInt8}
    (was : t.get? other = some (.file bytes)) : ∃ bytes, u.get? other = some (.file bytes) := by
  induction h with
  | refl => exact ⟨bytes, was⟩
  | tail _ step ih =>
    obtain ⟨bytes, was⟩ := ih
    obtain ⟨place, name, entry, -, -, lookup, -, kind⟩ := step.cases_at
    rw [lookup]
    split
    · rename_i same
      rcases kind with ⟨-, free⟩ | ⟨⟨new, rfl⟩, -⟩
      · rw [← same, was] at free
        cases free
      · exact ⟨new, rfl⟩
    · exact ⟨bytes, was⟩

/-- Where no file may be written, nothing happens to a file, and nothing but a directory can be new. -/
theorem Changes.elsewhere (h : Changes mayWrite t u) {other : Location} (notThere : ¬mayWrite other) :
    u.get? other = t.get? other ∨ t.get? other = none ∧ u.get? other = some .directory := by
  induction h with
  | refl => exact Or.inl rfl
  | tail _ step ih =>
    obtain ⟨place, name, entry, -, -, lookup, -, kind⟩ := step.cases_at
    rw [lookup]
    split
    · rename_i same
      rcases kind with ⟨rfl, free⟩ | ⟨-, -, allowed⟩
      · rw [← same] at free
        rcases ih with ih | ⟨-, ih⟩
        · exact Or.inr ⟨ih ▸ free, rfl⟩
        · rw [free] at ih
          cases ih
      · exact absurd (same ▸ allowed) notThere
    · exact ih

theorem Changes.file_iff (h : Changes mayWrite t u) {other : Location} (notThere : ¬mayWrite other)
    (bytes : List UInt8) : u.get? other = some (.file bytes) ↔ t.get? other = some (.file bytes) := by
  rcases h.elsewhere notThere with same | ⟨free, new⟩
  · rw [same]
  · simp [free, new]

theorem Changes.mono {mayToo : Location → Prop} (h : Changes mayWrite t u) (le : ∀ place, mayWrite place → mayToo place) :
    Changes mayToo t u := by
  refine Relation.ReflTransGen.mono (fun a b step => ?_) _ _ h
  cases step with
  | directory inside free proper => exact .directory inside free proper
  | file inside noDirectory proper allowed => exact .file inside noDirectory proper (le _ allowed)

end Changes

end Tree

end CallAtlas.Files
