import CallAtlas.Files.Note
import CallAtlas.Proofs.Ways

/-!
# Storing files

What the operations that change a plain tree do to it. Making directories only adds directories and leaves alone what is
there; writing a file changes that one place. A file of the same digest is not written again.
-/

namespace CallAtlas.Files.Tree

variable {t u : Tree} {mayWrite : Location → Prop} {path directory name text : String} {place : Location}

/-! ## Directories -/

theorem makeDirectory_changes (plain : t.Plain) (h : t.makeDirectory path = .ok u) : Change (fun _ => False) t u := by
  obtain ⟨spot, found, h⟩ := bind_eq_ok.1 h
  have stands := ((find_eq_ok_iff plain false).1 found).stands plain
  split at h
  · cases h
    obtain ⟨inside, free, proper⟩ := stands
    exact .directory inside free proper
  · cases h

section Making

-- what holds from before to after each directory that is made
variable {R : Tree → Tree → Prop} (refl : ∀ t, R t t) (trans : ∀ {t u v}, R t u → R u v → R t v)
  (step : ∀ {t u path}, t.makeDirectory path = .ok u → R t u)
include refl step

theorem makeDirectoryOnce_keeps (t : Tree) (path : String) : R t (t.makeDirectoryOnce path).1 := by
  unfold makeDirectoryOnce
  split
  · rename_i made
    exact step made
  · split <;> exact refl t

include trans

theorem makeDirectoriesFrom_keeps (t : Tree) (rounds : Nat) (path : String) :
    R t (t.makeDirectoriesFrom rounds path).1 := by
  induction rounds generalizing path with
  | zero => exact makeDirectoryOnce_keeps refl step t path
  | succ rounds ih =>
    have above := ih (splitLast path).1
    -- the directory itself comes after those above it
    have finished : R t (makeDirectoriesFrom.finish path
        (t.makeDirectoriesFrom rounds (splitLast path).1).1 (splitLast path).2).1 := by
      unfold makeDirectoriesFrom.finish
      split
      · exact above
      · exact trans above (makeDirectoryOnce_keeps refl step _ path)
    unfold makeDirectoriesFrom
    dsimp only
    split
    · split
      · rename_i made
        rw [made] at above finished
        split
        · exact finished
        · exact above
      · rename_i made
        rw [made] at finished
        exact finished
    · exact makeDirectoryOnce_keeps refl step t path

end Making

theorem makeDirectories_changes (plain : t.Plain) (path : String) :
    Changes (fun _ => False) t (t.makeDirectories path).1 :=
  makeDirectoriesFrom_keeps (R := fun t u => t.Plain → Changes (fun _ => False) t u) (fun _ _ => .refl)
    (fun h h' plain => (h plain).trans (h' (plain.changes (h plain))))
    (fun made plain => .single (makeDirectory_changes plain made)) t _ path plain

theorem makeDirectoryOnce_of_directory (plain : t.Plain) (h : t.Reaches path (.taken place .directory)) :
    t.makeDirectoryOnce path = (t, none) := by
  have refused : t.makeDirectory path = .error .exists := by
    rw [makeDirectory, (find_eq_ok_iff plain false).2 h]
    rfl
  rw [makeDirectoryOnce, refused]
  exact if_pos ((isDirectory_iff plain).2 ⟨place, h⟩)

/-- What stands above a path is the front of it. -/
theorem splitLast_prefix (path : String) :
    (splitLast path).1.toList <+: path.toList ∧ Path.parts (splitLast path).1.toList <+: Path.parts path.toList := by
  have once : ∀ path : String, (Path.directory path).toList <+: path.toList ∧
      Path.parts (Path.directory path).toList <+: Path.parts path.toList := by
    intro path
    rw [Path.directory, String.toList_ofList]
    exact Path.directoryChars_spec path.toList
  unfold splitLast
  split
  · exact ⟨(once _).1.trans (once _).1, (once _).2.trans (once _).2⟩
  · exact once path

/-- Above a directory there are directories. -/
theorem Reaches.above (h : t.Reaches path (.taken place .directory)) (nonempty : (splitLast path).1 ≠ "") :
    ∃ place, t.Reaches (splitLast path).1 (.taken place .directory) := by
  obtain ⟨⟨rest, whole⟩, parts⟩ := splitLast_prefix path
  have nonempty : (splitLast path).1.toList ≠ [] := by simpa using nonempty
  have start : t.start path = t.start (splitLast path).1 := by
    unfold start Path.isAbsolute
    rw [← whole, List.head?_append_of_ne_nil _ nonempty]
  obtain ⟨back, split⟩ := parts.map String.ofList
  have leads := h.leads
  rw [start, names, ← split] at leads
  obtain ⟨above, front, -⟩ := leads.exists_front fun _ => ⟨place, rfl⟩
  refine ⟨above, fun null => h.noNull ?_, nonempty, front, by simp⟩
  rw [← whole]
  exact List.mem_append_left _ null

/-- A directory that is there is not made again. -/
theorem makeDirectories_of_directory (plain : t.Plain) (h : t.Reaches path (.taken place .directory)) :
    t.makeDirectories path = (t, none) := by
  unfold makeDirectories makeDirectoriesFrom
  dsimp only
  rw [if_neg]
  · exact makeDirectoryOnce_of_directory plain h
  · intro missing
    simp only [Bool.and_eq_true, bne_iff_ne, ne_eq, Bool.not_eq_true'] at missing
    obtain ⟨above, reaches⟩ := h.above missing.1.1
    rw [(exists?_iff plain).2 ⟨above, _, reaches⟩] at missing
    exact Bool.noConfusion missing.2

/-! ## Files -/

theorem Plain.exists_of_file (plain : t.Plain) {bytes : List UInt8} (h : t.get? place = some (.file bytes)) :
    ∃ above name, place = above ++ [name] ∧ t.get? above = some .directory ∧ ProperName name := by
  rcases List.eq_nil_or_concat place with rfl | ⟨above, name, rfl⟩
  · cases h
  · rw [List.concat_eq_append] at h ⊢
    exact ⟨above, name, rfl, plain.inside _ _ _ h, plain.proper _ _ h name (by simp)⟩

/-- A file can be put wherever no directory is. -/
theorem Spot.Stands.change {spot : Spot} (stands : spot.Stands t) (plain : t.Plain)
    (noDirectory : ∀ place, spot ≠ .taken place .directory) (allowed : mayWrite spot.location) (bytes : List UInt8) :
    Change mayWrite t (t.put spot.location (.file bytes)) := by
  cases spot with
  | free directory name =>
    obtain ⟨inside, free, proper⟩ := stands
    exact .file inside (by simp [free]) proper allowed
  | taken place entry =>
    cases entry with
    | directory => exact absurd rfl (noDirectory place)
    | link target => exact absurd stands (plain.noLinks _ _)
    | file old =>
      obtain ⟨above, name, rfl, inside, proper⟩ := plain.exists_of_file stands
      have noDirectory : t.get? (above ++ [name]) ≠ some .directory := by
        rw [show t.get? (above ++ [name]) = some (.file old) from stands]
        simp
      exact .file inside noDirectory proper allowed

/-- What is written to a path can be found there. -/
theorem writeBytes_spec (plain : t.Plain) {bytes : List UInt8} (h : t.writeBytes path bytes = .ok u) :
    ∃ spot, t.Reaches path spot ∧ (∀ place, spot ≠ .taken place .directory) ∧
      u = t.put spot.location (.file bytes) ∧ u.Reaches path (.taken spot.location (.file bytes)) := by
  obtain ⟨spot, found, h⟩ := bind_eq_ok.1 h
  have reaches := (find_eq_ok_iff plain true).1 found
  have stands := reaches.stands plain
  split at h
  · rename_i directory name
    split at h
    · cases h
    · rename_i noSlash
      cases h
      refine ⟨_, reaches, by simp, rfl, reaches.noNull, reaches.nonempty, ?_, fun slash => ?_⟩
      · rw [start_eq (current_put ..)]
        exact reaches.leads.put_file stands bytes
      · exact absurd (beq_iff_eq.2 slash) noSlash
  · rename_i place old
    cases h
    have noDirectory : ∀ other, Spot.taken place (.file old) ≠ .taken other .directory := by simp
    refine ⟨_, reaches, noDirectory, rfl, ?_⟩
    have change : Change (fun _ => True) t (t.put place (.file bytes)) := stands.change plain noDirectory trivial bytes
    obtain ⟨new, there, reaches⟩ := reaches.file_stays (.single change)
    obtain ⟨above, name, rfl, inside, proper⟩ := plain.exists_of_file stands
    have written := get?_put_inside inside proper (.file bytes) (above ++ [name])
    rw [if_pos rfl] at written
    cases written.symm.trans there
    exact reaches
  · cases h

/-! ## Storing a text -/

/-- In a directory, made if it was missing, a text is written to its name. -/
theorem store_eq (plain : t.Plain) (made : t.makeDirectories directory = (u, none))
    (reached : u.Reaches directory (.taken place .directory)) (proper : ProperName name)
    (noDirectory : u.get? (place ++ [name]) ≠ some .directory) (text : String) :
    t.store directory name text = (u.put (place ++ [name]) (.file (Text.encodeUtf8 text.toList)), none) := by
  have plain : u.Plain := plain.changes (by simpa [made] using makeDirectories_changes plain directory)
  have found := (find_eq_ok_iff plain true).2 (reached.join plain proper)
  have written : u.writeBytes (Path.join directory name) (Text.encodeUtf8 text.toList) =
      .ok (u.put (place ++ [name]) (.file (Text.encodeUtf8 text.toList))) := by
    rw [writeBytes, found]
    unfold spotIn
    cases there : u.get? (place ++ [name]) with
    | none => exact if_neg (by simpa using getLast?_join_ne proper.isName directory)
    | some entry =>
      cases entry with
      | directory => exact absurd there noDirectory
      | link target => exact absurd there (plain.noLinks _ _)
      | file bytes => rfl
  unfold store
  generalize t.makeDirectories directory = result at made
  rw [made]
  dsimp only
  rw [written]

theorem overwrite_of_store (h : t.store directory name text = (u, none)) :
    t.overwrite directory name text = (u, .ok true) := by
  unfold overwrite
  generalize t.store directory name text = result at h
  rw [h]

theorem writeIfChanged_of_absent (h : t.exists? (Path.join directory name) = false) :
    t.writeIfChanged directory name text = t.overwrite directory name text := by
  simp only [writeIfChanged, h, Bool.false_eq_true, if_false]

theorem writeIfChanged_of_file (plain : t.Plain) {bytes : List UInt8}
    (h : t.Reaches (Path.join directory name) (.taken place (.file bytes))) :
    t.writeIfChanged directory name text =
      if Digest.ofBytes bytes == Digest.ofText text then (t, .ok false) else t.overwrite directory name text := by
  have found := (exists?_iff plain).2 ⟨_, _, h⟩
  have known : t.digest (Path.join directory name) = .ok (Digest.ofBytes bytes) := by
    rw [digest, (readBytes_eq_ok_iff plain).2 ⟨_, h⟩]
    rfl
  simp only [writeIfChanged, found, known, if_true]

theorem writeIfChanged_of_directory_there (plain : t.Plain)
    (h : t.Reaches (Path.join directory name) (.taken place .directory)) :
    t.writeIfChanged directory name text = (t, .error .isDirectory) := by
  have found := (exists?_iff plain).2 ⟨_, _, h⟩
  have known : t.digest (Path.join directory name) = .error .isDirectory := by
    rw [digest, readBytes, (find_eq_ok_iff plain true).2 h]
    rfl
  simp only [writeIfChanged, found, known, if_true]

/-- At a place there is a file of the same digest as a text. -/
def holds (t : Tree) (place : Location) (text : String) : Bool :=
  match t.get? place with
  | some (.file bytes) => Digest.ofBytes bytes == Digest.ofText text
  | _ => false

/-- In a directory that is there, a text is written unless a file of the same digest has its name. -/
theorem writeIfChanged_of_directory (plain : t.Plain) (reached : t.Reaches directory (.taken place .directory))
    (proper : ProperName name) (noDirectory : t.get? (place ++ [name]) ≠ some .directory) (text : String) :
    t.writeIfChanged directory name text =
      if t.holds (place ++ [name]) text then (t, .ok false)
      else (t.put (place ++ [name]) (.file (Text.encodeUtf8 text.toList)), .ok true) := by
  have written := overwrite_of_store
    (store_eq plain (makeDirectories_of_directory plain reached) reached proper noDirectory text)
  have reaches := reached.join plain proper
  unfold spotIn at reaches
  unfold holds
  cases there : t.get? (place ++ [name]) with
  | none =>
    rw [there] at reaches
    have absent : t.exists? (Path.join directory name) = false := by
      refine Bool.eq_false_iff.2 fun found => ?_
      obtain ⟨standing, entry, taken⟩ := (exists?_iff plain).1 found
      cases taken.unique plain reaches
    rw [writeIfChanged_of_absent absent, written]
    rfl
  | some entry =>
    rw [there] at reaches
    cases entry with
    | directory => exact absurd there noDirectory
    | link target => exact absurd there (plain.noLinks _ _)
    | file bytes => rw [writeIfChanged_of_file plain reaches, written]

/-- Where the directory is missing, a text is written once it is made. -/
theorem writeIfChanged_of_missing (plain : t.Plain) (missing : t.isDirectory directory = false)
    (made : t.makeDirectories directory = (u, none)) (reached : u.Reaches directory (.taken place .directory))
    (proper : ProperName name) (noDirectory : u.get? (place ++ [name]) ≠ some .directory) (text : String) :
    t.writeIfChanged directory name text =
      (u.put (place ++ [name]) (.file (Text.encodeUtf8 text.toList)), .ok true) := by
  have absent : t.exists? (Path.join directory name) = false := by
    refine Bool.eq_false_iff.2 fun found => ?_
    obtain ⟨standing, entry, taken⟩ := (exists?_iff plain).1 found
    obtain ⟨there, front, -⟩ := taken.of_join proper.isName reached.nonempty
    rw [(isDirectory_iff plain).2 ⟨there, front⟩] at missing
    cases missing
  rw [writeIfChanged_of_absent absent, overwrite_of_store (store_eq plain made reached proper noDirectory text)]

/-! ## Texts that are stored already -/

/-- A path leads to a file of the same digest as a text. -/
def Stored (t : Tree) (path text : String) : Prop :=
  ∃ place bytes, t.Reaches path (.taken place (.file bytes)) ∧ Digest.ofBytes bytes = Digest.ofText text

theorem writeIfChanged_of_stored (plain : t.Plain) (h : t.Stored (Path.join directory name) text) :
    t.writeIfChanged directory name text = (t, .ok false) := by
  obtain ⟨place, bytes, reaches, same⟩ := h
  rw [writeIfChanged_of_file plain reaches]
  exact if_pos (beq_iff_eq.2 same)

theorem Stored.fits (h : t.Stored (Path.join directory name) text) (isName : isName name = true) : Fits name := by
  obtain ⟨place, bytes, reaches, -⟩ := h
  exact (reaches.last_name isName (by simp)).2

/-- Other names do not matter to a stored text. -/
theorem Stored.stays (h : t.Stored (Path.join directory name) text) (isName : isName name = true)
    (changes : Changes mayWrite t u) (other : ∀ place, mayWrite place → place.getLast? ≠ some name) (plain : t.Plain) :
    u.Stored (Path.join directory name) text := by
  obtain ⟨place, bytes, reaches, same⟩ := h
  have last : place.getLast? = some name := (reaches.last_name isName (by simp)).1
  obtain ⟨new, there, reaches'⟩ := reaches.file_stays changes
  have old := (changes.file_iff (fun allowed => other place allowed last) new).1 there
  have was : t.get? place = some (.file bytes) := reaches.stands plain
  cases was.symm.trans old
  exact ⟨place, bytes, reaches', same⟩

theorem store_spec (plain : t.Plain) (isName : isName name = true) (directory text : String) :
    Changes (fun place => place.getLast? = some name) t (t.store directory name text).1 ∧
      ((t.store directory name text).2 = none →
        (t.store directory name text).1.Stored (Path.join directory name) text) := by
  have made : Changes (fun place => place.getLast? = some name) t (t.makeDirectories directory).1 :=
    (makeDirectories_changes plain directory).mono fun _ => False.elim
  unfold store
  cases result : t.makeDirectories directory with
  | mk u fault =>
    rw [result] at made
    cases fault with
    | some fault => exact ⟨made, fun none => by cases none⟩
    | none =>
      dsimp only
      cases written : u.writeBytes (Path.join directory name) (Text.encodeUtf8 text.toList) with
      | error fault => exact ⟨made, fun none => by cases none⟩
      | ok v =>
        have plain := plain.changes made
        obtain ⟨spot, reaches, noDirectory, rfl, stored⟩ := writeBytes_spec plain written
        have last := (reaches.last_name isName noDirectory).1
        exact ⟨made.tail ((reaches.stands plain).change plain noDirectory last _), fun _ => ⟨_, _, stored, rfl⟩⟩

theorem overwrite_spec (plain : t.Plain) (isName : isName name = true) (directory text : String) :
    Changes (fun place => place.getLast? = some name) t (t.overwrite directory name text).1 ∧
      ∀ wrote, (t.overwrite directory name text).2 = .ok wrote →
        (t.overwrite directory name text).1.Stored (Path.join directory name) text := by
  obtain ⟨changes, stored⟩ := store_spec plain isName directory text
  unfold overwrite
  split
  · rename_i result
    rw [result] at changes stored
    exact ⟨changes, fun _ _ => stored rfl⟩
  · rename_i result
    rw [result] at changes
    exact ⟨changes, fun _ failed => by cases failed⟩

/-- Storing a text changes only files of its name, and if nothing goes wrong the text is stored then. -/
theorem writeIfChanged_spec (plain : t.Plain) (isName : isName name = true) (directory text : String) :
    Changes (fun place => place.getLast? = some name) t (t.writeIfChanged directory name text).1 ∧
      ∀ wrote, (t.writeIfChanged directory name text).2 = .ok wrote →
        (t.writeIfChanged directory name text).1.Stored (Path.join directory name) text := by
  by_cases found : t.exists? (Path.join directory name) = true
  · obtain ⟨place, entry, reaches⟩ := (exists?_iff plain).1 found
    cases entry with
    | link target => exact absurd (reaches.stands plain) (plain.noLinks _ _)
    | directory =>
      rw [writeIfChanged_of_directory_there plain reaches]
      exact ⟨.refl, fun _ failed => by cases failed⟩
    | file bytes =>
      rw [writeIfChanged_of_file plain reaches]
      split
      · rename_i same
        exact ⟨.refl, fun _ _ => ⟨place, bytes, reaches, eq_of_beq same⟩⟩
      · exact overwrite_spec plain isName directory text
  · rw [writeIfChanged_of_absent (Bool.eq_false_iff.2 found)]
    exact overwrite_spec plain isName directory text

end CallAtlas.Files.Tree
