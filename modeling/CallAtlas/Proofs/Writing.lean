import CallAtlas.Proofs.Storing
import CallAtlas.Run
import Mathlib.Algebra.GroupWithZero.Nat
import Mathlib.Data.Finset.Card

/-!
# What a run leaves in the files

Of notes that share a file name, whatever its case, the first wins. The loop over the notes keeps two things: the names
used up are those of the notes before, and the file of every winner so far holds its text. Names in lower case being
different, no winner overwrites another, so after the loop each has its file. The counts follow the loop step by step.
-/

namespace CallAtlas

open Files

/-! ## Winners -/

namespace Note

/-- The notes that are written: the first of each file name. -/
def winners (notes : List Note) : List Note := notes.eraseDupsBy fun a b => a.key == b.key

/-- A note with no note of its file name before it. -/
def Wins (notes : List Note) (n : Note) : Prop :=
  ∃ before after, notes = before ++ n :: after ∧ ∀ m ∈ before, m.key ≠ n.key

theorem Wins.mem {notes : List Note} {n : Note} (h : Wins notes n) : n ∈ notes := by
  obtain ⟨before, after, rfl, -⟩ := h
  simp

/-- The notes that are written if some file names are used up. -/
def winnersAfter (used : List String) (notes : List Note) : List Note :=
  winners (notes.filter fun n => !used.contains n.key)

section Winners

variable {used : List String} {notes : List Note} {n m : Note}

theorem winnersAfter_nil (notes : List Note) : winnersAfter [] notes = winners notes := by
  rw [winnersAfter, List.filter_eq_self.2 (by simp)]

theorem winnersAfter_cons_used (h : n.key ∈ used) : winnersAfter used (n :: notes) = winnersAfter used notes := by
  rw [winnersAfter, List.filter_cons_of_neg (by simpa using h), winnersAfter]

theorem winnersAfter_cons_new (h : n.key ∉ used) :
    winnersAfter used (n :: notes) = n :: winnersAfter (n.key :: used) notes := by
  rw [winnersAfter, List.filter_cons_of_pos (by simpa using h), winners, List.eraseDupsBy_cons, List.filter_filter,
    winnersAfter, winners]
  congr 2
  refine List.filter_congr fun m _ => ?_
  simp [Bool.not_or]

theorem wins_cons_iff : Wins (n :: notes) m ↔ m = n ∨ m.key ≠ n.key ∧ Wins notes m := by
  constructor
  · rintro ⟨before, after, whole, first⟩
    cases before with
    | nil =>
      cases whole
      exact Or.inl rfl
    | cons other before =>
      obtain ⟨rfl, rest⟩ := List.cons.inj whole
      obtain ⟨differs, first⟩ := List.forall_mem_cons.1 first
      exact Or.inr ⟨differs.symm, before, after, rest, first⟩
  · rintro (rfl | ⟨differs, before, after, whole, first⟩)
    · exact ⟨[], notes, rfl, by simp⟩
    · refine ⟨n :: before, after, by rw [whole]; rfl, ?_⟩
      exact List.forall_mem_cons.2 ⟨differs.symm, first⟩

theorem mem_winnersAfter_iff : m ∈ winnersAfter used notes ↔ m.key ∉ used ∧ Wins notes m := by
  induction notes generalizing used with
  | nil => simp [winnersAfter, winners, Wins]
  | cons n notes ih =>
    rw [wins_cons_iff]
    by_cases h : n.key ∈ used
    · rw [winnersAfter_cons_used h, ih]
      refine and_congr_right fun new => ?_
      have differs : m.key ≠ n.key := fun same => new (same ▸ h)
      have other : m ≠ n := fun same => differs (same ▸ rfl)
      simp [differs, other]
    · rw [winnersAfter_cons_new h, List.mem_cons, ih, List.mem_cons, not_or]
      constructor
      · rintro (rfl | ⟨⟨differs, new⟩, wins⟩)
        · exact ⟨h, Or.inl rfl⟩
        · exact ⟨new, Or.inr ⟨differs, wins⟩⟩
      · rintro ⟨new, rfl | ⟨differs, wins⟩⟩
        · exact Or.inl rfl
        · exact Or.inr ⟨⟨differs, new⟩, wins⟩

theorem winners_eq_nil_iff : winners notes = [] ↔ notes = [] := by
  cases notes with
  | nil => simp [winners]
  | cons n notes => simp [winners, List.eraseDupsBy_cons]

theorem mem_winners_iff : m ∈ winners notes ↔ Wins notes m := by
  rw [← winnersAfter_nil, mem_winnersAfter_iff]
  simp

/-- Other winners have other file names. -/
theorem filename_ne_of_mem_winnersAfter (h : m ∈ winnersAfter (n.key :: used) notes) : m.filename ≠ n.filename := by
  intro same
  refine (mem_winnersAfter_iff.1 h).1 ?_
  rw [key, key, same]
  exact List.mem_cons_self

theorem map_key_winnersAfter :
    ((winnersAfter used notes).map key).Nodup ∧
      ∀ k, k ∈ (winnersAfter used notes).map key ↔ k ∈ notes.map key ∧ k ∉ used := by
  induction notes generalizing used with
  | nil => simp [winnersAfter, winners]
  | cons n notes ih =>
    by_cases h : n.key ∈ used
    · rw [winnersAfter_cons_used h]
      refine ⟨ih.1, fun k => ?_⟩
      rw [ih.2, List.map_cons, List.mem_cons]
      refine and_congr_left fun new => ?_
      have other : k ≠ n.key := fun same => new (same ▸ h)
      simp [other]
    · obtain ⟨distinct, members⟩ := @ih (n.key :: used)
      rw [winnersAfter_cons_new h, List.map_cons]
      refine ⟨List.nodup_cons.2 ⟨fun again => ?_, distinct⟩, fun k => ?_⟩
      · exact ((members n.key).1 again).2 List.mem_cons_self
      · rw [List.mem_cons, members, List.map_cons, List.mem_cons, List.mem_cons]
        by_cases same : k = n.key
        · simp [same, h]
        · simp [same]

/-- There are as many winners as file names. -/
theorem length_winners (notes : List Note) : (winners notes).length = (notes.map key).toFinset.card := by
  obtain ⟨distinct, members⟩ := @map_key_winnersAfter [] notes
  rw [winnersAfter_nil] at distinct members
  have same : (notes.map key).toFinset = ((winners notes).map key).toFinset := by
    ext k
    rw [List.mem_toFinset, List.mem_toFinset, members]
    simp
  rw [same, List.toFinset_card_of_nodup distinct, List.length_map]

end Winners

end Note

/-! ## Steps of a run -/

namespace RunStep

variable {α β : Type} {step : RunStep α} {next : α → RunStep β} {s s' mid : RunState} {a : α} {b : β}

theorem andThen_of_ok (h : step s = (mid, .ok a)) : (step.andThen next) s = next a mid := by
  rw [andThen, h]

theorem andThen_of_error {fault : RunFault} (h : step s = (mid, .error fault)) :
    (step.andThen next) s = (mid, .error fault) := by
  rw [andThen, h]

theorem andThen_eq_ok (h : (step.andThen next) s = (s', .ok b)) :
    ∃ mid a, step s = (mid, .ok a) ∧ next a mid = (s', .ok b) := by
  unfold andThen at h
  split at h
  · rename_i mid a first
    exact ⟨mid, a, first, h⟩
  · cases h

end RunStep

open RunStep

section Loop

variable {outDir : String} {p p' : Progress} {n : Note} {notes : List Note} {s s' : RunState}

theorem writeNote_of_used (h : n.key ∈ p.used) :
    ∃ log, writeNote outDir p n s = ({ s with log := log }, .ok p.skip) := by
  unfold writeNote
  rw [if_pos (List.contains_iff_mem.2 h)]
  exact ⟨_, rfl⟩

theorem writeNote_of_stored (h : n.key ∉ p.used) {tree : Tree} {wrote : Bool}
    (stored : s.tree.writeIfChanged outDir n.filename n.text = (tree, .ok wrote)) :
    writeNote outDir p n s = ({ s with tree := tree }, .ok (p.take n wrote)) := by
  unfold writeNote
  rw [if_neg fun used => h (List.contains_iff_mem.1 used), stored]

/-- What one note can do to a run that goes on. -/
theorem writeNote_eq_ok (h : writeNote outDir p n s = (s', .ok p')) :
    n.key ∈ p.used ∧ p' = p.skip ∧ s'.tree = s.tree ∨
      n.key ∉ p.used ∧ ∃ wrote, s.tree.writeIfChanged outDir n.filename n.text = (s'.tree, .ok wrote) ∧
        p' = p.take n wrote := by
  unfold writeNote at h
  split at h
  · rename_i used
    cases h
    exact Or.inl ⟨List.contains_iff_mem.1 used, rfl, rfl⟩
  · rename_i new
    split at h
    · rename_i tree wrote stored
      cases h
      exact Or.inr ⟨fun used => new (List.contains_iff_mem.2 used), wrote, stored, rfl⟩
    · cases h

/-- A summary with more notes counted: those that files hold now and those left out. -/
def Summary.count (s : Summary) (won : List Note) (written unchanged lost : Nat) : Summary :=
  { s with
    units := s.units + (won.map (·.units)).sum
    notes := s.notes + won.length
    written := s.written + written
    unchanged := s.unchanged + unchanged
    collisions := s.collisions + lost }

/-- Every note is counted once: as left out, or as a winner that was written or found unchanged. -/
theorem writeNotes_counts (h : writeNotes outDir p notes s = (s', .ok p')) :
    ∃ written unchanged lost,
      p'.summary = p.summary.count (Note.winnersAfter p.used notes) written unchanged lost ∧
        written + unchanged = (Note.winnersAfter p.used notes).length ∧
        (Note.winnersAfter p.used notes).length + lost = notes.length := by
  induction notes generalizing p s with
  | nil =>
    cases h
    exact ⟨0, 0, 0, rfl, rfl, rfl⟩
  | cons n notes ih =>
    obtain ⟨mid, q, first, rest⟩ := andThen_eq_ok h
    obtain ⟨written, unchanged, lost, summary, settled, all⟩ := ih rest
    rcases writeNote_eq_ok first with ⟨used, rfl, -⟩ | ⟨new, wrote, -, rfl⟩
    · rw [Note.winnersAfter_cons_used used]
      refine ⟨written, unchanged, 1 + lost, ?_, settled, ?_⟩
      · rw [summary]
        simp only [Summary.count, Progress.skip, Nat.add_assoc]
      · rw [List.length_cons, ← all, Nat.add_comm 1, ← Nat.add_assoc]
        rfl
    · rw [Note.winnersAfter_cons_new new]
      refine ⟨(if wrote then 1 else 0) + written, (if wrote then 0 else 1) + unchanged, lost, ?_, ?_, ?_⟩
      · rw [summary]
        simp only [Summary.count, Progress.take, List.map_cons, List.sum_cons, List.length_cons, Nat.add_assoc,
          Nat.add_comm 1 (List.length _)]
      · have settled : written + unchanged = (Note.winnersAfter (n.key :: p.used) notes).length := settled
        rw [List.length_cons]
        cases wrote <;> simp only [Bool.false_eq_true, if_true, if_false] <;> omega
      · have all : (Note.winnersAfter (n.key :: p.used) notes).length + lost = notes.length := all
        rw [List.length_cons, List.length_cons]
        omega

/-- Whatever was there before: only files of the winners change, and each winner is stored in the end. -/
theorem writeNotes_stored (plain : s.tree.Plain) (names : ∀ n ∈ notes, isName n.filename = true)
    (h : writeNotes outDir p notes s = (s', .ok p')) :
    Tree.Changes (fun place => ∃ n ∈ Note.winnersAfter p.used notes, place.getLast? = some n.filename) s.tree s'.tree ∧
      ∀ n ∈ Note.winnersAfter p.used notes, s'.tree.Stored (Path.join outDir n.filename) n.text := by
  induction notes generalizing p s with
  | nil =>
    cases h
    exact ⟨.refl, fun n none => absurd none List.not_mem_nil⟩
  | cons n notes ih =>
    obtain ⟨nameOk, names⟩ := List.forall_mem_cons.1 names
    obtain ⟨mid, q, first, rest⟩ := andThen_eq_ok h
    rcases writeNote_eq_ok first with ⟨used, rfl, same⟩ | ⟨new, wrote, written, rfl⟩
    · rw [Note.winnersAfter_cons_used used, ← same]
      exact ih (p := p.skip) (same ▸ plain) names rest
    · obtain ⟨changes, stored⟩ := Tree.writeIfChanged_spec plain nameOk outDir n.text
      rw [written] at changes stored
      have plainMid := plain.changes changes
      obtain ⟨later, others⟩ := ih plainMid names rest
      rw [Note.winnersAfter_cons_new new]
      refine ⟨?_, List.forall_mem_cons.2 ⟨?_, others⟩⟩
      · refine (changes.mono fun place last => ⟨n, List.mem_cons_self, last⟩).trans (later.mono ?_)
        rintro place ⟨m, mem, last⟩
        exact ⟨m, List.mem_cons_of_mem _ mem, last⟩
      · -- the names of later winners are others
        refine (stored wrote rfl).stays nameOk later ?_ plainMid
        rintro place ⟨m, mem, last⟩ own
        exact Note.filename_ne_of_mem_winnersAfter mem (Option.some.inj (last.symm.trans own))

end Loop

/-! ## The files -/

/-- A note that can be stored in a directory: its file name can be a name there, no directory has it, and a file that has
it holds the text of the note if it has the digest of it. -/
structure Writable (t : Tree) (dir : Location) (n : Note) : Prop where
  proper : ProperName n.filename
  noDirectory : t.get? (dir ++ [n.filename]) ≠ some .directory
  faithful : ∀ bytes, t.get? (dir ++ [n.filename]) = some (.file bytes) →
    Digest.ofBytes bytes = Digest.ofText n.text → bytes = Text.encodeUtf8 n.text.toList

/-- The file of a note is missing or holds something else. -/
def differs (t : Tree) (dir : Location) (n : Note) : Bool :=
  t.get? (dir ++ [n.filename]) != some (.file (Text.encodeUtf8 n.text.toList))

section Files

variable {t u : Tree} {outDir : String} {dir : Location} {n : Note}

theorem Writable.of_get?_eq (h : Writable t dir n) (same : u.get? (dir ++ [n.filename]) = t.get? (dir ++ [n.filename])) :
    Writable u dir n :=
  ⟨h.proper, same ▸ h.noDirectory, same ▸ h.faithful⟩

theorem differs_of_changes (changes : Tree.Changes (fun _ => False) t u) (dir : Location) (n : Note) :
    differs u dir n = differs t dir n := by
  unfold differs
  rw [Bool.eq_iff_iff, bne_iff_ne, bne_iff_ne, not_iff_not]
  exact changes.file_iff id _

theorem Writable.holds_iff (h : Writable t dir n) :
    t.holds (dir ++ [n.filename]) n.text = true ↔ differs t dir n = false := by
  unfold differs Tree.holds
  rw [bne_eq_false_iff_eq]
  split
  · rename_i bytes there
    rw [there, beq_iff_eq]
    constructor
    · intro same
      rw [h.faithful bytes there same]
    · intro same
      cases same
      rfl
  · rename_i noFile
    simpa using noFile _

/-- One note: its file holds its text then, and all else is as it was once the directory was there. -/
theorem writeIfChanged_note (plain : t.Plain) (made : t.makeDirectories outDir = (u, none))
    (reached : u.Reaches outDir (.taken dir .directory)) (h : Writable u dir n) :
    ∃ v, t.writeIfChanged outDir n.filename n.text = (v, .ok (!t.isDirectory outDir || differs t dir n)) ∧
      Tree.Changes (fun _ => True) u v ∧
      ∀ place, v.get? place = if place = dir ++ [n.filename] then some (.file (Text.encodeUtf8 n.text.toList))
        else u.get? place := by
  have makes : Tree.Changes (fun _ => False) t u := by
    simpa only [made] using Tree.makeDirectories_changes plain outDir
  have inside : u.get? dir = some .directory := reached.stands (plain.changes makes)
  have put := Tree.get?_put_inside inside h.proper (.file (Text.encodeUtf8 n.text.toList))
  have change : Tree.Change (fun _ => True) u
      (u.put (dir ++ [n.filename]) (.file (Text.encodeUtf8 n.text.toList))) :=
    .file inside h.noDirectory h.proper trivial
  by_cases ready : t.isDirectory outDir = true
  · obtain ⟨there, reaches⟩ := (Tree.isDirectory_iff plain).1 ready
    cases made.symm.trans (Tree.makeDirectories_of_directory plain reaches)
    rw [Tree.writeIfChanged_of_directory plain reached h.proper h.noDirectory, ready]
    by_cases holds : t.holds (dir ++ [n.filename]) n.text = true
    · have same := h.holds_iff.1 holds
      rw [if_pos holds, same]
      refine ⟨t, rfl, .refl, fun place => ?_⟩
      split
      · rename_i here
        rw [here]
        simpa [differs] using same
      · rfl
    · have differ : differs t dir n = true := by simpa using mt h.holds_iff.2 holds
      rw [if_neg holds, differ]
      exact ⟨_, rfl, .single change, put⟩
  · rw [Tree.writeIfChanged_of_missing plain (by simpa using ready) made reached h.proper h.noDirectory]
    have missing : t.isDirectory outDir = false := by simpa using ready
    rw [missing]
    exact ⟨_, rfl, .single change, put⟩

end Files

/-- How many notes have to be written: those whose file differs, and the first in any case if its path led nowhere. -/
def due (differs : Note → Bool) (missing : Bool) : List Note → Nat
  | [] => 0
  | n :: notes => (if missing || differs n then 1 else 0) + notes.countP differs

theorem due_false (differs : Note → Bool) (notes : List Note) : due differs false notes = notes.countP differs := by
  cases notes with
  | nil => rfl
  | cons n notes => rw [due, List.countP_cons, Bool.false_or, Nat.add_comm]

/-- The loop over the notes. The first winner finds the directory or makes it, and all others find it. -/
theorem writeNotes_of_creatable {outDir : String} {dir : Location} {p : Progress} {notes : List Note} {s : RunState}
    {made : Tree} (plain : s.tree.Plain) (creatable : s.tree.makeDirectories outDir = (made, none))
    (reached : made.Reaches outDir (.taken dir .directory))
    (writable : ∀ n ∈ Note.winnersAfter p.used notes, Writable made dir n) :
    ∃ s' p', writeNotes outDir p notes s = (s', .ok p') ∧
      p'.summary.written = p.summary.written +
        due (differs s.tree dir) (!s.tree.isDirectory outDir) (Note.winnersAfter p.used notes) ∧
      Tree.Changes (fun _ => True) (if Note.winnersAfter p.used notes = [] then s.tree else made) s'.tree ∧
      (∀ n ∈ Note.winnersAfter p.used notes,
        s'.tree.get? (dir ++ [n.filename]) = some (.file (Text.encodeUtf8 n.text.toList))) ∧
      ∀ place, (∀ n ∈ Note.winnersAfter p.used notes, place ≠ dir ++ [n.filename]) →
        s'.tree.get? place = (if Note.winnersAfter p.used notes = [] then s.tree else made).get? place := by
  induction notes generalizing p s made with
  | nil =>
    have none : Note.winnersAfter p.used [] = [] := rfl
    rw [none, if_pos rfl]
    exact ⟨s, p, rfl, rfl, .refl, by simp, fun _ _ => rfl⟩
  | cons n notes ih =>
    by_cases used : n.key ∈ p.used
    · obtain ⟨log, skipped⟩ : ∃ log, writeNote outDir p n s = ({ s with log := log }, .ok p.skip) :=
        writeNote_of_used used
      rw [Note.winnersAfter_cons_used used] at writable ⊢
      rw [writeNotes, andThen_of_ok skipped]
      exact ih (p := p.skip) (s := { s with log := log }) plain creatable reached writable
    · rw [Note.winnersAfter_cons_new used] at writable ⊢
      rw [if_neg (List.cons_ne_nil _ _)]
      have makes : Tree.Changes (fun _ => False) s.tree made := by
        simpa only [creatable] using Tree.makeDirectories_changes plain outDir
      obtain ⟨first, others⟩ := List.forall_mem_cons.1 writable
      obtain ⟨v, stored, changes, after⟩ := writeIfChanged_note plain creatable reached first
      -- the files of the winners to come are as they were
      have same : ∀ m ∈ Note.winnersAfter (n.key :: p.used) notes,
          v.get? (dir ++ [m.filename]) = made.get? (dir ++ [m.filename]) := by
        intro m mem
        rw [after, if_neg]
        simpa using Note.filename_ne_of_mem_winnersAfter mem
      have plain := (plain.changes makes).changes changes
      have reached := reached.directory_stays changes
      rw [writeNotes, andThen_of_ok (writeNote_of_stored used stored)]
      obtain ⟨s', p', run, written, later, winners, elsewhere⟩ :=
        ih (p := p.take n (!s.tree.isDirectory outDir || differs s.tree dir n)) (s := { s with tree := v }) plain
          (Tree.makeDirectories_of_directory plain reached) reached
          fun m mem => (others m mem).of_get?_eq (same m mem)
      dsimp only at written later elsewhere
      rw [ite_self] at later elsewhere
      refine ⟨s', p', run, ?_, changes.trans later, List.forall_mem_cons.2 ⟨?_, winners⟩, fun place other => ?_⟩
      · have count : (Note.winnersAfter (n.key :: p.used) notes).countP (differs v dir) =
            (Note.winnersAfter (n.key :: p.used) notes).countP (differs s.tree dir) := by
          refine List.countP_congr fun m mem => ?_
          rw [← differs_of_changes makes, differs, differs, same m mem]
        rw [written, (Tree.isDirectory_iff plain).2 ⟨dir, reached⟩, Bool.not_true, due_false, due, ← count]
        simp only [Progress.take, Nat.add_assoc]
      · rw [elsewhere, after, if_pos rfl]
        intro m mem
        simpa using (Note.filename_ne_of_mem_winnersAfter mem).symm
      · obtain ⟨notHere, other⟩ := List.forall_mem_cons.1 other
        rw [elsewhere place other, after, if_neg notHere]

/-! ## The whole phase -/

/-- What a summary says of the notes of its run, `written` of which had to be written. -/
structure Accounts (notes : List Note) (written : Nat) (summary : Summary) : Prop where
  /-- One note for each file name. -/
  names : summary.notes = (notes.map Note.key).toFinset.card
  settled : summary.written + summary.unchanged = summary.notes
  all : summary.notes + summary.collisions = notes.length
  units : summary.units = ((Note.winners notes).map (·.units)).sum
  written : summary.written = written

theorem writeStep_eq (plan : Plan) (survey : Survey) {notes : List Note} {s s' : RunState} {p : Progress}
    (h : writeNotes plan.outDir
      { summary := { mode := plan.mode, outDir := plan.outDir, documentsSkipped := survey.documentsSkipped } } notes s =
        (s', .ok p)) :
    ∃ s'', writeStep plan survey notes s = (s'', .ok p.summary) ∧ s''.tree = s'.tree ∧
      Accounts notes p.summary.written p.summary := by
  obtain ⟨written, unchanged, lost, summary, settled, all⟩ := writeNotes_counts h
  rw [Note.winnersAfter_nil] at summary settled all
  rw [writeStep, andThen_of_ok h]
  refine ⟨_, rfl, rfl, ?_, ?_, ?_, ?_, rfl⟩
  · rw [← Note.length_winners, summary]
    simp [Summary.count]
  · rw [summary]
    simpa [Summary.count] using settled
  · rw [summary]
    simpa [Summary.count] using all
  · rw [summary]
    simp [Summary.count]

/-- Whatever was there before, a write phase that succeeded has changed only files of the winners and stored each of
them. -/
theorem writeStep_stored {plan : Plan} {survey : Survey} {notes : List Note} {s s' : RunState} {summary : Summary}
    (plain : s.tree.Plain) (names : ∀ n ∈ notes, isName n.filename = true)
    (done : writeStep plan survey notes s = (s', .ok summary)) :
    Tree.Changes (fun place => ∃ n, Note.Wins notes n ∧ place.getLast? = some n.filename) s.tree s'.tree ∧
      ∀ n, Note.Wins notes n → s'.tree.Stored (Path.join plan.outDir n.filename) n.text := by
  obtain ⟨mid, p, written, reported⟩ := andThen_eq_ok done
  have same : s'.tree = mid.tree := by
    cases reported
    rfl
  rw [same]
  simpa only [Note.winnersAfter_nil, Note.mem_winners_iff] using writeNotes_stored plain names written

/-- A note is only stored if its file name fits. -/
theorem fits_of_writeStep {plan : Plan} {survey : Survey} {notes : List Note} {s s' : RunState} {summary : Summary}
    (plain : s.tree.Plain) (names : ∀ n ∈ notes, isName n.filename = true)
    (done : writeStep plan survey notes s = (s', .ok summary)) (n : Note) (wins : Note.Wins notes n) :
    Fits n.filename :=
  ((writeStep_stored plain names done).2 n wins).fits (names n wins.mem)

/-- Every winner has its file after the write phase and every other file is as it was, provided that the output directory
is there or can be made and each winner can be stored in it. The summary counts what happened. -/
theorem writeStep_stores_winners (plan : Plan) (survey : Survey) (notes : List Note) (s : RunState) (made : Tree)
    (dir : Location) (plain : s.tree.Plain) (creatable : s.tree.makeDirectories plan.outDir = (made, none))
    (there : made.find true plan.outDir = .ok (.taken dir .directory))
    (writable : ∀ n, Note.Wins notes n → Writable made dir n) :
    ∃ s' summary, writeStep plan survey notes s = (s', .ok summary) ∧
      (∀ n, Note.Wins notes n →
        s'.tree.readBytes (Path.join plan.outDir n.filename) = .ok (Text.encodeUtf8 n.text.toList)) ∧
      (∀ place, (∀ n, Note.Wins notes n → place ≠ dir ++ [n.filename]) →
        s'.tree.get? place = (if notes = [] then s.tree else made).get? place ∧
        ∀ bytes, s'.tree.get? place = some (.file bytes) ↔ s.tree.get? place = some (.file bytes)) ∧
      Accounts notes (due (differs s.tree dir) (!s.tree.isDirectory plan.outDir) (Note.winners notes)) summary := by
  have makes : Tree.Changes (fun _ => False) s.tree made := by
    simpa only [creatable] using Tree.makeDirectories_changes plain plan.outDir
  have reached := (Tree.find_eq_ok_iff (plain.changes makes) true).1 there
  obtain ⟨mid, p, run, written, changes, winners, elsewhere⟩ :=
    writeNotes_of_creatable (p := { summary := _ }) plain creatable reached fun n mem =>
      writable n (Note.mem_winners_iff.1 (Note.winnersAfter_nil notes ▸ mem))
  simp only [Note.winnersAfter_nil, Note.winners_eq_nil_iff, Note.mem_winners_iff] at written changes winners elsewhere
  obtain ⟨s', done, tree, accounts⟩ := writeStep_eq plan survey run
  rw [written, Nat.zero_add] at accounts
  rw [← tree] at changes winners elsewhere
  refine ⟨s', p.summary, done, fun n wins => ?_, fun place other => ?_, accounts⟩
  · have some : notes ≠ [] := by
      rintro rfl
      exact absurd (Note.mem_winners_iff.2 wins) List.not_mem_nil
    rw [if_neg some] at changes
    have plain := (plain.changes makes).changes changes
    have reaches := (reached.directory_stays changes).join plain (writable n wins).proper
    rw [Tree.spotIn, winners n wins] at reaches
    exact (Tree.readBytes_eq_ok_iff plain).2 ⟨_, reaches⟩
  · refine ⟨elsewhere place other, fun bytes => ?_⟩
    rw [elsewhere place other]
    split
    · rfl
    · exact makes.file_iff id bytes

namespace WriteStep.Sample

def survey : Survey := { extent := ⟨[]⟩, skippedProjects := [], outcomes := [], register := [], graph := {} }

def plan (outDir : String) : Plan := { projectPath := "/W", mode := .perFile, outDir }

def a : Note := ⟨"A.md", "a\n", 2⟩

def b : Note := ⟨"B.md", "b\n", 1⟩

def c : Note := ⟨"C.md", "c\n", 3⟩

/-- Shares its file name with the first. -/
def lost : Note := ⟨"a.md", "other\n", 5⟩

/-- Has a file name as long as you like. -/
def long (count : Nat) : Note := ⟨String.ofList (List.replicate count 'x' ++ ".md".toList), "", 1⟩

/-- Two of the notes are stored already. -/
def tree : Tree :=
  [a, b].foldl (fun t n => t.place ["W", n.filename] (.file (Text.encodeUtf8 n.text.toList))) (.empty [])

theorem plain_tree : tree.Plain := Tree.plain_of_all _ (by decide +kernel) (by decide +kernel)

/-- The way to `/W` through a directory that is missing. -/
def detour : String := "/W/x/.."

/-- The tree with the directory that was missing. -/
def made : Tree := tree.put ["W", "x"] .directory

theorem made_eq : tree.makeDirectories detour = (made, none) := by decide +kernel

theorem isName_long (count : Nat) : isName (long count).filename = true := by
  rw [isName_iff, long, String.toList_ofList]
  simp

theorem utf8ByteSize_long (count : Nat) : (long count).filename.utf8ByteSize = count + 3 := by
  induction count with
  | zero => rfl
  | succ count ih =>
    rw [long] at ih ⊢
    rw [List.replicate_succ, List.cons_append, String.ofList_cons, String.utf8ByteSize_append,
      String.utf8ByteSize_singleton, ih]
    have one : 'x'.utf8Size = 1 := by decide
    omega

theorem find_detour : made.find true detour = .ok (.taken ["W"] .directory) := by decide +kernel

theorem reaches_detour : made.Reaches detour (.taken ["W"] .directory) := by
  have makes := Tree.makeDirectories_changes plain_tree detour
  rw [made_eq] at makes
  exact (Tree.find_eq_ok_iff (plain_tree.changes makes) true).1 find_detour

theorem writable_of_stored {n : Note} (proper : ProperName n.filename)
    (there : made.get? ["W", n.filename] = some (.file (Text.encodeUtf8 n.text.toList))) : Writable made ["W"] n := by
  refine ⟨proper, ?_, fun bytes found _ => ?_⟩
  · rw [List.singleton_append, there]
    simp
  · rw [List.singleton_append, there] at found
    cases found
    rfl

theorem writable_of_absent {n : Note} (proper : ProperName n.filename) (absent : made.get? ["W", n.filename] = none) :
    Writable made ["W"] n := by
  refine ⟨proper, ?_, fun bytes found _ => ?_⟩
  · rw [List.singleton_append, absent]
    simp
  · rw [List.singleton_append, absent] at found
    cases found

end WriteStep.Sample

open WriteStep.Sample in
/-- The first note is stored already but its path led nowhere, so it counts as written; the last one is new. -/
theorem writeStep_stores_winners_sample :
    ∃ s' summary, writeStep (plan detour) survey [a, lost, c] { tree := tree } = (s', .ok summary) ∧
      s'.tree.readBytes "/W/x/../C.md" = .ok (Text.encodeUtf8 "c\n".toList) ∧
      s'.tree.get? ["W", "B.md"] = tree.get? ["W", "B.md"] ∧ Accounts [a, lost, c] 2 summary := by
  have won : Note.winners [a, lost, c] = [a, c] := by decide +kernel
  have writable : ∀ n, Note.Wins [a, lost, c] n → Writable made ["W"] n := by
    intro n wins
    rw [← Note.mem_winners_iff, won] at wins
    simp only [List.mem_cons, List.not_mem_nil, or_false] at wins
    rcases wins with rfl | rfl
    · exact writable_of_stored (by decide +kernel) (by decide +kernel)
    · exact writable_of_absent (by decide +kernel) (by decide +kernel)
  obtain ⟨s', summary, done, stored, others, accounts⟩ :=
    writeStep_stores_winners (plan detour) survey [a, lost, c] { tree := tree } made ["W"] plain_tree made_eq find_detour
      writable
  have path : Path.join (plan detour).outDir c.filename = "/W/x/../C.md" := by decide +kernel
  have due : due (differs tree ["W"]) (!tree.isDirectory (plan detour).outDir) (Note.winners [a, lost, c]) = 2 := by
    decide +kernel
  rw [due] at accounts
  refine ⟨s', summary, done, path ▸ stored c (Note.mem_winners_iff.1 (by simp [won])), ?_, accounts⟩
  refine (others ["W", "B.md"] fun n wins => ?_).1
  rw [← Note.mem_winners_iff, won] at wins
  simp only [List.mem_cons, List.not_mem_nil, or_false] at wins
  rcases wins with rfl | rfl <;> decide +kernel

open WriteStep.Sample in
/-- Of two notes that are stored already, one counts as written if the path to them leads through a directory that is
missing: before the run no file at their places differs, and none is found by its path. And a file name can be one part
of a path and still be too long for a note to be stored. -/
theorem writeStep_miscounts_on_detour :
    (∃ s' summary, writeStep (plan detour) survey [a, b] { tree := tree } = (s', .ok summary) ∧ summary.written = 1) ∧
      [a, b].countP (differs tree ["W"]) = 0 ∧
      [a, b].countP (fun n => !tree.isFile (Path.join detour n.filename)) = 2 ∧
      isName (long 253).filename = true ∧
      ∀ s' summary, writeStep (plan "/W") survey [long 253] { tree := tree } ≠ (s', .ok summary) := by
  refine ⟨?_, by decide +kernel, by decide +kernel, isName_long 253, fun s' summary done => ?_⟩
  · have writable : ∀ n ∈ Note.winnersAfter [] [a, b], Writable made ["W"] n := by
      have won : Note.winnersAfter [] [a, b] = [a, b] := by decide +kernel
      rw [won]
      simp only [List.forall_mem_cons]
      refine ⟨writable_of_stored ?_ ?_, writable_of_stored ?_ ?_, by simp⟩ <;> decide +kernel
    obtain ⟨mid, p, run, written, -⟩ :=
      writeNotes_of_creatable (p := { summary := _ }) (s := { tree := tree }) plain_tree made_eq reaches_detour writable
    obtain ⟨s', done, -, -⟩ := writeStep_eq (plan detour) survey run
    exact ⟨s', p.summary, done, by rw [written]; decide +kernel⟩
  · have short := (fits_of_writeStep (s := { tree := tree }) plain_tree (by simpa using isName_long 253) done (long 253)
      ⟨[], [], rfl, by simp⟩).short
    rw [utf8ByteSize_long] at short
    exact absurd short (by decide)

end CallAtlas
