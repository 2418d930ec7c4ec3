import CallAtlas.Proofs.Answer
import CallAtlas.Proofs.Discovery
import CallAtlas.Proofs.FileTree
import CallAtlas.Proofs.Paths

/-!
# Where paths lead

In a plain tree the names on a path lead from directory to directory, and to a file or a free name at the very end
(`Leads`). A path `Reaches` the spot that its names lead to from its start; this is what finding it gives. A way once there
stays through changes, and the ways through a directory are those to it with a name behind.
-/

namespace CallAtlas.Files.Tree

/-! ## Names -/

/-- The names, followed from a place, lead to a spot. A file or a free name can only be the end of the way. -/
inductive Leads (t : Tree) : Location → List String → Spot → Prop where
  | done {place : Location} : Leads t place [] (.taken place .directory)
  | stay {place : Location} {rest : List String} {spot : Spot} : Leads t place rest spot → Leads t place ("." :: rest) spot
  | up {place : Location} {rest : List String} {spot : Spot} :
      Leads t place.dropLast rest spot → Leads t place (".." :: rest) spot
  | enter {place : Location} {name : String} {rest : List String} {spot : Spot} (fits : Fits name)
      (found : t.get? (place ++ [name]) = some .directory) :
      Leads t (place ++ [name]) rest spot → Leads t place (name :: rest) spot
  | file {place : Location} {name : String} {bytes : List UInt8} (fits : Fits name)
      (found : t.get? (place ++ [name]) = some (.file bytes)) :
      Leads t place [name] (.taken (place ++ [name]) (.file bytes))
  | free {place : Location} {name : String} (fits : Fits name) (found : t.get? (place ++ [name]) = none) :
      Leads t place [name] (.free place name)

section Leads

variable {t u : Tree} {mayWrite : Location → Prop} {place : Location} {names : List String} {spot : Spot}

theorem leads_of_walkTo (plain : t.Plain) {follow : Bool} {jump : Location → List String → Except Fault Spot}
    (h : t.walkTo follow jump place names = .ok spot) : t.Leads place names spot := by
  induction names generalizing place with
  | nil =>
    cases h
    exact .done
  | cons name rest ih =>
    rw [walkTo] at h
    split at h
    · rename_i here
      rw [eq_of_beq here]
      exact .stay (ih h)
    · rename_i notHere
      split at h
      · rename_i up
        rw [eq_of_beq up]
        exact .up (ih h)
      · rename_i notUp
        split at h
        · cases h
        · rename_i long
          have fits : Fits name := ⟨by simpa using notHere, by simpa using notUp, Nat.not_lt.1 long⟩
          split at h
          · rename_i found
            split at h
            · rename_i last
              cases h
              rw [List.isEmpty_iff.1 last]
              exact .free fits found
            · cases h
          · rename_i found
            exact .enter fits found (ih h)
          · rename_i found
            split at h
            · rename_i last
              cases h
              rw [List.isEmpty_iff.1 last]
              exact .file fits found
            · cases h
          · rename_i found
            exact absurd found (plain.noLinks _ _)

theorem Leads.walkTo_eq_ok (h : t.Leads place names spot) (follow : Bool)
    (jump : Location → List String → Except Fault Spot) : t.walkTo follow jump place names = .ok spot := by
  induction h with
  | done => rfl
  | stay _ ih =>
    rw [walkTo, if_pos (beq_self_eq_true _)]
    exact ih
  | up _ ih =>
    rw [walkTo, if_neg (by decide), if_pos (beq_self_eq_true _)]
    exact ih
  | enter fits found _ ih =>
    rw [walkTo, if_neg (by simpa using fits.notHere), if_neg (by simpa using fits.notUp),
      if_neg (Nat.not_lt.2 fits.short), found]
    exact ih
  | file fits found =>
    rw [walkTo, if_neg (by simpa using fits.notHere), if_neg (by simpa using fits.notUp),
      if_neg (Nat.not_lt.2 fits.short), found]
    rfl
  | free fits found =>
    rw [walkTo, if_neg (by simpa using fits.notHere), if_neg (by simpa using fits.notUp),
      if_neg (Nat.not_lt.2 fits.short), found]
    rfl

theorem walk_eq_ok_iff (plain : t.Plain) (follow : Bool) (links : Nat) :
    t.walk follow links place names = .ok spot ↔ t.Leads place names spot := by
  cases links <;> exact ⟨leads_of_walkTo plain, fun h => h.walkTo_eq_ok _ _⟩

theorem Leads.unique (plain : t.Plain) {other : Spot} (h : t.Leads place names spot) (h' : t.Leads place names other) :
    spot = other := by
  have same := ((walk_eq_ok_iff plain true 0).2 h).symm.trans ((walk_eq_ok_iff plain true 0).2 h')
  cases same
  rfl

/-- Names that lead to a directory can be followed by more. -/
theorem Leads.append {middle : Location} {more : List String} (h : t.Leads place names (.taken middle .directory))
    (h' : t.Leads middle more spot) : t.Leads place (names ++ more) spot := by
  generalize reached : Spot.taken middle .directory = goal at h
  induction h with
  | done =>
    cases reached
    exact h'
  | stay _ ih => exact .stay (ih reached)
  | up _ ih => exact .up (ih reached)
  | enter fits found _ ih => exact .enter fits found (ih reached)
  | file => cases reached
  | free => cases reached

/-- The front of a way leads to a directory, unless it is the whole way and that does not. -/
theorem Leads.exists_front {front back : List String} (h : t.Leads place (front ++ back) spot)
    (whole : back = [] → ∃ middle, spot = .taken middle .directory) :
    ∃ middle, t.Leads place front (.taken middle .directory) ∧ t.Leads middle back spot := by
  induction front generalizing place with
  | nil => exact ⟨place, .done, h⟩
  | cons name rest ih =>
    generalize all : name :: rest ++ back = names at h
    cases h with
    | done => cases all
    | stay h =>
      cases all
      obtain ⟨middle, front, back⟩ := ih h
      exact ⟨middle, .stay front, back⟩
    | up h =>
      cases all
      obtain ⟨middle, front, back⟩ := ih h
      exact ⟨middle, .up front, back⟩
    | enter fits found h =>
      cases all
      obtain ⟨middle, front, back⟩ := ih h
      exact ⟨middle, .enter fits found front, back⟩
    | file fits found =>
      obtain ⟨rfl, none⟩ := List.cons.inj all
      obtain ⟨middle, directory⟩ := whole (List.append_eq_nil_iff.1 none).2
      cases directory
    | free fits found =>
      obtain ⟨rfl, none⟩ := List.cons.inj all
      obtain ⟨middle, directory⟩ := whole (List.append_eq_nil_iff.1 none).2
      cases directory

/-- The place that a spot is about. -/
def Spot.location : Spot → Location
  | .taken place _ => place
  | .free directory name => directory ++ [name]

/-- What a last name leads to, if it is no directory, has that name, and the name fits. -/
theorem Leads.last_name {front : List String} {name : String} (h : t.Leads place (front ++ [name]) spot)
    (noDirectory : ∀ place, spot ≠ .taken place .directory) : spot.location.getLast? = some name ∧ Fits name := by
  obtain ⟨place, -, last⟩ := h.exists_front (by simp)
  cases last with
  | stay last =>
    cases last
    exact absurd rfl (noDirectory _)
  | up last =>
    cases last
    exact absurd rfl (noDirectory _)
  | enter _ _ last =>
    cases last
    exact absurd rfl (noDirectory _)
  | file fits => exact ⟨List.getLast?_concat, fits⟩
  | free fits => exact ⟨List.getLast?_concat, fits⟩

/-- What a spot says of the tree. -/
def Spot.Stands (t : Tree) : Spot → Prop
  | .taken place entry => t.get? place = some entry
  | .free directory name => t.get? directory = some .directory ∧ t.get? (directory ++ [name]) = none ∧ ProperName name

theorem Plain.directory_above (plain : t.Plain) (h : t.get? place = some .directory) :
    t.get? place.dropLast = some .directory := by
  rcases List.eq_nil_or_concat place with rfl | ⟨above, name, rfl⟩
  · exact h
  · rw [List.concat_eq_append] at h ⊢
    rw [List.dropLast_concat]
    exact plain.inside above name _ h

theorem Leads.stands (h : t.Leads place names spot) (plain : t.Plain) (start : t.get? place = some .directory)
    (parts : ∀ name ∈ names, isName name = true ∧ '\x00' ∉ name.toList) : spot.Stands t := by
  induction h with
  | done => exact start
  | stay _ ih => exact ih start fun name mem => parts name (List.mem_cons_of_mem _ mem)
  | up _ ih => exact ih (plain.directory_above start) fun name mem => parts name (List.mem_cons_of_mem _ mem)
  | enter _ found _ ih => exact ih found fun name mem => parts name (List.mem_cons_of_mem _ mem)
  | file _ found => exact found
  | free fits found =>
    obtain ⟨isName, noNull⟩ := parts _ List.mem_cons_self
    exact ⟨start, found, ⟨fits, isName, noNull⟩⟩

/-- A way to a directory stays a way to it. -/
theorem Leads.directory_stays {middle : Location} (h : t.Leads place names (.taken middle .directory))
    (changes : Changes mayWrite t u) : u.Leads place names (.taken middle .directory) := by
  generalize reached : Spot.taken middle .directory = goal at h ⊢
  induction h with
  | done => exact .done
  | stay _ ih => exact .stay (ih reached)
  | up _ ih => exact .up (ih reached)
  | enter fits found _ ih => exact .enter fits (changes.directory_stays found) (ih reached)
  | file => cases reached
  | free => cases reached

/-- A way to a file stays a way to it. -/
theorem Leads.file_stays {standing : Location} {bytes : List UInt8} (h : t.Leads place names (.taken standing (.file bytes)))
    (changes : Changes mayWrite t u) :
    ∃ bytes, u.get? standing = some (.file bytes) ∧ u.Leads place names (.taken standing (.file bytes)) := by
  generalize reached : Spot.taken standing (.file bytes) = goal at h
  induction h with
  | done => cases reached
  | stay _ ih =>
    obtain ⟨bytes, new, h⟩ := ih reached
    exact ⟨bytes, new, .stay h⟩
  | up _ ih =>
    obtain ⟨bytes, new, h⟩ := ih reached
    exact ⟨bytes, new, .up h⟩
  | enter fits found _ ih =>
    obtain ⟨bytes, new, h⟩ := ih reached
    exact ⟨bytes, new, .enter fits (changes.directory_stays found) h⟩
  | file fits found =>
    cases reached
    obtain ⟨bytes, new⟩ := changes.file_stays found
    exact ⟨bytes, new, .file fits new⟩
  | free => cases reached

theorem Plain.directory_of_below (plain : t.Plain) {entry : Entry} (nonempty : names ≠ [])
    (found : t.get? (place ++ names) = some entry) : t.get? place = some .directory := by
  induction names using List.reverseRecOn generalizing entry with
  | nil => exact absurd rfl nonempty
  | append_singleton front name ih =>
    rw [← List.append_assoc] at found
    have above := plain.inside _ _ _ found
    by_cases last : front = []
    · rwa [last, List.append_nil] at above
    · exact ih last above

/-- Proper names lead straight to what stands at the end of them. -/
theorem leads_of_get? (plain : t.Plain) {entry : Entry} (found : t.get? (place ++ names) = some entry)
    (start : t.get? place = some .directory) : t.Leads place names (.taken (place ++ names) entry) := by
  induction names generalizing place with
  | nil =>
    rw [List.append_nil] at found ⊢
    cases start.symm.trans found
    exact .done
  | cons name rest ih =>
    have proper : ProperName name := plain.proper _ _ found name (by simp)
    cases rest with
    | nil =>
      cases entry with
      | directory => exact .enter proper.toFits found .done
      | file bytes => exact .file proper.toFits found
      | link target => exact absurd found (plain.noLinks _ _)
    | cons next rest =>
      rw [List.append_cons] at found ⊢
      have above := plain.directory_of_below (List.cons_ne_nil next rest) found
      exact .enter proper.toFits above (ih found above)

theorem Leads.straight {standing : Location} {entry : Entry} (h : t.Leads place names (.taken standing entry))
    (start : t.get? place = some .directory) (straight : ∀ name ∈ names, name ≠ "." ∧ name ≠ "..") :
    standing = place ++ names ∧ t.get? standing = some entry := by
  generalize reached : Spot.taken standing entry = goal at h
  induction h with
  | done =>
    cases reached
    exact ⟨(List.append_nil _).symm, start⟩
  | stay => exact absurd rfl (straight "." List.mem_cons_self).1
  | up => exact absurd rfl (straight ".." List.mem_cons_self).2
  | enter fits found _ ih =>
    rw [List.append_cons]
    exact ih found (fun name mem => straight name (List.mem_cons_of_mem _ mem)) reached
  | file fits found =>
    cases reached
    exact ⟨rfl, found⟩
  | free => cases reached

/-- A way that ends in a free name leads to a file once one is put there. -/
theorem Leads.put_file {directory : Location} {name : String} (h : t.Leads place names (.free directory name))
    (stands : (Spot.free directory name).Stands t) (bytes : List UInt8) :
    (t.put (directory ++ [name]) (.file bytes)).Leads place names (.taken (directory ++ [name]) (.file bytes)) := by
  obtain ⟨inside, free, proper⟩ := stands
  generalize reached : Spot.free directory name = spot at h
  induction h with
  | done => cases reached
  | stay _ ih => exact .stay (ih reached)
  | up _ ih => exact .up (ih reached)
  | enter fits found _ ih =>
    refine .enter fits ?_ (ih reached)
    rw [get?_put_inside inside proper, if_neg]
    · exact found
    · rintro same
      rw [same, free] at found
      cases found
  | file => cases reached
  | free fits found =>
    cases reached
    refine .file fits ?_
    rw [get?_put_inside inside proper, if_pos rfl]

end Leads

/-! ## Paths -/

/-- The names on a path. -/
def names (path : String) : List String := (Path.parts path.toList).map String.ofList

/-- The directory that a path starts from. -/
def start (t : Tree) (path : String) : Location := if Path.isAbsolute path.toList then [] else t.current

/-- A path leads to a spot. -/
structure Reaches (t : Tree) (path : String) (spot : Spot) : Prop where
  noNull : '\x00' ∉ path.toList
  nonempty : path.toList ≠ []
  leads : t.Leads (t.start path) (names path) spot
  /-- A slash at the end is for directories. -/
  noFile : path.toList.getLast? = some '/' → ∀ place bytes, spot ≠ .taken place (.file bytes)

section Reaches

variable {t u : Tree} {mayWrite : Location → Prop} {path directory name : String} {spot : Spot} {place : Location}

/-- A path is looked up by a walk along its names. -/
theorem find_iff_walk (follow : Bool) : t.find follow path = .ok spot ↔
    '\x00' ∉ path.toList ∧ path.toList ≠ [] ∧
      t.walk (follow || path.toList.getLast? == some '/') maxLinks (t.start path) (names path) = .ok spot ∧
        (path.toList.getLast? = some '/' → ∀ place bytes, spot ≠ .taken place (.file bytes)) := by
  unfold find
  dsimp only
  constructor
  · intro h
    split at h
    · cases h
    · rename_i noNull
      split at h
      · cases h
      · rename_i nonempty
        obtain ⟨found, walked, h⟩ := bind_eq_ok.1 h
        rw [List.contains_iff_mem] at noNull
        rw [List.isEmpty_iff] at nonempty
        split at h
        · split at h
          · cases h
          · rename_i noSlash
            cases h
            exact ⟨noNull, nonempty, walked, fun slash => absurd (beq_iff_eq.2 slash) noSlash⟩
        · rename_i noFile
          cases h
          exact ⟨noNull, nonempty, walked, fun _ place bytes => noFile place bytes⟩
  · rintro ⟨noNull, nonempty, walked, noFile⟩
    rw [if_neg (by simpa using noNull), if_neg (by simpa using nonempty)]
    refine bind_eq_ok.2 ⟨spot, walked, ?_⟩
    split
    · rename_i place bytes
      rw [if_neg fun slash => noFile (eq_of_beq slash) place bytes rfl]
      rfl
    · rfl

theorem find_eq_ok_iff (plain : t.Plain) (follow : Bool) : t.find follow path = .ok spot ↔ t.Reaches path spot := by
  rw [find_iff_walk, walk_eq_ok_iff plain]
  exact ⟨fun ⟨noNull, nonempty, leads, noFile⟩ => ⟨noNull, nonempty, leads, noFile⟩,
    fun h => ⟨h.noNull, h.nonempty, h.leads, h.noFile⟩⟩

theorem isName_of_mem_names (h : name ∈ names path) : isName name = true := by
  obtain ⟨part, mem, rfl⟩ := List.mem_map.1 h
  obtain ⟨nonempty, slash⟩ := Path.of_mem_parts mem
  simp [isName, nonempty, slash]

theorem Plain.start (plain : t.Plain) (path : String) : t.get? (t.start path) = some .directory := by
  unfold Tree.start
  split
  · rfl
  · exact plain.current

theorem Reaches.stands (h : t.Reaches path spot) (plain : t.Plain) : spot.Stands t := by
  refine h.leads.stands plain (plain.start path) fun name mem => ⟨isName_of_mem_names mem, ?_⟩
  · obtain ⟨part, mem, rfl⟩ := List.mem_map.1 mem
    rw [String.toList_ofList]
    exact fun null => h.noNull ((Path.mem_iff_mem_parts (by decide)).2 ⟨part, ‹_›, null⟩)

theorem Reaches.unique (plain : t.Plain) {other : Spot} (h : t.Reaches path spot) (h' : t.Reaches path other) :
    spot = other :=
  h.leads.unique plain h'.leads

theorem start_eq (h : u.current = t.current) (path : String) : u.start path = t.start path := by
  rw [start, start, h]

theorem Reaches.directory_stays (h : t.Reaches path (.taken place .directory)) (changes : Changes mayWrite t u) :
    u.Reaches path (.taken place .directory) where
  noNull := h.noNull
  nonempty := h.nonempty
  leads := start_eq changes.current path ▸ h.leads.directory_stays changes
  noFile := h.noFile

theorem Reaches.file_stays {bytes : List UInt8} (h : t.Reaches path (.taken place (.file bytes)))
    (changes : Changes mayWrite t u) :
    ∃ bytes, u.get? place = some (.file bytes) ∧ u.Reaches path (.taken place (.file bytes)) := by
  obtain ⟨new, found, leads⟩ := h.leads.file_stays changes
  refine ⟨new, found, h.noNull, h.nonempty, start_eq changes.current path ▸ leads, fun slash => ?_⟩
  exact absurd rfl (h.noFile slash place bytes)

theorem toList_join (directory name : String) :
    (Path.join directory name).toList = Path.joinChars directory.toList name.toList := String.toList_ofList

theorem head?_ne_of_isName (h : isName name = true) : name.toList.head? ≠ some '/' :=
  fun first => (isName_iff.1 h).2 (List.mem_of_mem_head? first)

theorem names_join (h : isName name = true) (directory : String) :
    names (Path.join directory name) = names directory ++ [name] := by
  obtain ⟨nonempty, slash⟩ := isName_iff.1 h
  rw [names, toList_join, Path.parts_joinChars _ (head?_ne_of_isName h), Path.parts_of_part slash nonempty, List.map_append]
  simp [names]

theorem start_join (h : isName name = true) (t : Tree) (directory : String) :
    t.start (Path.join directory name) = t.start directory := by
  rw [start, start, toList_join, Path.isAbsolute_joinChars _ (head?_ne_of_isName h)]

theorem getLast?_join (h : isName name = true) (directory : String) :
    (Path.join directory name).toList.getLast? = some (name.toList.getLast (isName_iff.1 h).1) := by
  rw [toList_join, Path.getLast?_joinChars _ (head?_ne_of_isName h) (isName_iff.1 h).1, List.getLast?_eq_some_getLast]

theorem getLast?_join_ne (h : isName name = true) (directory : String) :
    (Path.join directory name).toList.getLast? ≠ some '/' := by
  rw [getLast?_join h]
  intro slash
  exact (isName_iff.1 h).2 (Option.some.inj slash ▸ List.getLast_mem _)

/-- Where a name in a directory leads. -/
def spotIn (t : Tree) (place : Location) (name : String) : Spot :=
  match t.get? (place ++ [name]) with
  | some entry => .taken (place ++ [name]) entry
  | none => .free place name

theorem leads_spotIn (plain : t.Plain) (fits : Fits name) (place : Location) :
    t.Leads place [name] (t.spotIn place name) := by
  unfold spotIn
  split
  · rename_i entry found
    cases entry with
    | directory => exact .enter fits found .done
    | file bytes => exact .file fits found
    | link target => exact absurd found (plain.noLinks _ _)
  · rename_i found
    exact .free fits found

/-- A path with one more name leads to that name in the directory. -/
theorem Reaches.join (plain : t.Plain) (h : t.Reaches directory (.taken place .directory)) (proper : ProperName name) :
    t.Reaches (Path.join directory name) (t.spotIn place name) where
  noNull := by
    rw [toList_join, Path.mem_joinChars _ (head?_ne_of_isName proper.isName) (by decide)]
    exact not_or.2 ⟨h.noNull, proper.noNull⟩
  nonempty := by
    intro empty
    have last := getLast?_join proper.isName directory
    rw [empty] at last
    cases last
  leads := by
    rw [start_join proper.isName, names_join proper.isName]
    exact h.leads.append (leads_spotIn plain proper.toFits place)
  noFile := fun slash => absurd slash (getLast?_join_ne proper.isName directory)

/-- A path with one more name leads nowhere unless the rest of it leads to a directory. -/
theorem Reaches.of_join (h : t.Reaches (Path.join directory name) spot) (isName : isName name = true)
    (nonempty : directory.toList ≠ []) :
    ∃ place, t.Reaches directory (.taken place .directory) ∧ t.Leads place [name] spot := by
  have leads := h.leads
  rw [start_join isName, names_join isName] at leads
  obtain ⟨place, front, last⟩ := leads.exists_front (by simp)
  refine ⟨place, ⟨fun null => h.noNull ?_, nonempty, front, by simp⟩, last⟩
  rw [toList_join, Path.mem_joinChars _ (head?_ne_of_isName isName) (by decide)]
  exact Or.inl null

/-- What a name in a directory leads to, if it is no directory, has that name, and the name fits. -/
theorem Reaches.last_name (h : t.Reaches (Path.join directory name) spot) (isName : isName name = true)
    (noDirectory : ∀ place, spot ≠ .taken place .directory) : spot.location.getLast? = some name ∧ Fits name := by
  have leads := h.leads
  rw [start_join isName, names_join isName] at leads
  exact leads.last_name noDirectory

end Reaches

/-! ## Looking -/

section Looking

variable {t : Tree} {path : String}

theorem entry?_eq_some_iff (plain : t.Plain) {entry : Entry} :
    t.entry? path = some entry ↔ ∃ place, t.Reaches path (.taken place entry) := by
  unfold entry?
  constructor
  · intro h
    split at h
    · rename_i found
      cases h
      exact ⟨_, (find_eq_ok_iff plain true).1 found⟩
    · cases h
  · rintro ⟨place, h⟩
    rw [(find_eq_ok_iff plain true).2 h]

theorem exists?_iff (plain : t.Plain) : t.exists? path = true ↔ ∃ place entry, t.Reaches path (.taken place entry) := by
  rw [exists?, Option.isSome_iff_exists]
  simp only [entry?_eq_some_iff plain]
  exact exists_comm

theorem isDirectory_iff (plain : t.Plain) : t.isDirectory path = true ↔ ∃ place, t.Reaches path (.taken place .directory) := by
  rw [isDirectory, beq_iff_eq, entry?_eq_some_iff plain]

theorem isFile_iff (plain : t.Plain) : t.isFile path = true ↔ ∃ place bytes, t.Reaches path (.taken place (.file bytes)) := by
  rw [exists_comm]
  simp only [← entry?_eq_some_iff plain]
  unfold isFile
  split
  · rename_i bytes found
    simp [found]
  · rename_i noFile
    simpa using noFile

theorem readBytes_eq_ok_iff (plain : t.Plain) {bytes : List UInt8} :
    t.readBytes path = .ok bytes ↔ ∃ place, t.Reaches path (.taken place (.file bytes)) := by
  unfold readBytes
  rw [bind_eq_ok]
  simp only [find_eq_ok_iff plain]
  constructor
  · rintro ⟨spot, reaches, h⟩
    split at h
    · cases h
      exact ⟨_, reaches⟩
    all_goals cases h
  · rintro ⟨place, h⟩
    exact ⟨_, h, rfl⟩

end Looking

end CallAtlas.Files.Tree
