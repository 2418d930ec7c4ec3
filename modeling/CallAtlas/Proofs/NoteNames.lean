import CallAtlas.Proofs.Rerun

/-!
# The names of notes

Whatever a declaration is called and wherever a source file lies, the name of its note is one ordinary part of a path. So a
note is written right inside the output directory, or to where a link of that very name leads, and it is no source file.
-/

namespace CallAtlas

namespace Files.Tree

variable {t : Tree} {place : Location} {front : List String} {name directory text : String} {spot : Spot}

/-! ## One more name on a path -/

/-- A spot is that of a name in a directory, unless a link has the name. -/
def IsInside (t : Tree) (place : Location) (name : String) (spot : Spot) : Prop :=
  spot.location = place ++ [name] ∨ ∃ target, t.get? (place ++ [name]) = some (.link target)

theorem walkTo_concat {jump : Location → List String → Except Fault Spot} (usual : name ≠ "." ∧ name ≠ "..")
    (onward : ∀ start front, jump start (front ++ [name]) = .ok spot →
      ∃ inner, jump start front = .ok (.taken inner .directory) ∧ t.IsInside inner name spot)
    (h : t.walkTo true jump place (front ++ [name]) = .ok spot) :
    ∃ inner, t.walkTo true jump place front = .ok (.taken inner .directory) ∧ t.IsInside inner name spot := by
  induction front generalizing place with
  | nil =>
    refine ⟨place, rfl, ?_⟩
    simp only [List.nil_append, walkTo, beq_iff_eq, usual, if_false, List.isEmpty_nil, if_true] at h
    split at h
    · cases h
    · split at h
      · cases h
        exact Or.inl rfl
      · cases h
        exact Or.inl rfl
      · cases h
        exact Or.inl rfl
      · rename_i target found
        exact Or.inr ⟨target, found⟩
  | cons first front ih =>
    have more : (front ++ [name]).isEmpty = false := by simp
    revert h
    rw [List.cons_append, walkTo, walkTo, more]
    simp only [Bool.not_true, Bool.and_false, Bool.false_eq_true, if_false]
    -- both walks take the same branch, and only a directory or a link lets the longer one go on
    split
    · exact ih
    · split
      · exact ih
      · split
        · exact fun h => by cases h
        · split
          · exact fun h => by cases h
          · exact ih
          · exact fun h => by cases h
          · rw [← List.append_assoc]
            exact onward _ _

/-- The last name is looked up in the directory that the names before it lead to, however many links are on the way. -/
theorem walk_concat (usual : name ≠ "." ∧ name ≠ "..") {links : Nat}
    (h : t.walk true links place (front ++ [name]) = .ok spot) :
    ∃ inner, t.walk true links place front = .ok (.taken inner .directory) ∧ t.IsInside inner name spot := by
  induction links generalizing place front with
  | zero => exact walkTo_concat usual (fun _ _ h => by cases h) h
  | succ links ih => exact walkTo_concat usual (fun _ _ h => ih h) h

theorem find_join (isName : isName name = true) (usual : name ≠ "." ∧ name ≠ "..") (nonempty : directory ≠ "")
    (h : t.find true (Path.join directory name) = .ok spot) :
    ∃ inner, t.find true directory = .ok (.taken inner .directory) ∧ t.IsInside inner name spot := by
  obtain ⟨noNull, -, walked, -⟩ := (find_iff_walk true).1 h
  rw [Bool.true_or, start_join isName, names_join isName] at walked
  obtain ⟨inner, before, inside⟩ := walk_concat usual walked
  rw [toList_join, Path.mem_joinChars _ (head?_ne_of_isName isName) (by decide), not_or] at noNull
  exact ⟨inner, (find_iff_walk true).2 ⟨noNull.1, mt String.toList_eq_nil_iff.1 nonempty, before, by simp⟩, inside⟩

/-! ## Where a text is stored -/

theorem makeDirectories_empty (t : Tree) : t.makeDirectories "" = (t, some .notFound) := by
  have parts : splitLast "" = ("", "") := by decide
  have missing : t.makeDirectory "" = .error .notFound := rfl
  have absent : t.isDirectory "" = false := rfl
  simp [makeDirectories, makeDirectoriesFrom, parts, makeDirectoryOnce, missing, absent]

/-- Every file stood there before, with the same bytes. -/
def NoNewFile (t u : Tree) : Prop :=
  ∀ place bytes, u.get? place = some (.file bytes) → t.get? place = some (.file bytes)

theorem noNewFile_makeDirectories (t : Tree) (path : String) : NoNewFile t (t.makeDirectories path).1 := by
  refine makeDirectoriesFrom_keeps (fun _ _ _ => id) (fun h h' place bytes => h place bytes ∘ h' place bytes) ?_ t _ path
  intro t u path made place bytes found
  obtain ⟨spot, -, made⟩ := bind_eq_ok.1 made
  split at made
  · rename_i inner name
    cases made
    by_cases names : (inner ++ [name]).all isName = true
    · rw [get?_put names (by simp)] at found
      split at found
      · cases found
      · exact found
    · rwa [put, dif_neg names] at found
  · cases made

/-- What comes of storing a text under a name in a directory. -/
inductive Stores (t : Tree) (directory name text : String) : Tree × Except Fault Bool → Prop where
  | kept {answer : Except Fault Bool} (unwritten : answer ≠ .ok true) : Stores t directory name text (t, answer)
  | refused {u : Tree} {why : Option Fault} (made : t.makeDirectories directory = (u, why)) (fault : Fault) :
    Stores t directory name text (u, .error fault)
  | wrote {u : Tree} {inner : Location} {spot : Spot} (made : t.makeDirectories directory = (u, none))
    (found : u.find true directory = .ok (.taken inner .directory))
    (there : u.find true (Path.join directory name) = .ok spot) (inside : u.IsInside inner name spot) :
    Stores t directory name text (u.put spot.location (.file (Text.encodeUtf8 text.toList)), .ok true)

theorem overwrite_stores (isName : isName name = true) (usual : name ≠ "." ∧ name ≠ "..") :
    Stores t directory name text (t.overwrite directory name text) := by
  unfold overwrite store
  rcases made : t.makeDirectories directory with ⟨u, _ | fault⟩ <;> dsimp only
  · cases written : u.writeBytes (Path.join directory name) (Text.encodeUtf8 text.toList) with
    | error fault => exact .refused made fault
    | ok v =>
      have nonempty : directory ≠ "" := by
        rintro rfl
        rw [makeDirectories_empty] at made
        cases made
      obtain ⟨spot, there, stored⟩ := bind_eq_ok.1 written
      obtain ⟨inner, found, inside⟩ := find_join isName usual nonempty there
      have put : u.put spot.location (.file (Text.encodeUtf8 text.toList)) = v := by
        split at stored
        · split at stored
          · cases stored
          · exact pure_eq_ok.1 stored
        · exact pure_eq_ok.1 stored
        · cases stored
      exact put ▸ .wrote made found there inside
  · exact .refused made fault

theorem writeIfChanged_stores (isName : isName name = true) (usual : name ≠ "." ∧ name ≠ "..") :
    Stores t directory name text (t.writeIfChanged directory name text) := by
  unfold writeIfChanged
  split
  · split
    · split
      · exact .kept (by simp)
      · exact overwrite_stores isName usual
    · exact .kept (by simp)
  · exact overwrite_stores isName usual

end Files.Tree

namespace Note

open Files

/-- A file name that comes of a text and leads nowhere but into the directory that it is used in. -/
structure NamesNote (text name : String) : Prop where
  kept : name.toList = text.toList.map fun c => if isForbidden c then '_' else c
  allowed : ∀ c ∈ name.toList, 0x20 ≤ c.toNat ∧ c ∉ ['<', '>', ':', '"', '/', '\\', '|', '?', '*']
  ends : ['.', 'm', 'd'] <:+ name.toList
  usual : name ≠ "" ∧ name ≠ "." ∧ name ≠ ".."
  settled : sanitize name = name
  noSource : isSource name = false
  onePart : Path.parts name.toList = [name.toList]
  below : ∀ directory, Path.parts (Path.join directory name).toList = Path.parts directory.toList ++ [name.toList]
  stored : ∀ (t : Tree) (directory text : String), t.NoNewFile (t.makeDirectories directory).1 ∧
    t.Stores directory name text (t.writeIfChanged directory name text)

theorem namesNote_sanitize (base : String) : NamesNote (base ++ ".md") (sanitize (base ++ ".md")) := by
  obtain ⟨isName, noSource⟩ := sanitize_note base
  obtain ⟨nonempty, slash⟩ := isName_iff.1 isName
  have ends : ['.', 'm', 'd'] <:+ (sanitize (base ++ ".md")).toList := ⟨_, (toList_sanitize_note base).symm⟩
  have unlike : ∀ other : String, other.toList.length < 3 → sanitize (base ++ ".md") ≠ other :=
    fun other short same => absurd ends.length_le (by simpa [same] using short)
  have usual := And.intro (unlike "." (by decide)) (unlike ".." (by decide))
  have onePart := Path.parts_of_part slash nonempty
  refine ⟨toList_sanitize _, fun c mem => ?_, ends, ⟨unlike "" (by decide), usual⟩, ?_, noSource, onePart, fun directory => ?_,
    fun t directory text => ⟨t.noNewFile_makeDirectories directory, Tree.writeIfChanged_stores isName usual⟩⟩
  · simpa [isForbidden] using isForbidden_of_mem_sanitize mem
  · refine String.toList_injective ?_
    rw [toList_sanitize]
    exact (List.map_congr_left fun c mem => by rw [isForbidden_of_mem_sanitize mem]; rfl).trans (List.map_id _)
  · rw [Tree.toList_join, Path.parts_joinChars _ (Tree.head?_ne_of_isName isName), onePart]

/-- The names of notes stay inside the output directory. -/
theorem names_stay_inside (u : Callable) (path : String) :
    NamesNote (u.declaringType ++ "." ++ u.name ++ ".md") (nameForUnit u) ∧
      NamesNote (Path.stem (Path.base path) ++ ".md") (nameForFile path) :=
  ⟨namesNote_sanitize _, namesNote_sanitize _⟩

-- a type and a name that lead out of the directory
example :
    let u : Callable := { identity := default, declaringType := "../..", name := "/etc/x\n" }
    nameForUnit u = ".._..._etc_x_.md" ∧
      ((Tree.empty ["home"]).writeIfChanged "/out" (nameForUnit u) "x").1.entries =
        [(["out"], .directory), (["out", ".._..._etc_x_.md"], .file [120])] := by
  decide +kernel

end Note

end CallAtlas
