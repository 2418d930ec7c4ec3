import CallAtlas.Proofs.Reading

/-!
# Names, margins and entries

What a section of a documentation text is made of. A name is read at the start of an entry, an indented body is brought
back to the margin, and lines laid out as entries are read as these entries. Empty lines after a body are taken into its
last entry, and nothing that is read off an entry depends on them.
-/

namespace CallAtlas

namespace Text

/-- No range of one list meets a range of the other. -/
def Ranges.areApart (rs qs : Ranges) : Bool := rs.all fun r => qs.all fun q => decide (r.2 < q.1) || decide (q.2 < r.1)

theorem Ranges.has_of_areApart {rs qs : Ranges} (apart : rs.areApart qs = true) {code : Nat} (h : rs.has code = true) :
    qs.has code = false := by
  by_contra other
  obtain ⟨r, hr, low, high⟩ := Ranges.has_iff.1 h
  obtain ⟨q, hq, low', high'⟩ := Ranges.has_iff.1 (by simpa using other)
  have gap := List.all_eq_true.1 (List.all_eq_true.1 apart r hr) q hq
  simp only [Bool.or_eq_true, decide_eq_true_eq] at gap
  omega

theorem isBlank_of_isWord {c : Char} (h : isWord c = true) : isBlank c = false := by
  rcases Bool.or_eq_true_iff.1 h with same | letter
  · rw [beq_iff_eq.1 same]
    decide
  · exact Ranges.has_of_areApart (by decide +kernel) letter

end Text

namespace Documentation

open Text

/-! ## Names and passages -/

/-- The name of a described parameter: up to two stars, a letter from A to Z or an underscore, then characters of words
and points. -/
def IsName (name : List Char) : Prop :=
  ∃ stars first rest, name = List.replicate stars '*' ++ first :: rest ∧ stars ≤ 2 ∧ isNameStart first = true ∧
    ∀ c ∈ rest, (isWord c || c == '.') = true

/-- The letters stand in two intervals of the code points. -/
theorem toNat_of_isLatinLetter {c : Char} (letter : isLatinLetter c = true) :
    (65 ≤ c.toNat ∧ c.toNat ≤ 90) ∨ (97 ≤ c.toNat ∧ c.toNat ≤ 122) := by
  rcases Bool.or_eq_true_iff.1 letter with upper | lower
  · exact Or.inl (of_decide_eq_true upper)
  · obtain ⟨low, high⟩ := Bool.and_eq_true_iff.1 lower
    exact Or.inr ⟨of_decide_eq_true low, of_decide_eq_true high⟩

theorem isBlank_of_isNameStart {c : Char} (h : isNameStart c = true) : isBlank c = false := by
  rcases Bool.or_eq_true_iff.1 h with letter | same
  · have interval := toNat_of_isLatinLetter letter
    by_contra blank
    simp only [isBlank, blankRanges, Ranges.has, List.any_cons, List.any_nil, Bool.or_false, Bool.not_eq_false,
      Bool.or_eq_true, Bool.and_eq_true, decide_eq_true_eq] at blank
    omega
  · rw [beq_iff_eq.1 same]
    decide

namespace IsName

variable {name : List Char}

/-- What holds of each kind of character that names are made of holds of all of a name. -/
theorem forall_mem (named : IsName name) {holds : Char → Prop} (star : holds '*')
    (start : ∀ c, isNameStart c = true → holds c) (word : ∀ c, isWord c = true → holds c) (point : holds '.') :
    ∀ c ∈ name, holds c := by
  obtain ⟨stars, first, rest, rfl, -, letter, inside⟩ := named
  intro c mem
  rcases List.mem_append.1 mem with mem | mem
  · rw [List.eq_of_mem_replicate mem]
    exact star
  · rcases List.mem_cons.1 mem with rfl | mem
    · exact start c letter
    · rcases Bool.or_eq_true_iff.1 (inside c mem) with found | found
      · exact word c found
      · rw [beq_iff_eq.1 found]
        exact point

theorem solid (named : IsName name) : ∀ c ∈ name, isBlank c = false :=
  named.forall_mem (by decide) (fun _ => isBlank_of_isNameStart) (fun _ => isBlank_of_isWord) (by decide)

theorem not_mem (named : IsName name) {c : Char} (star : c ≠ '*') (start : isNameStart c = false)
    (word : isWord c = false) (point : c ≠ '.') : c ∉ name := by
  intro mem
  have others : ∀ d ∈ name, d ≠ c := by
    refine named.forall_mem star.symm ?_ ?_ point.symm
    · rintro d letter rfl
      rw [start] at letter
      cases letter
    · rintro d inside rfl
      rw [word] at inside
      cases inside
  exact others c mem rfl

theorem colon_not_mem (named : IsName name) : ':' ∉ name :=
  named.not_mem (by decide) (by decide) (by decide +kernel) (by decide)

theorem ne_nil (named : IsName name) : name ≠ [] := by
  obtain ⟨stars, first, rest, rfl, -⟩ := named
  simp

theorem isRule (named : IsName name) : isRule name = false := by
  have solid := named.solid
  obtain ⟨stars, first, rest, rfl, -, letter, -⟩ := named
  refine isRule_eq_false (c := first) (by simp) (solid first (by simp)) ?_
  rintro rfl
  revert letter
  decide

/-- A name is found at the start of an entry if a colon follows it. -/
theorem entryName? (named : IsName name) (rest : List Char) :
    entryName? (name ++ ':' :: rest) = some (name, ':' :: rest) := by
  obtain ⟨stars, first, word, rfl, few, letter, inside⟩ := named
  have other : (first == '*') = false := by
    rw [beq_eq_false_iff_ne]
    rintro rfl
    cases letter
  have scan : (List.replicate stars '*' ++ first :: (word ++ ':' :: rest)).takeWhile (· == '*') =
      List.replicate stars '*' := by
    refine takeWhile_append_of_stop ?_ ?_
    · intro c mem
      rw [List.eq_of_mem_replicate mem]
      rfl
    · rintro c ⟨⟩
      exact other
  have stop : ∀ c ∈ (':' :: rest).head?, (isWord c || c == '.') = false := by
    rintro c ⟨⟩
    decide +kernel
  simp only [List.append_assoc, List.cons_append, Documentation.entryName?, scan]
  rw [List.take_of_length_le (by simpa using few), List.length_replicate, List.drop_left' (by simp)]
  simp only [letter, if_true]
  rw [takeWhile_append_of_stop inside stop, dropWhile_append_of_stop inside stop]

end IsName

/-- A text that is one line of words: single spaced, and not to be taken for a field. -/
structure IsPassage (cs : List Char) : Prop where
  spoken : cs ≠ []
  spaced : singleSpaced cs = cs
  colon : cs.head? ≠ some ':'

namespace IsPassage

variable {cs : List Char} (passage : IsPassage cs)
include passage

theorem isAllBlank : isAllBlank cs = false := by
  rw [← Bool.not_eq_true, ← singleSpaced_eq_nil_iff, passage.spaced]
  exact passage.spoken

theorem head? : ∀ c ∈ cs.head?, isBlank c = false := by
  intro c mem
  rw [← passage.spaced] at mem
  exact isBlank_of_mem_head?_singleSpaced mem

theorem getLast? : ∀ c ∈ cs.getLast?, isBlank c = false := by
  intro c mem
  rw [← passage.spaced] at mem
  exact isBlank_of_mem_getLast?_singleSpaced mem

theorem isIndented : isIndented cs = false := by
  cases found : cs.head? with
  | none => simp [Documentation.isIndented, found]
  | some c => simp [Documentation.isIndented, found, passage.head? c found]

theorem trim : trim cs = cs := trim_of_ends passage.head? passage.getLast?

end IsPassage

/-- A parameter that can be described in every convention. -/
structure IsParameter (p : List Char × List Char) : Prop where
  name : IsName p.1
  spaced : singleSpaced p.2 = p.2
  unruled : isRule p.2 = false

/-! ## Margins of sections -/

/-- What the lines of a section are indented by. -/
def pad : List Char := [' ', ' ', ' ', ' ']

theorem isPad_of_not_isIndented {line : Line} (margin : isIndented line = false) :
    ∀ c ∈ line.head?, isPad c = false := by
  intro c mem
  have solid : isBlank c = false := by simpa [isIndented, Option.mem_def.1 mem] using margin
  rw [isPad, Bool.or_eq_false_iff]
  constructor
  · rw [beq_eq_false_iff_ne]
    rintro rfl
    cases solid
  · rw [beq_eq_false_iff_ne]
    rintro rfl
    cases solid

/-- Lines at the margin. -/
def AtMargin (lines : List Line) : Prop := ∀ line ∈ lines, line ≠ [] ∧ isIndented line = false

theorem AtMargin.all_isPad {lines : List Line} (margin : AtMargin lines) {line : Line} (mem : line ∈ lines) :
    (pad ++ line).all isPad = false := by
  obtain ⟨spoken, margin⟩ := margin line mem
  obtain ⟨c, cs, rfl⟩ := List.exists_cons_of_ne_nil spoken
  simp [isPad_of_not_isIndented margin c rfl]

theorem AtMargin.commonPad {lines : List Line} (margin : AtMargin lines) (nonempty : lines ≠ []) (n : Nat) :
    commonPad (lines.map (pad ++ ·) ++ List.replicate n []) = pad := by
  have kept : (lines.map (pad ++ ·) ++ List.replicate n []).filter (fun line => !line.all isPad) =
      lines.map (pad ++ ·) := by
    rw [List.filter_append, List.filter_replicate]
    simp only [List.all_nil, Bool.not_true, Bool.false_eq_true, if_false, List.append_nil]
    rw [List.filter_eq_self]
    intro line mem
    obtain ⟨given, held, rfl⟩ := List.mem_map.1 mem
    simp [margin.all_isPad held]
  have pads : (lines.map (pad ++ ·)).map (·.takeWhile isPad) = List.replicate lines.length pad := by
    rw [List.map_map, List.eq_replicate_iff]
    refine ⟨by simp, ?_⟩
    intro front mem
    obtain ⟨given, held, rfl⟩ := List.mem_map.1 mem
    exact takeWhile_append_of_stop (List.all_eq_true.1 rfl) (isPad_of_not_isIndented (margin given held).2)
  have front : ∀ k, (List.replicate k pad).foldl commonFront pad = pad := by
    intro k
    induction k with
    | zero => rfl
    | succ k ih => rw [List.replicate_succ, List.foldl_cons, show commonFront pad pad = pad by decide, ih]
  rw [Documentation.commonPad, kept, pads]
  obtain ⟨line, rest, rfl⟩ := List.exists_cons_of_ne_nil nonempty
  exact front rest.length

/-- Indented lines get back to the margin, whatever empty lines follow. -/
theorem AtMargin.dedent {lines : List Line} (margin : AtMargin lines) (nonempty : lines ≠ []) (n : Nat) :
    dedent (lines.map (pad ++ ·) ++ List.replicate n []) = lines ++ List.replicate n [] := by
  have moved : ∀ line ∈ lines, (if (pad ++ line).all isPad then [] else (pad ++ line).drop pad.length) = line := by
    intro line mem
    rw [margin.all_isPad mem]
    exact List.drop_left
  rw [Documentation.dedent, margin.commonPad nonempty]
  simp only [List.map_append, List.map_map, List.map_replicate]
  congr 1
  exact (List.map_congr_left moved).trans (List.map_id' _)

theorem exists_dropEmptyLast {lines : List Line} (spoken : ∀ line ∈ lines, line ≠ []) (n : Nat) :
    ∃ m, dropEmptyLast (lines ++ List.replicate n []) = lines ++ List.replicate m [] := by
  cases n with
  | zero =>
    refine ⟨0, ?_⟩
    rw [List.replicate_zero, List.append_nil, dropEmptyLast]
    split
    · rename_i last
      exact absurd rfl (spoken [] (List.mem_of_mem_getLast? last))
    · rfl
  | succ n =>
    refine ⟨n, ?_⟩
    rw [List.replicate_succ', ← List.append_assoc, dropEmptyLast]
    simp

/-! ## Entries -/

/-- The lines of an entry. -/
def Entry.lines (e : Entry) : List Line := e.head :: e.more

/-- An entry that starts at the margin and goes on with indented lines. -/
structure Entry.IsLaidOut (e : Entry) : Prop where
  spoken : isAllBlank e.head = false
  margin : isIndented e.head = false
  more : ∀ line ∈ e.more, isAllBlank line = false ∧ isIndented line = true

theorem foldlM_addEntryLine_more (es : List Entry) (e : Entry) {more : List Line}
    (laid : ∀ line ∈ more, isAllBlank line = false ∧ isIndented line = true) :
    more.foldlM addEntryLine (es ++ [e]) = .ok (es ++ [{ e with more := e.more ++ more }]) := by
  induction more generalizing e with
  | nil => simp [pure, Except.pure]
  | cons line more ih =>
    obtain ⟨⟨spoken, indented⟩, others⟩ := List.forall_mem_cons.1 laid
    have step : addEntryLine (es ++ [e]) line = .ok (es ++ [{ e with more := e.more ++ [line] }]) := by
      simp [addEntryLine, spoken, indented, continueLast]
    rw [List.foldlM_cons, step]
    refine (ih { e with more := e.more ++ [line] } others).trans ?_
    simp

/-- Entries that are laid out are read back. -/
theorem entries_flatMap {es : List Entry} (laid : ∀ e ∈ es, e.IsLaidOut) :
    entries (es.flatMap Entry.lines) = .ok es := by
  have run : ∀ known, (es.flatMap Entry.lines).foldlM addEntryLine known = .ok (known ++ es) := by
    induction es with
    | nil =>
      intro known
      simp [pure, Except.pure]
    | cons e es ih =>
      intro known
      obtain ⟨first, others⟩ := List.forall_mem_cons.1 laid
      have opened : addEntryLine known e.head = .ok (known ++ [{ head := e.head }]) := by
        simp [addEntryLine, first.spoken, first.margin]
      have continued := foldlM_addEntryLine_more known { head := e.head } first.more
      rw [List.nil_append] at continued
      rw [List.flatMap_cons, List.foldlM_append, Entry.lines, List.foldlM_cons, opened]
      refine (congrArg (· >>= _) continued).trans ?_
      refine (ih others _).trans ?_
      simp
  exact run []

section Blind

variable {α : Type} {f : Entry → Except Fault α} (blind : ∀ e : Entry, f { e with more := e.more ++ [[]] } = f e)
include blind

theorem mapM_continueLast (es : List Entry) : (continueLast [] es).mapM f = es.mapM f := by
  unfold continueLast
  split
  · rename_i last found
    conv_rhs => rw [← List.dropLast_append_getLast? last found]
    rw [List.mapM_append, List.mapM_append, List.mapM_cons, List.mapM_cons, blind]
  · rfl

/-- What is read off the entries does not depend on blank lines after them. -/
theorem entries_append_blank (body : List Line) {more : List Line} (blank : ∀ line ∈ more, isAllBlank line = true) :
    entries (body ++ more) >>= (·.mapM f) = entries body >>= (·.mapM f) := by
  have run : ∀ es, more.foldlM addEntryLine es >>= (·.mapM f) = es.mapM f := by
    induction more with
    | nil => exact fun es => rfl
    | cons line more ih =>
      intro es
      obtain ⟨first, others⟩ := List.forall_mem_cons.1 blank
      have step : addEntryLine es line = .ok (continueLast [] es) := by simp [addEntryLine, first]
      rw [List.foldlM_cons, step]
      exact (ih others _).trans (mapM_continueLast blind es)
  unfold entries
  rw [List.foldlM_append]
  cases body.foldlM addEntryLine [] with
  | error fault => rfl
  | ok es => exact run es

theorem exists_entries_append {body : List Line} {es : List Entry} {results : List α} (read : entries body = .ok es)
    (given : es.mapM f = .ok results) (n : Nat) :
    ∃ fs, entries (body ++ List.replicate n []) = .ok fs ∧ fs.mapM f = .ok results := by
  have blank : ∀ line ∈ List.replicate n [], isAllBlank line = true := fun line mem => by
    rw [List.eq_of_mem_replicate mem]
    rfl
  exact bind_eq_ok.1 ((entries_append_blank blind body blank).trans (bind_eq_ok.2 ⟨es, read, given⟩))

end Blind

theorem words_flow_append_empty (lines : List Line) : words (flow (lines ++ [[]])) = words (flow lines) := by
  rw [flow, flow, words_joinWith isBlank_space, words_joinWith isBlank_space, List.flatMap_append]
  exact List.append_nil _

theorem colonEntry_append_empty (e : Entry) : colonEntry { e with more := e.more ++ [[]] } = colonEntry e := by
  have same : ∀ line, singleSpaced (flow (line :: (e.more ++ [[]]))) = singleSpaced (flow (line :: e.more)) := by
    intro line
    exact singleSpaced_eq_of_words_eq (words_flow_append_empty (line :: e.more))
  simp only [colonEntry, same]

/-- What is read off an entry of an underlined section on the parameters. -/
def ruledEntry (e : Entry) : Except Fault (List Char × List Char) := do
  return (← ruledEntryName e, singleSpaced (flow e.more))

theorem ruledEntry_append_empty (e : Entry) : ruledEntry { e with more := e.more ++ [[]] } = ruledEntry e := by
  have same := singleSpaced_eq_of_words_eq (words_flow_append_empty e.more)
  rw [ruledEntry, same]
  rfl

end Documentation

end CallAtlas
