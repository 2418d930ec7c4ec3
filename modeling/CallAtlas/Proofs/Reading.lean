import CallAtlas.Documentation.Structure
import CallAtlas.Proofs.Answer
import CallAtlas.Proofs.Spacing

/-!
# Reading laid out lines

What the reader of a documentation text does with lines that are laid out for it. Lines that start at the margin come
through the cleaning as they are. From there a text is read from the top, and `Draft.adding` is all that a section does
to what has been read before it: it ends the paragraph and adds parameters and results. `Adds` says so of the rest of a
text, and is put together section by section.
-/

namespace CallAtlas.Documentation

open Text

/-! ## Cleaning -/

/-- A line in which no blank stands but the space. -/
def IsPlainLine (line : Line) : Prop := ∀ c ∈ line, isBlank c = true → c = ' '

instance (line : Line) : Decidable (IsPlainLine line) :=
  decidable_of_iff (line.all fun c => !isBlank c || c == ' ') (by simp [IsPlainLine, imp_iff_not_or])

theorem isPlainLine_of_spaced {line : Line} (spaced : singleSpaced line = line) : IsPlainLine line := by
  intro c mem blank
  rw [← spaced] at mem
  exact eq_space_of_mem_singleSpaced mem blank

theorem IsPlainLine.append {front back : Line} (hfront : IsPlainLine front) (hback : IsPlainLine back) :
    IsPlainLine (front ++ back) := by
  intro c mem
  rcases List.mem_append.1 mem with mem | mem
  · exact hfront c mem
  · exact hback c mem

theorem IsPlainLine.not_mem {line : Line} (plain : IsPlainLine line) {c : Char} (blank : isBlank c = true)
    (other : c ≠ ' ') : c ∉ line :=
  fun mem => other (plain c mem blank)

theorem IsPlainLine.not_isLineEnd {line : Line} (plain : IsPlainLine line) {c : Char} (mem : c ∈ line) :
    isLineEnd c = false := by
  by_contra ended
  have ended : isLineEnd c = true := by simpa using ended
  rw [plain c mem (isBlank_of_isLineEnd ended)] at ended
  cases ended

theorem expandTabs_of_not_mem {cs : List Char} (h : '\t' ∉ cs) (column : Nat) : expandTabs column cs = cs := by
  induction cs generalizing column with
  | nil => rfl
  | cons c cs ih =>
    obtain ⟨other, rest⟩ := not_or.1 (List.mem_cons.not.1 h)
    rw [expandTabs, ih rest]
    exact fun same => other same.symm

theorem splitOn_joinWith {sep : Char} {pieces : List (List Char)} (h : ∀ piece ∈ pieces, sep ∉ piece)
    (nonempty : pieces ≠ []) : splitOn sep (joinWith [sep] pieces) = pieces := by
  induction pieces with
  | nil => exact absurd rfl nonempty
  | cons piece pieces ih =>
    obtain ⟨first, others⟩ := List.forall_mem_cons.1 h
    cases pieces with
    | nil => rw [joinWith_singleton, splitOn_of_not_mem first]
    | cons next pieces =>
      rw [joinWith_cons_sep, splitOn_append, splitOn_of_not_mem first, ih others (List.cons_ne_nil _ _)]
      rfl

/-- Some line that is not blank starts at the margin, if there is one at all. -/
def IsFlush (lines : List Line) : Prop :=
  (∃ line ∈ lines, isAllBlank line = false ∧ isIndented line = false) ∨ ∀ line ∈ lines, isAllBlank line = true

theorem indentation_of_not_isIndented {line : Line} (h : isIndented line = false) : indentation line = 0 := by
  cases line with
  | nil => rfl
  | cons c cs =>
    have solid : isBlank c = false := by simpa [isIndented] using h
    simp [indentation, solid]

theorem IsFlush.margin {lines : List Line} (flush : IsFlush lines) : (margin? lines).getD 0 = 0 := by
  rcases flush with ⟨line, mem, spoken, margin⟩ | blank
  · have zero : 0 ∈ (lines.filter fun line => !isAllBlank line).map indentation := by
      refine List.mem_map.2 ⟨line, ?_, indentation_of_not_isIndented margin⟩
      exact List.mem_filter.2 ⟨mem, by simp [spoken]⟩
    exact Nat.le_zero.1 (List.min?_getD_le_of_mem zero)
  · have none : lines.filter (fun line => !isAllBlank line) = [] := by
      rw [List.filter_eq_nil_iff]
      intro line mem
      simp [blank line mem]
    simp [margin?, none]

theorem IsFlush.append_empty {lines : List Line} (flush : IsFlush lines) (n : Nat) :
    IsFlush (lines ++ List.replicate n []) := by
  rcases flush with ⟨line, mem, found⟩ | blank
  · exact Or.inl ⟨line, List.mem_append_left _ mem, found⟩
  · refine Or.inr fun line mem => ?_
    rcases List.mem_append.1 mem with mem | mem
    · exact blank line mem
    · rw [List.eq_of_mem_replicate mem]
      rfl

theorem dropEmptyEnds_append {lines : List Line} (first : lines.head? ≠ some []) (last : lines.getLast? ≠ some [])
    (n : Nat) : dropEmptyEnds (lines ++ List.replicate n []) = lines := by
  have back : (lines ++ List.replicate n []).reverse.dropWhile (·.isEmpty) = lines.reverse := by
    rw [List.reverse_append, List.reverse_replicate, List.dropWhile_append_of_pos (by simp)]
    rw [← List.head?_reverse] at last
    cases reversed : lines.reverse with
    | nil => rfl
    | cons line rest =>
      have full : line ≠ [] := by simpa [reversed] using last
      simp [full]
  rw [dropEmptyEnds, back, List.reverse_reverse]
  cases lines with
  | nil => rfl
  | cons line rest =>
    have full : line ≠ [] := by simpa using first
    simp [full]

/-- Lines that start at the margin are read as they are, without the empty ones at the end. -/
theorem lines_clean {first : Line} {rest : List Line} (plain : ∀ line ∈ first :: rest, IsPlainLine line)
    (spoken : first ≠ []) (margin : isIndented first = false) (flush : IsFlush rest)
    (last : (first :: rest).getLast? ≠ some []) (n : Nat) :
    lines (clean (joinWith ['\n'] (first :: rest ++ List.replicate n []))) = first :: rest := by
  have feed : ∀ line ∈ first :: rest ++ List.replicate n [], '\n' ∉ line := by
    intro line mem
    rcases List.mem_append.1 mem with mem | mem
    · exact (plain line mem).not_mem (by decide) (by decide)
    · rw [List.eq_of_mem_replicate mem]
      exact List.not_mem_nil
  have tab : '\t' ∉ joinWith ['\n'] (first :: rest ++ List.replicate n []) := by
    intro mem
    rcases mem_joinWith mem with mem | ⟨line, held, mem⟩
    · simp at mem
    · rcases List.mem_append.1 held with held | held
      · exact (plain line held).not_mem (by decide) (by decide) mem
      · rw [List.eq_of_mem_replicate held] at mem
        cases mem
  have start : trimStart first = first := by
    apply trimStart_of_head?
    intro c mem
    simpa [isIndented, Option.mem_def.1 mem] using margin
  have cleaned : cleanLines (joinWith ['\n'] (first :: rest ++ List.replicate n [])) = first :: rest := by
    rw [cleanLines, expandTabs_of_not_mem tab, splitOn_joinWith feed (by simp)]
    dsimp only [List.cons_append]
    rw [(flush.append_empty n).margin, start]
    simp only [List.drop_zero, List.map_id']
    exact dropEmptyEnds_append (by simpa using spoken) last n
  rw [clean, cleaned]
  exact lines_joinWith_feed (fun line mem c => (plain line mem).not_isLineEnd) last

/-! ## Rules -/

/-- What surrounds a trimmed text is blank. -/
theorem mem_trim_of_solid {cs : List Char} {c : Char} (mem : c ∈ cs) (solid : isBlank c = false) : c ∈ trim cs := by
  have front : c ∈ trimStart cs := by
    have split := List.takeWhile_append_dropWhile (p := isBlank) (l := cs)
    rw [← split] at mem
    rcases List.mem_append.1 mem with mem | mem
    · rw [List.mem_takeWhile_imp mem] at solid
      cases solid
    · exact mem
  obtain ⟨back, split, blanks⟩ := exists_trimEnd (trimStart cs)
  rw [split] at front
  rcases List.mem_append.1 front with mem | mem
  · exact mem
  · rw [blanks c mem] at solid
    cases solid

theorem isRule_eq_false {line : Line} {c : Char} (mem : c ∈ line) (solid : isBlank c = false) (other : c ≠ '-') :
    isRule line = false := by
  have kept : (trim line).all (· == '-') = false := by
    rw [List.all_eq_false]
    exact ⟨c, mem_trim_of_solid mem solid, by simpa using other⟩
  simp [isRule, kept]

theorem isRule_replicate (n : Nat) : isRule (List.replicate (n + 3) '-') = true := by
  have solid : ∀ c ∈ List.replicate (n + 3) '-', isBlank c = false := by
    intro c mem
    rw [List.eq_of_mem_replicate mem]
    decide
  have marks : trim (List.replicate (n + 3) '-') = List.replicate (n + 3) '-' :=
    trim_of_ends (fun c mem => solid c (List.mem_of_mem_head? mem)) fun c mem => solid c (List.mem_of_mem_getLast? mem)
  simp [isRule, marks]

theorem ruledTopic?_of_next {line : Line} {rest : List Line} (next : ∀ other ∈ rest.head?, isRule other = false) :
    ruledTopic? (line :: rest) = none := by
  cases rest with
  | nil => rfl
  | cons other rest => simp [ruledTopic?, next other rfl]

theorem ruledTopic?_of_topic {line : Line} (rest : List Line) (unknown : topic? line = none) :
    ruledTopic? (line :: rest) = none := by
  cases rest with
  | nil => rfl
  | cons other rest => simp [ruledTopic?, unknown]

/-- Lines without a rule among them are cut off before the next underlined heading. -/
theorem cutRuled_of_unruled {body rest : List Line} (inside : ∀ line ∈ body.tail, isRule line = false)
    (next : ∀ line ∈ rest.head?, isRule line = false) (stop : rest = [] ∨ (ruledTopic? rest).isSome) :
    cutRuled (body ++ rest) = (body, rest) := by
  induction body with
  | nil =>
    rcases stop with rfl | stop
    · rfl
    · cases rest with
      | nil => rfl
      | cons line rest => rw [List.nil_append, cutRuled, if_pos stop]
  | cons line body ih =>
    have plain : ruledTopic? (line :: (body ++ rest)) = none := by
      apply ruledTopic?_of_next
      intro other mem
      cases body with
      | nil => exact next other mem
      | cons first body =>
        cases Option.mem_some.1 mem
        exact inside _ List.mem_cons_self
    rw [List.cons_append, cutRuled, plain, ih fun line mem => inside line (List.mem_of_mem_tail mem)]
    rfl

/-! ## Headings -/

/-- A known section name of letters and spaces, whatever its case, a colon, and nothing behind it but blanks. -/
def IsColonHeading (line : Line) : Prop :=
  ∃ first name rest, line = first :: (name ++ ':' :: rest) ∧ isLatinLetter first = true ∧
    (∀ c ∈ name, isLatinLetter c = true ∨ c = ' ') ∧ isAllBlank rest = true ∧ (topic? (first :: name)).isSome

theorem isSome_colonTopic?_iff {line : Line} : (colonTopic? line).isSome = true ↔ IsColonHeading line := by
  constructor
  · intro known
    unfold colonTopic? at known
    split at known
    · cases known
    · rename_i first cs
      dsimp only at known
      split at known
      · cases known
      · rename_i letter
        split at known
        · rename_i rest after
          split at known
          · rename_i blank
            refine ⟨first, cs.takeWhile (fun c => isLatinLetter c || c == ' '), rest, ?_, by simpa using letter, ?_,
              blank, known⟩
            · rw [← after, List.takeWhile_append_dropWhile]
            · intro c mem
              simpa using List.mem_takeWhile_imp mem
          · cases known
        · cases known
  · rintro ⟨first, name, rest, rfl, letter, inside, blank, known⟩
    have within : ∀ c ∈ name, (isLatinLetter c || c == ' ') = true := fun c mem => by simpa using inside c mem
    have stop : ∀ c ∈ (':' :: rest).head?, (isLatinLetter c || c == ' ') = false := by
      rintro c ⟨⟩
      decide
    simp only [colonTopic?, letter, Bool.not_true, Bool.false_eq_true, if_false]
    rw [takeWhile_append_of_stop within stop, dropWhile_append_of_stop within stop]
    simpa [blank] using known

instance (line : Line) : Decidable (IsColonHeading line) := decidable_of_iff _ isSome_colonTopic?_iff

/-! ## One part after another -/

namespace Draft

/-- Reading lines on top of what has been read. -/
def read (d : Draft) (lines : List Line) : Except Fault Draft := (parts lines).foldlM Draft.add d

/-- What a section does to what has been read before it. -/
def adding (d : Draft) (parameters : List (List Char × List Char)) (returns : List Line) : Draft :=
  { d.close with parameters := d.parameters ++ parameters, returns := d.returns ++ returns }

section Close

variable (d : Draft)

@[simp] theorem parameters_close : d.close.parameters = d.parameters := by
  unfold close
  split <;> rfl

@[simp] theorem returns_close : d.close.returns = d.returns := by
  unfold close
  split <;> rfl

@[simp] theorem remarks_close : d.close.remarks = d.remarks := by
  unfold close
  split <;> rfl

@[simp] theorem current_close : d.close.current = [] := by
  unfold close
  split
  · rename_i none
    exact List.isEmpty_iff.1 none
  · rfl

theorem close_of_current {d : Draft} (none : d.current = []) : d.close = d := by simp [close, none]

@[simp] theorem close_close : d.close.close = d.close := close_of_current (current_close d)

theorem block_close : d.close.block = d.block := by simp [block]

end Close

variable {d : Draft} {ps qs : List (List Char × List Char)} {rs ts : List Line}

@[simp] theorem close_adding : (d.adding ps rs).close = d.adding ps rs := close_of_current (current_close d)

@[simp] theorem adding_close : d.close.adding ps rs = d.adding ps rs := by simp [adding]

theorem adding_nil : d.adding [] [] = d.close := by
  rw [adding, List.append_nil, List.append_nil, ← parameters_close, ← returns_close]

theorem adding_adding : (d.adding ps rs).adding qs ts = d.adding (ps ++ qs) (rs ++ ts) := by
  conv_lhs => rw [adding, close_adding]
  simp [adding]

section Parts

variable {line : Line} {body rest : List Line} {e : Draft} {topic : Topic}

theorem read_text (unruled : ruledTopic? (line :: rest) = none) (unheaded : colonTopic? line = none)
    (colon : line.head? ≠ some ':') : d.read (line :: rest) = (d.addText line).read rest := by
  rw [read, parts, unruled, unheaded]
  simp only [if_neg colon]
  rfl

theorem read_empty : d.read ([] :: rest) = d.close.read rest :=
  read_text (ruledTopic?_of_topic rest (by decide)) rfl (by simp)

theorem read_colon (unruled : ruledTopic? (line :: (body ++ rest)) = none) (heading : colonTopic? line = some topic)
    (inside : ∀ other ∈ body, isBody other = true) (outside : ∀ other ∈ rest.head?, isBody other = false)
    (added : d.addColon topic body = .ok e) : d.read (line :: (body ++ rest)) = e.close.read rest := by
  rw [read, parts, unruled, heading]
  dsimp only
  rw [takeWhile_append_of_stop inside outside, dropWhile_append_of_stop inside outside, List.foldlM_cons, add, added]
  rfl

theorem read_ruled {rule : Line} (heading : ruledTopic? (line :: rule :: (body ++ rest)) = some topic)
    (cut : cutRuled (body ++ rest) = (body, rest)) (added : d.addRuled topic body = .ok e) :
    d.read (line :: rule :: (body ++ rest)) = e.close.read rest := by
  rw [read, parts, heading]
  dsimp only [List.tail_cons]
  rw [cut, List.foldlM_cons, add, added]
  rfl

theorem read_field {cs : List Char} (unruled : ruledTopic? ((':' :: cs) :: rest) = none)
    (outside : ∀ other ∈ rest.head?, isFieldContinuation other = false) (added : d.addField (':' :: cs) [] = .ok e) :
    d.read ((':' :: cs) :: rest) = e.close.read rest := by
  have taken : rest.takeWhile isFieldContinuation = [] := takeWhile_append_of_stop (List.forall_mem_nil _) outside
  have left : rest.dropWhile isFieldContinuation = rest := dropWhile_append_of_stop (List.forall_mem_nil _) outside
  have unheaded : colonTopic? (':' :: cs) = none := rfl
  rw [read, parts, unruled, unheaded]
  dsimp only
  rw [if_pos (by rfl), taken, left, List.foldlM_cons, add, added]
  rfl

end Parts

end Draft

/-- Read on top of any draft, the lines end its paragraph and add parameters and results. -/
def Adds (lines : List Line) (ps : List (List Char × List Char)) (rs : List Line) : Prop :=
  ∀ d : Draft, Draft.close <$> d.read lines = .ok (d.adding ps rs)

namespace Adds

variable {rest : List Line} {ps qs : List (List Char × List Char)} {rs ts : List Line}

theorem nil : Adds [] [] [] := by
  intro d
  rw [Draft.adding_nil, Draft.read, parts]
  rfl

/-- A section goes before what follows it. -/
theorem before {lines : List Line} (following : Adds rest qs ts)
    (added : ∀ d : Draft, d.read lines = (d.adding ps rs).read rest) : Adds lines (ps ++ qs) (rs ++ ts) := by
  intro d
  rw [added, following, Draft.adding_adding]

theorem empty (following : Adds rest qs ts) (n : Nat) : Adds (List.replicate n [] ++ rest) qs ts := by
  induction n with
  | zero => exact following
  | succ n ih =>
    intro d
    rw [List.replicate_succ, List.cons_append, Draft.read_empty, ih, Draft.adding_close]

end Adds

/-- Lines after this many empty ones; no lines need none. -/
def apart (gap : Nat) (lines : List Line) : List Line :=
  if lines.isEmpty then [] else List.replicate gap [] ++ lines

section Apart

variable {gap : Nat} {lines : List Line}

theorem apart_nil : apart gap [] = [] := rfl

theorem apart_of_ne_nil (nonempty : lines ≠ []) : apart gap lines = List.replicate gap [] ++ lines := by
  rw [apart, if_neg (by simpa using nonempty)]

theorem mem_apart {line : Line} (mem : line ∈ apart gap lines) : line = [] ∨ line ∈ lines := by
  unfold apart at mem
  split at mem
  · cases mem
  · rcases List.mem_append.1 mem with mem | mem
    · exact Or.inl (List.eq_of_mem_replicate mem)
    · exact Or.inr mem

theorem mem_apart_of_mem {line : Line} (mem : line ∈ lines) : line ∈ apart gap lines := by
  rw [apart_of_ne_nil (List.ne_nil_of_mem mem)]
  exact List.mem_append_right _ mem

theorem head?_apart {line : Line} (mem : line ∈ (apart gap lines).head?) : line = [] ∨ line ∈ lines.head? := by
  unfold apart at mem
  split at mem
  · cases mem
  · cases gap with
    | zero => exact Or.inr mem
    | succ gap =>
      cases mem
      exact Or.inl rfl

theorem getLast?_apart : (apart gap lines).getLast? = lines.getLast? := by
  by_cases empty : lines = []
  · rw [empty, apart_nil]
  · rw [apart_of_ne_nil empty, List.getLast?_append_of_ne_nil _ empty]

theorem Adds.apart {ps : List (List Char × List Char)} {rs : List Line} (added : Adds lines ps rs) (gap : Nat) :
    Adds (apart gap lines) ps rs := by
  by_cases empty : lines = []
  · rw [empty] at added ⊢
    exact added
  · rw [apart_of_ne_nil empty]
    exact added.empty gap

end Apart

end CallAtlas.Documentation
