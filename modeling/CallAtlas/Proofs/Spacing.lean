import CallAtlas.Documentation.Structure
import CallAtlas.Proofs.Paths

/-!
# Words, spacing and lines

A text counts as its words: the runs between its blanks. Joining texts with a blank puts their words behind each other,
blanks at the ends add none, and single spacing is the text with exactly these words and one space between two of them.
So single spacing is a normal form, and what is single spaced starts and ends with a word. Lines are taken apart and put
together in the same way, by their ends.
-/

namespace CallAtlas

section Scans

variable {α : Type} {holds : α → Bool} {body rest : List α} (inside : ∀ a ∈ body, holds a = true)
  (outside : ∀ a ∈ rest.head?, holds a = false)
include inside outside

/-- A scan stops where its condition first fails. -/
theorem takeWhile_append_of_stop : (body ++ rest).takeWhile holds = body := by
  have stop : rest.takeWhile holds = [] := by
    cases rest with
    | nil => rfl
    | cons a rest => simp [outside a rfl]
  rw [List.takeWhile_append_of_pos inside, stop, List.append_nil]

theorem dropWhile_append_of_stop : (body ++ rest).dropWhile holds = rest := by
  rw [List.dropWhile_append_of_pos inside]
  cases rest with
  | nil => rfl
  | cons a rest => simp [outside a rfl]

omit inside outside in
theorem not_of_mem_head?_dropWhile {as : List α} {a : α} (mem : a ∈ (as.dropWhile holds).head?) : holds a = false := by
  have stop := List.head?_dropWhile_not holds as
  rwa [Option.mem_def.1 mem] at stop

omit inside outside in
/-- A scan that stops before the end of a list, or at its end, stops there when the list goes on. -/
theorem scan_append {front back : List α} (stop : ∀ a ∈ (front.dropWhile holds ++ back).head?, holds a = false) :
    (front ++ back).takeWhile holds = front.takeWhile holds ∧
      (front ++ back).dropWhile holds = front.dropWhile holds ++ back := by
  have split : front ++ back = front.takeWhile holds ++ (front.dropWhile holds ++ back) := by
    rw [← List.append_assoc, List.takeWhile_append_dropWhile]
  have inside : ∀ a ∈ front.takeWhile holds, holds a = true := fun a mem => List.mem_takeWhile_imp mem
  constructor
  · rw [split, takeWhile_append_of_stop inside stop]
  · rw [split, dropWhile_append_of_stop inside stop]

end Scans

namespace Text

variable {c : Char} {cs : List Char}

@[simp] theorem isBlank_space : isBlank ' ' = true := by decide

theorem isBlank_of_isLineEnd (h : isLineEnd c = true) : isBlank c = true := by
  simp only [isLineEnd, Bool.or_eq_true, Bool.and_eq_true, decide_eq_true_eq, beq_iff_eq] at h
  simp only [isBlank, blankRanges, Ranges.has, List.any_cons, List.any_nil, Bool.or_false, Bool.or_eq_true,
    Bool.and_eq_true, decide_eq_true_eq]
  omega

theorem isAllBlank_eq_false_iff : isAllBlank cs = false ↔ ∃ c ∈ cs, isBlank c = false := by
  simp [isAllBlank]

theorem head?_joinWith (sep : Char) {piece : List Char} (nonempty : piece ≠ []) (pieces : List (List Char)) :
    (joinWith [sep] (piece :: pieces)).head? = piece.head? := by
  cases pieces with
  | nil => rw [joinWith_singleton]
  | cons next pieces => rw [joinWith_cons_sep, List.head?_append_of_ne_nil _ nonempty]

theorem joinWith_splitOn (sep : Char) (cs : List Char) : joinWith [sep] (splitOn sep cs) = cs := by
  induction cs with
  | nil => simp [splitOn, joinWith]
  | cons c cs ih =>
    obtain ⟨piece, pieces, split⟩ := exists_splitOn sep cs
    rw [split] at ih
    rw [splitOn, split]
    dsimp only
    split
    · rename_i same
      rw [joinWith_cons_sep, ih, List.nil_append, eq_of_beq same]
    · cases pieces with
      | nil => simpa [joinWith_singleton] using ih
      | cons next pieces =>
        rw [joinWith_cons_sep] at ih ⊢
        rw [List.cons_append, ih]

/-! ## Words -/

section Words

variable {current front back : List Char}

theorem wordsFrom_append_blank (blank : isBlank c = true) :
    wordsFrom current (front ++ c :: back) = wordsFrom current front ++ words back := by
  induction front generalizing current with
  | nil =>
    cases current with
    | nil => simp [wordsFrom, words, blank]
    | cons d current => simp [wordsFrom, words, blank]
  | cons d front ih =>
    rw [List.cons_append, wordsFrom, wordsFrom]
    split
    · split
      · exact ih
      · rw [ih, List.cons_append]
    · exact ih

/-- A blank ends a word, and nothing that follows it changes the words before it. -/
theorem words_append_blank (blank : isBlank c = true) : words (front ++ c :: back) = words front ++ words back :=
  wordsFrom_append_blank blank

theorem words_cons_blank (blank : isBlank c = true) : words (c :: cs) = words cs :=
  @words_append_blank c [] cs blank

theorem words_append_blanks (blanks : ∀ c ∈ back, isBlank c = true) : words (front ++ back) = words front := by
  induction back generalizing front with
  | nil => rw [List.append_nil]
  | cons c back ih =>
    obtain ⟨first, others⟩ := List.forall_mem_cons.1 blanks
    rw [words_append_blank first, ← List.nil_append back, ih others]
    exact List.append_nil _

theorem words_trimStart (cs : List Char) : words (trimStart cs) = words cs := by
  induction cs with
  | nil => rfl
  | cons c cs ih =>
    unfold trimStart at ih ⊢
    rw [List.dropWhile_cons]
    split
    · rename_i blank
      rw [ih, words_cons_blank blank]
    · rfl

theorem exists_trimEnd (cs : List Char) : ∃ back, cs = trimEnd cs ++ back ∧ ∀ c ∈ back, isBlank c = true := by
  refine ⟨(cs.reverse.takeWhile isBlank).reverse, ?_, ?_⟩
  · rw [trimEnd, ← List.reverse_append, List.takeWhile_append_dropWhile, List.reverse_reverse]
  · intro c mem
    exact List.mem_takeWhile_imp (List.mem_reverse.1 mem)

theorem words_trimEnd (cs : List Char) : words (trimEnd cs) = words cs := by
  obtain ⟨back, split, blanks⟩ := exists_trimEnd cs
  conv_rhs => rw [split]
  exact (words_append_blanks blanks).symm

theorem words_trim (cs : List Char) : words (trim cs) = words cs := by
  rw [trim, words_trimEnd, words_trimStart]

theorem mem_of_mem_trimEnd (mem : c ∈ trimEnd cs) : c ∈ cs := by
  obtain ⟨back, split, -⟩ := exists_trimEnd cs
  rw [split]
  exact List.mem_append_left _ mem

theorem mem_of_mem_trim (mem : c ∈ trim cs) : c ∈ cs :=
  (List.dropWhile_suffix _).subset (mem_of_mem_trimEnd mem)

theorem isBlank_of_mem_getLast?_trimEnd (mem : c ∈ (trimEnd cs).getLast?) : isBlank c = false := by
  rw [trimEnd, List.getLast?_reverse] at mem
  have first := List.head?_dropWhile_not isBlank cs.reverse
  rw [Option.mem_def.1 mem] at first
  exact first

theorem isBlank_of_mem_head?_trim (mem : c ∈ (trim cs).head?) : isBlank c = false := by
  obtain ⟨back, split, -⟩ := exists_trimEnd (trimStart cs)
  have head : (trimStart cs).head? = some c := by
    rw [split]
    exact List.mem_head?_append_of_mem_head? mem
  have first := List.head?_dropWhile_not isBlank cs
  rw [trimStart] at head
  rw [head] at first
  exact first

theorem trimStart_of_head? (first : ∀ c ∈ cs.head?, isBlank c = false) : trimStart cs = cs := by
  cases cs with
  | nil => rfl
  | cons c cs => simp [trimStart, first c rfl]

/-- There is nothing to trim between two characters that are not blank. -/
theorem trim_of_ends (first : ∀ c ∈ cs.head?, isBlank c = false) (last : ∀ c ∈ cs.getLast?, isBlank c = false) :
    trim cs = cs := by
  have back : trimStart cs.reverse = cs.reverse := by
    apply trimStart_of_head?
    simpa using last
  rw [trim, trimStart_of_head? first, trimEnd, ← trimStart, back, List.reverse_reverse]

theorem trimEnd_append_solid (solid : isBlank c = false) (front back : List Char) :
    trimEnd (front ++ c :: back) = front ++ c :: trimEnd back := by
  have tail : (c :: front.reverse).dropWhile isBlank = c :: front.reverse := by simp [solid]
  have scan : (back.reverse ++ c :: front.reverse).dropWhile isBlank =
      back.reverse.dropWhile isBlank ++ c :: front.reverse := by
    rw [List.dropWhile_append, tail]
    split
    · rename_i none
      rw [List.isEmpty_iff.1 none]
      rfl
    · rfl
  have turned : (front ++ c :: back).reverse = back.reverse ++ c :: front.reverse := by simp
  rw [trimEnd, turned, scan]
  simp [trimEnd]

/-- The words of texts joined by a blank are those of the texts, in order. -/
theorem words_joinWith (blank : isBlank c = true) (pieces : List (List Char)) :
    words (joinWith [c] pieces) = pieces.flatMap words := by
  induction pieces with
  | nil => rfl
  | cons piece pieces ih =>
    cases pieces with
    | nil => simp [joinWith_singleton]
    | cons next pieces =>
      rw [joinWith_cons_sep, words_append_blank blank, ih]
      rfl

/-- Characters that make up a single word. -/
def IsSolid (word : List Char) : Prop := word ≠ [] ∧ ∀ c ∈ word, isBlank c = false

theorem wordsFrom_append_solid {word : List Char} (solid : ∀ c ∈ word, isBlank c = false) :
    wordsFrom current word = if (word.reverse ++ current).isEmpty then [] else [(word.reverse ++ current).reverse] := by
  induction word generalizing current with
  | nil => simp [wordsFrom]
  | cons c word ih =>
    obtain ⟨first, others⟩ := List.forall_mem_cons.1 solid
    rw [wordsFrom, if_neg (by simp [first]), ih others]
    simp

theorem words_of_isSolid {word : List Char} (solid : IsSolid word) : words word = [word] := by
  rw [words, wordsFrom_append_solid solid.2]
  simp [solid.1]

theorem isSolid_of_mem_wordsFrom {word : List Char} (solid : ∀ c ∈ current, isBlank c = false)
    (mem : word ∈ wordsFrom current cs) : IsSolid word := by
  have finished : current ≠ [] → IsSolid current.reverse := fun nonempty =>
    ⟨by simpa using nonempty, fun c mem => solid c (List.mem_reverse.1 mem)⟩
  fun_induction wordsFrom current cs with
  | case1 => cases mem
  | case2 current nonempty =>
    cases List.mem_singleton.1 mem
    exact finished (by simpa using nonempty)
  | case3 current c cs blank none ih => exact ih (by simp) mem (by simp)
  | case4 current c cs blank nonempty ih =>
    rcases List.mem_cons.1 mem with rfl | mem
    · exact finished (by simpa using nonempty)
    · exact ih (by simp) mem (by simp)
  | case5 current c cs solidChar ih =>
    have extended : ∀ d ∈ c :: current, isBlank d = false :=
      List.forall_mem_cons.2 ⟨by simpa using solidChar, solid⟩
    refine ih extended mem fun _ => ⟨by simp, fun d mem => extended d (List.mem_reverse.1 mem)⟩

theorem isSolid_of_mem_words {word : List Char} (mem : word ∈ words cs) : IsSolid word :=
  isSolid_of_mem_wordsFrom (List.forall_mem_nil _) mem

/-- Words with a space between them are read back as they are. -/
theorem words_joinWith_of_isSolid {pieces : List (List Char)} (solid : ∀ piece ∈ pieces, IsSolid piece) :
    words (joinWith [' '] pieces) = pieces := by
  rw [words_joinWith isBlank_space]
  induction pieces with
  | nil => rfl
  | cons piece pieces ih =>
    obtain ⟨first, others⟩ := List.forall_mem_cons.1 solid
    rw [List.flatMap_cons, words_of_isSolid first, ih others]
    rfl

theorem wordsFrom_ne_nil (nonempty : current ≠ []) : wordsFrom current cs ≠ [] := by
  fun_induction wordsFrom current cs with
  | case1 current none => simp_all
  | case2 => simp
  | case3 current c cs blank none ih => simp_all
  | case4 => simp
  | case5 current c cs solid ih => exact ih (by simp)

theorem words_eq_nil_iff : words cs = [] ↔ isAllBlank cs = true := by
  induction cs with
  | nil => simp [words, wordsFrom, isAllBlank]
  | cons c cs ih =>
    by_cases blank : isBlank c = true
    · rw [words_cons_blank blank, ih]
      simp [isAllBlank, blank]
    · rw [words, wordsFrom, if_neg blank]
      simp [isAllBlank, blank, wordsFrom_ne_nil]

theorem isAllBlank_trimEnd (cs : List Char) : isAllBlank (trimEnd cs) = isAllBlank cs := by
  rw [Bool.eq_iff_iff, ← words_eq_nil_iff, words_trimEnd, words_eq_nil_iff]

theorem trimEnd_ne_nil (spoken : isAllBlank cs = false) : trimEnd cs ≠ [] := by
  intro none
  rw [← isAllBlank_trimEnd, none] at spoken
  cases spoken

theorem trim_eq_nil_iff : trim cs = [] ↔ isAllBlank cs = true := by
  constructor
  · intro none
    rw [← words_eq_nil_iff, ← words_trim, none]
    rfl
  · intro blank
    have none : trimStart cs = [] := by
      rw [trimStart, List.dropWhile_eq_nil_iff]
      exact List.all_eq_true.1 blank
    rw [trim, none]
    rfl

theorem mem_of_mem_wordsFrom {word : List Char} (held : word ∈ wordsFrom current cs) (mem : c ∈ word) :
    c ∈ current ∨ c ∈ cs := by
  fun_induction wordsFrom current cs with
  | case1 => cases held
  | case2 current nonempty =>
    cases List.mem_singleton.1 held
    exact Or.inl (List.mem_reverse.1 mem)
  | case3 current d cs blank none ih =>
    rcases ih held with mem | mem
    · cases mem
    · exact Or.inr (List.mem_cons_of_mem _ mem)
  | case4 current d cs blank nonempty ih =>
    rcases List.mem_cons.1 held with rfl | held
    · exact Or.inl (List.mem_reverse.1 mem)
    · rcases ih held with mem | mem
      · cases mem
      · exact Or.inr (List.mem_cons_of_mem _ mem)
  | case5 current d cs solid ih =>
    rcases ih held with mem | mem
    · rcases List.mem_cons.1 mem with rfl | mem
      · exact Or.inr List.mem_cons_self
      · exact Or.inl mem
    · exact Or.inr (List.mem_cons_of_mem _ mem)

theorem mem_of_mem_words {word : List Char} (held : word ∈ words cs) (mem : c ∈ word) : c ∈ cs := by
  rcases mem_of_mem_wordsFrom held mem with mem | mem
  · cases mem
  · exact mem

end Words

/-! ## Lines -/

section Lines

variable {current line : List Char}

theorem isLineEnd_of_mem_linesFrom (free : ∀ d ∈ current, isLineEnd d = false) (held : line ∈ linesFrom current cs)
    (mem : c ∈ line) : isLineEnd c = false := by
  have finished : ∀ d ∈ current.reverse, isLineEnd d = false := fun d mem => free d (List.mem_reverse.1 mem)
  fun_induction linesFrom current cs with
  | case1 => cases held
  | case2 current nonempty =>
    cases List.mem_singleton.1 held
    exact finished c mem
  | case3 current cs ih =>
    rcases List.mem_cons.1 held with rfl | held
    · exact finished c mem
    · exact ih (by simp) held (by simp)
  | case4 current d cs other ended ih =>
    rcases List.mem_cons.1 held with rfl | held
    · exact finished c mem
    · exact ih (by simp) held (by simp)
  | case5 current d cs other inside ih =>
    have extended : ∀ e ∈ d :: current, isLineEnd e = false :=
      List.forall_mem_cons.2 ⟨by simpa using inside, free⟩
    exact ih extended held fun e mem => extended e (List.mem_reverse.1 mem)

theorem isLineEnd_of_mem_lines (held : line ∈ lines cs) (mem : c ∈ line) : isLineEnd c = false :=
  isLineEnd_of_mem_linesFrom (List.forall_mem_nil _) held mem

theorem linesFrom_append (free : ∀ d ∈ line, isLineEnd d = false) :
    linesFrom current (line ++ cs) = linesFrom (line.reverse ++ current) cs := by
  induction line generalizing current with
  | nil => rfl
  | cons d line ih =>
    obtain ⟨first, others⟩ := List.forall_mem_cons.1 free
    -- a character that ends no line is no carriage return, so the rule for the pair does not apply
    have single : linesFrom current (d :: (line ++ cs)) = linesFrom (d :: current) (line ++ cs) := by
      rw [linesFrom]
      · simp [first]
      · rintro rest rfl
        cases first
    rw [List.cons_append, single, ih others]
    simp

theorem lines_append_feed (free : ∀ d ∈ line, isLineEnd d = false) : lines (line ++ '\n' :: cs) = line :: lines cs := by
  rw [lines, linesFrom_append free, linesFrom]
  · simp [show isLineEnd '\n' = true by decide, lines]
  · rintro rest ⟨⟩

/-- Lines joined by line feeds are read back as they are, unless the last is empty: a line feed at the end opens no
line. -/
theorem lines_joinWith_feed {pieces : List (List Char)} (free : ∀ piece ∈ pieces, ∀ d ∈ piece, isLineEnd d = false)
    (last : pieces.getLast? ≠ some []) : lines (joinWith ['\n'] pieces) = pieces := by
  induction pieces with
  | nil => rfl
  | cons piece pieces ih =>
    obtain ⟨first, others⟩ := List.forall_mem_cons.1 free
    cases pieces with
    | nil =>
      have nonempty : piece ≠ [] := by simpa using last
      rw [joinWith_singleton, lines, ← List.append_nil piece, linesFrom_append first, linesFrom]
      simp [nonempty]
    | cons next pieces =>
      rw [joinWith_cons_sep, lines_append_feed first, ih others]
      rwa [List.getLast?_cons_of_ne_nil (List.cons_ne_nil _ _)] at last

end Lines

end Text

open Text

/-! ## Single spacing -/

variable {c : Char} {cs : List Char}

theorem words_singleSpaced (cs : List Char) : words (singleSpaced cs) = words cs :=
  words_joinWith_of_isSolid fun _ mem => isSolid_of_mem_words mem

theorem singleSpaced_eq_of_words_eq {ds : List Char} (h : words cs = words ds) : singleSpaced cs = singleSpaced ds := by
  rw [singleSpaced, h, singleSpaced]

/-- Single spacing is a normal form. -/
@[simp] theorem singleSpaced_singleSpaced (cs : List Char) : singleSpaced (singleSpaced cs) = singleSpaced cs :=
  singleSpaced_eq_of_words_eq (words_singleSpaced cs)

theorem singleSpaced_eq_nil_iff : singleSpaced cs = [] ↔ isAllBlank cs = true := by
  rw [← words_eq_nil_iff, ← words_singleSpaced]
  constructor
  · intro h
    rw [h]
    rfl
  · intro h
    rw [← singleSpaced_singleSpaced, singleSpaced, h, joinWith_nil]

theorem mem_joinWith {sep : List Char} {pieces : List (List Char)} (mem : c ∈ joinWith sep pieces) :
    c ∈ sep ∨ ∃ piece ∈ pieces, c ∈ piece := by
  induction pieces with
  | nil => simp [joinWith_nil] at mem
  | cons piece pieces ih =>
    cases pieces with
    | nil =>
      rw [joinWith_singleton] at mem
      exact Or.inr ⟨piece, List.mem_cons_self, mem⟩
    | cons next pieces =>
      rw [joinWith, List.intercalate_cons_cons, List.mem_append, List.mem_append] at mem
      rcases mem with (mem | mem) | mem
      · exact Or.inr ⟨piece, List.mem_cons_self, mem⟩
      · exact Or.inl mem
      · rcases ih mem with mem | ⟨other, held, mem⟩
        · exact Or.inl mem
        · exact Or.inr ⟨other, List.mem_cons_of_mem _ held, mem⟩

/-- The only blank in a single spaced text is the space. -/
theorem eq_space_of_mem_singleSpaced (mem : c ∈ singleSpaced cs) (blank : isBlank c = true) : c = ' ' := by
  rcases mem_joinWith mem with mem | ⟨word, held, mem⟩
  · exact List.mem_singleton.1 mem
  · rw [(isSolid_of_mem_words held).2 c mem] at blank
    cases blank

/-- A text that ends in a word. -/
theorem getLast?_joinWith_solid {pieces : List (List Char)} (solid : ∀ piece ∈ pieces, IsSolid piece)
    (mem : c ∈ (joinWith [' '] pieces).getLast?) : isBlank c = false := by
  induction pieces with
  | nil => simp [joinWith_nil] at mem
  | cons piece pieces ih =>
    obtain ⟨first, others⟩ := List.forall_mem_cons.1 solid
    cases pieces with
    | nil =>
      rw [joinWith_singleton] at mem
      exact first.2 c (List.mem_of_mem_getLast? mem)
    | cons next pieces =>
      have rest : joinWith [' '] (next :: pieces) ≠ [] := by
        intro none
        have words := words_joinWith_of_isSolid others
        rw [none] at words
        cases words
      rw [joinWith_cons_sep, List.getLast?_append_of_ne_nil _ (List.cons_ne_nil _ _),
        List.getLast?_cons_of_ne_nil rest] at mem
      exact ih others mem

theorem isBlank_of_mem_getLast?_singleSpaced (mem : c ∈ (singleSpaced cs).getLast?) : isBlank c = false :=
  getLast?_joinWith_solid (fun _ held => isSolid_of_mem_words held) mem

theorem isBlank_of_mem_head?_singleSpaced (mem : c ∈ (singleSpaced cs).head?) : isBlank c = false := by
  unfold singleSpaced at mem
  cases found : words cs with
  | nil => simp [found, joinWith_nil] at mem
  | cons word rest =>
    have solid : IsSolid word := isSolid_of_mem_words (found ▸ List.mem_cons_self)
    rw [found, head?_joinWith _ solid.1] at mem
    exact solid.2 c (List.mem_of_mem_head? mem)

end CallAtlas
