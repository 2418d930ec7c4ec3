import CallAtlas.Proofs.Reading
import Mathlib.Data.List.Chain

/-!
# Free text

A documentation text in which no line opens a section or a field is free text. On the way to the reader a text loses its
tabs, its margin and the blank lines around it, and is cut into lines at line ends of every kind; none of this touches
its words. The reader then collects paragraphs, the maximal runs of lines that are not blank. So free text is always
read, the first paragraph is its summary, and the words of the summary and the remarks are those of the text, in order.
-/

namespace CallAtlas

namespace Text

/-! ## Words on the way to the reader -/

theorem flatMap_words_linesFrom (current cs : List Char) :
    (linesFrom current cs).flatMap words = words (current.reverse ++ cs) := by
  fun_induction linesFrom current cs with
  | case1 current none =>
    rw [List.isEmpty_iff.1 none]
    rfl
  | case2 current nonempty => simp
  | case3 current cs ih =>
    rw [words_append_blank (by decide), words_cons_blank (by decide), List.flatMap_cons, ih]
    rfl
  | case4 current c cs other ended ih =>
    rw [words_append_blank (isBlank_of_isLineEnd ended), List.flatMap_cons, ih]
    rfl
  | case5 current c cs other inside ih =>
    rw [ih]
    simp

/-- The words of the lines of a text are those of the text. -/
theorem flatMap_words_lines (cs : List Char) : (lines cs).flatMap words = words cs := flatMap_words_linesFrom [] cs

theorem words_blanks_append {front : List Char} (blanks : ∀ c ∈ front, isBlank c = true) (cs : List Char) :
    words (front ++ cs) = words cs := by
  induction front with
  | nil => rfl
  | cons c front ih =>
    obtain ⟨first, others⟩ := List.forall_mem_cons.1 blanks
    rw [List.cons_append, words_cons_blank first, ih others]

theorem wordsFrom_cons_blank {current cs : List Char} {c : Char} (blank : isBlank c = true) :
    wordsFrom current (c :: cs) = wordsFrom current [] ++ words cs :=
  @wordsFrom_append_blank c current [] cs blank

theorem words_drop {line : List Char} {n : Nat} (blanks : ∀ c ∈ line.take n, isBlank c = true) :
    words (line.drop n) = words line := by
  conv_rhs => rw [← List.take_append_drop n line]
  exact (words_blanks_append blanks _).symm

end Text

namespace Documentation

open Text

theorem wordsFrom_expandTabs (current cs : List Char) (column : Nat) :
    wordsFrom current (expandTabs column cs) = wordsFrom current cs := by
  fun_induction expandTabs column cs generalizing current with
  | case1 => rfl
  | case2 column cs width ih =>
    -- a tab becomes at least one space
    obtain ⟨more, wide⟩ : ∃ more, width = more + 1 := ⟨width - 1, by omega⟩
    have spaces : ∀ c ∈ List.replicate more ' ', isBlank c = true := fun c mem => by
      rw [List.eq_of_mem_replicate mem]
      decide
    rw [wide, List.replicate_succ, List.cons_append, wordsFrom_cons_blank isBlank_space, words_blanks_append spaces,
      wordsFrom_cons_blank (by decide), words, ← wide, ih]
    rfl
  | case3 column c cs other ih =>
    rw [wordsFrom, wordsFrom]
    split
    · split
      · exact ih []
      · rw [ih []]
    · exact ih _

/-- The margin takes nothing from a line but blanks. -/
theorem words_drop_margin {ls : List Line} {line : Line} (mem : line ∈ ls) :
    words (line.drop ((margin? ls).getD 0)) = words line := by
  apply words_drop
  intro c front
  cases blank : isAllBlank line with
  | true => exact List.all_eq_true.1 blank c (List.mem_of_mem_take front)
  | false =>
    have counted : indentation line ∈ (ls.filter fun line => !isAllBlank line).map indentation :=
      List.mem_map_of_mem (List.mem_filter.2 ⟨mem, by simp [blank]⟩)
    have least : (margin? ls).getD 0 ≤ indentation line := List.min?_getD_le_of_mem counted
    have inside : line.take ((margin? ls).getD 0) <+: line.takeWhile isBlank := by
      rw [List.prefix_iff_eq_take.1 (List.takeWhile_prefix (p := isBlank) (l := line))]
      exact List.take_prefix_take_left least
    exact List.mem_takeWhile_imp (inside.subset front)

theorem exists_dropWhile_isEmpty (ls : List Line) :
    ∃ n, ls = List.replicate n [] ++ ls.dropWhile (·.isEmpty) := by
  refine ⟨(ls.takeWhile (·.isEmpty)).length, ?_⟩
  have empty : ls.takeWhile (·.isEmpty) = List.replicate (ls.takeWhile (·.isEmpty)).length [] :=
    List.eq_replicate_iff.2 ⟨rfl, fun line mem => List.isEmpty_iff.1 (List.mem_takeWhile_imp mem)⟩
  rw [← empty, List.takeWhile_append_dropWhile]

/-- Only empty lines are taken away at the ends. -/
theorem exists_dropEmptyEnds (ls : List Line) :
    ∃ m n, ls = List.replicate m [] ++ dropEmptyEnds ls ++ List.replicate n [] := by
  obtain ⟨n, back⟩ := exists_dropWhile_isEmpty ls.reverse
  obtain ⟨m, front⟩ := exists_dropWhile_isEmpty (ls.reverse.dropWhile (·.isEmpty)).reverse
  refine ⟨m, n, ?_⟩
  rw [dropEmptyEnds, ← front, ← List.reverse_replicate, ← List.reverse_append, ← back, List.reverse_reverse]

theorem isAllBlank_of_mem_replicate {n : Nat} {line : Line} (mem : line ∈ List.replicate n []) :
    isAllBlank line = true := by
  rw [List.eq_of_mem_replicate mem]
  rfl

theorem flatMap_words_blank {ls : List Line} (blank : ∀ line ∈ ls, isAllBlank line = true) : ls.flatMap words = [] :=
  List.flatMap_eq_nil_iff.2 fun line mem => words_eq_nil_iff.2 (blank line mem)

theorem flatMap_words_empty (n : Nat) : (List.replicate n ([] : Line)).flatMap words = [] :=
  flatMap_words_blank fun _ => isAllBlank_of_mem_replicate

theorem flatMap_words_dropEmptyEnds (ls : List Line) : (dropEmptyEnds ls).flatMap words = ls.flatMap words := by
  obtain ⟨m, n, split⟩ := exists_dropEmptyEnds ls
  conv_rhs => rw [split]
  rw [List.flatMap_append, List.flatMap_append, flatMap_words_empty, flatMap_words_empty, List.nil_append,
    List.append_nil]

theorem flatMap_words_cleanLines (cs : List Char) : (cleanLines cs).flatMap words = words cs := by
  obtain ⟨first, rest, split⟩ := exists_splitOn '\n' (expandTabs 0 cs)
  have joined := words_joinWith (c := '\n') (by decide) (first :: rest)
  rw [← split, joinWith_splitOn, words, wordsFrom_expandTabs, split, List.flatMap_cons] at joined
  have moved : (rest.map (·.drop ((margin? rest).getD 0))).flatMap words = rest.flatMap words := by
    rw [List.flatMap_map]
    exact List.flatMap_congr fun line mem => words_drop_margin mem
  rw [cleanLines, split]
  dsimp only
  rw [flatMap_words_dropEmptyEnds, List.flatMap_cons, words_trimStart, moved, ← joined]
  rfl

/-- A text keeps its words when it is cleaned and cut into lines. -/
theorem flatMap_words_lines_clean (cs : List Char) : (lines (clean cs)).flatMap words = words cs := by
  rw [flatMap_words_lines, clean, words_joinWith (by decide), flatMap_words_cleanLines]

/-! ## Headings -/

/-- A known section name that is not indented, and a rule of hyphens on the next line. -/
def IsRuledHeading (heading rule : Line) : Prop :=
  isIndented heading = false ∧ (topic? heading).isSome ∧ isRule rule = true

instance (heading rule : Line) : Decidable (IsRuledHeading heading rule) := inferInstanceAs (Decidable (_ ∧ _ ∧ _))

theorem isSome_ruledTopic?_iff {heading rule : Line} {rest : List Line} :
    (ruledTopic? (heading :: rule :: rest)).isSome = true ↔ IsRuledHeading heading rule := by
  cases indented : isIndented heading <;> cases ruled : isRule rule <;>
    simp [ruledTopic?, IsRuledHeading, indented, ruled]

/-- No line opens a section or a field. -/
structure IsFree (ls : List Line) : Prop where
  unheaded : ∀ line ∈ ls, ¬ IsColonHeading line
  unruled : ls.IsChain fun heading rule => ¬ IsRuledHeading heading rule
  fieldless : ∀ line ∈ ls, line.head? ≠ some ':'

instance (ls : List Line) : Decidable (IsFree ls) :=
  decidable_of_iff ((∀ line ∈ ls, ¬ IsColonHeading line) ∧
    (ls.IsChain fun heading rule => ¬ IsRuledHeading heading rule) ∧ ∀ line ∈ ls, line.head? ≠ some ':')
    ⟨fun ⟨h, h', h''⟩ => ⟨h, h', h''⟩, fun h => ⟨h.1, h.2, h.3⟩⟩

/-! ## Paragraphs -/

/-- All lines of a free text are read as text. -/
theorem IsFree.read {ls : List Line} (free : IsFree ls) (d : Draft) : d.read ls = .ok (ls.foldl Draft.addText d) := by
  induction ls generalizing d with
  | nil =>
    rw [Draft.read, parts]
    rfl
  | cons line ls ih =>
    obtain ⟨unheaded, others⟩ := List.forall_mem_cons.1 free.unheaded
    obtain ⟨fieldless, fields⟩ := List.forall_mem_cons.1 free.fieldless
    have plain : ruledTopic? (line :: ls) = none := by
      cases ls with
      | nil => rfl
      | cons next ls =>
        have apart := (List.isChain_cons_cons.1 free.unruled).1
        rwa [← @isSome_ruledTopic?_iff line next ls, Option.not_isSome_iff_eq_none] at apart
    have topic : colonTopic? line = none := by
      rwa [← isSome_colonTopic?_iff, Option.not_isSome_iff_eq_none] at unheaded
    rw [Draft.read_text plain topic fieldless, ih ⟨others, free.unruled.tail, fields⟩]
    rfl

/-- The first maximal run of lines that are not blank. -/
def firstRun (ls : List Line) : List Line := (ls.dropWhile isAllBlank).takeWhile fun line => !isAllBlank line

namespace Draft

theorem addText_of_blank {d : Draft} {line : Line} (blank : isAllBlank line = true) : d.addText line = d.close :=
  if_pos blank

theorem addText_of_spoken {d : Draft} {line : Line} (spoken : isAllBlank line = false) :
    d.addText line = { d with current := d.current ++ [trim line] } :=
  if_neg (by simp [spoken])

/-- The words of the paragraphs read so far, also of the one being read. -/
def textWords (d : Draft) : List (List Char) := d.close.paragraphs.flatMap fun lines => lines.flatMap words

theorem textWords_eq (d : Draft) :
    d.textWords = (d.paragraphs.flatMap fun lines => lines.flatMap words) ++ d.current.flatMap words := by
  unfold textWords close
  split
  · rename_i none
    simp [List.isEmpty_iff.1 none]
  · simp

theorem textWords_addText (d : Draft) (line : Line) : (d.addText line).textWords = d.textWords ++ words line := by
  unfold addText
  split
  · rename_i blank
    rw [words_eq_nil_iff.2 blank, List.append_nil, textWords, close_close, textWords]
  · simp [textWords_eq, words_trim]

theorem textWords_foldl (d : Draft) (ls : List Line) :
    (ls.foldl addText d).textWords = d.textWords ++ ls.flatMap words := by
  induction ls generalizing d with
  | nil => simp
  | cons line ls ih => rw [List.foldl_cons, ih, textWords_addText, List.flatMap_cons, List.append_assoc]

/-- Text adds nothing but paragraphs. -/
theorem foldl_addText_fields (d : Draft) (ls : List Line) : (ls.foldl addText d).parameters = d.parameters ∧
    (ls.foldl addText d).returns = d.returns ∧ (ls.foldl addText d).remarks = d.remarks := by
  induction ls generalizing d with
  | nil => exact ⟨rfl, rfl, rfl⟩
  | cons line ls ih =>
    obtain ⟨parameters, returns, remarks⟩ := ih (d.addText line)
    rw [List.foldl_cons, parameters, returns, remarks]
    unfold addText
    split <;> simp

/-- A finished paragraph stays the first. -/
theorem head?_paragraphs_foldl {d : Draft} (finished : d.paragraphs ≠ []) (ls : List Line) :
    (ls.foldl addText d).close.paragraphs.head? = d.paragraphs.head? := by
  have closed : ∀ e : Draft, e.paragraphs ≠ [] → e.close.paragraphs ≠ [] ∧
      e.close.paragraphs.head? = e.paragraphs.head? := by
    intro e finished
    unfold close
    split
    · exact ⟨finished, rfl⟩
    · exact ⟨by simp, List.head?_append_of_ne_nil _ finished⟩
  induction ls generalizing d with
  | nil => exact (closed d finished).2
  | cons line ls ih =>
    rw [List.foldl_cons]
    cases blank : isAllBlank line with
    | true => rw [addText_of_blank blank, ih (closed d finished).1, (closed d finished).2]
    | false =>
      rw [addText_of_spoken blank]
      exact ih finished

/-- The paragraph being read goes on up to the next blank line. -/
theorem head?_current_foldl {d : Draft} (none : d.paragraphs = []) (begun : d.current ≠ []) (ls : List Line) :
    (ls.foldl addText d).close.paragraphs.head? =
      some (d.current ++ (ls.takeWhile fun line => !isAllBlank line).map trim) := by
  have closed : d.close.paragraphs = [d.current] := by simp [close, none, begun]
  induction ls generalizing d with
  | nil => simp [closed]
  | cons line ls ih =>
    rw [List.foldl_cons, List.takeWhile_cons]
    cases blank : isAllBlank line with
    | true =>
      rw [addText_of_blank blank, head?_paragraphs_foldl (by simp [closed]), closed]
      simp
    | false =>
      rw [addText_of_spoken blank]
      refine (@ih { d with current := d.current ++ [trim line] } none (by simp) (by simp [close, none])).trans ?_
      simp

/-- The first paragraph is the first run of lines that are not blank. -/
theorem head?_foldl_addText (ls : List Line) : (ls.foldl addText {}).close.paragraphs.head? =
    if firstRun ls = [] then none else some ((firstRun ls).map trim) := by
  induction ls with
  | nil => rfl
  | cons line ls ih =>
    rw [List.foldl_cons]
    cases blank : isAllBlank line with
    | true =>
      have same : firstRun (line :: ls) = firstRun ls := by simp [firstRun, blank]
      rw [addText_of_blank blank, same]
      exact ih
    | false =>
      rw [addText_of_spoken blank, head?_current_foldl rfl (by simp)]
      simp [firstRun, blank]

end Draft

theorem words_flow (ls : List Line) : words (flow ls) = ls.flatMap words := words_joinWith isBlank_space ls

theorem flatMap_words_map_trim (ls : List Line) : (ls.map trim).flatMap words = ls.flatMap words := by
  rw [List.flatMap_map]
  exact List.flatMap_congr fun line _ => words_trim line

/-- A run of lines has a word. -/
theorem flatMap_words_firstRun {ls : List Line} (nonempty : firstRun ls ≠ []) : (firstRun ls).flatMap words ≠ [] := by
  obtain ⟨line, rest, run⟩ := List.exists_cons_of_ne_nil nonempty
  have spoken : (!isAllBlank line) = true := by
    refine List.mem_takeWhile_imp (p := fun line => !isAllBlank line) (l := ls.dropWhile isAllBlank) ?_
    rw [← firstRun, run]
    exact List.mem_cons_self
  rw [run, List.flatMap_cons]
  intro none
  rw [words_eq_nil_iff.1 (List.append_eq_nil_iff.1 none).1] at spoken
  cases spoken

/-- The parts of a block that hold its running text, where they are present. -/
def Block.runningTexts (b : Block) : List String := b.summary.toList ++ b.remarks.toList

theorem joinTexts_runningTexts {d : Draft} (unremarked : d.remarks = [])
    (spoken : ∀ lines ∈ d.close.paragraphs.head?, lines.flatMap words ≠ []) :
    joinTexts " " d.block.runningTexts = String.ofList (joinWith [' '] d.textWords) := by
  unfold Block.runningTexts Draft.block Draft.textWords
  dsimp only
  cases found : d.close.paragraphs with
  | nil => simp [unremarked, nonempty?, singleSpaced, flow, words, wordsFrom, joinTexts, joinWith]
  | cons first rest =>
    have words_first : words (flow first) ≠ [] := by
      rw [words_flow]
      exact spoken first (by rw [found]; rfl)
    have words_rest : words (flow (rest.map fun lines => singleSpaced (flow lines))) =
        rest.flatMap fun lines => lines.flatMap words := by
      rw [words_flow, List.flatMap_map]
      exact List.flatMap_congr fun lines _ => (words_singleSpaced _).trans (words_flow lines)
    rw [List.flatMap_cons, ← words_flow first, ← words_rest]
    simp only [unremarked, List.map_cons, List.tail_cons, List.append_nil, List.head?_cons, Option.map_some,
      Option.toList_some, singleSpaced]
    generalize flow (rest.map fun lines => joinWith [' '] (words (flow lines))) = others
    by_cases silent : words others = []
    · simp [silent, nonempty?, joinWith_nil, joinTexts]
    · have kept : joinWith [' '] (words others) ≠ [] := fun none => silent
        (words_eq_nil_iff.2 (singleSpaced_eq_nil_iff.1 none))
      rw [joinWith_append words_first silent]
      simp [nonempty?, kept, joinTexts, ← String.toList_inj]

/-- **Free text is neither lost nor reordered**: if no line of the cleaned text opens a section or a field, the text is
read without a fault. It has neither parameters nor a result, its summary is the first run of lines that are not blank,
and summary and remarks together are the text, single spaced. -/
theorem free_text_kept (text : String) (free : IsFree (lines (clean text.toList))) :
    ∃ b, ofText text.toList = .ok b ∧ b.parameters = [] ∧ b.returns = none ∧ b.raw = none ∧
      b.summary = (if firstRun (lines (clean text.toList)) = [] then none
        else some (String.ofList (singleSpaced (joinWith ['\n'] (firstRun (lines (clean text.toList))))))) ∧
      joinTexts " " (b.summary.toList ++ b.remarks.toList) = String.ofList (singleSpaced text.toList) := by
  have read := free.read {}
  obtain ⟨parameters, returns, remarks⟩ := Draft.foldl_addText_fields {} (lines (clean text.toList))
  have first := Draft.head?_foldl_addText (lines (clean text.toList))
  have said := Draft.textWords_foldl {} (lines (clean text.toList))
  rw [flatMap_words_lines_clean] at said
  generalize (lines (clean text.toList)).foldl Draft.addText {} = d at read parameters returns remarks first said
  refine ⟨d.block, ?_, by simp [Draft.block, parameters], by simp [Draft.block, returns]; rfl, rfl, ?_, ?_⟩
  · rw [ofText, ← Draft.read, read]
    rfl
  · change (d.close.paragraphs.map _).head?.map _ = _
    rw [List.head?_map, first]
    split
    · rfl
    · refine congrArg (fun cs => some (String.ofList cs)) (singleSpaced_eq_of_words_eq ?_)
      rw [words_flow, flatMap_words_map_trim, words_joinWith (by decide)]
  · rw [← Block.runningTexts, joinTexts_runningTexts remarks, said]
    · rfl
    · intro run mem
      rw [first] at mem
      split at mem
      · cases mem
      · rename_i nonempty
        cases mem
        rw [flatMap_words_map_trim]
        exact flatMap_words_firstRun nonempty

/-- Two paragraphs with tabs, line ends of several kinds, and lines that only look like headings. -/
def Sample.loading : String := "  Loads\tall \n\n\tnotes: none\x0b\r\n   Args : x \n"

theorem free_text_kept_tabbed : IsFree (lines (clean Sample.loading.toList)) ∧
    ∃ b, ofText Sample.loading.toList = .ok b ∧
      b.parameters = [] ∧ b.returns = none ∧ b.summary = some "Loads all" ∧
      joinTexts " " (b.summary.toList ++ b.remarks.toList) = "Loads all notes: none Args : x" := by
  have free : IsFree (lines (clean Sample.loading.toList)) := by decide +kernel
  obtain ⟨b, read, parameters, returns, -, summary, whole⟩ := free_text_kept _ free
  refine ⟨free, b, read, parameters, returns, summary.trans ?_, whole.trans ?_⟩
  · decide +kernel
  · decide +kernel

end Documentation

end CallAtlas
