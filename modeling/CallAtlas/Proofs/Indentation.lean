import CallAtlas.Proofs.Entries
import CallAtlas.Proofs.Extraction
import CallAtlas.Proofs.FreeText

/-!
# Indentation

A documentation text moves to the right with the definition that it stands in: all its lines but the first get some more
spaces in front. If one of these lines holds text, the margin grows by as much, and cleaning leaves the same lines. If
they are all blank there is no margin, and what the reader gets is the first line with other blank lines below it.
Blank lines at the end belong to the last part of a text or are free text, and add no words and no entries. They count
in one place only: a section on the parameters loses the margin of its lines, and a blank line that is not made of
spaces counts among them. Where such a line undercuts the margin, the entries look indented and the text cannot be read.
-/

namespace CallAtlas

namespace Text

/-! ## Lines -/

section Lines

variable {current cs line : List Char} {c : Char}

theorem linesFrom_cons (single : ¬ (c = '\r' ∧ cs.head? = some '\n')) : linesFrom current (c :: cs) =
    if isLineEnd c then current.reverse :: linesFrom [] cs else linesFrom (c :: current) cs := by
  rw [linesFrom]
  rintro rest rfl rfl
  exact single ⟨rfl, rfl⟩

/-- A line feed ends the line before it, or is an empty line. -/
theorem exists_linesFrom_append_feed (current front back : List Char) : ∃ n,
    linesFrom current (front ++ '\n' :: back) = linesFrom current front ++ (List.replicate n [] ++ lines back) := by
  have feed : ∀ current, linesFrom current ('\n' :: back) = current.reverse :: lines back := by
    intro current
    rw [linesFrom_cons (by simp), if_pos (by decide), lines]
  fun_induction linesFrom current front with
  | case1 current none =>
    refine ⟨1, ?_⟩
    rw [List.isEmpty_iff.1 none, List.nil_append, feed]
    rfl
  | case2 current nonempty => exact ⟨0, feed current⟩
  | case3 current cs ih =>
    obtain ⟨n, split⟩ := ih
    refine ⟨n, ?_⟩
    rw [List.cons_append, List.cons_append, linesFrom, split]
    rfl
  | case4 current c cs other ended ih =>
    by_cases pair : c = '\r' ∧ (cs ++ '\n' :: back).head? = some '\n'
    · obtain ⟨rfl, next⟩ := pair
      -- the line feed makes a pair with the carriage return before it
      cases cs with
      | nil => exact ⟨0, rfl⟩
      | cons d cs =>
        cases Option.some.inj next
        exact absurd rfl (other cs rfl)
    · obtain ⟨n, split⟩ := ih
      refine ⟨n, ?_⟩
      rw [List.cons_append, linesFrom_cons pair, if_pos ended, split]
      rfl
  | case5 current c cs other inside ih =>
    have single : ¬ (c = '\r' ∧ (cs ++ '\n' :: back).head? = some '\n') := by
      rintro ⟨rfl, -⟩
      exact inside (by decide)
    obtain ⟨n, split⟩ := ih
    refine ⟨n, ?_⟩
    rw [List.cons_append, linesFrom_cons single, if_neg inside, split]

theorem exists_lines_append_feed (front back : List Char) :
    ∃ n, lines (front ++ '\n' :: back) = lines front ++ (List.replicate n [] ++ lines back) :=
  exists_linesFrom_append_feed [] front back

theorem mem_of_mem_linesFrom (held : line ∈ linesFrom current cs) (mem : c ∈ line) : c ∈ current ∨ c ∈ cs := by
  fun_induction linesFrom current cs with
  | case1 => cases held
  | case2 current nonempty =>
    cases List.mem_singleton.1 held
    exact Or.inl (List.mem_reverse.1 mem)
  | case3 current cs ih =>
    rcases List.mem_cons.1 held with rfl | held
    · exact Or.inl (List.mem_reverse.1 mem)
    · exact Or.inr (by simpa using Or.inr (Or.inr (ih held)))
  | case4 current d cs other ended ih =>
    rcases List.mem_cons.1 held with rfl | held
    · exact Or.inl (List.mem_reverse.1 mem)
    · exact Or.inr (by simpa using Or.inr (ih held))
  | case5 current d cs other inside ih =>
    rcases ih held with known | later
    · rcases List.mem_cons.1 known with rfl | known
      · exact Or.inr List.mem_cons_self
      · exact Or.inl known
    · exact Or.inr (List.mem_cons_of_mem d later)

theorem mem_of_mem_lines (held : line ∈ lines cs) (mem : c ∈ line) : c ∈ cs :=
  (mem_of_mem_linesFrom held mem).resolve_left List.not_mem_nil

theorem isAllBlank_of_mem_lines (blank : isAllBlank cs = true) (held : line ∈ lines cs) : isAllBlank line = true :=
  List.all_eq_true.2 fun _ mem => List.all_eq_true.1 blank _ (mem_of_mem_lines held mem)

theorem mem_linesFrom_append {front : List Char} (held : line ∈ linesFrom (current ++ front) cs) :
    ∃ known, (known = [] ∨ known ∈ linesFrom current cs) ∧ (line = known ∨ line = front.reverse ++ known) := by
  fun_induction linesFrom current cs with
  | case1 current none =>
    rw [List.isEmpty_iff.1 none, List.nil_append, linesFrom] at held
    split at held
    · cases held
    · exact ⟨[], Or.inl rfl, Or.inr (by simpa using held)⟩
  | case2 current nonempty =>
    rw [linesFrom, if_neg (by simpa using fun none => absurd none (by simpa using nonempty))] at held
    exact ⟨_, Or.inr List.mem_cons_self, Or.inr (by simpa using held)⟩
  | case3 current cs ih =>
    rw [linesFrom] at held
    rcases List.mem_cons.1 held with rfl | held
    · exact ⟨_, Or.inr List.mem_cons_self, Or.inr (by simp)⟩
    · exact ⟨_, Or.inr (List.mem_cons_of_mem _ held), Or.inl rfl⟩
  | case4 current d cs other ended ih =>
    rw [linesFrom, if_pos ended] at held
    · rcases List.mem_cons.1 held with rfl | held
      · exact ⟨_, Or.inr List.mem_cons_self, Or.inr (by simp)⟩
      · exact ⟨_, Or.inr (List.mem_cons_of_mem _ held), Or.inl rfl⟩
    · exact other
  | case5 current d cs other inside ih =>
    rw [linesFrom, if_neg inside] at held
    · exact ih held
    · exact other

/-- Spaces in front of a text stand in front of its first line. -/
theorem mem_lines_spaces {k : Nat} (held : line ∈ lines (List.replicate k ' ' ++ cs)) :
    ∃ known, (known = [] ∨ known ∈ lines cs) ∧ (line = known ∨ line = List.replicate k ' ' ++ known) := by
  have spaces : ∀ d ∈ List.replicate k ' ', isLineEnd d = false := fun d mem => by
    rw [List.eq_of_mem_replicate mem]
    decide
  rw [lines, linesFrom_append spaces, List.append_nil] at held
  obtain ⟨known, found, shape⟩ := @mem_linesFrom_append [] cs line _ held
  exact ⟨known, found, by simpa using shape⟩

end Lines

end Text

namespace Documentation

open Text

/-! ## Blank lines at the end -/

theorem isRule_of_blank {line : Line} (blank : isAllBlank line = true) : isRule line = false := by
  simp [isRule, trim_eq_nil_iff.2 blank]

theorem topic?_of_blank {line : Line} (blank : isAllBlank line = true) : topic? line = none := by
  rw [topic?, trim_eq_nil_iff.2 blank]
  decide

theorem colonTopic?_of_blank {line : Line} (blank : isAllBlank line = true) : colonTopic? line = none := by
  rw [← Option.not_isSome_iff_eq_none, isSome_colonTopic?_iff]
  rintro ⟨first, name, rest, rfl, -, -, -, -⟩
  have colon : isBlank ':' = true := List.all_eq_true.1 blank ':' (by simp)
  revert colon
  decide

theorem head?_ne_colon_of_blank {line : Line} (blank : isAllBlank line = true) : line.head? ≠ some ':' := by
  intro first
  have colon : isBlank ':' = true := List.all_eq_true.1 blank ':' (List.mem_of_mem_head? first)
  revert colon
  decide

theorem parts_eq_nil_iff {ls : List Line} : parts ls = [] ↔ ls = [] := by
  constructor
  · intro none
    cases ls with
    | nil => rfl
    | cons line ls =>
      rw [parts] at none
      split at none
      · cases none
      · split at none
        · cases none
        · split at none <;> cases none
  · rintro rfl
    rw [parts]

/-- Blank lines below the parts of a text go to the last of them if it is a section, and are free text otherwise. -/
def closedBy (blanks : List Line) : List Part → List Part
  | [] => blanks.map .text
  | [.colon topic body] => [.colon topic (body ++ blanks)]
  | [.ruled topic body] => [.ruled topic (body ++ blanks)]
  | part :: parts => part :: closedBy blanks parts

theorem closedBy_cons {blanks : List Line} {part : Part} {parts : List Part} (more : parts ≠ []) :
    closedBy blanks (part :: parts) = part :: closedBy blanks parts := by
  rw [closedBy]
  · rintro topic body rfl rfl
    exact more rfl
  · rintro topic body rfl rfl
    exact more rfl

section Blanks

variable {blanks : List Line} (blank : ∀ line ∈ blanks, isAllBlank line = true)
include blank

theorem ruledTopic?_append_blank (line : Line) (rest : List Line) :
    ruledTopic? (line :: (rest ++ blanks)) = ruledTopic? (line :: rest) := by
  cases rest with
  | nil => exact ruledTopic?_of_next fun other mem => isRule_of_blank (blank other (List.mem_of_mem_head? mem))
  | cons next rest => rfl

theorem cutRuled_append_blank (ls : List Line) : cutRuled (ls ++ blanks) =
    if (cutRuled ls).2 = [] then (ls ++ blanks, []) else ((cutRuled ls).1, (cutRuled ls).2 ++ blanks) := by
  induction ls with
  | nil =>
    have unruled : ∀ line ∈ blanks.tail, isRule line = false := fun line mem =>
      isRule_of_blank (blank line (List.mem_of_mem_tail mem))
    have whole := @cutRuled_of_unruled blanks [] unruled (by simp) (Or.inl rfl)
    rw [List.append_nil] at whole
    rw [List.nil_append, whole]
    rfl
  | cons line ls ih =>
    rw [List.cons_append, cutRuled, cutRuled, ruledTopic?_append_blank blank]
    split
    · simp
    · rw [ih]
      dsimp only
      split <;> rfl

theorem parts_blank : parts blanks = blanks.map .text := by
  induction blanks with
  | nil => rw [parts]; rfl
  | cons line blanks ih =>
    obtain ⟨first, others⟩ := List.forall_mem_cons.1 blank
    rw [parts, ruledTopic?_of_topic _ (topic?_of_blank first), colonTopic?_of_blank first]
    dsimp only
    rw [if_neg (head?_ne_colon_of_blank first), ih others, List.map_cons]

/-- Blank lines at the end of a text change none of its parts but the last. -/
theorem parts_append_blank (ls : List Line) : parts (ls ++ blanks) = closedBy blanks (parts ls) := by
  fun_induction parts ls with
  | case1 => exact parts_blank blank
  | case2 line rest topic heading ih =>
    obtain ⟨rule, body, rfl⟩ : ∃ rule body, rest = rule :: body := by
      cases rest with
      | nil => cases heading
      | cons rule body => exact ⟨rule, body, rfl⟩
    rw [List.cons_append, parts, ruledTopic?_append_blank blank, heading]
    dsimp only [List.cons_append, List.tail_cons] at ih ⊢
    rw [cutRuled_append_blank blank]
    split
    · rename_i none
      have all := cutRuled_append body
      rw [none, List.append_nil] at all
      rw [none, all, parts]
      rfl
    · rename_i more
      rw [ih, closedBy_cons (mt parts_eq_nil_iff.1 more)]
  | case3 line rest unruled topic heading ih =>
    rw [List.cons_append, parts, ruledTopic?_append_blank blank, unruled, heading]
    dsimp only
    by_cases none : rest.dropWhile isBody = []
    · have inside := List.dropWhile_eq_nil_iff.1 none
      have whole : ∀ other ∈ rest ++ blanks, isBody other = true := by
        intro other mem
        rcases List.mem_append.1 mem with mem | mem
        · exact inside other mem
        · simp [isBody, blank other mem]
      rw [none, List.takeWhile_eq_self_iff.2 whole, List.dropWhile_eq_nil_iff.2 whole,
        List.takeWhile_eq_self_iff.2 inside, parts]
      rfl
    · have stop : ∀ other ∈ (rest.dropWhile isBody ++ blanks).head?, isBody other = false := by
        rw [List.head?_append_of_ne_nil _ none]
        exact fun other mem => not_of_mem_head?_dropWhile mem
      obtain ⟨body, left⟩ := scan_append stop
      rw [body, left, ih, closedBy_cons (mt parts_eq_nil_iff.1 none)]
  | case4 line rest unruled unheaded field ih =>
    have stop : ∀ other ∈ (rest.dropWhile isFieldContinuation ++ blanks).head?, isFieldContinuation other = false := by
      intro other mem
      rw [List.head?_append, Option.mem_def, Option.or_eq_some_iff] at mem
      rcases mem with mem | ⟨-, mem⟩
      · exact not_of_mem_head?_dropWhile mem
      · simp [isFieldContinuation, blank other (List.mem_of_mem_head? mem)]
    obtain ⟨more, left⟩ := scan_append stop
    rw [List.cons_append, parts, ruledTopic?_append_blank blank, unruled, unheaded]
    dsimp only
    rw [if_pos field, more, left, ih]
    rfl
  | case5 line rest unruled unheaded text ih =>
    rw [List.cons_append, parts, ruledTopic?_append_blank blank, unruled, unheaded]
    dsimp only
    rw [if_neg text, ih]
    rfl

end Blanks

/-! ## Margins -/

theorem commonFront_isPrefix (as bs : List Char) : commonFront as bs <+: as ∧ commonFront as bs <+: bs := by
  fun_induction commonFront as bs with
  | case1 a as b bs same ih =>
    cases eq_of_beq same
    exact ⟨List.cons_prefix_cons.2 ⟨rfl, ih.1⟩, List.cons_prefix_cons.2 ⟨rfl, ih.2⟩⟩
  | case2 => exact ⟨List.nil_prefix, List.nil_prefix⟩
  | case3 => exact ⟨List.nil_prefix, List.nil_prefix⟩

theorem commonFront_of_isPrefix {as bs : List Char} (front : as <+: bs) : commonFront as bs = as := by
  obtain ⟨rest, rfl⟩ := front
  induction as with
  | nil => cases rest <;> rfl
  | cons a as ih => simp [commonFront, ih]

theorem foldl_commonFront_isPrefix (pad : List Char) (pads : List (List Char)) :
    ∀ front ∈ pad :: pads, pads.foldl commonFront pad <+: front := by
  induction pads generalizing pad with
  | nil => simp
  | cons next pads ih =>
    obtain ⟨least, others⟩ := List.forall_mem_cons.1 (ih (commonFront pad next))
    obtain ⟨left, right⟩ := commonFront_isPrefix pad next
    exact List.forall_mem_cons.2 ⟨least.trans left, List.forall_mem_cons.2 ⟨least.trans right, others⟩⟩

/-- The margin stands in front of every line that counts. -/
theorem commonPad_isPrefix {ls : List Line} {line : Line} (mem : line ∈ ls) (counts : line.all isPad = false) :
    commonPad ls <+: line.takeWhile isPad := by
  have held : line.takeWhile isPad ∈ (ls.filter fun line => !line.all isPad).map (·.takeWhile isPad) :=
    List.mem_map_of_mem (List.mem_filter.2 ⟨mem, by simp [counts]⟩)
  unfold commonPad
  split
  · exact List.nil_prefix
  · rename_i pad pads found
    rw [found] at held
    exact foldl_commonFront_isPrefix pad pads _ held

theorem exists_of_mem_commonPad {ls : List Line} {c : Char} (mem : c ∈ commonPad ls) :
    ∃ line ∈ ls, c ∈ line.takeWhile isPad := by
  unfold commonPad at mem
  split at mem
  · cases mem
  · rename_i pad pads found
    have held : pad ∈ (ls.filter fun line => !line.all isPad).map (·.takeWhile isPad) := by simp [found]
    obtain ⟨line, counted, rfl⟩ := List.mem_map.1 held
    exact ⟨line, (List.mem_filter.1 counted).1, (foldl_commonFront_isPrefix _ pads _ List.mem_cons_self).subset mem⟩

theorem isPad_of_mem_commonPad {ls : List Line} {c : Char} (mem : c ∈ commonPad ls) : isPad c = true := by
  obtain ⟨line, -, held⟩ := exists_of_mem_commonPad mem
  exact List.mem_takeWhile_imp held

/-- Further lines can only take from the margin. -/
theorem commonPad_append {ls : List Line} (counts : ∃ line ∈ ls, line.all isPad = false) (more : List Line) :
    commonPad (ls ++ more) =
      ((more.filter fun line => !line.all isPad).map (·.takeWhile isPad)).foldl commonFront (commonPad ls) := by
  obtain ⟨line, mem, odd⟩ := counts
  have nonempty : (ls.filter fun line => !line.all isPad).map (·.takeWhile isPad) ≠ [] :=
    List.ne_nil_of_mem (List.mem_map_of_mem (List.mem_filter.2 ⟨mem, by simp [odd]⟩))
  obtain ⟨pad, pads, found⟩ := List.exists_cons_of_ne_nil nonempty
  have whole : commonPad ls = pads.foldl commonFront pad := by rw [commonPad, found]
  rw [commonPad, List.filter_append, List.map_append, found, List.cons_append]
  dsimp only
  rw [List.foldl_append, ← whole]

/-- Lines that start with the margin leave it as it is. -/
theorem commonPad_append_of_isPrefix {ls more : List Line} (counts : ∃ line ∈ ls, line.all isPad = false)
    (deep : ∀ line ∈ more, line.all isPad = false → commonPad ls <+: line) :
    commonPad (ls ++ more) = commonPad ls := by
  have kept : ∀ pads : List (List Char), (∀ pad ∈ pads, commonPad ls <+: pad) →
      pads.foldl commonFront (commonPad ls) = commonPad ls := by
    intro pads fronts
    induction pads with
    | nil => rfl
    | cons pad pads ih =>
      obtain ⟨first, others⟩ := List.forall_mem_cons.1 fronts
      rw [List.foldl_cons, commonFront_of_isPrefix first, ih others]
  have fronts : ∀ pad ∈ (more.filter fun line => !line.all isPad).map (·.takeWhile isPad), commonPad ls <+: pad := by
    intro pad held
    obtain ⟨line, counted, rfl⟩ := List.mem_map.1 held
    obtain ⟨mem, odd⟩ := List.mem_filter.1 counted
    obtain ⟨rest, rfl⟩ := deep line mem (by simpa using odd)
    rw [List.takeWhile_append_of_pos fun c mem => isPad_of_mem_commonPad mem]
    exact List.prefix_append _ _
  rw [commonPad_append counts, kept _ fronts]

theorem isBlank_of_isPad {c : Char} (pad : isPad c = true) : isBlank c = true := by
  rw [isPad, Bool.or_eq_true, beq_iff_eq, beq_iff_eq] at pad
  rcases pad with rfl | rfl <;> decide

theorem isAllBlank_of_isPad {line : Line} (pads : line.all isPad = true) : isAllBlank line = true :=
  List.all_eq_true.2 fun c mem => isBlank_of_isPad (List.all_eq_true.1 pads c mem)

theorem exists_counts_of_spoken {ls : List Line} (spoken : ∃ line ∈ ls, isAllBlank line = false) :
    ∃ line ∈ ls, line.all isPad = false := by
  obtain ⟨line, mem, said⟩ := spoken
  refine ⟨line, mem, ?_⟩
  by_contra pads
  rw [isAllBlank_of_isPad (by simpa using pads)] at said
  cases said

theorem flatMap_words_dedent (ls : List Line) : (dedent ls).flatMap words = ls.flatMap words := by
  rw [dedent, List.flatMap_map]
  refine List.flatMap_congr fun line mem => ?_
  split
  · rename_i pads
    rw [words_eq_nil_iff.2 (isAllBlank_of_isPad pads)]
    rfl
  · rename_i counts
    have front := (commonPad_isPrefix mem (by simpa using counts)).trans (List.takeWhile_prefix isPad)
    apply words_drop
    rw [← List.prefix_iff_eq_take.1 front]
    exact fun c mem => isBlank_of_isPad (isPad_of_mem_commonPad mem)

theorem exists_append_dropEmptyLast (ls : List Line) : ∃ n, ls = dropEmptyLast ls ++ List.replicate n [] := by
  unfold dropEmptyLast
  split
  · rename_i last
    exact ⟨1, (List.dropLast_append_getLast? _ last).symm⟩
  · exact ⟨0, (List.append_nil ls).symm⟩

theorem words_flow_dedent (ls : List Line) : words (flow (dropEmptyLast (dedent ls))) = ls.flatMap words := by
  obtain ⟨n, split⟩ := exists_append_dropEmptyLast (dedent ls)
  rw [words_flow, ← flatMap_words_dedent ls]
  conv_rhs => rw [split, List.flatMap_append, flatMap_words_empty, List.append_nil]

/-- A blank line below a section undercuts the margin of its lines: it does not start with the margin, and counts
because it is not made of spaces. -/
def Undercuts (below body : List Line) : Prop :=
  (∃ line ∈ body, isAllBlank line = false) ∧ ∃ line ∈ below, line.all isPad = false ∧ ¬ commonPad body <+: line

instance (below body : List Line) : Decidable (Undercuts below body) := inferInstanceAs (Decidable (_ ∧ _))

theorem isAllBlank_of_mem_dedented {ls : List Line} (blank : ∀ line ∈ ls, isAllBlank line = true) (width : Nat) :
    ∀ line ∈ ls.map fun line => if line.all isPad then [] else line.drop width, isAllBlank line = true := by
  intro line mem
  obtain ⟨known, held, rfl⟩ := List.mem_map.1 mem
  split
  · rfl
  · exact List.all_eq_true.2 fun c mem => List.all_eq_true.1 (blank known held) c (List.mem_of_mem_drop mem)

section Entries

variable {α : Type} {f : Entry → Except Fault α} (blind : ∀ e : Entry, f { e with more := e.more ++ [[]] } = f e)
include blind

theorem entries_dropEmptyLast (ls : List Line) :
    entries (dropEmptyLast ls) >>= (·.mapM f) = entries ls >>= (·.mapM f) := by
  obtain ⟨n, split⟩ := exists_append_dropEmptyLast ls
  conv_rhs => rw [split]
  exact (entries_append_blank blind _ fun _ => isAllBlank_of_mem_replicate).symm

/-- Blank lines below a section add nothing to its entries, unless they undercut its margin. -/
theorem entries_dedent_append {body blanks : List Line} (blank : ∀ line ∈ blanks, isAllBlank line = true)
    (safe : ¬ Undercuts blanks body) : entries (dropEmptyLast (dedent (body ++ blanks))) >>= (·.mapM f) =
      entries (dropEmptyLast (dedent body)) >>= (·.mapM f) := by
  rw [entries_dropEmptyLast blind, entries_dropEmptyLast blind]
  by_cases spoken : ∃ line ∈ body, isAllBlank line = false
  · have deep : ∀ line ∈ blanks, line.all isPad = false → commonPad body <+: line := by
      intro line mem counts
      by_contra undercut
      exact safe ⟨spoken, line, mem, counts, undercut⟩
    rw [dedent, commonPad_append_of_isPrefix (exists_counts_of_spoken spoken) deep, List.map_append]
    exact entries_append_blank blind _ (isAllBlank_of_mem_dedented blank _)
  · -- without text there is no entry
    have silent : ∀ ls : List Line, (∀ line ∈ ls, isAllBlank line = true) →
        entries (dedent ls) >>= (·.mapM f) = entries [] >>= (·.mapM f) := fun ls blank =>
      entries_append_blank blind [] (isAllBlank_of_mem_dedented blank _)
    have above : ∀ line ∈ body, isAllBlank line = true := fun line mem => by
      by_contra said
      exact spoken ⟨line, mem, by simpa using said⟩
    have all : ∀ line ∈ body ++ blanks, isAllBlank line = true := fun line mem =>
      (List.mem_append.1 mem).elim (above line) (blank line)
    rw [silent body above, silent (body ++ blanks) all]

end Entries

/-! ## Reading -/

namespace Draft

theorem paragraphs_close (d : Draft) :
    d.close.paragraphs = if d.current.isEmpty then d.paragraphs else d.paragraphs ++ [d.current] := by
  unfold close
  split <;> rfl

theorem block_congr {d e : Draft} (paragraphs : d.paragraphs = e.paragraphs) (current : d.current = e.current)
    (parameters : d.parameters = e.parameters) (returns : d.returns.flatMap words = e.returns.flatMap words)
    (remarks : d.remarks.flatMap words = e.remarks.flatMap words) : d.block = e.block := by
  have result : singleSpaced (flow d.returns) = singleSpaced (flow e.returns) :=
    singleSpaced_eq_of_words_eq (by rw [words_flow, words_flow, returns])
  have notes : ∀ front : List Line,
      singleSpaced (flow (front ++ d.remarks)) = singleSpaced (flow (front ++ e.remarks)) := fun front =>
    singleSpaced_eq_of_words_eq (by rw [words_flow, words_flow, List.flatMap_append, List.flatMap_append, remarks])
  simp only [block, paragraphs_close, paragraphs, current, parameters, result, notes]

section Blanks

variable {blanks : List Line} (blank : ∀ line ∈ blanks, isAllBlank line = true)
include blank

theorem flatMap_words_append_blank (body : List Line) : (body ++ blanks).flatMap words = body.flatMap words := by
  rw [List.flatMap_append, flatMap_words_blank blank, List.append_nil]

theorem block_addColon_append_blank {body : List Line} {topic : Topic}
    (safe : topic = .parameters → ¬ Undercuts blanks body) (d : Draft) :
    block <$> d.addColon topic (body ++ blanks) = block <$> d.addColon topic body := by
  have said : words (flow (dropEmptyLast (dedent (body ++ blanks)))) = words (flow (dropEmptyLast (dedent body))) := by
    rw [words_flow_dedent, words_flow_dedent, flatMap_words_append_blank blank]
  cases topic with
  | parameters =>
    have same := entries_dedent_append colonEntry_append_empty blank (safe rfl)
    simp only [addColon, ← bind_assoc, same]
  | returns => exact congrArg Except.ok (block_congr rfl rfl rfl (by simp [said]) rfl)
  | remarks => exact congrArg Except.ok (block_congr rfl rfl rfl rfl (by simp [said]))
  | other => rfl

theorem block_addRuled_append_blank (body : List Line) (topic : Topic) (d : Draft) :
    block <$> d.addRuled topic (body ++ blanks) = block <$> d.addRuled topic body := by
  cases topic with
  | parameters =>
    have same := entries_append_blank ruledEntry_append_empty body blank
    unfold ruledEntry at same
    simp only [addRuled, ← bind_assoc, same]
  | returns =>
    have blind : ∀ e : Entry, ruledResult { e with more := e.more ++ [[]] } = ruledResult e := fun e => by
      rw [ruledResult, ruledResult, singleSpaced_eq_of_words_eq (words_flow_append_empty e.more)]
    have same := entries_append_blank (f := fun e => do
      let _ ← ruledEntryName e
      return ruledResult e) (fun e => by rw [blind]; rfl) body blank
    simp only [addRuled, ← bind_assoc, same]
  | remarks =>
    refine congrArg Except.ok (block_congr rfl rfl rfl rfl ?_)
    simp only [List.flatMap_append, List.flatMap_singleton, words_flow]
    rw [← List.flatMap_append, flatMap_words_append_blank blank]
  | other => rfl

theorem block_foldlM_text (d : Draft) : block <$> (blanks.map Part.text).foldlM add d = .ok d.block := by
  induction blanks generalizing d with
  | nil => rfl
  | cons line blanks ih =>
    obtain ⟨first, others⟩ := List.forall_mem_cons.1 blank
    rw [List.map_cons, List.foldlM_cons, add, addText_of_blank first]
    exact (ih others d.close).trans (congrArg Except.ok d.block_close)

/-- Blank lines below a text change nothing of its block, unless they undercut the margin of a section on parameters
that it ends in. -/
theorem block_foldlM_closedBy {ps : List Part}
    (safe : ∀ body, ps.getLast? = some (.colon .parameters body) → ¬ Undercuts blanks body) (d : Draft) :
    block <$> (closedBy blanks ps).foldlM add d = block <$> ps.foldlM add d := by
  have single : ∀ (d : Draft) (part : Part), block <$> [part].foldlM add d = block <$> d.add part := fun d part => by
    rw [List.foldlM_cons]
    cases d.add part <;> rfl
  have closed : ∀ x : Except Fault Draft, block <$> (close <$> x) = block <$> x := fun x => by
    rw [← comp_map]
    exact congrArg (· <$> x) (funext block_close)
  fun_induction closedBy blanks ps generalizing d with
  | case1 => exact block_foldlM_text blank d
  | case2 topic body =>
    have here : topic = .parameters → ¬ Undercuts blanks body := by
      rintro rfl
      exact safe body rfl
    rw [single, single, add, add, closed, closed, block_addColon_append_blank blank here]
  | case3 topic body => rw [single, single, add, add, closed, closed, block_addRuled_append_blank blank]
  | case4 part parts notColon notRuled ih =>
    have below : ∀ body, parts.getLast? = some (.colon .parameters body) → ¬ Undercuts blanks body := by
      intro body last
      exact safe body (by rw [List.getLast?_cons, last]; rfl)
    rw [List.foldlM_cons, List.foldlM_cons]
    cases d.add part with
    | error fault => rfl
    | ok e => exact ih below e

theorem block_read_append_blank {ls : List Line}
    (safe : ∀ body, (parts ls).getLast? = some (.colon .parameters body) → ¬ Undercuts blanks body) (d : Draft) :
    block <$> d.read (ls ++ blanks) = block <$> d.read ls := by
  rw [read, parts_append_blank blank]
  exact block_foldlM_closedBy blank safe d

end Blanks

end Draft

/-! ## Undercut margins -/

/-- Without a line at the margin there is no first entry. -/
theorem exists_fault_entries {ls : List Line} (spoken : ∃ line ∈ ls, isAllBlank line = false)
    (inside : ∀ line ∈ ls, isAllBlank line = false → isIndented line = true) : ∃ fault, entries ls = .error fault := by
  unfold entries
  induction ls with
  | nil =>
    obtain ⟨line, mem, -⟩ := spoken
    cases mem
  | cons line ls ih =>
    obtain ⟨first, others⟩ := List.forall_mem_cons.1 inside
    rw [List.foldlM_cons]
    cases said : isAllBlank line with
    | true =>
      have step : addEntryLine [] line = .ok [] := by simp [addEntryLine, said, continueLast]
      rw [step]
      refine ih ?_ others
      obtain ⟨other, mem, spoken⟩ := spoken
      rcases List.mem_cons.1 mem with rfl | mem
      · rw [said] at spoken
        cases spoken
      · exact ⟨other, mem, spoken⟩
    | false =>
      have step : addEntryLine [] line = .error (.strayContinuation line) := by simp [addEntryLine, said, first said]
      exact ⟨.strayContinuation line, by rw [step]; rfl⟩

theorem isIndented_drop {line : Line} {n : Nat} (short : n < (line.takeWhile isPad).length) :
    isIndented (line.drop n) = true := by
  have split : line.drop n = (line.takeWhile isPad).drop n ++ line.dropWhile isPad := by
    conv_lhs => rw [← List.takeWhile_append_dropWhile (p := isPad) (l := line)]
    exact List.drop_append_of_le_length (Nat.le_of_lt short)
  have left : (line.takeWhile isPad).drop n ≠ [] := by simpa using short
  obtain ⟨c, cs, front⟩ := List.exists_cons_of_ne_nil left
  have mem : c ∈ line.takeWhile isPad := List.mem_of_mem_drop (front ▸ List.mem_cons_self)
  rw [split, front, isIndented]
  exact isBlank_of_isPad (List.mem_takeWhile_imp mem)

section Undercut

variable {body blanks : List Line} (blank : ∀ line ∈ blanks, isAllBlank line = true) (cut : Undercuts blanks body)
include blank cut

theorem Undercuts.exists_fault_entries : ∃ fault, entries (dedent (body ++ blanks)) = .error fault := by
  obtain ⟨spoken, under, mem, counts, undercut⟩ := cut
  have shorter : (commonPad (body ++ blanks)).length < (commonPad body).length := by
    have front : commonPad (body ++ blanks) <+: commonPad body := by
      rw [commonPad_append (exists_counts_of_spoken spoken)]
      exact foldl_commonFront_isPrefix _ _ _ List.mem_cons_self
    refine lt_of_le_of_ne front.length_le fun same => undercut ?_
    rw [← front.eq_of_length same]
    exact (commonPad_isPrefix (List.mem_append_right _ mem) counts).trans (List.takeWhile_prefix _)
  apply Documentation.exists_fault_entries
  · by_contra silent
    have none : (dedent (body ++ blanks)).flatMap words = [] := by
      rw [List.flatMap_eq_nil_iff]
      intro line mem
      rw [words_eq_nil_iff]
      by_contra said
      exact silent ⟨line, mem, by simpa using said⟩
    obtain ⟨line, mem, said⟩ := spoken
    rw [flatMap_words_dedent, List.flatMap_eq_nil_iff] at none
    rw [words_eq_nil_iff.1 (none line (List.mem_append_left _ mem))] at said
    cases said
  · intro line mem said
    obtain ⟨known, held, rfl⟩ := List.mem_map.1 mem
    split at said
    · cases said
    · rename_i odd
      rw [if_neg odd]
      rcases List.mem_append.1 held with held | held
      · have margin := commonPad_isPrefix held (by simpa using odd)
        exact isIndented_drop (shorter.trans_le margin.length_le)
      · have silent := isAllBlank_of_mem_dedented blank (commonPad (body ++ blanks)).length _ (List.mem_map_of_mem held)
        rw [if_neg odd, said] at silent
        cases silent

theorem Undercuts.exists_fault_addColon (d : Draft) :
    ∃ fault, d.addColon .parameters (body ++ blanks) = .error fault := by
  obtain ⟨fault, stray⟩ := cut.exists_fault_entries blank
  have same := entries_dropEmptyLast colonEntry_append_empty (dedent (body ++ blanks))
  rw [stray] at same
  refine ⟨fault, ?_⟩
  simp only [Draft.addColon, ← bind_assoc, same]
  rfl

theorem Undercuts.exists_fault_foldlM {ps : List Part} (last : ps.getLast? = some (.colon .parameters body))
    (d : Draft) : ∃ fault, (closedBy blanks ps).foldlM Draft.add d = .error fault := by
  induction ps generalizing d with
  | nil => cases last
  | cons part ps ih =>
    cases ps with
    | nil =>
      cases Option.some.inj last
      obtain ⟨fault, failed⟩ := cut.exists_fault_addColon blank d
      refine ⟨fault, ?_⟩
      rw [closedBy, List.foldlM_cons, Draft.add, failed]
      rfl
    | cons next ps =>
      rw [closedBy_cons (List.cons_ne_nil _ _), List.foldlM_cons]
      rw [List.getLast?_cons_of_ne_nil (List.cons_ne_nil _ _)] at last
      cases d.add part with
      | error fault => exact ⟨fault, rfl⟩
      | ok e => exact ih last e

end Undercut

/-! ## Moving a text to the right -/

/-- A text with `k` spaces in front of all its lines but the first. -/
def indented (k : Nat) (text : List Char) : List Char :=
  match splitOn '\n' text with
  | [] => []
  | first :: rest => joinWith ['\n'] (first :: rest.map (List.replicate k ' ' ++ ·))

theorem isAllBlank_spaces (k : Nat) (line : Line) : isAllBlank (List.replicate k ' ' ++ line) = isAllBlank line := by
  have spaces : (List.replicate k ' ').all isBlank = true := by
    rw [List.all_replicate]
    simp [isBlank_space]
  rw [isAllBlank, List.all_append, spaces, Bool.true_and, isAllBlank]

theorem indentation_spaces (k : Nat) (line : Line) :
    indentation (List.replicate k ' ' ++ line) = indentation line + k := by
  have spaces : ∀ c ∈ List.replicate k ' ', isBlank c = true := fun c mem => by
    rw [List.eq_of_mem_replicate mem, isBlank_space]
  rw [indentation, List.takeWhile_append_of_pos spaces, List.length_append, List.length_replicate, indentation,
    Nat.add_comm]

/-- The margin moves with the lines. -/
theorem margin?_map_spaces (k : Nat) (ls : List Line) :
    margin? (ls.map (List.replicate k ' ' ++ ·)) = (margin? ls).map (· + k) := by
  have counted : ((ls.map (List.replicate k ' ' ++ ·)).filter fun line => !isAllBlank line).map indentation =
      ((ls.filter fun line => !isAllBlank line).map indentation).map (· + k) := by
    rw [List.filter_map, List.map_map, List.map_map]
    simp [Function.comp_def, isAllBlank_spaces, indentation_spaces]
  rw [margin?, counted, margin?]
  generalize (ls.filter fun line => !isAllBlank line).map indentation = widths
  cases least : widths.min? with
  | none => simp [List.min?_eq_none_iff.1 least]
  | some m =>
    obtain ⟨mem, bound⟩ := List.min?_eq_some_iff.1 least
    refine List.min?_eq_some_iff.2 ⟨List.mem_map_of_mem mem, ?_⟩
    intro width held
    obtain ⟨known, mem, rfl⟩ := List.mem_map.1 held
    exact Nat.add_le_add_right (bound known mem) k

/-- The lines of joined pieces are those of the pieces, empty lines apart. -/
theorem mem_lines_joinWith {line : Line} (nonempty : line ≠ []) {pieces : List (List Char)} :
    line ∈ lines (joinWith ['\n'] pieces) ↔ ∃ piece ∈ pieces, line ∈ lines piece := by
  induction pieces with
  | nil => simp [joinWith_nil, lines, linesFrom]
  | cons piece pieces ih =>
    cases pieces with
    | nil => simp [joinWith_singleton]
    | cons next pieces =>
      obtain ⟨n, split⟩ := exists_lines_append_feed piece (joinWith ['\n'] (next :: pieces))
      rw [joinWith_cons_sep, split, List.mem_append, List.mem_append, ih]
      simp [nonempty]

theorem isAllBlank_of_mem_lines_joinWith {pieces : List (List Char)}
    (blank : ∀ piece ∈ pieces, isAllBlank piece = true) :
    ∀ line ∈ lines (joinWith ['\n'] pieces), isAllBlank line = true := by
  have silent : isAllBlank (joinWith ['\n'] pieces) = true := by
    rw [← words_eq_nil_iff, words_joinWith (by decide), List.flatMap_eq_nil_iff]
    exact fun piece mem => words_eq_nil_iff.2 (blank piece mem)
  exact fun line mem => isAllBlank_of_mem_lines silent mem

/-- With only blank lines below the first, a cleaned text is its first line and blank lines. -/
theorem exists_lines_joinWith {first : Line} {rest : List Line} (blank : ∀ line ∈ rest, isAllBlank line = true) :
    ∃ blanks, lines (joinWith ['\n'] (dropEmptyEnds (first :: rest))) = lines first ++ blanks ∧
      (∀ line ∈ blanks, isAllBlank line = true) ∧
      (first ≠ [] → ∀ line, line ≠ [] → (line ∈ blanks ↔ ∃ piece ∈ rest, line ∈ lines piece)) := by
  obtain ⟨m, n, split⟩ := exists_dropEmptyEnds (first :: rest)
  by_cases empty : first = []
  · refine ⟨_, by rw [empty]; rfl, ?_, fun spoken => absurd empty spoken⟩
    apply isAllBlank_of_mem_lines_joinWith
    intro line mem
    have held : line ∈ first :: rest := by
      rw [split]
      exact List.mem_append_left _ (List.mem_append_right _ (empty ▸ mem))
    rcases List.mem_cons.1 held with rfl | held
    · rw [empty]
      rfl
    · exact blank line held
  · obtain ⟨kept, cut, back⟩ :
        ∃ kept, dropEmptyEnds (first :: rest) = first :: kept ∧ rest = kept ++ List.replicate n [] := by
      cases m with
      | succ m => exact absurd (List.cons.inj split).1 empty
      | zero =>
        cases found : dropEmptyEnds (first :: rest) with
        | nil =>
          have mem : first ∈ List.replicate n ([] : Line) := by
            rw [found, List.replicate_zero, List.nil_append, List.nil_append] at split
            rw [← split]
            exact List.mem_cons_self
          exact absurd (List.eq_of_mem_replicate mem) empty
        | cons line kept =>
          rw [found] at split
          obtain ⟨rfl, back⟩ := List.cons.inj split
          exact ⟨kept, rfl, back⟩
    have same : ∀ line : Line, line ≠ [] →
        (line ∈ lines (joinWith ['\n'] kept) ↔ ∃ piece ∈ rest, line ∈ lines piece) := by
      intro line nonempty
      rw [mem_lines_joinWith nonempty, back]
      simp [List.mem_append, or_and_right, exists_or, lines, linesFrom]
    have silent := isAllBlank_of_mem_lines_joinWith fun line mem => blank line (by
      rw [back]
      exact List.mem_append_left _ mem)
    rw [cut]
    cases kept with
    | nil => exact ⟨[], by rw [joinWith_singleton, List.append_nil], by simp, fun _ => same⟩
    | cons next kept =>
      obtain ⟨j, whole⟩ := exists_lines_append_feed first (joinWith ['\n'] (next :: kept))
      refine ⟨_, by rw [joinWith_cons_sep, whole], ?_, fun _ line nonempty => ?_⟩
      · intro line mem
        rcases List.mem_append.1 mem with mem | mem
        · rw [List.eq_of_mem_replicate mem]
          rfl
        · exact silent line mem
      · rw [List.mem_append, ← same line nonempty]
        simp [nonempty]

/-- All text stands on the first line, and ends in a section on parameters whose margin a blank line below undercuts. -/
def IsUndercut (text : List Char) : Prop :=
  ∃ first rest body, splitOn '\n' text = first :: rest ∧ (∀ line ∈ rest, isAllBlank line = true) ∧
    (parts (lines (trimStart first))).getLast? = some (.colon .parameters body) ∧ Undercuts (rest.flatMap lines) body

theorem Undercuts.of_nonempty {below other body : List Line} (cut : Undercuts below body)
    (kept : ∀ line ∈ below, line ≠ [] → line ∈ other) : Undercuts other body := by
  obtain ⟨spoken, line, mem, counts, undercut⟩ := cut
  have nonempty : line ≠ [] := by
    rintro rfl
    cases counts
  exact ⟨spoken, line, kept line mem nonempty, counts, undercut⟩

/-- Blank lines that move to the right undercut no margin that they did not undercut before. -/
theorem Undercuts.of_spaces {rest : List (List Char)} {body : List Line} {k : Nat}
    (cut : Undercuts ((rest.map (List.replicate k ' ' ++ ·)).flatMap lines) body)
    (spaces : ∀ c ∈ commonPad body, c = ' ') : Undercuts (rest.flatMap lines) body := by
  obtain ⟨spoken, line, mem, counts, undercut⟩ := cut
  have moved : ∀ known : Line, commonPad body <+: known → commonPad body <+: List.replicate k ' ' ++ known := by
    rintro known ⟨rest, rfl⟩
    rw [List.eq_replicate_iff.2 ⟨rfl, spaces⟩]
    refine ⟨List.replicate k ' ' ++ rest, ?_⟩
    rw [← List.append_assoc, ← List.append_assoc, List.replicate_append_replicate, List.replicate_append_replicate,
      Nat.add_comm]
  obtain ⟨padded, moves, mem⟩ := List.mem_flatMap.1 mem
  obtain ⟨piece, held, rfl⟩ := List.mem_map.1 moves
  obtain ⟨known, found, shape⟩ := mem_lines_spaces mem
  have odd : known.all isPad = false := by
    rcases shape with rfl | rfl
    · exact counts
    · rw [List.all_append, Bool.and_eq_false_iff] at counts
      refine counts.resolve_left ?_
      rw [List.all_replicate]
      simp [isPad]
  rcases found with rfl | found
  · cases odd
  refine ⟨spoken, known, List.mem_flatMap.2 ⟨piece, held, found⟩, odd, fun front => undercut ?_⟩
  rcases shape with rfl | rfl
  · exact front
  · exact moved known front

theorem ne_nil_of_parts {cs : List Char} {part : Part} (last : (parts (lines cs)).getLast? = some part) : cs ≠ [] := by
  rintro rfl
  rw [show lines [] = [] from rfl, parts] at last
  cases last

section Clean

variable {text : List Char} (tabless : '\t' ∉ text) {first : List Char} {rest : List (List Char)}
  (split : splitOn '\n' text = first :: rest)
include tabless split

theorem cleanLines_of_tabless :
    cleanLines text = dropEmptyEnds (trimStart first :: rest.map (·.drop ((margin? rest).getD 0))) := by
  rw [cleanLines, expandTabs_of_not_mem tabless, split]

theorem indented_of_tabless (k : Nat) :
    '\t' ∉ indented k text ∧ splitOn '\n' (indented k text) = first :: rest.map (List.replicate k ' ' ++ ·) := by
  have pieces : ∀ piece ∈ first :: rest.map (List.replicate k ' ' ++ ·),
      ∀ c ∈ piece, c = ' ' ∨ c ∈ text ∧ c ≠ '\n' := by
    have known : ∀ piece ∈ first :: rest, ∀ c ∈ piece, c ∈ text ∧ c ≠ '\n' := by
      rw [← split]
      exact fun piece held c mem => ⟨mem_of_mem_splitOn held mem, fun feed => not_mem_of_mem_splitOn held (feed ▸ mem)⟩
    intro piece held c mem
    rcases List.mem_cons.1 held with rfl | held
    · exact Or.inr (known _ List.mem_cons_self c mem)
    · obtain ⟨line, below, rfl⟩ := List.mem_map.1 held
      rcases List.mem_append.1 mem with mem | mem
      · exact Or.inl (List.eq_of_mem_replicate mem)
      · exact Or.inr (known line (List.mem_cons_of_mem _ below) c mem)
  have shape : indented k text = joinWith ['\n'] (first :: rest.map (List.replicate k ' ' ++ ·)) := by
    rw [indented, split]
  rw [shape]
  constructor
  · intro tab
    rcases mem_joinWith tab with tab | ⟨piece, held, tab⟩
    · simp at tab
    · rcases pieces piece held _ tab with other | ⟨held, -⟩
      · cases other
      · exact tabless held
  · refine splitOn_joinWith (fun piece held feed => ?_) (List.cons_ne_nil _ _)
    rcases pieces piece held _ feed with other | ⟨-, other⟩
    · cases other
    · exact other rfl

/-- Where a line below the first holds text, the margin grows with the indentation and nothing is left of it. -/
theorem cleanLines_indented (spoken : ∃ line ∈ rest, isAllBlank line = false) (k : Nat) :
    cleanLines (indented k text) = cleanLines text := by
  obtain ⟨still, moved⟩ := indented_of_tabless tabless split k
  obtain ⟨m, margin⟩ : ∃ m, margin? rest = some m := by
    rw [← Option.isSome_iff_exists, Option.isSome_iff_ne_none]
    intro none
    obtain ⟨line, mem, said⟩ := spoken
    have held : indentation line ∈ (rest.filter fun line => !isAllBlank line).map indentation :=
      List.mem_map_of_mem (List.mem_filter.2 ⟨mem, by simp [said]⟩)
    rw [List.min?_eq_none_iff.1 none] at held
    cases held
  rw [cleanLines_of_tabless still moved, cleanLines_of_tabless tabless split, margin?_map_spaces, margin, List.map_map]
  congr 2
  refine List.map_congr_left fun line _ => ?_
  simp [List.drop_append, Nat.add_comm m k]

/-- The lines of a text without text below its first line. -/
theorem exists_lines_clean (blank : ∀ line ∈ rest, isAllBlank line = true) :
    ∃ blanks, lines (clean text) = lines (trimStart first) ++ blanks ∧ (∀ line ∈ blanks, isAllBlank line = true) ∧
      (trimStart first ≠ [] → ∀ line, line ≠ [] → (line ∈ blanks ↔ line ∈ rest.flatMap lines)) := by
  have flush : (margin? rest).getD 0 = 0 := IsFlush.margin (Or.inr blank)
  rw [clean, cleanLines_of_tabless tabless split, flush]
  simp only [List.drop_zero, List.map_id', List.mem_flatMap]
  exact exists_lines_joinWith blank

theorem ofText_of_blank (blank : ∀ line ∈ rest, isAllBlank line = true)
    (safe : ∀ body, (parts (lines (trimStart first))).getLast? = some (.colon .parameters body) →
      ¬ Undercuts (rest.flatMap lines) body) :
    ofText text = Draft.block <$> ({} : Draft).read (lines (trimStart first)) := by
  obtain ⟨blanks, whole, silent, below⟩ := exists_lines_clean tabless split blank
  rw [ofText, whole]
  refine Draft.block_read_append_blank silent (fun body last cut => safe body last ?_) {}
  exact cut.of_nonempty fun line mem full => (below (ne_nil_of_parts last) line full).1 mem

theorem exists_fault_ofText (blank : ∀ line ∈ rest, isAllBlank line = true) {body : List Line}
    (last : (parts (lines (trimStart first))).getLast? = some (.colon .parameters body))
    (cut : Undercuts (rest.flatMap lines) body) : ∃ fault, ofText text = .error fault := by
  obtain ⟨blanks, whole, silent, below⟩ := exists_lines_clean tabless split blank
  have under := cut.of_nonempty fun line mem full => (below (ne_nil_of_parts last) line full).2 mem
  obtain ⟨fault, failed⟩ := under.exists_fault_foldlM silent last {}
  refine ⟨fault, ?_⟩
  rw [ofText, whole, parts_append_blank silent, failed]
  rfl

theorem ofText_indented_of_blank (blank : ∀ line ∈ rest, isAllBlank line = true) (clear : ¬ IsUndercut text) (k : Nat) :
    ofText (indented k text) = ofText text := by
  obtain ⟨still, moved⟩ := indented_of_tabless tabless split k
  have safe : ∀ body, (parts (lines (trimStart first))).getLast? = some (.colon .parameters body) →
      ¬ Undercuts (rest.flatMap lines) body := fun body last cut =>
    clear ⟨first, rest, body, split, blank, last, cut⟩
  have silent : ∀ line ∈ rest.map (List.replicate k ' ' ++ ·), isAllBlank line = true := by
    intro line mem
    obtain ⟨known, held, rfl⟩ := List.mem_map.1 mem
    rw [isAllBlank_spaces, blank known held]
  rw [ofText_of_blank tabless split blank safe]
  refine ofText_of_blank still moved silent fun body last cut => safe body last (cut.of_spaces fun c mem => ?_)
  -- no tab stands in the section, so its margin is made of spaces
  obtain ⟨line, held, front⟩ := exists_of_mem_commonPad mem
  have inside : line ∈ lines (trimStart first) := mem_of_mem_parts (List.mem_of_mem_getLast? last) held
  have given : c ∈ first :=
    (List.dropWhile_suffix _).subset (mem_of_mem_lines inside ((List.takeWhile_prefix _).subset front))
  have pad := isPad_of_mem_commonPad mem
  rw [isPad, Bool.or_eq_true, beq_iff_eq, beq_iff_eq] at pad
  rcases pad with rfl | rfl
  · rfl
  · exact absurd (mem_of_mem_splitOn (by rw [split]; exact List.mem_cons_self) given) tabless

end Clean

/-- **A text means the same at every indentation**: a text without tabs and the same text with more spaces in front of
all lines but the first are read as the same block or fail with the same fault. The exception is a text that a blank
line undercuts, and that cannot be read as it stands. -/
theorem indentation_ignored (text : String) (k : Nat) (tabless : '\t' ∉ text.toList) :
    (¬ IsUndercut text.toList → ofText (indented k text.toList) = ofText text.toList) ∧
      (IsUndercut text.toList → ∃ fault, ofText text.toList = .error fault) := by
  constructor
  · intro clear
    obtain ⟨first, rest, split⟩ := exists_splitOn '\n' text.toList
    by_cases spoken : ∃ line ∈ rest, isAllBlank line = false
    · rw [ofText, clean, cleanLines_indented tabless split spoken]
      rfl
    · have blank : ∀ line ∈ rest, isAllBlank line = true := fun line mem => by
        by_contra said
        exact spoken ⟨line, mem, by simpa using said⟩
      exact ofText_indented_of_blank tabless split blank clear k
  · rintro ⟨first, rest, body, split, blank, last, cut⟩
    exact exists_fault_ofText tabless split blank last cut

/-- A summary, a section on parameters and a result, as they stand in a method. -/
def Sample.adding : String := " Adds.\n\n    Args:\n        x (int): the\n          first\n\n    :return: sum\n    "

theorem indentation_ignored_method : '\t' ∉ Sample.adding.toList ∧ ¬ IsUndercut Sample.adding.toList ∧
    ofText (indented 4 Sample.adding.toList) =
      .ok { summary := some "Adds.", parameters := [("x", "the first")], returns := some "sum" } := by
  have tabless : '\t' ∉ Sample.adding.toList := by decide +kernel
  have clear : ¬ IsUndercut Sample.adding.toList := by
    rintro ⟨first, rest, body, split, blank, -⟩
    have spoken : (splitOn '\n' Sample.adding.toList).tail.all isAllBlank = false := by decide +kernel
    rw [split, List.tail_cons, List.all_eq_false] at spoken
    obtain ⟨line, mem, said⟩ := spoken
    exact said (blank line mem)
  refine ⟨tabless, clear, ((indentation_ignored _ 4 tabless).1 clear).trans ?_⟩
  decide +kernel

/-- A no-break space below hides the margin of the entry above it; four more spaces bring it back. -/
theorem undercut_text_moved :
    ofText "Args:\x0d    x: y\n\u00a0".toList = .error (.strayContinuation "    x: y".toList) ∧
    ofText (indented 4 "Args:\x0d    x: y\n\u00a0".toList) = .ok { parameters := [("x", "y")] } := by
  decide +kernel

end Documentation

end CallAtlas
