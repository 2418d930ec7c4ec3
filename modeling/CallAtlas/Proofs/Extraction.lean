import CallAtlas.Documentation.Extract
import CallAtlas.Proofs.Answer
import CallAtlas.Proofs.Spacing

/-!
# Well-formed documentation

The block of every text is well-formed, whichever of the forms the text has and whether or not it can be read. What is
read of a text is kept in a draft, and a draft stays sound along a reading: its paragraphs have words, its names stay on
one line, its descriptions are single spaced. From there the parts of a finished block are in normal form, and the lines
that show it neither start nor end with a blank one.
-/

namespace CallAtlas.Documentation

open Text

/-! ## Where the lines of a part come from -/

/-- The lines that a part is read from, its heading apart. -/
def Part.lines : Part → List Line
  | .text line => [line]
  | .colon _ body => body
  | .ruled _ body => body
  | .field line more => line :: more

theorem mem_of_mem_parts {given : List Line} {part : Part} {line : Line} (held : part ∈ parts given)
    (mem : line ∈ part.lines) : line ∈ given := by
  fun_induction parts given with
  | case1 => cases held
  | case2 first rest topic ruled ih =>
    have within : ∀ other ∈ rest.tail, other ∈ first :: rest := fun other mem =>
      List.mem_cons_of_mem _ (List.mem_of_mem_tail mem)
    rcases List.mem_cons.1 held with rfl | held
    · apply within
      rw [← cutRuled_append rest.tail]
      exact List.mem_append_left _ mem
    · apply within
      rw [← cutRuled_append rest.tail]
      exact List.mem_append_right _ (ih held)
  | case3 first rest plain topic colon ih =>
    rcases List.mem_cons.1 held with rfl | held
    · exact List.mem_cons_of_mem _ ((List.takeWhile_prefix _).subset mem)
    · exact List.mem_cons_of_mem _ ((List.dropWhile_suffix _).subset (ih held))
  | case4 first rest plain unheaded field ih =>
    rcases List.mem_cons.1 held with rfl | held
    · rcases List.mem_cons.1 mem with rfl | mem
      · exact List.mem_cons_self
      · exact List.mem_cons_of_mem _ ((List.takeWhile_prefix _).subset mem)
    · exact List.mem_cons_of_mem _ ((List.dropWhile_suffix _).subset (ih held))
  | case5 first rest plain unheaded text ih =>
    rcases List.mem_cons.1 held with rfl | held
    · cases List.mem_singleton.1 mem
      exact List.mem_cons_self
    · exact List.mem_cons_of_mem _ (ih held)

theorem mem_of_mem_dedent {body : List Line} {line : Line} {c : Char} (held : line ∈ dropEmptyLast (dedent body))
    (mem : c ∈ line) : ∃ given ∈ body, c ∈ given := by
  have kept : line ∈ dedent body := by
    unfold dropEmptyLast at held
    split at held
    · exact List.mem_of_mem_dropLast held
    · exact held
  obtain ⟨given, source, rfl⟩ := List.mem_map.1 kept
  refine ⟨given, source, ?_⟩
  split at mem
  · cases mem
  · exact List.mem_of_mem_drop mem

/-! ## Entries -/

section Entries

variable {body : List Line} {line : Line} {es fs : List Entry} {e : Entry}

theorem head_of_mem_continueLast (mem : e ∈ continueLast line es) : ∃ f ∈ es, f.head = e.head := by
  unfold continueLast at mem
  split at mem
  · rename_i last found
    rcases List.mem_append.1 mem with mem | mem
    · exact ⟨e, List.mem_of_mem_dropLast mem, rfl⟩
    · cases List.mem_singleton.1 mem
      exact ⟨last, List.mem_of_mem_getLast? found, rfl⟩
  · exact ⟨e, mem, rfl⟩

theorem head_of_addEntryLine (step : addEntryLine es line = .ok fs) (mem : e ∈ fs) :
    e.head = line ∨ ∃ f ∈ es, f.head = e.head := by
  unfold addEntryLine at step
  split at step
  · cases step
    exact Or.inr (head_of_mem_continueLast mem)
  · split at step
    · cases step
      rcases List.mem_append.1 mem with mem | mem
      · exact Or.inr ⟨e, mem, rfl⟩
      · cases List.mem_singleton.1 mem
        exact Or.inl rfl
    · split at step
      · cases step
      · cases step
        exact Or.inr (head_of_mem_continueLast mem)

/-- An entry starts with a line of the body. -/
theorem head_mem_of_entries (read : entries body = .ok es) (mem : e ∈ es) : e.head ∈ body := by
  have kept : ∀ es fs, ∀ line ∈ body, (∀ e ∈ es, e.head ∈ body) → addEntryLine es line = .ok fs →
      ∀ e ∈ fs, e.head ∈ body := by
    intro es fs line held known step e mem
    rcases head_of_addEntryLine step mem with same | ⟨f, mem, same⟩
    · rw [same]
      exact held
    · rw [← same]
      exact known f mem
  exact foldlM_keeps kept (by simp) read e mem

theorem entryName?_eq_some {name rest : List Char} (h : entryName? line = some (name, rest)) : line = name ++ rest := by
  have stars : (line.takeWhile (· == '*')).take 2 <+: line :=
    (List.take_prefix _ _).trans (List.takeWhile_prefix _)
  have split := List.prefix_iff_eq_append.1 stars
  unfold entryName? at h
  dsimp only at h
  split at h
  · rename_i c cs after
    split at h
    · cases h
      rw [after] at split
      conv_lhs => rw [← split]
      simp
    · cases h
  · cases h

/-- What is said of one parameter: a name on one line, and a single spaced description. -/
def IsDescribed (p : List Char × List Char) : Prop := '\n' ∉ p.1 ∧ singleSpaced p.2 = p.2

theorem isDescribed_of_colonEntry {p : List Char × List Char} (read : colonEntry e = .ok p) (feed : '\n' ∉ e.head) :
    IsDescribed p := by
  unfold colonEntry at read
  split at read
  · rename_i name rest found
    split at read
    · cases read
      rw [entryName?_eq_some found] at feed
      exact ⟨fun mem => feed (List.mem_append_left _ mem), singleSpaced_singleSpaced _⟩
    · cases read
  · cases read

theorem feed_not_mem_of_ruledEntryName {name : List Char} (read : ruledEntryName e = .ok name) (feed : '\n' ∉ e.head) :
    '\n' ∉ name := by
  unfold ruledEntryName at read
  dsimp only at read
  split at read
  · cases read
  · cases read
    exact fun mem => feed ((List.takeWhile_prefix _).subset (mem_of_mem_trim mem))

theorem mem_of_fieldParts? {label text : List Char} {c : Char} (read : fieldParts? line = some (label, text))
    (mem : c ∈ label) : c ∈ line := by
  unfold fieldParts? at read
  split at read
  · rename_i rest
    split at read
    · cases read
    · rw [cut?_eq_some read]
      exact List.mem_cons_of_mem _ (List.mem_append_left _ mem)
  · cases read

end Entries

/-! ## Sound drafts -/

namespace Draft

/-- What holds of a draft along every reading. -/
structure Sound (d : Draft) : Prop where
  paragraphs : ∀ lines ∈ d.paragraphs, words (flow lines) ≠ []
  current : d.current ≠ [] → words (flow d.current) ≠ []
  parameters : ∀ p ∈ d.parameters, IsDescribed p

namespace Sound

variable {d e : Draft}

theorem start : Sound {} where
  paragraphs := by simp
  current := by simp
  parameters := by simp

theorem close (sound : d.Sound) : d.close.Sound := by
  unfold Draft.close
  split
  · exact sound
  · rename_i nonempty
    refine ⟨?_, by simp, sound.parameters⟩
    intro lines mem
    rcases List.mem_append.1 mem with mem | mem
    · exact sound.paragraphs lines mem
    · cases List.mem_singleton.1 mem
      exact sound.current (by simpa using nonempty)

theorem addText (sound : d.Sound) (line : Line) : (d.addText line).Sound := by
  unfold Draft.addText
  split
  · exact sound.close
  · rename_i spoken
    refine ⟨sound.paragraphs, fun _ => ?_, sound.parameters⟩
    -- the line that is added has a word, and the words of the paragraph end with its words
    have word : words (trim line) ≠ [] := by
      rw [words_trim]
      exact fun none => spoken (words_eq_nil_iff.1 none)
    rw [flow, words_joinWith isBlank_space]
    simp [word]

theorem withParameters (sound : d.Sound) {ps : List (List Char × List Char)} (described : ∀ p ∈ ps, IsDescribed p) :
    Sound { d with parameters := d.parameters ++ ps } := by
  refine ⟨sound.paragraphs, sound.current, ?_⟩
  intro p mem
  rcases List.mem_append.1 mem with mem | mem
  · exact sound.parameters p mem
  · exact described p mem

/-- The results and remarks of a draft are raw lines, of which nothing is asked. -/
theorem withLines (sound : d.Sound) (returns remarks : List Line) :
    Sound { d with returns := returns, remarks := remarks } :=
  ⟨sound.paragraphs, sound.current, sound.parameters⟩

theorem addColon (sound : d.Sound) {topic : Topic} {body : List Line} (feed : ∀ line ∈ body, '\n' ∉ line)
    (added : d.addColon topic body = .ok e) : e.Sound := by
  cases topic with
  | parameters =>
    obtain ⟨es, ps, read, described, rfl⟩ := bind_bind_pure_eq_ok.1 added
    refine sound.withParameters fun p mem => ?_
    obtain ⟨entry, held, named⟩ := mem_of_mapM described mem
    refine isDescribed_of_colonEntry named fun ended => ?_
    obtain ⟨line, given, mem⟩ := mem_of_mem_dedent (head_mem_of_entries read held) ended
    exact feed line given mem
  | returns =>
    cases pure_eq_ok.1 added
    exact sound.withLines _ d.remarks
  | remarks =>
    cases pure_eq_ok.1 added
    exact sound.withLines d.returns _
  | other =>
    cases pure_eq_ok.1 added
    exact sound

theorem addRuled (sound : d.Sound) {topic : Topic} {body : List Line} (feed : ∀ line ∈ body, '\n' ∉ line)
    (added : d.addRuled topic body = .ok e) : e.Sound := by
  cases topic with
  | parameters =>
    obtain ⟨es, ps, read, described, rfl⟩ := bind_bind_pure_eq_ok.1 added
    refine sound.withParameters fun p mem => ?_
    obtain ⟨entry, held, made⟩ := mem_of_mapM described mem
    obtain ⟨name, named, rfl⟩ := bind_pure_eq_ok.1 made
    exact ⟨feed_not_mem_of_ruledEntryName named (feed _ (head_mem_of_entries read held)), singleSpaced_singleSpaced _⟩
  | returns =>
    obtain ⟨es, rs, read, described, rfl⟩ := bind_bind_pure_eq_ok.1 added
    exact sound.withLines _ d.remarks
  | remarks =>
    cases pure_eq_ok.1 added
    exact sound.withLines d.returns _
  | other =>
    cases pure_eq_ok.1 added
    exact sound

theorem addField (sound : d.Sound) {line : Line} {more : List Line} (feed : '\n' ∉ line)
    (added : d.addField line more = .ok e) : e.Sound := by
  unfold Draft.addField at added
  dsimp only at added
  split at added
  · cases added
  · rename_i label text found
    split at added
    · cases added
      exact sound
    · rename_i kind names spoken
      split at added
      · split at added
        · rename_i name last
          cases added
          refine sound.withParameters fun p mem => ?_
          cases List.mem_singleton.1 mem
          refine ⟨fun mem => feed (mem_of_mem_trim ?_), singleSpaced_singleSpaced _⟩
          -- the name is a word of the label, and the label stands on the line
          have inLabel : '\n' ∈ label := by
            refine mem_of_mem_words ?_ mem
            rw [spoken]
            exact List.mem_cons_of_mem _ (List.mem_of_mem_getLast? last)
          exact mem_of_fieldParts? found inLabel
        · cases added
      · split at added
        · cases added
          exact sound.withLines _ d.remarks
        · cases added
          exact sound

/-- One part keeps a draft sound. -/
theorem add (sound : d.Sound) {part : Part} (feed : ∀ line ∈ part.lines, '\n' ∉ line) (added : d.add part = .ok e) :
    e.Sound := by
  cases part with
  | text line =>
    cases added
    exact sound.addText line
  | colon topic body =>
    obtain ⟨next, step, rfl⟩ := map_eq_ok.1 added
    exact (sound.addColon feed step).close
  | ruled topic body =>
    obtain ⟨next, step, rfl⟩ := map_eq_ok.1 added
    exact (sound.addRuled feed step).close
  | field line more =>
    obtain ⟨next, step, rfl⟩ := map_eq_ok.1 added
    exact (sound.addField (feed line List.mem_cons_self) step).close

/-- A whole text is read into a sound draft. -/
theorem run {given : List Line} (feed : ∀ line ∈ given, '\n' ∉ line)
    (read : (parts given).foldlM Draft.add {} = .ok d) : d.Sound := by
  refine foldlM_keeps ?_ start read
  intro b e part held sound added
  exact sound.add (fun line mem => feed line (mem_of_mem_parts held mem)) added

end Sound

end Draft

/-! ## Normal blocks -/

/-- A text that is said: it has a word, and is single spaced. -/
structure IsNormal (s : String) : Prop where
  nonempty : s.isEmpty = false
  spaced : singleSpaced s.toList = s.toList

theorem isNormal_singleSpaced {cs : List Char} (spoken : singleSpaced cs ≠ []) :
    IsNormal (String.ofList (singleSpaced cs)) where
  nonempty := by simpa using spoken
  spaced := by simp

theorem isNormal_of_mem_nonempty? {cs : List Char} {s : String} (mem : s ∈ nonempty? (singleSpaced cs)) :
    IsNormal s := by
  unfold nonempty? at mem
  split at mem
  · cases mem
  · rename_i spoken
    cases mem
    exact isNormal_singleSpaced (by simpa using spoken)

/-- The parts of a structured block: each is missing or said in normal form. -/
structure Block.IsNormal (b : Block) : Prop where
  summary : ∀ s ∈ b.summary, Documentation.IsNormal s
  returns : ∀ s ∈ b.returns, Documentation.IsNormal s
  remarks : ∀ s ∈ b.remarks, Documentation.IsNormal s
  descriptions : ∀ p ∈ b.parameters, singleSpaced p.2.toList = p.2.toList

theorem Draft.Sound.isNormal_block {d : Draft} (sound : d.Sound) : d.block.IsNormal where
  summary := by
    intro s mem
    obtain ⟨cs, first, rfl⟩ := Option.map_eq_some_iff.1 mem
    obtain ⟨lines, held, rfl⟩ := List.mem_map.1 (List.mem_of_mem_head? first)
    apply isNormal_singleSpaced
    rw [ne_eq, singleSpaced_eq_nil_iff, ← words_eq_nil_iff]
    exact sound.close.paragraphs lines held
  returns := fun _ mem => isNormal_of_mem_nonempty? mem
  remarks := fun _ mem => isNormal_of_mem_nonempty? mem
  descriptions := by
    intro p mem
    obtain ⟨q, held, rfl⟩ := List.mem_map.1 mem
    simpa using (sound.parameters q held).2

theorem isNormal_ofNodes (nodes : List Markup.Node) : (ofNodes nodes).IsNormal := by
  have normal : ∀ label, ∀ s ∈ plainTextOf? label (memberNodes nodes), IsNormal s := by
    intro label s mem
    obtain ⟨node, -, mem⟩ := Option.bind_eq_some_iff.1 mem
    exact isNormal_of_mem_nonempty? mem
  refine ⟨normal _, normal _, normal _, ?_⟩
  intro p mem
  obtain ⟨node, -, rfl⟩ := List.mem_map.1 mem
  simp

theorem exists_draft_of_ofText {text : List Char} {b : Block} (read : ofText text = .ok b) :
    ∃ d : Draft, d.Sound ∧ d.block = b := by
  obtain ⟨d, run, rfl⟩ := map_eq_ok.1 read
  refine ⟨d, Draft.Sound.run ?_ run, rfl⟩
  intro line held mem
  cases isLineEnd_of_mem_lines held mem

theorem isNormal_of_structured {text : List Char} {b : Block} (read : structured text = .ok b) :
    b.IsNormal ∧ b.raw = none := by
  unfold structured at read
  split at read
  · unfold ofMarkup at read
    split at read
    · cases read
      exact ⟨isNormal_ofNodes _, rfl⟩
    · cases read
  · obtain ⟨d, sound, rfl⟩ := exists_draft_of_ofText read
    exact ⟨sound.isNormal_block, rfl⟩

/-! ## Lines that show a block -/

/-- A line that can be written down as it is: it does not go on on another line, nor end in a blank. -/
def IsTidy (line : String) : Prop := '\n' ∉ line.toList ∧ ∀ c ∈ line.toList.getLast?, isBlank c = false

instance (line : String) : Decidable (IsTidy line) :=
  decidable_of_iff (!line.toList.contains '\n' && line.toList.getLast?.all (!isBlank ·))
    (by simp [IsTidy, Option.all_eq_true])

/-- Lines to be shown: tidy ones, and neither the first nor the last is blank. -/
structure AreShown (lines : List String) : Prop where
  first : ∃ line ∈ lines.head?, isAllBlank line.toList = false
  last : ∃ line ∈ lines.getLast?, isAllBlank line.toList = false
  tidy : ∀ line ∈ lines, IsTidy line

theorem IsTidy.isAllBlank {line : String} (tidy : IsTidy line) (nonempty : line ≠ "") :
    isAllBlank line.toList = false := by
  have chars : line.toList ≠ [] := by simpa using nonempty
  obtain ⟨c, last⟩ := List.getLast?_isSome.2 chars |> Option.isSome_iff_exists.1
  exact isAllBlank_eq_false_iff.2 ⟨c, List.mem_of_mem_getLast? last, tidy.2 c last⟩

theorem IsNormal.isTidy {s : String} (normal : IsNormal s) : IsTidy s := by
  rw [IsTidy, ← normal.spaced]
  constructor
  · intro mem
    cases eq_space_of_mem_singleSpaced mem (by decide)
  · intro c mem
    exact isBlank_of_mem_getLast?_singleSpaced mem

/-- Empty lines at the front are left out; a last line that is not empty stays the last. -/
theorem areShown_dropWhile {lines : List String} (tidy : ∀ line ∈ lines, IsTidy line) (nonempty : lines ≠ [])
    (last : ∀ line ∈ lines.getLast?, line ≠ "") : AreShown (lines.dropWhile (·.isEmpty)) := by
  obtain ⟨init, final, rfl⟩ := (List.eq_nil_or_concat lines).resolve_left nonempty
  rw [List.concat_eq_append] at tidy last ⊢
  have full : final ≠ "" := last final (by simp)
  have shape : (init ++ [final]).dropWhile (·.isEmpty) = init.dropWhile (·.isEmpty) ++ [final] := by
    rw [List.dropWhile_append]
    split
    · rename_i none
      rw [List.isEmpty_iff.1 none]
      simp [full]
    · rfl
  have kept : ∀ line ∈ (init ++ [final]).dropWhile (·.isEmpty), IsTidy line := fun line mem =>
    tidy line ((List.dropWhile_suffix _).subset mem)
  refine ⟨?_, ⟨final, by simp [shape], (tidy final (by simp)).isAllBlank full⟩, kept⟩
  have first := List.head?_dropWhile_not (fun line : String => line.isEmpty) (init ++ [final])
  cases found : ((init ++ [final]).dropWhile (·.isEmpty)).head? with
  | none => simp [shape] at found
  | some line =>
    rw [found] at first
    refine ⟨line, rfl, (kept line (List.mem_of_mem_head? found)).isAllBlank ?_⟩
    simpa using first

/-- Tidy lines that do not end with an empty one. -/
structure IsSegment (lines : List String) : Prop where
  tidy : ∀ line ∈ lines, IsTidy line
  last : ∀ line ∈ lines.getLast?, line ≠ ""

theorem isSegment_nil : IsSegment [] := ⟨by simp, by simp⟩

theorem IsSegment.append {upper lower : List String} (above : IsSegment upper) (below : IsSegment lower) :
    IsSegment (upper ++ lower) := by
  constructor
  · intro line mem
    rcases List.mem_append.1 mem with mem | mem
    · exact above.tidy line mem
    · exact below.tidy line mem
  · intro line mem
    rw [List.getLast?_append, Option.mem_def, Option.or_eq_some_iff] at mem
    rcases mem with mem | ⟨-, mem⟩
    · exact below.last line mem
    · exact above.last line mem

theorem IsNormal.ne_empty {s : String} (normal : IsNormal s) : s ≠ "" := by
  rintro rfl
  cases normal.nonempty

theorem isSegment_partLines {lead : String} {part : Option String} (feed : '\n' ∉ lead.toList)
    (normal : ∀ s ∈ part, IsNormal s) : IsSegment (partLines lead part) := by
  cases part with
  | none => exact isSegment_nil
  | some s =>
    have said := normal s rfl
    have chars : s.toList ≠ [] := by simpa using said.ne_empty
    have tidy : IsTidy (lead ++ s) := by
      rw [IsTidy, String.toList_append, List.getLast?_append_of_ne_nil _ chars]
      refine ⟨fun mem => ?_, said.isTidy.2⟩
      exact (List.mem_append.1 mem).elim feed said.isTidy.1
    rw [partLines, if_neg (by simp [said.nonempty])]
    constructor
    · intro line mem
      rcases List.mem_pair.1 mem with rfl | rfl
      · decide
      · exact tidy
    · simp [said.ne_empty]

theorem isTidy_parameterLine {p : String × String} (feed : '\n' ∉ p.1.toList)
    (spaced : singleSpaced p.2.toList = p.2.toList) : IsTidy (parameterLine p) := by
  rw [IsTidy, parameterLine, chopEnd, String.toList_ofList]
  refine ⟨fun mem => ?_, fun c mem => isBlank_of_mem_getLast?_trimEnd mem⟩
  have described : '\n' ∉ p.2.toList := by
    rw [← spaced]
    intro mem
    cases eq_space_of_mem_singleSpaced mem (by decide)
  have held := mem_of_mem_trimEnd mem
  simp [feed, described] at held

theorem parameterLine_ne_empty (p : String × String) : parameterLine p ≠ "" := by
  intro empty
  have chars := congrArg String.toList empty
  rw [parameterLine, chopEnd, String.toList_ofList] at chars
  exact trimEnd_ne_nil (isAllBlank_eq_false_iff.2 ⟨'-', by simp, by decide⟩) chars

theorem isSegment_parameterLines {ps : List (String × String)} (feed : ∀ p ∈ ps, '\n' ∉ p.1.toList)
    (spaced : ∀ p ∈ ps, singleSpaced p.2.toList = p.2.toList) : IsSegment (parameterLines ps) := by
  unfold parameterLines
  split
  · exact isSegment_nil
  · constructor
    · intro line mem
      simp only [List.mem_cons, List.mem_map] at mem
      rcases mem with rfl | rfl | ⟨p, held, rfl⟩
      · decide
      · decide
      · exact isTidy_parameterLine (feed p held) (spaced p held)
    · intro line mem
      rename_i nonempty
      have items : ps.map parameterLine ≠ [] := by simpa using nonempty
      rw [List.getLast?_cons_of_ne_nil (List.cons_ne_nil _ _), List.getLast?_cons_of_ne_nil items] at mem
      obtain ⟨p, -, rfl⟩ := List.mem_map.1 (List.mem_of_mem_getLast? mem)
      exact parameterLine_ne_empty p

theorem partLines_eq_nil_iff {lead : String} {part : Option String} :
    partLines lead part = [] ↔ hasText part = false := by
  cases part with
  | none => simp [partLines, hasText]
  | some s => cases empty : s.isEmpty <;> simp [partLines, hasText, empty]

/-- The lines of the summary; it opens a block, so no empty line stands before it. -/
def summaryLines (summary : Option String) : List String :=
  match summary with
  | some s => if s.isEmpty then [] else [s]
  | none => []

theorem structuredLines_eq (b : Block) :
    b.structuredLines = (summaryLines b.summary ++ parameterLines b.parameters ++ partLines "Returns: " b.returns ++
      partLines "" b.remarks).dropWhile (·.isEmpty) := rfl

theorem isSegment_summaryLines {summary : Option String} (normal : ∀ s ∈ summary, IsNormal s) :
    IsSegment (summaryLines summary) := by
  cases summary with
  | none => exact isSegment_nil
  | some s =>
    have said := normal s rfl
    rw [summaryLines, if_neg (by simp [said.nonempty])]
    exact ⟨by simp [said.isTidy], by simp [said.ne_empty]⟩

theorem summaryLines_eq_nil_iff {summary : Option String} : summaryLines summary = [] ↔ hasText summary = false := by
  cases summary with
  | none => simp [summaryLines, hasText]
  | some s => cases empty : s.isEmpty <;> simp [summaryLines, hasText, empty]

theorem Block.IsNormal.areShown_structuredLines {b : Block} (normal : b.IsNormal)
    (feed : ∀ p ∈ b.parameters, '\n' ∉ p.1.toList) (whole : b.raw = none) (nonempty : b.isEmpty = false) :
    AreShown b.structuredLines := by
  rw [structuredLines_eq]
  have segment := (((isSegment_summaryLines normal.summary).append
    (isSegment_parameterLines feed normal.descriptions)).append
    (isSegment_partLines (by decide : '\n' ∉ "Returns: ".toList) normal.returns)).append
    (isSegment_partLines (by decide : '\n' ∉ "".toList) normal.remarks)
  refine areShown_dropWhile segment.tidy ?_ segment.last
  -- with no line at all the block would have no part
  intro none
  simp only [List.append_eq_nil_iff, summaryLines_eq_nil_iff, partLines_eq_nil_iff] at none
  obtain ⟨⟨⟨summary, parameters⟩, returns⟩, remarks⟩ := none
  have unnamed : b.parameters = [] := by
    by_contra named
    simp [parameterLines, named] at parameters
  rw [Block.isEmpty, summary, unnamed, returns, remarks, whole] at nonempty
  cases nonempty

/-! ## Raw text -/

theorem exists_getLast?_splitOn {sep c : Char} (other : c ≠ sep) (front : List Char) :
    ∃ piece, (splitOn sep (front ++ [c])).getLast? = some (piece ++ [c]) := by
  induction front with
  | nil => exact ⟨[], by simp [splitOn, other]⟩
  | cons d front ih =>
    obtain ⟨last, found⟩ := ih
    obtain ⟨piece, pieces, split⟩ := exists_splitOn sep (front ++ [c])
    rw [split] at found
    rw [List.cons_append, splitOn, split]
    dsimp only
    split
    · exact ⟨last, by rw [List.getLast?_cons_of_ne_nil (List.cons_ne_nil _ _), found]⟩
    · cases pieces with
      | nil =>
        refine ⟨d :: last, ?_⟩
        rw [List.getLast?_singleton, Option.some_inj] at found ⊢
        rw [found, List.cons_append]
      | cons next pieces =>
        refine ⟨last, ?_⟩
        rw [List.getLast?_cons_of_ne_nil (List.cons_ne_nil _ _)] at found ⊢
        exact found

theorem exists_head?_splitOn {sep c : Char} (other : c ≠ sep) (back : List Char) :
    ∃ piece, (splitOn sep (c :: back)).head? = some (c :: piece) := by
  obtain ⟨piece, pieces, split⟩ := exists_splitOn sep back
  refine ⟨piece, ?_⟩
  simp [splitOn, split, other]

theorem ne_feed_of_solid {c : Char} (solid : isBlank c = false) : c ≠ '\n' := by
  rintro rfl
  cases solid

/-- Text without blanks around it is shown line by line. -/
theorem areShown_ofRaw {text : String} (spoken : isAllBlank text.toList = false) :
    AreShown (Block.ofRaw (strip text)).lines := by
  have lines : (Block.ofRaw (strip text)).lines =
      (splitOn '\n' (trim text.toList)).map fun line => String.ofList (trimEnd line) := by
    simp [Block.lines, Block.ofRaw, strip]
  have nonempty : trim text.toList ≠ [] := by
    rw [ne_eq, trim_eq_nil_iff, spoken]
    simp
  have tidy : ∀ line ∈ (Block.ofRaw (strip text)).lines, IsTidy line := by
    intro line mem
    rw [lines] at mem
    obtain ⟨piece, held, rfl⟩ := List.mem_map.1 mem
    rw [IsTidy, String.toList_ofList]
    exact ⟨fun mem => not_mem_of_mem_splitOn held (mem_of_mem_trimEnd mem), fun c => isBlank_of_mem_getLast?_trimEnd⟩
  -- a piece with a character that is not blank is shown as a line that is not
  have shown : ∀ piece : List Char, (∃ c ∈ piece, isBlank c = false) →
      isAllBlank (String.ofList (trimEnd piece)).toList = false := by
    intro piece solid
    rw [String.toList_ofList, isAllBlank_trimEnd]
    exact isAllBlank_eq_false_iff.2 solid
  refine ⟨?_, ?_, tidy⟩
  · obtain ⟨c, back, front⟩ := List.exists_cons_of_ne_nil nonempty
    have solid : isBlank c = false := isBlank_of_mem_head?_trim (by rw [front]; rfl)
    obtain ⟨piece, first⟩ := exists_head?_splitOn (ne_feed_of_solid solid) back
    refine ⟨_, ?_, shown (c :: piece) ⟨c, List.mem_cons_self, solid⟩⟩
    rw [lines, front, List.head?_map, first]
    rfl
  · obtain ⟨front, c, back⟩ := (List.eq_nil_or_concat _).resolve_left nonempty
    rw [List.concat_eq_append] at back
    have solid : isBlank c = false := isBlank_of_mem_getLast?_trimEnd (by rw [← trim, back]; simp)
    obtain ⟨piece, last⟩ := exists_getLast?_splitOn (ne_feed_of_solid solid) front
    refine ⟨_, ?_, shown (piece ++ [c]) ⟨c, by simp, solid⟩⟩
    rw [lines, back, List.getLast?_map, last]
    rfl

/-! ## Extraction -/

/-- The two ways in which a text that is not blank is kept. -/
theorem extract_cases {text : String} (spoken : isAllBlank text.toList = false) :
    (extract (some text) = .ofRaw (strip text) ∧ ∀ b, structured text.toList = .ok b → b.isEmpty = true) ∨
      (structured text.toList = .ok (extract (some text)) ∧ (extract (some text)).isEmpty = false) := by
  cases read : structured text.toList with
  | error fault =>
    refine Or.inl ⟨?_, by simp⟩
    simp [extract, extractText, spoken, read]
  | ok b =>
    cases empty : b.isEmpty with
    | true =>
      refine Or.inl ⟨?_, ?_⟩
      · simp [extract, extractText, spoken, read, empty]
      · rintro other ⟨⟩
        exact empty
    | false =>
      have kept : extract (some text) = b := by simp [extract, extractText, spoken, read, empty]
      rw [kept]
      exact Or.inr ⟨rfl, empty⟩

theorem isEmpty_ofRaw {text : String} (spoken : isAllBlank text.toList = false) :
    (Block.ofRaw (strip text)).isEmpty = false := by
  have nonempty : trim text.toList ≠ [] := by
    rw [ne_eq, trim_eq_nil_iff, spoken]
    simp
  simp [Block.isEmpty, Block.ofRaw, hasText, strip, nonempty]

theorem areShown_of_ofText {text : List Char} {b : Block} (read : ofText text = .ok b) (nonempty : b.isEmpty = false) :
    AreShown b.lines := by
  obtain ⟨d, sound, rfl⟩ := exists_draft_of_ofText read
  refine sound.isNormal_block.areShown_structuredLines ?_ rfl nonempty
  intro p mem
  obtain ⟨q, held, rfl⟩ := List.mem_map.1 mem
  simpa using (sound.parameters q held).1

/-- What the block of a payload is. -/
structure Extracts (payload : Option String) (b : Block) : Prop where
  /-- Only where nothing is said is nothing kept. -/
  empty : b.isEmpty = true ↔ ∀ text ∈ payload, isAllBlank text.toList = true
  /-- A fault goes no further: the text that has it is kept whole. -/
  recovered : ∀ fault ∈ fault? payload, b.isRaw = true
  /-- A text is kept whole exactly if its structure cannot be read or says nothing. -/
  whole : b.isRaw = true ↔ ∃ text ∈ payload, isAllBlank text.toList = false ∧
    ∀ other, structured text.toList = .ok other → other.isEmpty = true
  /-- Kept whole is the text without the blanks around it, and nothing else. -/
  raw : b.isRaw = true → ∃ text ∈ payload, b = .ofRaw (strip text)
  /-- Any other block that says something is the structure of the text. -/
  read : b.isRaw = false → b.isEmpty = false → ∃ text ∈ payload, structured text.toList = .ok b
  /-- The parts of a structure are in normal form. -/
  normal : b.isRaw = false → b.IsNormal
  /-- A text without tags is shown by lines that can be written down as they are. -/
  shown : (∀ text ∈ payload, hasTags text.toList = false) → b.isEmpty = false → AreShown b.lines

theorem isNormal_empty : Block.IsNormal {} := ⟨by simp, by simp, by simp, by simp⟩

theorem extracts_nothing {payload : Option String} (silent : ∀ text ∈ payload, isAllBlank text.toList = true) :
    Extracts payload {} where
  empty := ⟨fun _ => silent, fun _ => rfl⟩
  recovered := by
    intro fault mem
    cases payload with
    | none => cases mem
    | some text => simp [fault?, silent text rfl] at mem
  whole := by
    refine ⟨by simp [Block.isRaw], ?_⟩
    rintro ⟨text, mem, spoken, -⟩
    rw [silent text mem] at spoken
    cases spoken
  raw := by simp [Block.isRaw]
  read := fun _ full => by cases full
  normal := fun _ => isNormal_empty
  shown := fun _ full => by cases full

theorem extracts_ofRaw {text : String} (spoken : isAllBlank text.toList = false)
    (silent : ∀ other, structured text.toList = .ok other → other.isEmpty = true) :
    Extracts (some text) (.ofRaw (strip text)) where
  empty := by simp [isEmpty_ofRaw spoken, spoken]
  recovered := fun _ _ => rfl
  whole := ⟨fun _ => ⟨text, rfl, spoken, silent⟩, fun _ => rfl⟩
  raw := fun _ => ⟨text, rfl, rfl⟩
  read := by simp [Block.isRaw, Block.ofRaw]
  normal := by simp [Block.isRaw, Block.ofRaw]
  shown := fun _ _ => areShown_ofRaw spoken

theorem extracts_structured {text : String} {b : Block} (spoken : isAllBlank text.toList = false)
    (found : structured text.toList = .ok b) (full : b.isEmpty = false) : Extracts (some text) b where
  empty := by simp [full, spoken]
  recovered := by simp [fault?, spoken, found]
  whole := by simp [Block.isRaw, (isNormal_of_structured found).2, spoken, found, full]
  raw := by simp [Block.isRaw, (isNormal_of_structured found).2]
  read := fun _ _ => ⟨text, rfl, found⟩
  normal := fun _ => (isNormal_of_structured found).1
  shown := by
    intro untagged _
    have plain : hasTags text.toList = false := untagged text rfl
    rw [structured, if_neg (by simp [plain])] at found
    exact areShown_of_ofText found full

/-- Extraction gives a well-formed block for every payload, and faults never get out of it. -/
theorem extract_wellFormed (payload : Option String) : Extracts payload (extract payload) := by
  cases payload with
  | none => exact extracts_nothing (by simp)
  | some text =>
    cases spoken : isAllBlank text.toList with
    | true =>
      have nothing : extract (some text) = {} := by simp [extract, extractText, spoken]
      rw [nothing]
      exact extracts_nothing (by simpa using spoken)
    | false =>
      rcases extract_cases spoken with ⟨kept, silent⟩ | ⟨found, full⟩
      · rw [kept]
        exact extracts_ofRaw spoken silent
      · exact extracts_structured spoken found full

end CallAtlas.Documentation
