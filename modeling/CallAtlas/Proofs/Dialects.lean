import CallAtlas.Documentation.Extract
import CallAtlas.Proofs.Conventions
import CallAtlas.Proofs.Tagged

/-!
# The dialects agree

The same content can be written in any of the three text conventions or with tags, and is read as the same block. In a
text the summary and the remarks stand before the sections, so besides what each convention asks of its sections only
that has to be excluded that a line of theirs is taken for something else: for a heading, a field or a tag.
-/

namespace CallAtlas.Documentation

open Text

/-- What a documentation text says. -/
structure Content where
  summary : List Char
  remarks : Option (List Char) := none
  /-- Names and descriptions, in order. -/
  parameters : List (List Char × List Char) := []
  result : Option (List Char) := none
  deriving Repr, DecidableEq

/-- A known section name, whatever its case, and a colon. -/
def IsHeading (line : List Char) : Prop :=
  ∃ name, line = name ++ [':'] ∧ (∀ c ∈ name, isLatinLetter c = true ∨ c = ' ') ∧ (topic? name).isSome

namespace Content

/-- Content of which no text is taken for anything else: texts are single spaced and open neither a field nor a section,
the summary opens no tag, names have the form of names, and no description is a rule. -/
structure IsPlain (c : Content) : Prop where
  summary : IsPassage c.summary
  remarks : ∀ text ∈ c.remarks, IsPassage text
  result : ∀ text ∈ c.result, IsPassage text
  names : ∀ p ∈ c.parameters, IsName p.1
  descriptions : ∀ p ∈ c.parameters, singleSpaced p.2 = p.2
  hyphens : ∀ p ∈ c.parameters, ∀ n, p.2 ≠ List.replicate (n + 3) '-'
  untagged : c.summary.head? ≠ some '<'
  headings : ¬ IsHeading c.summary ∧ ∀ text ∈ c.remarks, ¬ IsHeading text

/-- The block that says it. -/
def block (c : Content) : Block where
  summary := some (String.ofList c.summary)
  parameters := c.parameters.map fun p => (String.ofList p.1, String.ofList p.2)
  returns := c.result.map String.ofList
  remarks := c.remarks.map String.ofList

/-- How many empty lines stand before the sections, between them and after them. -/
structure Layout where
  before : Nat := 1
  between : Nat := 0
  after : Nat := 0
  deriving Repr, DecidableEq

/-- The remarks after an empty line. -/
def remarkLines (c : Content) : List Line := (c.remarks.map fun text => [[], text]).getD []

/-- The sections in a convention. -/
def sections (c : Content) (convention : Convention) (gap : Nat) : List Line :=
  convention.parameterSection c.parameters ++ apart gap (convention.resultLines c.result)

/-- All lines in a convention. -/
def lines (c : Content) (convention : Convention) (layout : Layout) : List Line :=
  c.summary :: (c.remarkLines ++ apart layout.before (c.sections convention layout.between))

/-- The text in a convention. -/
def text (c : Content) (convention : Convention) (layout : Layout) : String :=
  String.ofList (joinWith ['\n'] (c.lines convention layout ++ List.replicate layout.after []))

end Content

/-! ## Lines before the sections -/

theorem isRule_of_spaced {text : List Char} (spaced : singleSpaced text = text)
    (other : ∀ n, text ≠ List.replicate (n + 3) '-') : isRule text = false := by
  have trimmed : trim text = text := by
    rw [← spaced]
    exact trim_of_ends (fun c => isBlank_of_mem_head?_singleSpaced) fun c => isBlank_of_mem_getLast?_singleSpaced
  by_contra ruled
  rw [Bool.not_eq_false, isRule, trimmed, Bool.and_eq_true, decide_eq_true_eq] at ruled
  obtain ⟨marks, long⟩ := ruled
  refine other (text.length - 3) (List.eq_replicate_iff.2 ⟨by omega, fun c mem => ?_⟩)
  exact beq_iff_eq.1 (List.all_eq_true.1 marks c mem)

theorem IsPassage.colonTopic? {line : Line} (passage : IsPassage line) (heading : ¬ IsHeading line) :
    colonTopic? line = none := by
  by_contra announced
  obtain ⟨first, name, rest, rfl, letter, letters, blank, known⟩ :=
    isSome_colonTopic?_iff.1 (Option.isSome_iff_ne_none.2 announced)
  refine heading ⟨first :: name, ?_, List.forall_mem_cons.2 ⟨Or.inl letter, letters⟩, known⟩
  -- a single spaced line does not end in a blank, so it ends with the colon
  cases last : rest.getLast? with
  | none =>
    rw [List.getLast?_eq_none_iff.1 last]
    rfl
  | some c =>
    have solid : isBlank c = false := by
      apply passage.getLast? c
      rw [← List.cons_append, List.getLast?_append_of_ne_nil _ (List.cons_ne_nil _ _), List.getLast?_cons, last]
      rfl
    rw [List.all_eq_true.1 blank c (List.mem_of_mem_getLast? last)] at solid
    cases solid

theorem IsPassage.addText {text : List Char} (passage : IsPassage text) (d : Draft) :
    d.addText text = { d with current := d.current ++ [text] } := by
  rw [Draft.addText, passage.isAllBlank, passage.trim]
  rfl

theorem IsPassage.read {text : List Char} (passage : IsPassage text) (heading : ¬ IsHeading text) {rest : List Line}
    (next : ∀ line ∈ rest.head?, isRule line = false) (d : Draft) :
    d.read (text :: rest) = Draft.read { d with current := d.current ++ [text] } rest := by
  rw [Draft.read_text (ruledTopic?_of_next next) (passage.colonTopic? heading) passage.colon, passage.addText]

/-! ## The lines of a text -/

namespace Content

variable {c : Content}

theorem isOpening_of_mem_resultLines (convention : Convention) (result : Option (List Char)) :
    ∀ line ∈ (convention.resultLines result).head?, IsOpening line := by
  cases result with
  | none => simp [Convention.resultLines]
  | some text => exact isOpening_of_mem_resultSection

theorem isRule_of_mem_head?_apart {gap : Nat} {lines : List Line}
    (unruled : ∀ line ∈ lines.head?, isRule line = false) : ∀ line ∈ (apart gap lines).head?, isRule line = false := by
  intro line mem
  rcases head?_apart mem with rfl | mem
  · rfl
  · exact unruled line mem

theorem isRule_of_mem_head?_sections (convention : Convention) (gap : Nat) :
    ∀ line ∈ (c.sections convention gap).head?, isRule line = false := by
  intro line mem
  rw [sections, List.head?_append, Option.mem_def, Option.or_eq_some_iff] at mem
  rcases mem with mem | ⟨-, mem⟩
  · exact (isOpening_of_mem_parameterSection line mem).unruled
  · exact isRule_of_mem_head?_apart (fun line mem => (isOpening_of_mem_resultLines _ _ line mem).unruled) line mem

/-- Sections start at the margin somewhere. -/
theorem exists_isOpening_sections {convention : Convention} {gap : Nat} (nonempty : c.sections convention gap ≠ []) :
    ∃ line ∈ c.sections convention gap, IsOpening line := by
  have first : ∀ {lines : List Line}, (∀ line ∈ lines.head?, IsOpening line) → lines ≠ [] →
      ∃ line ∈ lines, IsOpening line := by
    intro lines opening nonempty
    obtain ⟨line, rest, rfl⟩ := List.exists_cons_of_ne_nil nonempty
    exact ⟨line, List.mem_cons_self, opening line rfl⟩
  by_cases described : convention.parameterSection c.parameters = []
  · have result : convention.resultLines c.result ≠ [] := by
      intro none
      rw [sections, described, none, apart_nil] at nonempty
      exact nonempty rfl
    obtain ⟨line, mem, opening⟩ := first (isOpening_of_mem_resultLines convention c.result) result
    exact ⟨line, List.mem_append_right _ (mem_apart_of_mem mem), opening⟩
  · obtain ⟨line, mem, opening⟩ := first isOpening_of_mem_parameterSection described
    exact ⟨line, List.mem_append_left _ mem, opening⟩

theorem isEmpty_block (spoken : c.summary ≠ []) : c.block.isEmpty = false := by
  simp [Block.isEmpty, block, hasText, spoken]

variable (plain : c.IsPlain)
include plain

theorem IsPlain.isParameter : ∀ p ∈ c.parameters, IsParameter p := fun p mem =>
  ⟨plain.names p mem, plain.descriptions p mem, isRule_of_spaced (plain.descriptions p mem) (plain.hyphens p mem)⟩

theorem IsPlain.isWritten_resultLines (convention : Convention) :
    ∀ line ∈ convention.resultLines c.result, IsWritten line := by
  unfold Convention.resultLines
  cases found : c.result with
  | none => simp
  | some text => exact isWritten_of_mem_resultSection convention (plain.result text found)

theorem IsPlain.of_mem_lines (convention : Convention) (layout : Layout) :
    ∀ line ∈ c.lines convention layout, IsPlainLine line := by
  have nothing : IsPlainLine [] := by decide
  intro line mem
  rcases List.mem_cons.1 mem with rfl | mem
  · exact plain.summary.isPlainLine
  · rcases List.mem_append.1 mem with mem | mem
    · unfold remarkLines at mem
      cases found : c.remarks with
      | none => simp [found] at mem
      | some text =>
        rw [found] at mem
        rcases List.mem_pair.1 mem with rfl | rfl
        · exact nothing
        · exact (plain.remarks _ found).isPlainLine
    · rcases mem_apart mem with rfl | mem
      · exact nothing
      · rcases List.mem_append.1 mem with mem | mem
        · exact (isWritten_of_mem_parameterSection convention plain.isParameter line mem).1
        · rcases mem_apart mem with rfl | mem
          · exact nothing
          · exact (plain.isWritten_resultLines convention line mem).1

theorem IsPlain.isFlush (convention : Convention) (layout : Layout) :
    IsFlush (c.remarkLines ++ apart layout.before (c.sections convention layout.between)) := by
  by_cases none : c.sections convention layout.between = []
  · rw [none, apart_nil, List.append_nil, remarkLines]
    cases found : c.remarks with
    | none => exact Or.inr (by simp)
    | some text =>
      have remarks := plain.remarks text found
      exact Or.inl ⟨text, by simp, remarks.isAllBlank, remarks.isIndented⟩
  · obtain ⟨line, mem, opening⟩ := exists_isOpening_sections none
    exact Or.inl ⟨line, List.mem_append_right _ (mem_apart_of_mem mem), opening.spoken, opening.margin⟩

theorem IsPlain.getLast?_lines (convention : Convention) (layout : Layout) :
    (c.lines convention layout).getLast? ≠ some [] := by
  have opening : ∀ line ∈ (c.summary :: c.remarkLines).getLast?, line ≠ [] := by
    unfold remarkLines
    cases found : c.remarks with
    | none => simpa using plain.summary.spoken
    | some text => simpa using (plain.remarks text found).spoken
  intro last
  rw [lines, ← List.cons_append, List.getLast?_append, getLast?_apart, sections, List.getLast?_append, getLast?_apart,
    Option.or_eq_some_iff, Option.or_eq_some_iff] at last
  rcases last with (last | ⟨-, last⟩) | ⟨-, last⟩
  · exact (plain.isWritten_resultLines convention [] (List.mem_of_mem_getLast? last)).2 rfl
  · exact (isWritten_of_mem_parameterSection convention plain.isParameter [] (List.mem_of_mem_getLast? last)).2 rfl
  · exact opening [] last rfl

/-! ## Reading a text -/

/-- The paragraphs before the sections. -/
def paragraphs (c : Content) : List (List Line) := [c.summary] :: c.remarks.toList.map fun text => [text]

theorem IsPlain.read_lines {after : List Line} (next : ∀ line ∈ after.head?, isRule line = false) :
    ∃ d : Draft, Draft.read {} (c.summary :: (c.remarkLines ++ after)) = d.read after ∧
      d.close = { paragraphs := c.paragraphs } := by
  obtain ⟨unheaded, unheadedRemarks⟩ := plain.headings
  unfold remarkLines paragraphs
  cases found : c.remarks with
  | none => exact ⟨_, plain.summary.read unheaded next {}, rfl⟩
  | some text =>
    refine ⟨{ paragraphs := [[c.summary]], current := [text] }, ?_, rfl⟩
    have empty : ∀ line ∈ ([] :: text :: after).head?, isRule line = false := by
      rintro line ⟨⟩
      rfl
    calc
      Draft.read {} (c.summary :: [] :: text :: after)
        = Draft.read { current := [c.summary] } ([] :: text :: after) := plain.summary.read unheaded empty {}
      _ = Draft.read { paragraphs := [[c.summary]] } (text :: after) := Draft.read_empty
      _ = _ := (plain.remarks text found).read (unheadedRemarks text found) next _

theorem IsPlain.block_paragraphs {rs : List Line} (same : words (flow rs) = words (c.result.getD [])) :
    Draft.block { paragraphs := c.paragraphs, parameters := c.parameters, returns := rs } = c.block := by
  have single : ∀ {text : List Char}, IsPassage text → singleSpaced (flow [text]) = text := by
    intro text passage
    rw [flow, joinWith_singleton, passage.spaced]
  have said : ∀ {text : List Char}, IsPassage text → nonempty? text = some (String.ofList text) := by
    intro text passage
    simp [nonempty?, passage.spoken]
  have returns : nonempty? (singleSpaced (flow rs)) = c.result.map String.ofList := by
    rw [singleSpaced_eq_of_words_eq same]
    cases found : c.result with
    | none => rfl
    | some text =>
      have passage := plain.result text found
      rw [Option.getD_some, passage.spaced, said passage]
      rfl
  have remarks : nonempty? (singleSpaced (flow (c.remarks.toList.map fun text => singleSpaced (flow [text])))) =
      c.remarks.map String.ofList := by
    cases found : c.remarks with
    | none => rfl
    | some text =>
      have passage := plain.remarks text found
      simp only [Option.toList_some, List.map_cons, List.map_nil, single passage, said passage]
      rfl
  simp [Draft.block, Draft.close, paragraphs, block, single plain.summary, returns, remarks, Function.comp_def]

/-- A text in any of the conventions is read as the block that says its content. -/
theorem IsPlain.ofText_text (convention : Convention) (layout : Layout) :
    ofText (c.text convention layout).toList = .ok c.block := by
  have cleaned := lines_clean (plain.of_mem_lines convention layout) plain.summary.spoken plain.summary.isIndented
    (plain.isFlush convention layout) (plain.getLast?_lines convention layout) layout.after
  obtain ⟨rs, added, same⟩ := adds_sections convention plain.isParameter plain.result layout.between
  obtain ⟨d, opened, closed⟩ :=
    plain.read_lines (isRule_of_mem_head?_apart (isRule_of_mem_head?_sections convention layout.between))
  obtain ⟨e, read, ended⟩ := map_eq_ok.1 (added.apart layout.before d)
  have whole : e.block = c.block := by
    rw [← Draft.block_close, ended, Draft.adding, ← d.parameters_close, ← d.returns_close, closed]
    exact plain.block_paragraphs same
  rw [ofText, text, String.toList_ofList]
  refine map_eq_ok.2 ⟨e, ?_, whole⟩
  rw [Content.lines, cleaned]
  exact opened.trans read

theorem IsPlain.extract_text (convention : Convention) (layout : Layout) :
    extract (some (c.text convention layout)) = c.block := by
  have head : (c.text convention layout).toList.head? = c.summary.head? := by
    rw [text, String.toList_ofList]
    exact head?_joinWith _ plain.summary.spoken _
  obtain ⟨first, rest, front⟩ := List.exists_cons_of_ne_nil plain.summary.spoken
  have solid : isBlank first = false := plain.summary.head? first (by rw [front]; rfl)
  have spoken : isAllBlank (c.text convention layout).toList = false := by
    refine isAllBlank_eq_false_iff.2 ⟨first, List.mem_of_mem_head? ?_, solid⟩
    rw [head, front]
    rfl
  have untagged : hasTags (c.text convention layout).toList = false := by
    rw [hasTags, trimStart_of_head? (by rw [head]; exact plain.summary.head?), head]
    simpa using plain.untagged
  have found : structured (c.text convention layout).toList = .ok c.block := by
    rw [structured, untagged]
    exact plain.ofText_text convention layout
  simp [extract, extractText, spoken, found, isEmpty_block plain.summary.spoken]

end Content

/-! ## Tags -/

section Outlines

open Markup

/-- The text of the first element of a name. -/
def textAt? (label : String) (outlines : List Outline) : Option String :=
  (outlines.find? (·.name == { label })).bind fun o => nonempty? (singleSpaced o.text)

/-- The parameters that elements describe. -/
def parametersAt (outlines : List Outline) : List (String × String) :=
  (outlines.filter (·.name == { label := "param" })).map fun o =>
    (String.ofList (o.value?.getD []), String.ofList (singleSpaced o.text))

theorem textAt?_append {label : String} {front : List Outline} (other : ∀ o ∈ front, o.name ≠ { label })
    (back : List Outline) : textAt? label (front ++ back) = textAt? label back := by
  have none : front.find? (·.name == { label }) = none := by
    rw [List.find?_eq_none]
    intro o mem
    simpa using other o mem
  rw [textAt?, List.find?_append, none]
  rfl

theorem textAt?_eq_none {label : String} {outlines : List Outline} (other : ∀ o ∈ outlines, o.name ≠ { label }) :
    textAt? label outlines = none := by
  rw [← List.append_nil outlines, textAt?_append other]
  rfl

theorem textAt?_cons {label : String} {o : Outline} (same : o.name = { label }) (passage : IsPassage o.text)
    (outlines : List Outline) : textAt? label (o :: outlines) = some (String.ofList o.text) := by
  simp [textAt?, same, passage.spaced, nonempty?, passage.spoken]

theorem parametersAt_append (front back : List Outline) :
    parametersAt (front ++ back) = parametersAt front ++ parametersAt back := by
  simp [parametersAt]

theorem parametersAt_eq_nil {outlines : List Outline} (other : ∀ o ∈ outlines, o.name ≠ { label := "param" }) :
    parametersAt outlines = [] := by
  have none : outlines.filter (·.name == { label := "param" }) = [] := by
    rw [List.filter_eq_nil_iff]
    intro o mem
    simpa using other o mem
  rw [parametersAt, none]
  rfl

theorem plainTextOf?_eq (label : String) (nodes : List Node) :
    plainTextOf? label nodes = textAt? label (nodes.filterMap Node.outline) := by
  unfold plainTextOf? textAt?
  induction nodes with
  | nil => rfl
  | cons node nodes ih =>
    cases node with
    | text chars => exact ih
    | element name attributes children =>
      cases same : name == { label } with
      | true => simp [Node.isNamed, Node.outline, same, Node.textOf]
      | false => simpa [Node.isNamed, Node.outline, same] using ih

theorem parameters_ofNodes (nodes : List Node) :
    ((nodes.filter (·.isNamed "param")).map fun node =>
      (String.ofList ((node.attribute? "name").getD []), String.ofList (singleSpaced node.textOf))) =
      parametersAt (nodes.filterMap Node.outline) := by
  unfold parametersAt
  induction nodes with
  | nil => rfl
  | cons node nodes ih =>
    cases node with
    | text chars => exact ih
    | element name attributes children =>
      cases same : name == { label := "param" } with
      | true => simpa [Node.isNamed, Node.outline, same, Node.textOf, Node.attribute?] using ih
      | false => simpa [Node.isNamed, Node.outline, same] using ih

theorem memberNodes_eq {nodes : List Node}
    (other : ∀ o ∈ nodes.filterMap Node.outline, o.name ≠ { label := "member" }) :
    memberNodes nodes = nodes := by
  have none : nodes.filter (·.isNamed "member") = [] := by
    rw [List.filter_eq_nil_iff]
    intro node mem
    cases node with
    | text chars => simp [Node.isNamed]
    | element name attributes children =>
      have named := other _ (List.mem_filterMap.2 ⟨_, mem, rfl⟩)
      simpa [Node.isNamed] using named
  rw [memberNodes, none]

theorem ofNodes_eq {nodes : List Node} (other : ∀ o ∈ nodes.filterMap Node.outline, o.name ≠ { label := "member" }) :
    ofNodes nodes =
      { summary := textAt? "summary" (nodes.filterMap Node.outline)
        parameters := parametersAt (nodes.filterMap Node.outline)
        returns := textAt? "returns" (nodes.filterMap Node.outline)
        remarks := textAt? "remarks" (nodes.filterMap Node.outline) } := by
  simp only [ofNodes, memberNodes_eq other, plainTextOf?_eq, parameters_ofNodes]

end Outlines

namespace Content

/-- The elements of a name without attributes. -/
def elements (label : String) (texts : List (List Char)) : List Markup.Tag :=
  texts.map fun text => { label := label.toList, text }

/-- The elements that describe parameters. -/
def parameterElements (ps : List (List Char × List Char)) : List Markup.Tag :=
  ps.map fun p => { label := "param".toList, name? := some p.1, text := p.2 }

/-- The elements that say it. -/
def tags (c : Content) : List Markup.Tag :=
  elements "summary" [c.summary] ++ (parameterElements c.parameters ++
    (elements "returns" c.result.toList ++ elements "remarks" c.remarks.toList))

/-- The text with tags, with this many line feeds after each element. -/
def tagged (c : Content) (gap : Nat) : String := String.ofList (Markup.written gap c.tags)

/-- All texts of the content. -/
def texts (c : Content) : List (List Char) :=
  c.summary :: (c.remarks.toList ++ (c.result.toList ++ c.parameters.flatMap fun p => [p.1, p.2]))

/-- Every character may stand in a text with tags. -/
def IsLegal (c : Content) : Prop := ∀ text ∈ c.texts, ∀ char ∈ text, Markup.isLegal char = true

instance (c : Content) : Decidable c.IsLegal :=
  decidable_of_iff (c.texts.all fun text => text.all Markup.isLegal) (by simp [IsLegal])

theorem name_ne_of_mem_elements {label other : String} (different : label ≠ other) (texts : List (List Char)) :
    ∀ o ∈ (elements label texts).map Markup.Tag.outline, o.name ≠ { label := other } := by
  intro o mem
  obtain ⟨t, held, rfl⟩ := List.mem_map.1 mem
  obtain ⟨text, -, rfl⟩ := List.mem_map.1 held
  simpa [Markup.Tag.outline] using different

theorem name_of_mem_parameterElements {ps : List (List Char × List Char)} :
    ∀ o ∈ (parameterElements ps).map Markup.Tag.outline, o.name = { label := "param" } := by
  intro o mem
  obtain ⟨t, held, rfl⟩ := List.mem_map.1 mem
  obtain ⟨p, -, rfl⟩ := List.mem_map.1 held
  rfl

theorem name_ne_of_mem_parameterElements {other : String} (different : "param" ≠ other)
    (ps : List (List Char × List Char)) :
    ∀ o ∈ (parameterElements ps).map Markup.Tag.outline, o.name ≠ { label := other } := by
  intro o mem
  rw [name_of_mem_parameterElements o mem]
  simpa using different

/-- The outlines of the elements. -/
def outlines (c : Content) : List Markup.Outline := c.tags.map Markup.Tag.outline

theorem outlines_eq (c : Content) : c.outlines = (elements "summary" [c.summary]).map Markup.Tag.outline ++
    ((parameterElements c.parameters).map Markup.Tag.outline ++
      ((elements "returns" c.result.toList).map Markup.Tag.outline ++
        (elements "remarks" c.remarks.toList).map Markup.Tag.outline)) := by
  simp [outlines, tags]

theorem textAt?_elements_append {label : String} {text? : Option (List Char)} (passage : ∀ text ∈ text?, IsPassage text)
    {back : List Markup.Outline} (other : ∀ o ∈ back, o.name ≠ { label }) :
    textAt? label ((elements label text?.toList).map Markup.Tag.outline ++ back) = text?.map String.ofList := by
  cases text? with
  | none => exact textAt?_eq_none other
  | some text => exact textAt?_cons (by simp [Markup.Tag.outline]) (passage text rfl) back

theorem parametersAt_parameterElements {ps : List (List Char × List Char)}
    (spaced : ∀ p ∈ ps, singleSpaced p.2 = p.2) :
    parametersAt ((parameterElements ps).map Markup.Tag.outline) =
      ps.map fun p => (String.ofList p.1, String.ofList p.2) := by
  have all : ((parameterElements ps).map Markup.Tag.outline).filter (·.name == { label := "param" }) =
      (parameterElements ps).map Markup.Tag.outline := by
    rw [List.filter_eq_self]
    intro o mem
    rw [name_of_mem_parameterElements o mem]
    rfl
  rw [parametersAt, all, parameterElements, List.map_map, List.map_map]
  refine List.map_congr_left fun p mem => ?_
  simp [Markup.Tag.outline, spaced p mem]

section Outlines

variable {c : Content} (plain : c.IsPlain)
include plain

theorem IsPlain.textAt?_summary : textAt? "summary" c.outlines = some (String.ofList c.summary) := by
  rw [outlines_eq]
  exact textAt?_cons (by simp [Markup.Tag.outline]) plain.summary _

theorem IsPlain.textAt?_returns : textAt? "returns" c.outlines = c.result.map String.ofList := by
  rw [outlines_eq, textAt?_append (name_ne_of_mem_elements (by decide) _),
    textAt?_append (name_ne_of_mem_parameterElements (by decide) _)]
  exact textAt?_elements_append plain.result (name_ne_of_mem_elements (by decide) _)

theorem IsPlain.textAt?_remarks : textAt? "remarks" c.outlines = c.remarks.map String.ofList := by
  rw [outlines_eq, textAt?_append (name_ne_of_mem_elements (by decide) _),
    textAt?_append (name_ne_of_mem_parameterElements (by decide) _),
    textAt?_append (name_ne_of_mem_elements (by decide) _), ← List.append_nil (List.map _ _)]
  exact textAt?_elements_append plain.remarks (by simp)

theorem IsPlain.parametersAt_outlines :
    parametersAt c.outlines = c.parameters.map fun p => (String.ofList p.1, String.ofList p.2) := by
  rw [outlines_eq, parametersAt_append, parametersAt_append, parametersAt_append,
    parametersAt_eq_nil (name_ne_of_mem_elements (by decide) _),
    parametersAt_eq_nil (name_ne_of_mem_elements (by decide) _),
    parametersAt_eq_nil (name_ne_of_mem_elements (by decide) _), parametersAt_parameterElements plain.descriptions]
  simp

end Outlines

theorem member_not_mem_outlines (c : Content) : ∀ o ∈ c.outlines, o.name ≠ { label := "member" } := by
  rw [outlines_eq]
  intro o mem
  simp only [List.mem_append] at mem
  rcases mem with mem | mem | mem | mem
  · exact name_ne_of_mem_elements (by decide) _ o mem
  · exact name_ne_of_mem_parameterElements (by decide) _ o mem
  · exact name_ne_of_mem_elements (by decide) _ o mem
  · exact name_ne_of_mem_elements (by decide) _ o mem

/-! ## Legal tags -/

theorem isLegalText {text : List Char} (plain : IsPlainLine text) (legal : ∀ char ∈ text, Markup.isLegal char = true) :
    Markup.IsLegalText text := by
  intro char mem
  refine ⟨legal char mem, ?_⟩
  rintro rfl
  exact plain.not_mem (by decide) (by decide) mem

theorem isLegal_of_mem_elements {label : String} (named : Markup.isTagName label.toList = true)
    {texts : List (List Char)} (spaced : ∀ text ∈ texts, IsPlainLine text)
    (legal : ∀ text ∈ texts, ∀ char ∈ text, Markup.isLegal char = true) :
    ∀ t ∈ elements label texts, t.IsLegal := by
  intro t mem
  obtain ⟨text, held, rfl⟩ := List.mem_map.1 mem
  exact ⟨named, by simp, isLegalText (spaced text held) (legal text held)⟩

theorem isLegalValue_of_isName {name : List Char} (named : IsName name)
    (legal : ∀ char ∈ name, Markup.isLegal char = true) : Markup.Tag.IsLegalValue name := by
  have excluded : ∀ char ∈ name, char ≠ '"' ∧ char ≠ '&' ∧ char ≠ '<' := by
    intro char mem
    refine ⟨?_, ?_, ?_⟩
    · rintro rfl
      exact named.not_mem (by decide) (by decide) (by decide +kernel) (by decide) mem
    · rintro rfl
      exact named.not_mem (by decide) (by decide) (by decide +kernel) (by decide) mem
    · rintro rfl
      exact named.not_mem (by decide) (by decide) (by decide +kernel) (by decide) mem
  intro char mem
  refine ⟨legal char mem, ?_, excluded char mem⟩
  have solid := named.solid char mem
  by_contra blank
  simp only [Markup.isTagBlank, Bool.not_eq_false, Bool.or_eq_true, beq_iff_eq] at blank
  rcases blank with ((rfl | rfl) | rfl) | rfl <;> cases solid

section Legal

variable {c : Content} (plain : c.IsPlain) (legal : c.IsLegal)
include plain legal

theorem IsPlain.isLegal_of_mem_tags : ∀ t ∈ c.tags, t.IsLegal := by
  intro t mem
  simp only [tags, List.mem_append] at mem
  simp only [IsLegal, texts, List.forall_mem_cons, List.forall_mem_append] at legal
  obtain ⟨summary, remarks, result, parameters⟩ := legal
  rcases mem with mem | mem | mem | mem
  · refine isLegal_of_mem_elements (by decide +kernel) ?_ ?_ t mem
    · simpa using plain.summary.isPlainLine
    · simpa using summary
  · obtain ⟨p, held, rfl⟩ := List.mem_map.1 mem
    have names := parameters p.1 (List.mem_flatMap.2 ⟨p, held, by simp⟩)
    have descriptions := parameters p.2 (List.mem_flatMap.2 ⟨p, held, by simp⟩)
    have label : Markup.isTagName "param".toList = true := by decide +kernel
    refine ⟨label, ?_, isLegalText (isPlainLine_of_spaced (plain.descriptions p held)) descriptions⟩
    rintro value ⟨⟩
    exact isLegalValue_of_isName (plain.names p held) names
  · refine isLegal_of_mem_elements (by decide +kernel) ?_ result t mem
    intro text held
    exact (plain.result text (Option.mem_toList.1 held)).isPlainLine
  · refine isLegal_of_mem_elements (by decide +kernel) ?_ remarks t mem
    intro text held
    exact (plain.remarks text (Option.mem_toList.1 held)).isPlainLine

/-- A text with tags is read as the block that says its content. -/
theorem IsPlain.extract_tagged (gap : Nat) : extract (some (c.tagged gap)) = c.block := by
  obtain ⟨nodes, read, same⟩ := Markup.exists_nodes?_written (plain.isLegal_of_mem_tags legal) gap
  have block : ofNodes nodes = c.block := by
    have outlined : nodes.filterMap Markup.Node.outline = c.outlines := same
    rw [ofNodes_eq (by rw [outlined]; exact c.member_not_mem_outlines), outlined, plain.textAt?_summary,
      plain.parametersAt_outlines, plain.textAt?_returns, plain.textAt?_remarks]
    rfl
  have front : ∃ rest, (c.tagged gap).toList = '<' :: rest := by
    rw [tagged, String.toList_ofList]
    exact ⟨_, rfl⟩
  obtain ⟨rest, front⟩ := front
  have spoken : isAllBlank (c.tagged gap).toList = false := by
    rw [front]
    exact isAllBlank_eq_false_iff.2 ⟨'<', List.mem_cons_self, by decide⟩
  have found : structured (c.tagged gap).toList = .ok c.block := by
    have hasTags : hasTags (c.tagged gap).toList = true := by
      rw [front, Documentation.hasTags, trimStart_of_head? (by rintro c ⟨⟩; decide)]
      rfl
    rw [structured, hasTags, tagged, String.toList_ofList]
    simp only [if_true, ofMarkup, read, block]
  simp [extract, extractText, spoken, found, isEmpty_block plain.summary.spoken]

end Legal

/-! ## Agreement -/

/-- All dialects of a content are read as the block that says it: every text convention in every layout, and tags if
they can hold the characters. -/
theorem dialects_agree (c : Content) (plain : c.IsPlain) :
    (∀ convention layout, extract (some (c.text convention layout)) = c.block) ∧
      (c.IsLegal → ∀ gap, extract (some (c.tagged gap)) = c.block) :=
  ⟨plain.extract_text, fun legal gap => plain.extract_tagged legal gap⟩

end Content

namespace Sample

/-- Content with words that mean something to a reader: a remark that could underline, parameters called like sections,
a description that could open one, and the characters of tags. -/
def quoting : Content where
  summary := "Note: a < b & c".toList
  remarks := some "---".toList
  parameters := [("returns".toList, "Args: the text".toList), ("**Notes".toList, []), ("*_x.y".toList, "--".toList)]
  result := some "Parameters".toList

theorem not_isHeading_quoting : ¬ IsHeading quoting.summary ∧ ∀ text ∈ quoting.remarks, ¬ IsHeading text := by
  -- neither text ends in a colon
  have ends : ∀ text : List Char, text.getLast? ≠ some ':' → ¬ IsHeading text := by
    rintro text other ⟨name, rfl, -⟩
    exact other List.getLast?_concat
  refine ⟨ends _ (by decide), ?_⟩
  rintro text ⟨⟩
  exact ends _ (by decide)

theorem isName_quoting : ∀ p ∈ quoting.parameters, IsName p.1 := by
  unfold quoting
  refine List.forall_mem_cons.2 ⟨?_, List.forall_mem_cons.2 ⟨?_, List.forall_mem_singleton.2 ?_⟩⟩
  · exact ⟨0, 'r', "eturns".toList, rfl, by decide, by decide, List.all_eq_true.1 (by decide +kernel)⟩
  · exact ⟨2, 'N', "otes".toList, rfl, by decide, by decide, List.all_eq_true.1 (by decide +kernel)⟩
  · exact ⟨1, '_', "x.y".toList, rfl, by decide, by decide, List.all_eq_true.1 (by decide +kernel)⟩

theorem isPlain_quoting : quoting.IsPlain where
  summary := ⟨by decide, by decide +kernel, by decide⟩
  remarks := by
    rintro text ⟨⟩
    exact ⟨by decide, by decide +kernel, by decide⟩
  result := by
    rintro text ⟨⟩
    exact ⟨by decide, by decide +kernel, by decide⟩
  names := isName_quoting
  descriptions := by decide +kernel
  hyphens := by
    unfold quoting
    refine List.forall_mem_cons.2 ⟨?_, List.forall_mem_cons.2 ⟨?_, List.forall_mem_singleton.2 ?_⟩⟩
    · rintro n ⟨⟩
    · rintro n ⟨⟩
    · rintro n ⟨⟩
  untagged := by decide
  headings := not_isHeading_quoting

end Sample

/-- The dialects of one content, written out. -/
theorem Content.dialects_agree_quoting : Sample.quoting.IsPlain ∧ Sample.quoting.IsLegal ∧
    (Sample.quoting.text .colon {} = "Note: a < b & c\n\n---\n\nArgs:\n    returns: Args: the text\n    **Notes: \n" ++
      "    *_x.y: --\nReturns:\n    Parameters" ∧
      extract (some (Sample.quoting.text .colon {})) = Sample.quoting.block) ∧
    (Sample.quoting.text (.ruled 1) { between := 1, after := 1 } = "Note: a < b & c\n\n---\n\nParameters\n----\n" ++
      "returns\n    Args: the text\n**Notes\n*_x.y\n    --\n\nReturns\n----\nParameters\n" ∧
      extract (some (Sample.quoting.text (.ruled 1) { between := 1, after := 1 })) = Sample.quoting.block) ∧
    (Sample.quoting.text .field {} = "Note: a < b & c\n\n---\n\n:param returns: Args: the text\n:param **Notes: \n" ++
      ":param *_x.y: --\n:returns: Parameters" ∧
      extract (some (Sample.quoting.text .field {})) = Sample.quoting.block) ∧
    (Sample.quoting.tagged 0 =
      "<summary>Note: a &lt; b &amp; c</summary><param name=\"returns\">Args: the text</param>" ++
      "<param name=\"**Notes\"></param><param name=\"*_x.y\">--</param><returns>Parameters</returns>" ++
      "<remarks>---</remarks>" ∧
      extract (some (Sample.quoting.tagged 0)) = Sample.quoting.block) := by
  have agree := Content.dialects_agree Sample.quoting Sample.isPlain_quoting
  have legal : Sample.quoting.IsLegal := by decide +kernel
  exact ⟨Sample.isPlain_quoting, legal, ⟨by decide +kernel, agree.1 .colon {}⟩,
    ⟨by decide +kernel, agree.1 (.ruled 1) { between := 1, after := 1 }⟩, ⟨by decide +kernel, agree.1 .field {}⟩,
    ⟨by decide +kernel, agree.2 legal 0⟩⟩

end CallAtlas.Documentation
