import CallAtlas.Proofs.Entries

/-!
# The three conventions

A parameter section and a result section, written in one of the conventions for documentation texts, are read back:
read on top of any draft, they add the parameters with their descriptions and the result, and nothing else. The
conventions differ in how an entry is told from what continues it, so each has its own lemma for either section.
-/

namespace CallAtlas.Documentation

open Text

/-! ## Conventions -/

/-- How the sections of a text are marked. -/
inductive Convention where
  /-- By a heading that ends in a colon, over an indented body. -/
  | colon
  /-- By a heading over a rule: three hyphens and this many more. -/
  | ruled (more : Nat)
  /-- By a field for each item. -/
  | field
  deriving Repr, DecidableEq

/-- The rule under a heading. -/
def ruleLine (more : Nat) : Line := List.replicate (more + 3) '-'

/-- A name, a colon and a description. -/
def describedAs (p : List Char × List Char) : Line := p.1 ++ ':' :: ' ' :: p.2

/-- The lines below an underlined heading that describe one parameter. -/
def ruledEntryOf (p : List Char × List Char) : Entry :=
  { head := p.1, more := if p.2.isEmpty then [] else [pad ++ p.2] }

namespace Convention

/-- The lines that describe parameters; none for no parameters. -/
def parameterSection (convention : Convention) (ps : List (List Char × List Char)) : List Line :=
  if ps.isEmpty then []
  else
    match convention with
    | .colon => "Args:".toList :: (ps.map describedAs).map (pad ++ ·)
    | .ruled more => "Parameters".toList :: ruleLine more :: (ps.map ruledEntryOf).flatMap Entry.lines
    | .field => ps.map fun p => ":param ".toList ++ describedAs p

/-- The lines that describe a result. -/
def resultSection (convention : Convention) (text : List Char) : List Line :=
  match convention with
  | .colon => ["Returns:".toList, pad ++ text]
  | .ruled more => ["Returns".toList, ruleLine more, text]
  | .field => [":returns: ".toList ++ text]

end Convention

/-! ## Sections with a colon -/

section Sections

variable {d : Draft} {ps : List (List Char × List Char)} {rest : List Line}

theorem Draft.close_of_adding (d : Draft) (ps : List (List Char × List Char)) (rs : List Line) :
    Draft.close { d with parameters := d.parameters ++ ps, returns := d.returns ++ rs } = d.adding ps rs := by
  unfold Draft.adding Draft.close
  dsimp only
  split <;> rfl

theorem Draft.close_of_parameters (d : Draft) (ps : List (List Char × List Char)) :
    Draft.close { d with parameters := d.parameters ++ ps } = d.adding ps [] := by
  rw [← d.close_of_adding, List.append_nil]

theorem Draft.close_of_returns (d : Draft) (rs : List Line) :
    Draft.close { d with returns := d.returns ++ rs } = d.adding [] rs := by
  rw [← d.close_of_adding, List.append_nil]

theorem IsParameter.colonEntry {p : List Char × List Char} (described : IsParameter p) :
    colonEntry { head := describedAs p } = .ok p := by
  have scanned : trimStart (skipType (':' :: ' ' :: p.2)) = ':' :: ' ' :: p.2 := by
    have start : trimStart (':' :: ' ' :: p.2) = ':' :: ' ' :: p.2 := by
      simp [trimStart, show isBlank ':' = false by decide]
    rw [skipType, start]
    exact start
  have text : singleSpaced (flow [' ' :: p.2]) = p.2 := by
    rw [flow, joinWith_singleton, singleSpaced_eq_of_words_eq (words_cons_blank isBlank_space), described.spaced]
  rw [Documentation.colonEntry, describedAs, described.name.entryName?]
  simp only [scanned, text]

theorem IsParameter.isLaidOut_describedAs {p : List Char × List Char} (described : IsParameter p) :
    Entry.IsLaidOut { head := describedAs p } := by
  obtain ⟨c, cs, front⟩ := List.exists_cons_of_ne_nil described.name.ne_nil
  have solid : isBlank c = false := described.name.solid c (by simp [front])
  constructor
  · exact isAllBlank_eq_false_iff.2 ⟨c, by simp [describedAs, front], solid⟩
  · simp [isIndented, describedAs, front, solid]
  · simp

theorem read_colonParameters (described : ∀ p ∈ ps, IsParameter p) (nonempty : ps ≠ [])
    (outside : ∀ line ∈ rest.head?, isBody line = false) (n : Nat) :
    d.read ("Args:".toList :: ((ps.map describedAs).map (pad ++ ·) ++ List.replicate n [] ++ rest)) =
      (d.adding ps []).read rest := by
  have margin : AtMargin (ps.map describedAs) := by
    intro line mem
    obtain ⟨p, held, rfl⟩ := List.mem_map.1 mem
    refine ⟨?_, (described p held).isLaidOut_describedAs.margin⟩
    simp [describedAs]
  have laid : ∀ e ∈ ps.map fun p => ({ head := describedAs p } : Entry), e.IsLaidOut := by
    intro e mem
    obtain ⟨p, held, rfl⟩ := List.mem_map.1 mem
    exact (described p held).isLaidOut_describedAs
  have listed : entries (ps.map describedAs) = .ok (ps.map fun p => { head := describedAs p }) := by
    rw [← entries_flatMap laid]
    simp [List.flatMap_map, Entry.lines, ← List.map_eq_flatMap]
  have given : (ps.map fun p => ({ head := describedAs p } : Entry)).mapM colonEntry = .ok ps :=
    mapM_map_eq_ok fun p held => (described p held).colonEntry
  have inside : ∀ line ∈ (ps.map describedAs).map (pad ++ ·) ++ List.replicate n [], isBody line = true := by
    intro line mem
    rcases List.mem_append.1 mem with mem | mem
    · obtain ⟨other, -, rfl⟩ := List.mem_map.1 mem
      simp [isBody, isIndented, pad]
    · rw [List.eq_of_mem_replicate mem]
      rfl
  obtain ⟨m, dropped⟩ := exists_dropEmptyLast (fun line mem => (margin line mem).1) n
  obtain ⟨es, read, found⟩ := exists_entries_append colonEntry_append_empty listed given m
  have added : d.addColon .parameters ((ps.map describedAs).map (pad ++ ·) ++ List.replicate n []) =
      .ok { d with parameters := d.parameters ++ ps } := by
    rw [← dropped, ← margin.dedent (by simpa using nonempty)] at read
    exact bind_eq_ok.2 ⟨es, read, bind_eq_ok.2 ⟨ps, found, rfl⟩⟩
  rw [Draft.read_colon (ruledTopic?_of_topic _ (by decide)) (by decide) inside outside added, d.close_of_parameters]

theorem read_colonResult {text : List Char} (passage : IsPassage text) :
    d.read ["Returns:".toList, pad ++ text] = (d.adding [] [text]).read [] := by
  have margin : AtMargin [text] := by
    intro line mem
    cases List.mem_singleton.1 mem
    exact ⟨passage.spoken, passage.isIndented⟩
  have moved : dropEmptyLast (dedent [pad ++ text]) = [text] := by
    have back : dedent [pad ++ text] = [text] := by simpa using margin.dedent (List.cons_ne_nil _ _) 0
    rw [back, dropEmptyLast]
    simp [passage.spoken]
  have added : d.addColon .returns [pad ++ text] = .ok { d with returns := d.returns ++ [text] } := by
    rw [Draft.addColon, moved, flow, joinWith_singleton]
    rfl
  have inside : ∀ line ∈ [pad ++ text], isBody line = true := by simp [isBody, isIndented, pad]
  have read : d.read ("Returns:".toList :: ([pad ++ text] ++ [])) = _ :=
    Draft.read_colon (ruledTopic?_of_topic _ (by decide)) (by decide) inside (by simp) added
  exact read.trans (by rw [d.close_of_returns])

/-! ## Underlined sections -/

theorem words_pad (line : Line) : words (pad ++ line) = words line := by
  simp [pad, words_cons_blank]

theorem isRule_pad (line : Line) : isRule (pad ++ line) = isRule line := by
  have same : trim (pad ++ line) = trim line := rfl
  rw [isRule, same, isRule]

theorem IsParameter.ruledEntry {p : List Char × List Char} (described : IsParameter p) :
    ruledEntry (ruledEntryOf p) = .ok p := by
  have whole : p.1.takeWhile (· != ':') = p.1 := by
    rw [List.takeWhile_eq_self_iff]
    intro c mem
    rw [bne_iff_ne]
    rintro rfl
    exact described.name.colon_not_mem mem
  have solid := described.name.solid
  have trimmed : trim p.1 = p.1 :=
    trim_of_ends (fun c mem => solid c (List.mem_of_mem_head? mem)) fun c mem => solid c (List.mem_of_mem_getLast? mem)
  have named : ruledEntryName (ruledEntryOf p) = .ok p.1 := by
    simp [ruledEntryName, ruledEntryOf, whole, trimmed, described.name.ne_nil]
  have text : singleSpaced (flow (ruledEntryOf p).more) = p.2 := by
    cases found : p.2 with
    | nil => simp [ruledEntryOf, found, flow, joinWith_nil, singleSpaced_eq_nil_iff, Text.isAllBlank]
    | cons c cs =>
      rw [ruledEntryOf, found, if_neg (by simp), flow, joinWith_singleton, ← found,
        singleSpaced_eq_of_words_eq (words_pad _), described.spaced]
  rw [Documentation.ruledEntry, named, text]
  rfl

theorem IsParameter.isLaidOut_ruledEntryOf {p : List Char × List Char} (described : IsParameter p) :
    (ruledEntryOf p).IsLaidOut := by
  obtain ⟨c, cs, front⟩ := List.exists_cons_of_ne_nil described.name.ne_nil
  have solid : isBlank c = false := described.name.solid c (by simp [front])
  constructor
  · exact isAllBlank_eq_false_iff.2 ⟨c, by simp [ruledEntryOf, front], solid⟩
  · simp [isIndented, ruledEntryOf, front, solid]
  · intro line mem
    unfold ruledEntryOf at mem
    dsimp only at mem
    split at mem
    · cases mem
    · rename_i spoken
      cases List.mem_singleton.1 mem
      refine ⟨?_, by simp [isIndented, pad]⟩
      rw [← Bool.not_eq_true, ← words_eq_nil_iff, words_pad, words_eq_nil_iff, ← singleSpaced_eq_nil_iff,
        described.spaced]
      simpa using spoken

theorem IsParameter.isRule_of_mem {p : List Char × List Char} (described : IsParameter p) {line : Line}
    (mem : line ∈ (ruledEntryOf p).lines) : isRule line = false := by
  rcases List.mem_cons.1 mem with rfl | mem
  · exact described.name.isRule
  · unfold ruledEntryOf at mem
    dsimp only at mem
    split at mem
    · cases mem
    · cases List.mem_singleton.1 mem
      rw [isRule_pad, described.unruled]

theorem ruledTopic?_ruleLine {heading : Line} {topic : Topic} (known : topic? heading = some topic)
    (margin : isIndented heading = false) (more : Nat) (rest : List Line) :
    ruledTopic? (heading :: ruleLine more :: rest) = some topic := by
  simp [ruledTopic?, known, margin, ruleLine, isRule_replicate]

theorem read_ruledParameters (described : ∀ p ∈ ps, IsParameter p) (next : ∀ line ∈ rest.head?, isRule line = false)
    (stop : rest = [] ∨ (ruledTopic? rest).isSome) (more n : Nat) :
    d.read ("Parameters".toList :: ruleLine more ::
      ((ps.map ruledEntryOf).flatMap Entry.lines ++ List.replicate n [] ++ rest)) = (d.adding ps []).read rest := by
  have laid : ∀ e ∈ ps.map ruledEntryOf, e.IsLaidOut := by
    intro e mem
    obtain ⟨p, held, rfl⟩ := List.mem_map.1 mem
    exact (described p held).isLaidOut_ruledEntryOf
  have given : (ps.map ruledEntryOf).mapM ruledEntry = .ok ps :=
    mapM_map_eq_ok fun p held => (described p held).ruledEntry
  have unruled : ∀ line ∈ (ps.map ruledEntryOf).flatMap Entry.lines ++ List.replicate n [], isRule line = false := by
    intro line mem
    rcases List.mem_append.1 mem with mem | mem
    · obtain ⟨e, listed, mem⟩ := List.mem_flatMap.1 mem
      obtain ⟨p, held, rfl⟩ := List.mem_map.1 listed
      exact (described p held).isRule_of_mem mem
    · rw [List.eq_of_mem_replicate mem]
      rfl
  obtain ⟨es, read, found⟩ := exists_entries_append ruledEntry_append_empty (entries_flatMap laid) given n
  have added : d.addRuled .parameters ((ps.map ruledEntryOf).flatMap Entry.lines ++ List.replicate n []) =
      .ok { d with parameters := d.parameters ++ ps } := bind_eq_ok.2 ⟨es, read, bind_eq_ok.2 ⟨ps, found, rfl⟩⟩
  have heading := ruledTopic?_ruleLine (by decide : topic? "Parameters".toList = some .parameters) (by decide) more
  have cut := cutRuled_of_unruled (fun line mem => unruled line (List.mem_of_mem_tail mem)) next stop
  rw [Draft.read_ruled (heading _) cut added, d.close_of_parameters]

theorem read_ruledResult {text : List Char} (passage : IsPassage text) (more : Nat) :
    d.read ["Returns".toList, ruleLine more, text] = (d.adding [] [text]).read [] := by
  have laid : ∀ e ∈ [({ head := text } : Entry)], e.IsLaidOut := by
    intro e mem
    cases List.mem_singleton.1 mem
    exact ⟨passage.isAllBlank, passage.isIndented, by simp⟩
  have listed : entries [text] = .ok [{ head := text }] := entries_flatMap laid
  -- the text before the first colon only has to be there; the whole line is the result
  obtain ⟨c, cs, front⟩ := List.exists_cons_of_ne_nil passage.spoken
  have named : ∃ name, ruledEntryName { head := text } = .ok name := by
    have other : c ≠ ':' := by simpa [front] using passage.colon
    have kept : trim (text.takeWhile (· != ':')) ≠ [] := by
      rw [ne_eq, trim_eq_nil_iff, Bool.not_eq_true]
      refine isAllBlank_eq_false_iff.2 ⟨c, ?_, passage.head? c (by simp [front])⟩
      simp [front, other]
    exact ⟨trim (text.takeWhile (· != ':')), by simp [ruledEntryName, kept]⟩
  obtain ⟨name, named⟩ := named
  have shown : ruledResult { head := text } = text := by
    simp [ruledResult, flow, joinWith_nil, singleSpaced_eq_nil_iff, Text.isAllBlank, passage.trim]
  have given : [({ head := text } : Entry)].mapM (fun e => do
      let _ ← ruledEntryName e
      return ruledResult e) = .ok [text] := by
    refine mapM_cons_eq_ok.2 ⟨text, [], bind_eq_ok.2 ⟨name, named, ?_⟩, rfl, rfl⟩
    rw [shown]
    rfl
  have added : d.addRuled .returns [text] = .ok { d with returns := d.returns ++ [text] } :=
    bind_eq_ok.2 ⟨_, listed, bind_eq_ok.2 ⟨_, given, rfl⟩⟩
  have heading := ruledTopic?_ruleLine (by decide : topic? "Returns".toList = some .returns) (by decide) more
  have cut : cutRuled ([text] ++ []) = ([text], []) := cutRuled_of_unruled (by simp) (by simp) (Or.inl rfl)
  exact (Draft.read_ruled (heading _) cut added).trans (by rw [d.close_of_returns])

/-! ## Fields -/

section Field

variable {label text kind : List Char} (colon : ':' ∉ label)
include colon

/-- The text between the colons of a field, and the text after them. -/
theorem fieldParts?_trim (nonempty : label ≠ []) :
    fieldParts? (trim (':' :: (label ++ ':' :: text))) = some (label, trimEnd text) := by
  have start : trimStart (':' :: (label ++ ':' :: text)) = (':' :: label) ++ ':' :: text := by
    apply trimStart_of_head?
    rintro c ⟨⟩
    decide
  rw [trim, start, trimEnd_append_solid (by decide), List.cons_append, fieldParts?, cut?_append_of_not_mem colon]
  cases label with
  | nil => exact absurd rfl nonempty
  | cons c label => rfl

theorem addField_parameter {name : List Char} (spoken : words label = [kind, name])
    (known : parameterFields.contains (String.ofList (lowerChars kind)) = true) :
    d.addField (':' :: (label ++ ':' :: text)) [] =
      .ok { d with parameters := d.parameters ++ [(name, singleSpaced text)] } := by
  have nonempty : label ≠ [] := by
    rintro rfl
    cases spoken
  have same : singleSpaced (flow [trimEnd text]) = singleSpaced text := by
    rw [flow, joinWith_singleton, singleSpaced_eq_of_words_eq (words_trimEnd text)]
  simp only [Draft.addField, fieldParts?_trim colon nonempty, spoken, known, if_true, List.getLast?_singleton, same]

theorem addField_result (spoken : words label = [kind])
    (other : parameterFields.contains (String.ofList (lowerChars kind)) = false)
    (known : resultFields.contains (String.ofList (lowerChars kind)) = true) :
    d.addField (':' :: (label ++ ':' :: text)) [] = .ok { d with returns := d.returns ++ [trimEnd text] } := by
  have nonempty : label ≠ [] := by
    rintro rfl
    cases spoken
  have same : flow [trimEnd text] = trimEnd text := joinWith_singleton _ _
  simp only [Draft.addField, fieldParts?_trim colon nonempty, spoken, known, other, if_true, same]
  rfl

end Field

theorem read_fieldParameter {p : List Char × List Char} (described : IsParameter p)
    (next : ∀ line ∈ rest.head?, isRule line = false)
    (outside : ∀ line ∈ rest.head?, isFieldContinuation line = false) :
    d.read ((":param ".toList ++ describedAs p) :: rest) = (d.adding [p] []).read rest := by
  have colon : ':' ∉ "param".toList ++ ' ' :: p.1 := by simp [described.name.colon_not_mem]
  have label : words ("param".toList ++ ' ' :: p.1) = ["param".toList, p.1] := by
    rw [words_append_blank isBlank_space, words_of_isSolid ⟨described.name.ne_nil, described.name.solid⟩]
    rfl
  have text : singleSpaced (' ' :: p.2) = p.2 := by
    rw [singleSpaced_eq_of_words_eq (words_cons_blank isBlank_space), described.spaced]
  have added : d.addField (':' :: (("param".toList ++ ' ' :: p.1) ++ ':' :: ' ' :: p.2)) [] =
      .ok { d with parameters := d.parameters ++ [p] } := by
    rw [addField_parameter colon label (by decide), text]
  have line : ":param ".toList ++ describedAs p = ':' :: (("param".toList ++ ' ' :: p.1) ++ ':' :: ' ' :: p.2) := by
    simp [describedAs]
  rw [line, Draft.read_field (ruledTopic?_of_next next) outside added, d.close_of_parameters]

theorem read_fieldResult (text : List Char) :
    d.read [":returns: ".toList ++ text] = (d.adding [] [trimEnd (' ' :: text)]).read [] := by
  have added : d.addField (':' :: ("returns".toList ++ ':' :: ' ' :: text)) [] =
      .ok { d with returns := d.returns ++ [trimEnd (' ' :: text)] } :=
    addField_result (by decide) (by decide : words "returns".toList = ["returns".toList]) (by decide) (by decide)
  exact (Draft.read_field (ruledTopic?_of_next (by simp)) (by simp) added).trans (by rw [d.close_of_returns])

end Sections

/-! ## Both sections -/

/-- A line at the margin with more on it than a rule, so that nothing before it goes on with it. -/
structure IsOpening (line : Line) : Prop where
  unruled : isRule line = false
  spoken : isAllBlank line = false
  margin : isIndented line = false

namespace IsOpening

variable {line : Line} (opening : IsOpening line)
include opening

theorem isBody : isBody line = false := by simp [Documentation.isBody, opening.spoken, opening.margin]

theorem isFieldContinuation : isFieldContinuation line = false := by
  simp [Documentation.isFieldContinuation, opening.margin]

end IsOpening

theorem isOpening_field (cs : List Char) : IsOpening (':' :: cs) := by
  have solid : isBlank ':' = false := by decide
  refine ⟨isRule_eq_false List.mem_cons_self solid (by decide), ?_, by simp [isIndented, solid]⟩
  exact isAllBlank_eq_false_iff.2 ⟨':', List.mem_cons_self, solid⟩

theorem isOpening_of_mem_resultSection {convention : Convention} {text : List Char} :
    ∀ line ∈ (convention.resultSection text).head?, IsOpening line := by
  cases convention with
  | colon =>
    rintro line ⟨⟩
    exact ⟨by decide, by decide, by decide⟩
  | ruled more =>
    rintro line ⟨⟩
    exact ⟨by decide, by decide, by decide⟩
  | field =>
    rintro line ⟨⟩
    exact isOpening_field _

theorem isOpening_of_mem_parameterSection {convention : Convention} {ps : List (List Char × List Char)} :
    ∀ line ∈ (convention.parameterSection ps).head?, IsOpening line := by
  cases ps with
  | nil => simp [Convention.parameterSection]
  | cons p ps =>
    cases convention with
    | colon =>
      rintro line ⟨⟩
      exact ⟨by decide, by decide, by decide⟩
    | ruled more =>
      rintro line ⟨⟩
      exact ⟨by decide, by decide, by decide⟩
    | field =>
      rintro line ⟨⟩
      exact isOpening_field _

section Both

variable {convention : Convention} {ps : List (List Char × List Char)} {rest : List Line} {rs : List Line}

theorem adds_resultSection (convention : Convention) {text : List Char} (passage : IsPassage text) :
    ∃ rs, Adds (convention.resultSection text) [] rs ∧ words (flow rs) = words text := by
  have single : words (flow [text]) = words text := by rw [flow, joinWith_singleton]
  cases convention with
  | colon => exact ⟨[text], Adds.nil.before fun d => read_colonResult passage, single⟩
  | ruled more => exact ⟨[text], Adds.nil.before fun d => read_ruledResult passage more, single⟩
  | field =>
    refine ⟨[trimEnd (' ' :: text)], Adds.nil.before fun d => read_fieldResult text, ?_⟩
    rw [flow, joinWith_singleton, words_trimEnd, words_cons_blank isBlank_space]

/-- What can stand after the parameters: nothing, or the section on the result. -/
def Convention.Follows (convention : Convention) (rest : List Line) : Prop :=
  rest = [] ∨ ∃ text, rest = convention.resultSection text

theorem adds_fields (described : ∀ p ∈ ps, IsParameter p) (following : Adds rest [] rs)
    (next : ∀ line ∈ rest.head?, isRule line = false ∧ isFieldContinuation line = false) :
    Adds ((ps.map fun p => ":param ".toList ++ describedAs p) ++ rest) ps rs := by
  induction ps with
  | nil => exact following
  | cons p ps ih =>
    obtain ⟨first, others⟩ := List.forall_mem_cons.1 described
    have after : ∀ line ∈ ((ps.map fun p => ":param ".toList ++ describedAs p) ++ rest).head?,
        isRule line = false ∧ isFieldContinuation line = false := by
      cases ps with
      | nil => exact next
      | cons q ps =>
        rintro line ⟨⟩
        exact ⟨(isOpening_field _).unruled, (isOpening_field _).isFieldContinuation⟩
    have step : ∀ d : Draft, d.read ((":param ".toList ++ describedAs p) ::
        ((ps.map fun p => ":param ".toList ++ describedAs p) ++ rest)) = (d.adding [p] []).read _ := fun d =>
      read_fieldParameter first (fun line mem => (after line mem).1) fun line mem => (after line mem).2
    exact (ih others).before step

theorem adds_parameterSection (convention : Convention) (described : ∀ p ∈ ps, IsParameter p)
    (follows : convention.Follows rest) (following : Adds rest [] rs) (n : Nat) :
    Adds (convention.parameterSection ps ++ (List.replicate n [] ++ rest)) ps rs := by
  cases ps with
  | nil => exact following.empty n
  | cons p ps =>
    have after : ∀ line ∈ rest.head?, IsOpening line := by
      rcases follows with rfl | ⟨text, rfl⟩
      · simp
      · exact isOpening_of_mem_resultSection
    have added : ∀ lines : List Line, (∀ d : Draft, d.read lines = (d.adding (p :: ps) []).read rest) →
        Adds lines (p :: ps) rs := by
      intro lines read
      simpa using following.before read
    cases convention with
    | colon =>
      apply added
      intro d
      rw [← read_colonParameters described (List.cons_ne_nil _ _) (fun line mem => (after line mem).isBody) n]
      simp [Convention.parameterSection]
    | ruled more =>
      have stop : rest = [] ∨ (ruledTopic? rest).isSome := by
        rcases follows with none | ⟨text, rfl⟩
        · exact Or.inl none
        · right
          have known : topic? "Returns".toList = some .returns := by decide
          rw [Convention.resultSection, ruledTopic?_ruleLine known (by decide)]
          rfl
      apply added
      intro d
      rw [← read_ruledParameters described (fun line mem => (after line mem).unruled) stop more n]
      simp [Convention.parameterSection]
    | field =>
      refine adds_fields described (following.empty n) ?_
      cases n with
      | zero => exact fun line mem => ⟨(after line mem).unruled, (after line mem).isFieldContinuation⟩
      | succ n =>
        rintro line ⟨⟩
        decide

/-- The lines that describe a result, if there is one. -/
def Convention.resultLines (convention : Convention) (result : Option (List Char)) : List Line :=
  (result.map convention.resultSection).getD []

/-- Written one after the other, both sections are read back. -/
theorem adds_sections (convention : Convention) (described : ∀ p ∈ ps, IsParameter p) {result : Option (List Char)}
    (passage : ∀ text ∈ result, IsPassage text) (gap : Nat) :
    ∃ rs, Adds (convention.parameterSection ps ++ apart gap (convention.resultLines result)) ps rs ∧
      words (flow rs) = words (result.getD []) := by
  cases result with
  | none =>
    refine ⟨[], ?_, rfl⟩
    simpa [Convention.resultLines, apart_nil] using adds_parameterSection convention described (Or.inl rfl) Adds.nil 0
  | some text =>
    obtain ⟨rs, added, same⟩ := adds_resultSection convention (passage text rfl)
    refine ⟨rs, ?_, same⟩
    have nonempty : convention.resultSection text ≠ [] := by
      cases convention <;> exact List.cons_ne_nil _ _
    have lines : convention.resultLines (some text) = convention.resultSection text := rfl
    rw [lines, apart_of_ne_nil nonempty]
    exact adds_parameterSection convention described (Or.inr ⟨text, rfl⟩) added gap

/-! ## The shape of a section -/

/-- A line that has something on it, and no blank but the space. -/
def IsWritten (line : Line) : Prop := IsPlainLine line ∧ line ≠ []

instance (line : Line) : Decidable (IsWritten line) := inferInstanceAs (Decidable (_ ∧ _))

theorem IsName.isPlainLine {name : List Char} (named : IsName name) : IsPlainLine name := by
  intro c mem blank
  rw [named.solid c mem] at blank
  cases blank

theorem IsPassage.isPlainLine {text : List Char} (passage : IsPassage text) : IsPlainLine text :=
  isPlainLine_of_spaced passage.spaced

theorem isPlainLine_pad : IsPlainLine pad := by decide

theorem isPlainLine_ruleLine (more : Nat) : IsPlainLine (ruleLine more) := by
  intro c mem blank
  rw [List.eq_of_mem_replicate mem] at blank
  cases blank

theorem IsParameter.isPlainLine_describedAs {p : List Char × List Char} (described : IsParameter p) :
    IsPlainLine (describedAs p) := by
  have marks : IsPlainLine [':', ' '] := by decide
  exact described.name.isPlainLine.append (marks.append (isPlainLine_of_spaced described.spaced))

theorem IsParameter.isWritten_of_mem {p : List Char × List Char} (described : IsParameter p) {line : Line}
    (mem : line ∈ (ruledEntryOf p).lines) : IsWritten line := by
  rcases List.mem_cons.1 mem with rfl | mem
  · exact ⟨described.name.isPlainLine, described.name.ne_nil⟩
  · unfold ruledEntryOf at mem
    dsimp only at mem
    split at mem
    · cases mem
    · cases List.mem_singleton.1 mem
      exact ⟨isPlainLine_pad.append (isPlainLine_of_spaced described.spaced), by simp [pad]⟩

theorem isWritten_of_mem_parameterSection (convention : Convention) (described : ∀ p ∈ ps, IsParameter p) :
    ∀ line ∈ convention.parameterSection ps, IsWritten line := by
  intro line mem
  cases ps with
  | nil => cases mem
  | cons p ps =>
    cases convention with
    | colon =>
      rcases List.mem_cons.1 mem with rfl | mem
      · decide
      · obtain ⟨other, listed, rfl⟩ := List.mem_map.1 mem
        obtain ⟨q, held, rfl⟩ := List.mem_map.1 listed
        exact ⟨isPlainLine_pad.append (described q held).isPlainLine_describedAs, by simp [pad]⟩
    | ruled more =>
      rcases List.mem_cons.1 mem with rfl | mem
      · decide
      · rcases List.mem_cons.1 mem with rfl | mem
        · exact ⟨isPlainLine_ruleLine more, by simp [ruleLine]⟩
        · obtain ⟨e, listed, mem⟩ := List.mem_flatMap.1 mem
          obtain ⟨q, held, rfl⟩ := List.mem_map.1 listed
          exact (described q held).isWritten_of_mem mem
    | field =>
      obtain ⟨q, held, rfl⟩ := List.mem_map.1 mem
      have front : IsPlainLine ":param ".toList := by decide
      exact ⟨front.append (described q held).isPlainLine_describedAs, by simp⟩

theorem isWritten_of_mem_resultSection (convention : Convention) {text : List Char} (passage : IsPassage text) :
    ∀ line ∈ convention.resultSection text, IsWritten line := by
  intro line mem
  cases convention with
  | colon =>
    rcases List.mem_pair.1 mem with rfl | rfl
    · decide
    · exact ⟨isPlainLine_pad.append passage.isPlainLine, by simp [pad]⟩
  | ruled more =>
    rcases List.mem_cons.1 mem with rfl | mem
    · decide
    · rcases List.mem_pair.1 mem with rfl | rfl
      · exact ⟨isPlainLine_ruleLine more, by simp [ruleLine]⟩
      · exact ⟨passage.isPlainLine, passage.spoken⟩
  | field =>
    cases List.mem_singleton.1 mem
    have front : IsPlainLine ":returns: ".toList := by decide
    exact ⟨front.append passage.isPlainLine, by simp⟩

end Both

end CallAtlas.Documentation
