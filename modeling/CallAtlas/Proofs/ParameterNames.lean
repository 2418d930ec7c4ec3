import CallAtlas.Proofs.Indentation

/-!
# Names of parameters

Every convention has its own place for the name of a parameter: the start of an entry, all before its first colon, the
last word of a field, an attribute of a tag. `writtenNames` collects the names from these places, and a block that has a
structure has exactly these names in this order. In the text conventions an entry without a name is a fault, so every
name is there; it is one word, or the trimmed start of a line in an underlined section. A tag is taken as it is: its
name may be missing or hold blanks of any kind.
-/

namespace CallAtlas.Documentation

open Text Markup

/-! ## Names in a text -/

/-- The lines that open an entry. -/
def headLines (body : List Line) : List Line := body.filter fun line => !isAllBlank line && !isIndented line

/-- A name, unless it is empty. -/
def given? (name : List Char) : Option (List Char) := if name.isEmpty then none else some name

/-- The names that a part of a text gives to parameters, `none` where a name is missing. -/
def Part.names : Part → List (Option (List Char))
  | .colon .parameters body => (headLines (dedent body)).map fun head => (entryName? head).map (·.1)
  | .ruled .parameters body => (headLines body).map fun head => given? (trim (head.takeWhile (· != ':')))
  | .field line _ =>
    match (fieldParts? (trim line)).map fun found => words found.1 with
    | some (kind :: names) =>
      if parameterFields.contains (String.ofList (lowerChars kind)) then [names.getLast?] else []
    | _ => []
  | _ => []

/-- The names that a text gives to parameters, in whatever form it is, `none` where a name is missing. -/
def writtenNames (text : List Char) : List (Option (List Char)) :=
  if hasTags text then
    match nodes? text with
    | some nodes =>
      ((memberNodes nodes).filter (·.isNamed "param")).map fun node => (node.attribute? "name").bind given?
    | none => []
  else (parts (lines (clean text))).flatMap Part.names

/-! ## Names in the text conventions -/

section Entries

variable {body : List Line} {es : List Entry}

theorem map_head_continueLast (line : Line) (es : List Entry) :
    (continueLast line es).map (·.head) = es.map (·.head) := by
  unfold continueLast
  split
  · rename_i last found
    conv_rhs => rw [← List.dropLast_append_getLast? last found]
    simp
  · rfl

/-- Every line at the margin opens an entry, and nothing else does. -/
theorem map_head_of_entries (read : entries body = .ok es) : es.map (·.head) = headLines body := by
  have run : ∀ known, body.foldlM addEntryLine known = .ok es →
      es.map (·.head) = known.map (·.head) ++ headLines body := by
    clear read
    induction body with
    | nil =>
      intro known read
      cases pure_eq_ok.1 read
      simp [headLines]
    | cons line body ih =>
      intro known read
      obtain ⟨next, step, read⟩ := foldlM_cons_eq_ok.1 read
      rw [ih next read]
      unfold addEntryLine at step
      split at step
      · rename_i blank
        cases step
        rw [map_head_continueLast]
        simp [headLines, blank]
      · rename_i spoken
        split at step
        · rename_i margin
          cases step
          have opens : (!isAllBlank line && !isIndented line) = true := by simpa [spoken] using margin
          simp [headLines, opens]
        · rename_i indented
          have more : (!isAllBlank line && !isIndented line) = false := by simpa [spoken] using indented
          split at step
          · cases step
          · cases step
            rw [map_head_continueLast]
            simp [headLines, more]
  exact run [] read

theorem headLines_dropEmptyLast (ls : List Line) : headLines (dropEmptyLast ls) = headLines ls := by
  obtain ⟨n, split⟩ := exists_append_dropEmptyLast ls
  have none : headLines (List.replicate n []) = [] := by
    rw [headLines, List.filter_eq_nil_iff]
    intro line mem
    rw [List.eq_of_mem_replicate mem]
    simp [isAllBlank]
  conv_rhs => rw [split]
  rw [headLines, headLines, List.filter_append, ← headLines, ← headLines, none, List.append_nil]

theorem name_of_colonEntry {e : Entry} {p : List Char × List Char} (read : colonEntry e = .ok p) :
    some p.1 = (entryName? e.head).map (·.1) := by
  unfold colonEntry at read
  split at read
  · rename_i name rest found
    split at read
    · cases read
      rw [found]
      rfl
    · cases read
  · cases read

theorem name_of_ruledEntryName {e : Entry} {name : List Char} (read : ruledEntryName e = .ok name) :
    some name = given? (trim (e.head.takeWhile (· != ':'))) := by
  unfold ruledEntryName at read
  dsimp only at read
  unfold given?
  split at read
  · cases read
  · rename_i nonempty
    cases read
    rw [if_neg nonempty]

end Entries

namespace Draft

/-- The names of the parameters read so far. -/
def names (d : Draft) : List (Option (List Char)) := d.parameters.map fun p => some p.1

variable {d e : Draft}

theorem names_close (d : Draft) : d.close.names = d.names := by rw [names, parameters_close, names]

theorem names_addText (d : Draft) (line : Line) : (d.addText line).names = d.names := by
  unfold addText
  split
  · exact names_close d
  · rfl

theorem names_addColon {topic : Topic} {body : List Line} (added : d.addColon topic body = .ok e) :
    e.names = d.names ++ (Part.colon topic body).names := by
  cases topic with
  | parameters =>
    obtain ⟨es, ps, read, described, rfl⟩ := bind_bind_pure_eq_ok.1 added
    have heads := map_head_of_entries read
    rw [headLines_dropEmptyLast] at heads
    rw [names, List.map_append, map_of_mapM described fun e p read => name_of_colonEntry read, Part.names, ← heads,
      List.map_map]
    rfl
  | returns =>
    cases pure_eq_ok.1 added
    exact (List.append_nil _).symm
  | remarks =>
    cases pure_eq_ok.1 added
    exact (List.append_nil _).symm
  | other =>
    cases pure_eq_ok.1 added
    exact (List.append_nil _).symm

theorem names_addRuled {topic : Topic} {body : List Line} (added : d.addRuled topic body = .ok e) :
    e.names = d.names ++ (Part.ruled topic body).names := by
  cases topic with
  | parameters =>
    obtain ⟨es, ps, read, described, rfl⟩ := bind_bind_pure_eq_ok.1 added
    have named : ∀ (e : Entry) (p : List Char × List Char), (do
        return (← ruledEntryName e, singleSpaced (flow e.more)) : Except Fault _) = .ok p →
        some p.1 = given? (trim (e.head.takeWhile (· != ':'))) := by
      intro e p made
      obtain ⟨name, read, rfl⟩ := bind_pure_eq_ok.1 made
      exact name_of_ruledEntryName read
    rw [names, List.map_append, map_of_mapM described named, Part.names, ← map_head_of_entries read, List.map_map]
    rfl
  | returns =>
    obtain ⟨es, rs, read, described, rfl⟩ := bind_bind_pure_eq_ok.1 added
    exact (List.append_nil _).symm
  | remarks =>
    cases pure_eq_ok.1 added
    exact (List.append_nil _).symm
  | other =>
    cases pure_eq_ok.1 added
    exact (List.append_nil _).symm

theorem names_addField {line : Line} {more : List Line} (added : d.addField line more = .ok e) :
    e.names = d.names ++ (Part.field line more).names := by
  unfold addField at added
  dsimp only at added
  rw [Part.names]
  split at added
  · cases added
  · rename_i label text found
    rw [found]
    dsimp only [Option.map_some]
    split at added
    · rename_i silent
      cases added
      rw [silent]
      exact (List.append_nil _).symm
    · rename_i kind others spoken
      rw [spoken]
      dsimp only
      split at added
      · rename_i described
        rw [if_pos described]
        split at added
        · rename_i name last
          cases added
          rw [last]
          simp [names]
        · cases added
      · rename_i other
        rw [if_neg other, List.append_nil]
        split at added <;> (cases added; rfl)

/-- One part adds the names that it gives. -/
theorem names_add {part : Part} (added : d.add part = .ok e) : e.names = d.names ++ part.names := by
  cases part with
  | text line =>
    cases added
    exact (names_addText d line).trans (List.append_nil _).symm
  | colon topic body =>
    obtain ⟨next, step, rfl⟩ := map_eq_ok.1 added
    rw [names_close, names_addColon step]
  | ruled topic body =>
    obtain ⟨next, step, rfl⟩ := map_eq_ok.1 added
    rw [names_close, names_addRuled step]
  | field line more =>
    obtain ⟨next, step, rfl⟩ := map_eq_ok.1 added
    rw [names_close, names_addField step]

/-- A whole text adds the names that its parts give. -/
theorem names_foldlM {ps : List Part} (read : ps.foldlM add d = .ok e) :
    e.names = d.names ++ ps.flatMap Part.names := by
  induction ps generalizing d with
  | nil =>
    cases pure_eq_ok.1 read
    exact (List.append_nil _).symm
  | cons part ps ih =>
    obtain ⟨next, step, read⟩ := foldlM_cons_eq_ok.1 read
    rw [ih read, names_add step, List.flatMap_cons, List.append_assoc]

end Draft

theorem exists_names_of_ofText {text : List Char} {b : Block} (read : ofText text = .ok b) :
    ∃ names : List (List Char), (parts (lines (clean text))).flatMap Part.names = names.map some ∧
      b.parameters.map (·.1) = names.map String.ofList := by
  obtain ⟨d, run, rfl⟩ := map_eq_ok.1 read
  refine ⟨d.parameters.map (·.1), ?_, ?_⟩
  · have listed := Draft.names_foldlM run
    rw [List.map_map]
    exact listed.symm
  · simp [Draft.block]

/-! ## The form of a name -/

theorem isSolid_of_entryName? {line name rest : List Char} (found : entryName? line = some (name, rest)) :
    IsSolid name := by
  unfold entryName? at found
  dsimp only at found
  split at found
  · rename_i c cs after
    split at found
    · rename_i start
      cases found
      refine ⟨by simp, fun d mem => ?_⟩
      rcases List.mem_append.1 mem with mem | mem
      · have star := List.mem_takeWhile_imp (List.mem_of_mem_take mem)
        rw [eq_of_beq star]
        decide
      · rcases List.mem_cons.1 mem with rfl | mem
        · exact isBlank_of_isNameStart start
        · have inside := List.mem_takeWhile_imp mem
          rw [Bool.or_eq_true, beq_iff_eq] at inside
          rcases inside with word | rfl
          · exact isBlank_of_isWord word
          · decide
    · cases found
  · cases found

theorem given?_eq_some {name cs : List Char} : given? name = some cs ↔ name ≠ [] ∧ name = cs := by
  unfold given?
  split
  · rename_i none
    simp [List.isEmpty_iff.1 none]
  · rename_i nonempty
    simp [List.isEmpty_iff.not.1 nonempty]

/-- The name that a line of an underlined section starts with. -/
def Part.IsRuledName (part : Part) (name : List Char) : Prop :=
  ∃ body line, part = .ruled .parameters body ∧ line ∈ body ∧ name = trim (line.takeWhile (· != ':')) ∧ name ≠ []

theorem Part.isSolid_of_mem_names {part : Part} {name : List Char} (mem : some name ∈ part.names) :
    IsSolid name ∨ part.IsRuledName name := by
  unfold Part.names at mem
  split at mem
  · obtain ⟨head, -, named⟩ := List.mem_map.1 mem
    obtain ⟨⟨found, rest⟩, read, rfl⟩ := Option.map_eq_some_iff.1 named
    exact Or.inl (isSolid_of_entryName? read)
  · rename_i body
    obtain ⟨head, held, named⟩ := List.mem_map.1 mem
    obtain ⟨nonempty, rfl⟩ := given?_eq_some.1 named
    exact Or.inr ⟨body, head, rfl, (List.mem_filter.1 held).1, rfl, nonempty⟩
  · split at mem
    · rename_i kind names spoken
      split at mem
      · obtain ⟨⟨label, text⟩, -, said⟩ := Option.map_eq_some_iff.1 spoken
        have last : names.getLast? = some name := (List.mem_singleton.1 mem).symm
        have word : name ∈ words label := by
          rw [said]
          exact List.mem_cons_of_mem _ (List.mem_of_mem_getLast? last)
        exact Or.inl (isSolid_of_mem_words word)
      · cases mem
    · cases mem
  · cases mem

theorem singleSpaced_of_isSolid {name : List Char} (solid : IsSolid name) : singleSpaced name = name := by
  rw [singleSpaced, words_of_isSolid solid, joinWith_singleton]

theorem ne_nil_of_mem_writtenNames {text name : List Char} (mem : some name ∈ writtenNames text) : name ≠ [] := by
  unfold writtenNames at mem
  split at mem
  · split at mem
    · obtain ⟨node, -, named⟩ := List.mem_map.1 mem
      obtain ⟨value, -, given⟩ := Option.bind_eq_some_iff.1 named
      obtain ⟨nonempty, rfl⟩ := given?_eq_some.1 given
      exact nonempty
    · cases mem
  · obtain ⟨part, -, mem⟩ := List.mem_flatMap.1 mem
    rcases part.isSolid_of_mem_names mem with solid | ⟨-, -, -, -, -, nonempty⟩
    · exact solid.1
    · exact nonempty

theorem writtenNames_of_blank {text : List Char} (blank : isAllBlank text = true) : writtenNames text = [] := by
  have untagged : hasTags text = false := by
    have none : trimStart text = [] := List.dropWhile_eq_nil_iff.2 (List.all_eq_true.1 blank)
    rw [hasTags, none]
    rfl
  have silent : ∀ line ∈ lines (clean text), isAllBlank line = true := by
    have none := flatMap_words_lines_clean text
    rw [words_eq_nil_iff.2 blank, List.flatMap_eq_nil_iff] at none
    exact fun line mem => words_eq_nil_iff.1 (none line mem)
  rw [writtenNames, untagged, parts_blank silent, List.flatMap_map]
  exact List.flatMap_eq_nil_iff.2 fun line _ => rfl

/-! ## Names in a block -/

theorem ofMarkup_eq_ok {text : List Char} {b : Block} :
    ofMarkup text = .ok b ↔ ∃ nodes, nodes? text = some nodes ∧ ofNodes nodes = b := by
  unfold ofMarkup
  split
  · rename_i nodes found
    simp [found]
  · rename_i none
    simp [none]

/-- A structure has the names that are written in its text. -/
theorem names_of_structured {text : List Char} {b : Block} (read : structured text = .ok b) :
    b.parameters.map (·.1) = (writtenNames text).map fun name => String.ofList (name.getD []) := by
  unfold structured at read
  unfold writtenNames
  split at read
  · rename_i tagged
    obtain ⟨nodes, found, rfl⟩ := ofMarkup_eq_ok.1 read
    have same : ∀ value : Option (List Char), (value.bind given?).getD [] = value.getD [] := by
      rintro (- | - | ⟨c, cs⟩) <;> rfl
    rw [if_pos tagged, found]
    simp [ofNodes, same]
  · rename_i untagged
    obtain ⟨names, written, listed⟩ := exists_names_of_ofText read
    rw [if_neg untagged, written, listed]
    simp

/-- What the names in the block of a payload are. -/
structure NamesParameters (payload : Option String) (b : Block) : Prop where
  /-- A structure has the names that are written, in their order; a missing name is empty. -/
  listed : b.isRaw = false → b.parameters.map (·.1) =
    (payload.toList.flatMap fun text => writtenNames text.toList).map fun name => String.ofList (name.getD [])
  /-- They are in normal form exactly if they are all written, and in normal form. -/
  normal : b.isRaw = false → ((∀ p ∈ b.parameters, IsNormal p.1) ↔
    ∀ text ∈ payload, ∀ name ∈ writtenNames text.toList, ∃ cs, name = some cs ∧ singleSpaced cs = cs)
  /-- Without tags a missing name is a fault. -/
  recovered : ∀ text ∈ payload, hasTags text.toList = false → none ∈ writtenNames text.toList → b = .ofRaw (strip text)
  /-- Without tags a name is on one line without blanks around it, and in normal form outside underlined sections. -/
  named : ∀ text ∈ payload, hasTags text.toList = false → b.isRaw = false → ∀ p ∈ b.parameters,
    p.1 ≠ "" ∧ trim p.1.toList = p.1.toList ∧ (∀ c ∈ p.1.toList, isLineEnd c = false) ∧
      (IsNormal p.1 ∨ ∃ part ∈ parts (lines (clean text.toList)), part.IsRuledName p.1.toList)
  /-- With tags a missing name is no fault: the structure stays, with an empty name. -/
  unnamed : ∀ text ∈ payload, hasTags text.toList = true → none ∈ writtenNames text.toList →
    b.isRaw = false ∧ ∃ p ∈ b.parameters, p.1 = ""

theorem namesParameters_nothing {payload : Option String}
    (silent : ∀ text ∈ payload, isAllBlank text.toList = true) : NamesParameters payload {} := by
  have none : ∀ text ∈ payload, writtenNames text.toList = [] := fun text mem => writtenNames_of_blank (silent text mem)
  constructor
  · intro _
    cases payload with
    | none => rfl
    | some text => simp [none text rfl]
  · intro _
    simp +contextual [none]
  · intro text mem _ missing
    simp [none text mem] at missing
  · intro text mem _ _ p held
    cases held
  · intro text mem _ missing
    simp [none text mem] at missing

theorem isNormal_ofList_iff {name : Option (List Char)} (nonempty : ∀ cs ∈ name, cs ≠ []) :
    IsNormal (String.ofList (name.getD [])) ↔ ∃ cs, name = some cs ∧ singleSpaced cs = cs := by
  cases name with
  | none => simpa using fun normal : IsNormal (String.ofList []) => by cases normal.nonempty
  | some cs =>
    constructor
    · intro normal
      exact ⟨cs, rfl, by simpa using normal.spaced⟩
    · rintro ⟨ds, ⟨⟩, spaced⟩
      exact ⟨by simpa using nonempty cs rfl, by simpa using spaced⟩

theorem trim_trim (cs : List Char) : trim (trim cs) = trim cs :=
  trim_of_ends (fun _ mem => isBlank_of_mem_head?_trim mem) fun _ mem => isBlank_of_mem_getLast?_trimEnd mem

theorem isLineEnd_of_solid {c : Char} (solid : isBlank c = false) : isLineEnd c = false := by
  by_contra ended
  rw [isBlank_of_isLineEnd (by simpa using ended)] at solid
  cases solid

theorem named_of_ofText {text : List Char} {b : Block} (read : ofText text = .ok b) {p : String × String}
    (mem : p ∈ b.parameters) : p.1 ≠ "" ∧ trim p.1.toList = p.1.toList ∧ (∀ c ∈ p.1.toList, isLineEnd c = false) ∧
      (IsNormal p.1 ∨ ∃ part ∈ parts (lines (clean text)), part.IsRuledName p.1.toList) := by
  obtain ⟨names, written, listed⟩ := exists_names_of_ofText read
  have held : p.1 ∈ names.map String.ofList := by
    rw [← listed]
    exact List.mem_map_of_mem mem
  obtain ⟨name, held, same⟩ := List.mem_map.1 held
  have given : some name ∈ (parts (lines (clean text))).flatMap Part.names := by
    rw [written]
    exact List.mem_map_of_mem held
  obtain ⟨part, inside, named⟩ := List.mem_flatMap.1 given
  rw [← same, String.toList_ofList]
  rcases part.isSolid_of_mem_names named with solid | ruled
  · refine ⟨by simpa using solid.1, ?_, fun c mem => isLineEnd_of_solid (solid.2 c mem), Or.inl ?_⟩
    · exact trim_of_ends (fun c mem => solid.2 c (List.mem_of_mem_head? mem)) fun c mem =>
        solid.2 c (List.mem_of_mem_getLast? mem)
    · exact ⟨by simpa using solid.1, by simpa using singleSpaced_of_isSolid solid⟩
  · obtain ⟨body, line, rfl, above, rfl, nonempty⟩ := id ruled
    refine ⟨by simpa using nonempty, trim_trim _, fun c mem => ?_, Or.inr ⟨_, inside, ruled⟩⟩
    have stands : c ∈ line := (List.takeWhile_prefix _).subset (mem_of_mem_trim mem)
    exact isLineEnd_of_mem_lines (mem_of_mem_parts inside above) stands

theorem namesParameters_structured {text : String} {b : Block} (read : structured text.toList = .ok b) :
    NamesParameters (some text) b := by
  have listed := names_of_structured read
  have whole : b.isRaw = false := by rw [Block.isRaw, (isNormal_of_structured read).2]; rfl
  have untagged : hasTags text.toList = false → ofText text.toList = .ok b := fun plain => by
    rwa [structured, if_neg (by simp [plain])] at read
  constructor
  · intro _
    simpa using listed
  · intro _
    have both : (∀ p ∈ b.parameters, IsNormal p.1) ↔ ∀ name ∈ b.parameters.map (·.1), IsNormal name := by simp
    rw [both, listed, List.forall_mem_map]
    simp only [Option.mem_def, Option.some.injEq, forall_eq']
    refine forall₂_congr fun name mem => isNormal_ofList_iff ?_
    rintro cs ⟨⟩
    exact ne_nil_of_mem_writtenNames mem
  · rintro _ ⟨⟩ plain missing
    obtain ⟨names, written, -⟩ := exists_names_of_ofText (untagged plain)
    rw [writtenNames, plain, if_neg (by simp), written] at missing
    simp at missing
  · rintro _ ⟨⟩ plain _ p mem
    exact named_of_ofText (untagged plain) mem
  · rintro _ ⟨⟩ _ missing
    refine ⟨whole, ?_⟩
    have empty : "" ∈ b.parameters.map (·.1) := by
      rw [listed]
      exact List.mem_map.2 ⟨none, missing, rfl⟩
    obtain ⟨p, mem, same⟩ := List.mem_map.1 empty
    exact ⟨p, mem, same⟩

theorem namesParameters_ofRaw {text : String}
    (silent : ∀ b, structured text.toList = .ok b → b.isEmpty = true) :
    NamesParameters (some text) (.ofRaw (strip text)) := by
  have raw : (Block.ofRaw (strip text)).isRaw = true := rfl
  constructor
  · simp [raw]
  · simp [raw]
  · rintro _ ⟨⟩ _ _
    rfl
  · simp [raw]
  · rintro _ ⟨⟩ tagged missing
    -- well-formed tags with a parameter say something, so they are not kept whole
    obtain ⟨nodes, found⟩ : ∃ nodes, nodes? text.toList = some nodes := by
      rw [← Option.isSome_iff_exists, Option.isSome_iff_ne_none]
      intro malformed
      rw [writtenNames, if_pos tagged, malformed] at missing
      cases missing
    have read : structured text.toList = .ok (ofNodes nodes) := by
      rw [structured, if_pos tagged]
      exact ofMarkup_eq_ok.2 ⟨nodes, found, rfl⟩
    obtain ⟨-, p, mem, -⟩ := (namesParameters_structured read).unnamed text rfl tagged missing
    have said : (ofNodes nodes).parameters.isEmpty = false := by simpa using List.ne_nil_of_mem mem
    have empty := silent _ read
    simp [Block.isEmpty, said] at empty

/-- **Parameters have the names that are written**: in the text conventions every parameter of a structure has a name,
on one line and in normal form outside underlined sections, and a text with a nameless entry is kept whole. Names in
tags are taken as they are. -/
theorem parameter_names (payload : Option String) : NamesParameters payload (extract payload) := by
  cases payload with
  | none => exact namesParameters_nothing (by simp)
  | some text =>
    cases spoken : isAllBlank text.toList with
    | true =>
      have nothing : extract (some text) = {} := by simp [extract, extractText, spoken]
      rw [nothing]
      exact namesParameters_nothing (by simpa using spoken)
    | false =>
      rcases extract_cases spoken with ⟨raw, silent⟩ | ⟨read, -⟩
      · rw [raw]
        exact namesParameters_ofRaw silent
      · exact namesParameters_structured read

/-- A tag without a name is kept, and so are the blanks inside a name, in a tag and in an underlined section. -/
theorem odd_parameter_names :
    extract (some "<param>text</param>") = { parameters := [("", "text")] } ∧
    extract (some "<param name=' a&#10;b'/>") = { parameters := [(" a\nb", "")] } ∧
    extract (some "Parameters\n---\na  b : int\n") = { parameters := [("a  b", "")] } := by
  decide +kernel

end CallAtlas.Documentation
