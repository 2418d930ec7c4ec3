import CallAtlas.Markup.Reader
import CallAtlas.Proofs.Spacing

/-!
# Writing and reading tags

Text between tags is written with references for the three characters that tags are made of, and is read back as it
was; so is an element with such a text, with or without an attribute. A run of elements then reads as exactly these
elements, whatever line feeds stand between them. The reader takes a bound on its rounds, and every lemma is stated for
all bounds beyond the length of what is read.
-/

namespace CallAtlas.Markup

open Text

/-! ## Names -/

/-- Can be read as a name. -/
def isTagName : List Char → Bool
  | [] => false
  | c :: cs => isNameStart c && cs.all isNameChar

section Names

variable {label rest : List Char} (named : isTagName label = true)
include named

theorem exists_of_isTagName : ∃ first others, label = first :: others ∧ isNameStart first = true ∧
    ∀ c ∈ others, isNameChar c = true := by
  cases label with
  | nil => cases named
  | cons first others =>
    obtain ⟨start, inside⟩ := Bool.and_eq_true_iff.1 named
    exact ⟨first, others, rfl, start, List.all_eq_true.1 inside⟩

theorem simpleName?_append (outside : ∀ c ∈ rest.head?, isNameChar c = false) :
    simpleName? (label ++ rest) = some (label, rest) := by
  obtain ⟨first, others, rfl, start, inside⟩ := exists_of_isTagName named
  rw [List.cons_append, simpleName?, if_pos start, takeWhile_append_of_stop inside outside,
    dropWhile_append_of_stop inside outside]

theorem rawName?_append (outside : ∀ c ∈ rest.head?, isNameChar c = false) (colon : rest.head? ≠ some ':') :
    rawName? (label ++ rest) = some ({ label }, rest) := by
  rw [rawName?, simpleName?_append named outside]
  cases rest with
  | nil => rfl
  | cons c rest =>
    have other : c ≠ ':' := by simpa using colon
    simp only [Option.bind_eq_bind, Option.bind_some]
    split
    · rename_i more same
      cases same
      exact absurd rfl other
    · rfl

theorem reference?_append {c : Char} (known : entities.lookup (String.ofList label) = some c) (rest : List Char) :
    reference? (label ++ ';' :: rest) = some (c, rest) := by
  have read : simpleName? (label ++ ';' :: rest) = some (label, ';' :: rest) := by
    refine simpleName?_append named ?_
    rintro d ⟨⟩
    decide +kernel
  obtain ⟨first, others, rfl, start, inside⟩ := exists_of_isTagName named
  have hash : first ≠ '#' := by
    rintro rfl
    revert start
    decide
  rw [reference?]
  · rw [read]
    simp only [Option.bind_eq_bind, Option.bind_some, known]
    rfl
  · intro more same
    exact hash (List.cons.inj same).1
  · intro more same
    exact hash (List.cons.inj same).1

end Names

/-! ## Text between tags -/

/-- How a character is written between tags. -/
def escapeChar (c : Char) : List Char :=
  if c = '&' then "&amp;".toList else if c = '<' then "&lt;".toList else if c = '>' then "&gt;".toList else [c]

/-- How text is written between tags. -/
def escape (text : List Char) : List Char := text.flatMap escapeChar

/-- Is written as it is. -/
def isOrdinary (c : Char) : Bool := c != '&' && c != '<' && c != '>'

/-- Text that tags can hold and that no rule on line ends changes. -/
def IsLegalText (text : List Char) : Prop := ∀ c ∈ text, isLegal c = true ∧ c ≠ '\r'

theorem IsLegalText.append_right {front back : List Char} (legal : IsLegalText (front ++ back)) : IsLegalText back :=
  fun c mem => legal c (List.mem_append_right _ mem)

theorem IsLegalText.append_left {front back : List Char} (legal : IsLegalText (front ++ back)) : IsLegalText front :=
  fun c mem => legal c (List.mem_append_left _ mem)

theorem escape_of_isOrdinary {text : List Char} (ordinary : ∀ c ∈ text, isOrdinary c = true) : escape text = text := by
  induction text with
  | nil => rfl
  | cons c text ih =>
    obtain ⟨first, others⟩ := List.forall_mem_cons.1 ordinary
    have single : escapeChar c = [c] := by
      simp only [isOrdinary, Bool.and_eq_true, bne_iff_ne] at first
      simp [escapeChar, first.1.1, first.1.2, first.2]
    rw [escape, List.flatMap_cons, single, ← escape, ih others]
    rfl

/-- A character that is not written as it is stands as a reference. -/
theorem exists_escapeChar {c : Char} (special : isOrdinary c = false) :
    ∃ label, escapeChar c = '&' :: (label ++ [';']) ∧
    isTagName label = true ∧ entities.lookup (String.ofList label) = some c := by
  simp only [isOrdinary, Bool.and_eq_false_iff, bne_eq_false_iff_eq] at special
  rcases special with (rfl | rfl) | rfl
  · exact ⟨"amp".toList, by decide, by decide +kernel, by decide⟩
  · exact ⟨"lt".toList, by decide, by decide +kernel, by decide⟩
  · exact ⟨"gt".toList, by decide, by decide +kernel, by decide⟩

theorem dropFront?_eq_none {mark cs : List Char} {c : Char} (mem : c ∈ mark) (free : c ∉ cs) :
    dropFront? mark cs = none := by
  rw [dropFront?, if_neg]
  intro front
  exact free ((List.isPrefixOf_iff_prefix.1 front).subset mem)

theorem cutAt?_eq_none {mark cs : List Char} {c : Char} (mem : c ∈ mark) (free : c ∉ cs) : cutAt? mark cs = none := by
  induction cs with
  | nil =>
    cases mark with
    | nil => cases mem
    | cons d mark => rfl
  | cons d cs ih =>
    rw [cutAt?, dropFront?_eq_none mem free, ih fun held => free (List.mem_cons_of_mem _ held)]
    rfl

theorem unifyLineEnds_of_not_mem {cs : List Char} (h : '\r' ∉ cs) : unifyLineEnds cs = cs := by
  induction cs with
  | nil => rfl
  | cons c cs ih =>
    obtain ⟨other, rest⟩ := not_or.1 (List.mem_cons.not.1 h)
    rw [unifyLineEnds, ih rest]
    · intro more same
      exact absurd same.symm other
    · intro same
      exact absurd same.symm other

section Content

variable {rounds : Nat} {bs : Bindings} {rest : List Char}

theorem content?_plain {plain : List Char} (nonempty : plain ≠ []) (inside : ∀ c ∈ plain, isPlain c = true)
    (outside : ∀ c ∈ rest.head?, isPlain c = false) (legal : IsLegalText plain) (bracket : '>' ∉ plain) :
    content? (rounds + 1) bs (plain ++ rest) =
      (content? rounds bs rest).map fun found => (.text plain :: found.1, found.2) := by
  have whole : isPlainText plain = true := by
    rw [isPlainText, cutAt?_eq_none (by decide : '>' ∈ [']', ']', '>']) bracket, Bool.and_eq_true]
    exact ⟨List.all_eq_true.2 fun c mem => (legal c mem).1, rfl⟩
  have same : unifyLineEnds plain = plain := unifyLineEnds_of_not_mem fun mem => (legal _ mem).2 rfl
  have taken := takeWhile_append_of_stop inside outside
  have left := dropWhile_append_of_stop inside outside
  obtain ⟨c, cs, rfl⟩ := List.exists_cons_of_ne_nil nonempty
  have ordinary : c ≠ '<' ∧ c ≠ '&' := by simpa [isPlain] using inside c List.mem_cons_self
  rw [List.cons_append] at taken left ⊢
  rw [content?]
  · rw [taken, left, whole, same]
    cases content? rounds bs rest <;> rfl
  -- no tag and no reference starts with this character
  all_goals simp [ordinary.1, ordinary.2]

theorem content?_reference {label : List Char} {c : Char} (named : isTagName label = true)
    (known : entities.lookup (String.ofList label) = some c) :
    content? (rounds + 1) bs ('&' :: (label ++ ';' :: rest)) =
      (content? rounds bs rest).map fun found => (.text [c] :: found.1, found.2) := by
  rw [content?, reference?_append named known]
  simp only [Option.bind_eq_bind, Option.bind_some]
  cases content? rounds bs rest <;> rfl

/-- A run of ordinary characters in front, and what follows it. -/
theorem exists_ordinary_append (text : List Char) : ∃ plain others, text = plain ++ others ∧
    (∀ c ∈ plain, isOrdinary c = true) ∧ ∀ c ∈ others.head?, isOrdinary c = false := by
  refine ⟨text.takeWhile isOrdinary, text.dropWhile isOrdinary, List.takeWhile_append_dropWhile.symm, ?_, ?_⟩
  · exact fun c mem => List.mem_takeWhile_imp mem
  · intro c mem
    have first := List.head?_dropWhile_not isOrdinary text
    rw [Option.mem_def.1 mem] at first
    exact first

theorem isPlain_of_mem_head?_escape {others tail : List Char} (special : ∀ c ∈ others.head?, isOrdinary c = false) :
    ∀ c ∈ (escape others ++ '<' :: tail).head?, isPlain c = false := by
  cases others with
  | nil =>
    rintro c ⟨⟩
    rfl
  | cons d others =>
    obtain ⟨label, written, -⟩ := exists_escapeChar (special d rfl)
    simp [escape, written, isPlain]

/-- Escaped text before an end tag is read back, in one piece or in several. -/
def ReadsText (rounds : Nat) (bs : Bindings) (text tail : List Char) : Prop :=
  ∃ nodes, content? rounds bs (escape text ++ '<' :: '/' :: tail) = some (nodes, '<' :: '/' :: tail) ∧
    Node.textOfAll nodes = text

theorem ReadsText.special {c : Char} {text tail : List Char} (special : isOrdinary c = false)
    (read : ReadsText rounds bs text tail) : ReadsText (rounds + 1) bs (c :: text) tail := by
  obtain ⟨nodes, read, same⟩ := read
  obtain ⟨label, written, named, known⟩ := exists_escapeChar special
  have shape : escape (c :: text) ++ '<' :: '/' :: tail =
      '&' :: (label ++ ';' :: (escape text ++ '<' :: '/' :: tail)) := by
    simp [escape, written]
  refine ⟨.text [c] :: nodes, ?_, ?_⟩
  · rw [shape, content?_reference named known, read]
    rfl
  · rw [Node.textOfAll, same]
    rfl

theorem ReadsText.ordinary {plain others tail : List Char} (nonempty : plain ≠ [])
    (inside : ∀ c ∈ plain, isOrdinary c = true) (outside : ∀ c ∈ others.head?, isOrdinary c = false)
    (legal : IsLegalText plain) (read : ReadsText rounds bs others tail) :
    ReadsText (rounds + 1) bs (plain ++ others) tail := by
  obtain ⟨nodes, read, same⟩ := read
  have shape : escape (plain ++ others) ++ '<' :: '/' :: tail = plain ++ (escape others ++ '<' :: '/' :: tail) := by
    rw [escape, List.flatMap_append, ← escape, ← escape, escape_of_isOrdinary inside, List.append_assoc]
  have bracket : '>' ∉ plain := by
    intro mem
    cases inside _ mem
  have plainly : ∀ c ∈ plain, isPlain c = true := by
    intro c mem
    have found := inside c mem
    simp only [isOrdinary, Bool.and_eq_true] at found
    simp [isPlain, found.1.1, found.1.2]
  refine ⟨.text plain :: nodes, ?_, ?_⟩
  · rw [shape, content?_plain nonempty plainly (isPlain_of_mem_head?_escape outside) legal bracket, read]
    rfl
  · rw [Node.textOfAll, same]
    rfl

theorem readsText {text : List Char} (legal : IsLegalText text) (tail : List Char) (enough : text.length < rounds) :
    ReadsText rounds bs text tail := by
  induction h : text.length using Nat.strong_induction_on generalizing text rounds with
  | _ length ih =>
    subst h
    obtain ⟨rounds, rfl⟩ := Nat.exists_eq_succ_of_ne_zero (by omega : rounds ≠ 0)
    -- one round reads either all ordinary characters in front or a reference
    obtain ⟨plain, others, rfl, inside, outside⟩ := exists_ordinary_append text
    cases plain with
    | nil =>
      rw [List.nil_append] at legal enough ih ⊢
      cases others with
      | nil => exact ⟨[], by simp [escape, content?], rfl⟩
      | cons c others =>
        rw [List.length_cons] at enough ih
        refine ReadsText.special (outside c rfl) ?_
        exact ih others.length (by omega) (fun d mem => legal d (List.mem_cons_of_mem _ mem)) (by omega) rfl
    | cons c plain =>
      rw [List.length_append, List.length_cons] at enough ih
      refine ReadsText.ordinary (List.cons_ne_nil _ _) inside outside legal.append_left ?_
      exact ih others.length (by omega) legal.append_right (by omega) rfl

end Content

/-! ## Elements -/

/-- An element with text and nothing else inside, and perhaps a `name` attribute. -/
structure Tag where
  label : List Char
  name? : Option (List Char) := none
  text : List Char
  deriving Repr, DecidableEq

namespace Tag

/-- How the attribute of an element is written. -/
def attributeChars (t : Tag) : List Char :=
  match t.name? with
  | some value => " name=\"".toList ++ (value ++ ['"'])
  | none => []

/-- How an element is written. -/
def chars (t : Tag) : List Char :=
  '<' :: (t.label ++ (t.attributeChars ++ '>' :: (escape t.text ++ '<' :: '/' :: (t.label ++ ['>']))))

/-- The attributes of an element. -/
def attributes (t : Tag) : List (Name × List Char) :=
  match t.name? with
  | some value => [({ label := "name" }, value)]
  | none => []

/-- A value that is written as it is between quotes. -/
def IsLegalValue (value : List Char) : Prop :=
  ∀ c ∈ value, isLegal c = true ∧ isTagBlank c = false ∧ c ≠ '"' ∧ c ≠ '&' ∧ c ≠ '<'

/-- Can be written as it is. -/
structure IsLegal (t : Tag) : Prop where
  label : isTagName t.label = true
  name? : ∀ value ∈ t.name?, IsLegalValue value
  text : IsLegalText t.text

end Tag

theorem attributeValue?_append {value : List Char} (legal : Tag.IsLegalValue value) (rest : List Char) {rounds : Nat}
    (enough : value.length < rounds) : attributeValue? rounds '"' (value ++ '"' :: rest) = some (value, rest) := by
  induction value generalizing rounds with
  | nil =>
    obtain ⟨rounds, rfl⟩ := Nat.exists_eq_succ_of_ne_zero (by omega : rounds ≠ 0)
    rfl
  | cons c value ih =>
    rw [List.length_cons] at enough
    obtain ⟨rounds, rfl⟩ := Nat.exists_eq_succ_of_ne_zero (by omega : rounds ≠ 0)
    obtain ⟨⟨allowed, blank, quote, ampersand, bracket⟩, others⟩ := List.forall_mem_cons.1 legal
    have feed : c ≠ '\r' := by
      rintro rfl
      cases blank
    rw [List.cons_append, attributeValue?]
    simp [quote, ampersand, bracket, allowed, blank, feed, ih others (by omega : value.length < rounds)]

theorem attribute?_append {value : List Char} (legal : Tag.IsLegalValue value) (rest : List Char) :
    attribute? ("name".toList ++ '=' :: '"' :: (value ++ '"' :: rest)) =
      some (({ label := "name".toList }, value), rest) := by
  have name : rawName? ("name".toList ++ '=' :: '"' :: (value ++ '"' :: rest)) =
      some ({ label := "name".toList }, '=' :: '"' :: (value ++ '"' :: rest)) := by
    refine rawName?_append (by decide +kernel) ?_ (by simp)
    rintro c ⟨⟩
    decide +kernel
  have enough : value.length < (value ++ '"' :: rest).length + 1 := by
    rw [List.length_append]
    omega
  have read := attributeValue?_append legal rest enough
  have equals : skipTagBlanks ('=' :: '"' :: (value ++ '"' :: rest)) = '=' :: '"' :: (value ++ '"' :: rest) := rfl
  have quote : skipTagBlanks ('"' :: (value ++ '"' :: rest)) = '"' :: (value ++ '"' :: rest) := rfl
  rw [attribute?, name]
  simp only [Option.bind_eq_bind, Option.bind_some, equals, quote, read]
  rfl

/-- The attributes of a start tag are read up to its end. -/
theorem attributes?_attributeChars {t : Tag} (legal : t.IsLegal) (rest : List Char) (rounds : Nat) :
    attributes? (rounds + 2) (t.attributeChars ++ '>' :: rest) =
      some ((t.name?.toList.map fun value => ({ label := "name".toList }, value), false), rest) := by
  cases found : t.name? with
  | none =>
    rw [Tag.attributeChars, found]
    rfl
  | some value =>
    have shape : t.attributeChars ++ '>' :: rest =
        ' ' :: ("name".toList ++ '=' :: '"' :: (value ++ '"' :: '>' :: rest)) := by
      simp [Tag.attributeChars, found]
    have start : skipTagBlanks (' ' :: ("name".toList ++ '=' :: '"' :: (value ++ '"' :: '>' :: rest))) =
        "name".toList ++ '=' :: '"' :: (value ++ '"' :: '>' :: rest) := rfl
    have read := attribute?_append (legal.name? value found) ('>' :: rest)
    rw [shape, attributes?, start]
    split
    · rename_i same
      cases same
    · rename_i same
      cases same
    · rw [read, if_neg (by simp [isTagBlank])]
      rfl

theorem dropFront?_append (front back : List Char) : dropFront? front (front ++ back) = some back := by
  rw [dropFront?, if_pos (by simp), List.drop_left]

theorem endTag?_append (label rest : List Char) :
    endTag? { label } ('<' :: '/' :: (label ++ '>' :: rest)) = some rest := by
  have front := dropFront?_append ('<' :: '/' :: label) ('>' :: rest)
  rw [endTag?, RawName.chars]
  simp only [List.cons_append] at front
  rw [front]
  rfl

/-- An attribute called `name` binds no qualifier and keeps its name. -/
theorem attributes_of_tag (t : Tag) :
    Bindings.start.extend (t.name?.toList.map fun value => ({ label := "name".toList }, value)) = some Bindings.start ∧
      Bindings.start.attributes? (t.name?.toList.map fun value => ({ label := "name".toList }, value)) =
        some t.attributes := by
  rw [Tag.attributes]
  cases t.name? with
  | none => exact ⟨rfl, rfl⟩
  | some value => exact ⟨rfl, rfl⟩

theorem head?_attributeChars (t : Tag) (rest : List Char) :
    ∀ c ∈ (t.attributeChars ++ '>' :: rest).head?, c = ' ' ∨ c = '>' := by
  rw [Tag.attributeChars]
  cases t.name? with
  | none =>
    rintro c ⟨⟩
    exact Or.inr rfl
  | some value =>
    rintro c ⟨⟩
    exact Or.inl rfl

theorem rawName?_tag {t : Tag} (legal : t.IsLegal) (body : List Char) :
    rawName? (t.label ++ (t.attributeChars ++ '>' :: body)) =
      some ({ label := t.label }, t.attributeChars ++ '>' :: body) := by
  have ends := head?_attributeChars t body
  refine rawName?_append legal.label ?_ ?_
  · intro c mem
    rcases ends c mem with rfl | rfl
    · decide +kernel
    · decide +kernel
  · intro colon
    rcases ends ':' colon with same | same
    · cases same
    · cases same

theorem attributes?_tag {t : Tag} (legal : t.IsLegal) (body : List Char) :
    attributes? ((t.attributeChars ++ '>' :: body).length + 1) (t.attributeChars ++ '>' :: body) =
      some ((t.name?.toList.map fun value => ({ label := "name".toList }, value), false), body) := by
  have count : (t.attributeChars ++ '>' :: body).length + 1 = t.attributeChars.length + body.length + 2 := by
    simp only [List.length_append, List.length_cons]
    omega
  rw [count, attributes?_attributeChars legal]

/-- An element is read back, before whatever follows it. -/
theorem exists_content?_chars {t : Tag} (legal : t.IsLegal) {rounds : Nat} (enough : t.text.length < rounds)
    {rest after : List Char} {nodes : List Node} (read : content? rounds Bindings.start rest = some (nodes, after)) :
    ∃ children, content? (rounds + 1) Bindings.start (t.chars ++ rest) =
      some (.element { label := String.ofList t.label } t.attributes children :: nodes, after) ∧
        Node.textOfAll children = t.text := by
  obtain ⟨children, inside, same⟩ := @readsText rounds Bindings.start t.text legal.text (t.label ++ '>' :: rest) enough
  refine ⟨children, ?_, same⟩
  have shape : t.chars ++ rest = '<' :: (t.label ++ (t.attributeChars ++ '>' ::
      (escape t.text ++ '<' :: '/' :: (t.label ++ '>' :: rest)))) := by
    simp [Tag.chars]
  generalize written : escape t.text ++ '<' :: '/' :: (t.label ++ '>' :: rest) = body at shape inside
  obtain ⟨bound, given⟩ := attributes_of_tag t
  obtain ⟨first, others, front, start, -⟩ := exists_of_isTagName legal.label
  rw [shape, content?]
  · rw [rawName?_tag legal]
    simp only [Option.bind_eq_bind, Option.bind_some]
    rw [attributes?_tag legal]
    simp only [Option.bind_some, bound, given, inside, endTag?_append, read]
    rfl
  -- what follows the bracket is no slash, exclamation or question mark, since a name starts there
  all_goals
    intro more same
    rw [front] at same
    cases (List.cons.inj same).1
    revert start
    decide

/-! ## Runs of elements -/

/-- What is looked at of an element: its name, its `name` attribute and all text inside. -/
structure Outline where
  name : Name
  value? : Option (List Char)
  text : List Char
  deriving Repr, DecidableEq

/-- The outline of an element; text between elements has none. -/
def Node.outline : Node → Option Outline
  | .text _ => none
  | .element name attributes children =>
    some { name, value? := attributes.lookup { label := "name" }, text := Node.textOfAll children }

@[inherit_doc Node.outline]
def Tag.outline (t : Tag) : Outline := { name := { label := String.ofList t.label }, value? := t.name?, text := t.text }

/-- Elements one after another, with this many line feeds after each. -/
def written (gap : Nat) (tags : List Tag) : List Char := tags.flatMap fun t => t.chars ++ List.replicate gap '\n'

theorem length_le_escape (text : List Char) : text.length ≤ (escape text).length := by
  induction text with
  | nil => exact Nat.le_refl _
  | cons c text ih =>
    have one : 1 ≤ (escapeChar c).length := by
      unfold escapeChar
      split_ifs <;> simp
    rw [escape, List.flatMap_cons, List.length_append, ← escape, List.length_cons]
    omega

theorem Tag.length_text_lt (t : Tag) : t.text.length + 2 < t.chars.length := by
  have longer := length_le_escape t.text
  simp only [Tag.chars, List.length_append, List.length_cons]
  omega

theorem lookup_attributes (t : Tag) : t.attributes.lookup { label := "name" } = t.name? := by
  rw [Tag.attributes]
  cases t.name? <;> rfl

theorem isPlain_of_mem_head?_written (gap : Nat) (tags : List Tag) :
    ∀ c ∈ (written gap tags).head?, isPlain c = false := by
  cases tags with
  | nil => simp [written]
  | cons t tags =>
    rintro c ⟨⟩
    rfl

/-- Line feeds are read as a piece of text of their own. -/
theorem content?_feeds {rounds gap : Nat} {bs : Bindings} {rest : List Char}
    (outside : ∀ c ∈ rest.head?, isPlain c = false) :
    content? (rounds + 1) bs (List.replicate (gap + 1) '\n' ++ rest) =
      (content? rounds bs rest).map fun found => (.text (List.replicate (gap + 1) '\n') :: found.1, found.2) := by
  have feeds : ∀ c ∈ List.replicate (gap + 1) '\n', c = '\n' := fun c => List.eq_of_mem_replicate
  apply content?_plain
  · simp
  · intro c mem
    rw [feeds c mem]
    rfl
  · exact outside
  · intro c mem
    rw [feeds c mem]
    exact ⟨by decide, by decide⟩
  · intro mem
    cases feeds _ mem

theorem exists_content?_written {tags : List Tag} (legal : ∀ t ∈ tags, t.IsLegal) (gap : Nat) {rounds : Nat}
    (enough : (written gap tags).length < rounds) :
    ∃ nodes, content? rounds Bindings.start (written gap tags) = some (nodes, []) ∧
      nodes.filterMap Node.outline = tags.map Tag.outline := by
  induction tags generalizing rounds with
  | nil =>
    obtain ⟨rounds, rfl⟩ := Nat.exists_eq_succ_of_ne_zero (by omega : rounds ≠ 0)
    exact ⟨[], rfl, rfl⟩
  | cons t tags ih =>
    obtain ⟨first, others⟩ := List.forall_mem_cons.1 legal
    have longer := t.length_text_lt
    have shape : written gap (t :: tags) = t.chars ++ (List.replicate gap '\n' ++ written gap tags) := by
      rw [written, List.flatMap_cons, List.append_assoc]
      rfl
    rw [shape, List.length_append, List.length_append, List.length_replicate] at enough
    obtain ⟨rounds, rfl⟩ := Nat.exists_eq_succ_of_ne_zero (by omega : rounds ≠ 0)
    -- the line feeds, if any, take a round of their own
    have rest : ∃ nodes,
        content? rounds Bindings.start (List.replicate gap '\n' ++ written gap tags) = some (nodes, []) ∧
        nodes.filterMap Node.outline = tags.map Tag.outline := by
      cases gap with
      | zero => exact ih others (by omega)
      | succ gap =>
        obtain ⟨rounds, rfl⟩ := Nat.exists_eq_succ_of_ne_zero (by omega : rounds ≠ 0)
        obtain ⟨nodes, read, same⟩ := ih others (by omega : (written (gap + 1) tags).length < rounds)
        refine ⟨.text (List.replicate (gap + 1) '\n') :: nodes, ?_, same⟩
        rw [content?_feeds (isPlain_of_mem_head?_written _ _), read]
        rfl
    obtain ⟨nodes, read, same⟩ := rest
    obtain ⟨children, element, text⟩ := exists_content?_chars first (by omega : t.text.length < rounds) read
    refine ⟨_, shape ▸ element, ?_⟩
    rw [List.filterMap_cons, Node.outline, same, lookup_attributes, text]
    rfl

theorem exists_nodes?_written {tags : List Tag} (legal : ∀ t ∈ tags, t.IsLegal) (gap : Nat) :
    ∃ nodes, nodes? (written gap tags) = some nodes ∧ nodes.filterMap Node.outline = tags.map Tag.outline := by
  obtain ⟨nodes, read, same⟩ := exists_content?_written legal gap (Nat.lt_succ_self _)
  exact ⟨nodes, by rw [nodes?, read], same⟩

end CallAtlas.Markup
