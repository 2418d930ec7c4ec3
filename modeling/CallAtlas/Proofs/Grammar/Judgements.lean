import CallAtlas.Proofs.Answer
import CallAtlas.Source.Grammar.Basic
import Mathlib.Data.List.Basic

/-!
# Reasoning about parsers

Two judgements about what a parser does when it gives a value. `Gives p Q` says that it has taken tokens off the front
of its input and that `Q` holds of the value; of expressions no more is needed. `Collects` also keeps account of places:
of the keywords that are read, some are noted, one after the other, and what is noted is related to the value. For each
way in which parsers are put together there is a rule.
-/

namespace CallAtlas.Source

/-- Where a token starts, if it is a keyword. -/
def Token.keywordStart? (t : Token) : Option Position :=
  match t.lexeme with
  | .keyword _ => some t.start
  | _ => none

/-- Where the keywords among some tokens start. -/
def keywordStarts (ts : List Token) : List Position := ts.filterMap Token.keywordStart?

namespace Parser

variable {α β : Type} {p q : Parser α} {f : α → Parser β}

theorem bind_eq_ok_iff {input rest : Input} {b : β} :
    (p >>= f) input = .ok (b, rest) ↔ ∃ a middle, p input = .ok (a, middle) ∧ f a middle = .ok (b, rest) := by
  show (p input >>= fun r => f r.1 r.2) = _ ↔ _
  rw [bind_eq_ok, Prod.exists]

theorem pure_eq_ok_iff {input rest : Input} {a b : α} :
    (pure a : Parser α) input = .ok (b, rest) ↔ a = b ∧ input = rest := by
  show (pure (a, input) : Except Fault _) = _ ↔ _
  rw [pure_eq_ok, Prod.mk.injEq]

/-! ## Single tokens -/

/-- The next token is the lexeme `l`. -/
def AtLexeme (l : Lexeme) (input : Input) : Prop := ∃ t ts, input.tokens = t :: ts ∧ t.lexeme = l

/-- The next token starts at `q`. -/
def AtPlace (q : Position) (input : Input) : Prop := ∃ t ts, input.tokens = t :: ts ∧ t.start = q

theorem peek_eq_ok {input rest : Input} {l : Lexeme} (run : peek input = .ok (l, rest)) :
    rest = input ∧ AtLexeme l input := by
  obtain ⟨tokens, remaining, last⟩ := input
  match tokens with
  | [] => cases run
  | ⟨lexeme, start, stop⟩ :: ts =>
    have same : rest = ⟨⟨lexeme, start, stop⟩ :: ts, remaining, last⟩ ∧ lexeme = l := by
      cases lexeme <;> cases run <;> exact ⟨rfl, rfl⟩
    exact ⟨same.1, _, _, rfl, same.2⟩

theorem place_eq_ok {input rest : Input} {q : Position} (run : place input = .ok (q, rest)) :
    rest = input ∧ AtPlace q input := by
  obtain ⟨tokens, remaining, last⟩ := input
  match tokens with
  | [] => cases run
  | t :: ts =>
    cases run
    exact ⟨rfl, _, _, rfl, rfl⟩

theorem advance_eq_ok {input rest : Input} {u : Unit} (run : advance input = .ok (u, rest)) :
    rest.tokens = input.tokens.tail := by
  obtain ⟨tokens, remaining, last⟩ := input
  cases tokens <;> cases run <;> rfl

theorem unexpected_ne_ok {input rest : Input} {a : α} : unexpected input ≠ .ok (a, rest) := by
  intro run
  obtain ⟨l, middle, -, run⟩ := bind_eq_ok_iff.1 run
  split at run <;> cases run

theorem expect_eq_ok {input rest : Input} {l : Lexeme} {u : Unit} (run : expect l input = .ok (u, rest)) :
    AtLexeme l input ∧ rest.tokens = input.tokens.tail := by
  obtain ⟨accepted, middle, reading, check⟩ := bind_eq_ok_iff.1 run
  cases accepted with
  | false => exact absurd check unexpected_ne_ok
  | true =>
    obtain ⟨-, rfl⟩ := pure_eq_ok_iff.1 check
    obtain ⟨isNext, input', looking, reading⟩ := bind_eq_ok_iff.1 reading
    obtain ⟨l', input'', looking, same⟩ := bind_eq_ok_iff.1 looking
    obtain ⟨rfl, found⟩ := peek_eq_ok looking
    obtain ⟨rfl, rfl⟩ := pure_eq_ok_iff.1 same
    split at reading
    · rename_i equal
      obtain ⟨u, after, moved, done⟩ := bind_eq_ok_iff.1 reading
      obtain ⟨-, rfl⟩ := pure_eq_ok_iff.1 done
      exact ⟨eq_of_beq equal ▸ found, advance_eq_ok moved⟩
    · obtain ⟨never, -⟩ := pure_eq_ok_iff.1 reading
      cases never

/-! ## What a parser gives -/

/-- When `p` gives a value, it has taken tokens off the front, and `Q` holds of the value. -/
def Gives (p : Parser α) (Q : α → Prop) : Prop :=
  ∀ input a rest, p input = .ok (a, rest) → rest.tokens <:+ input.tokens ∧ Q a

/-- When `p` gives a value, it has taken tokens off the front. -/
abbrev Takes (p : Parser α) : Prop := Gives p fun _ => True

namespace Gives

variable {P Q : α → Prop} {R : β → Prop}

theorem pure {a : α} (h : Q a) : Gives (Pure.pure a) Q := by
  intro input b rest run
  obtain ⟨rfl, rfl⟩ := pure_eq_ok_iff.1 run
  exact ⟨List.suffix_rfl, h⟩

theorem throw (fault : Fault) : Gives (throw fault : Parser α) Q := fun _ _ _ run => nomatch run

theorem bind (h : Gives p P) (next : ∀ a, P a → Gives (f a) R) : Gives (p >>= f) R := by
  intro input b rest run
  obtain ⟨a, middle, first, second⟩ := bind_eq_ok_iff.1 run
  obtain ⟨taken, ha⟩ := h input a middle first
  obtain ⟨more, hb⟩ := next a ha middle b rest second
  exact ⟨more.trans taken, hb⟩

/-- What the first parser gives plays no part. -/
theorem skip (h : Gives p P) (next : ∀ a, Gives (f a) R) : Gives (p >>= f) R := h.bind fun a _ => next a

theorem mono (h : Gives p P) (imp : ∀ a, P a → Q a) : Gives p Q := fun input a rest run =>
  ⟨(h input a rest run).1, imp a (h input a rest run).2⟩

theorem map {g : α → β} (h : Gives p P) (imp : ∀ a, P a → R (g a)) : Gives (g <$> p) R :=
  h.bind fun a ha => .pure (imp a ha)

theorem attempt (first : Gives p Q) (second : Gives q Q) : Gives (attempt p q) Q := by
  intro input a rest run
  unfold Parser.attempt at run
  split at run
  · exact second input a rest run
  · exact first input a rest run

theorem repeatFrom {step : α → Parser (α ⊕ β)} (I : α → Prop) (round : ∀ a, I a → Gives (step a) (Sum.elim I R))
    (rounds : Nat) {a : α} (start : I a) : Gives (repeatFrom step rounds a) R := by
  induction rounds generalizing a with
  | zero => exact .throw _
  | succ rounds ih =>
    refine (round a start).bind fun r hr => ?_
    cases r with
    | inl next => exact ih hr
    | inr b => exact .pure hr

/-- A repetition keeps the invariant `I` until it ends. -/
theorem iterate {step : α → Parser (α ⊕ β)} (I : α → Prop) {a : α} (start : I a)
    (round : ∀ a, I a → Gives (step a) (Sum.elim I R)) : Gives (iterate a step) R := fun input b rest run =>
  repeatFrom I round (input.remaining + 1) start input b rest run

theorem peek : Takes peek := fun _ _ _ run => by
  obtain ⟨rfl, -⟩ := peek_eq_ok run
  exact ⟨List.suffix_rfl, trivial⟩

theorem peekSecond : Takes peekSecond := by
  rintro ⟨tokens, remaining, last⟩ l rest run
  match tokens with
  | [] => cases run
  | [_] => cases run
  | _ :: ⟨lexeme, _, _⟩ :: _ => cases lexeme <;> cases run <;> exact ⟨List.suffix_rfl, trivial⟩

theorem place : Takes place := fun _ _ _ run => by
  obtain ⟨rfl, -⟩ := place_eq_ok run
  exact ⟨List.suffix_rfl, trivial⟩

theorem lastPlace : Takes lastPlace := fun _ _ _ run => by
  cases run
  exact ⟨List.suffix_rfl, trivial⟩

theorem advance : Takes advance := fun input _ _ run => by
  rw [advance_eq_ok run]
  exact ⟨List.tail_suffix _, trivial⟩

theorem unexpected : Gives (unexpected : Parser α) Q := fun _ _ _ run => absurd run unexpected_ne_ok

/-- Behind an unexpected token nothing is read. -/
theorem unexpected_bind : Gives (Parser.unexpected >>= f) R :=
  (unexpected (Q := fun _ => False)).bind fun _ h => h.elim

theorem missingBlock : Gives (missingBlock : Parser α) Q := by
  refine skip (P := fun _ => True) (fun input a rest run => ?_) fun input => ?_
  · cases run
    exact ⟨List.suffix_rfl, trivial⟩
  · split <;> exact .throw _

theorem at? (l : Lexeme) : Takes (at? l) := peek.skip fun _ => .pure trivial

theorem atMark (text : String) : Takes (atMark text) := at? _

theorem atKeyword (word : String) : Takes (atKeyword word) := at? _

theorem accept (l : Lexeme) : Takes (accept l) := by
  refine (at? l).skip fun b => ?_
  split
  · exact advance.skip fun _ => .pure trivial
  · exact .pure trivial

theorem acceptMark (text : String) : Takes (acceptMark text) := accept _

theorem acceptKeyword (word : String) : Takes (acceptKeyword word) := accept _

theorem expect (l : Lexeme) : Takes (expect l) := by
  refine (accept l).skip fun b => ?_
  split
  · exact .pure trivial
  · exact unexpected

theorem expectMark (text : String) : Takes (expectMark text) := expect _

theorem expectKeyword (word : String) : Takes (expectKeyword word) := expect _

theorem name : Takes name := by
  refine peek.skip fun l => ?_
  split
  · exact advance.skip fun _ => .pure trivial
  · exact unexpected

end Gives

/-! ## What a parser collects -/

/-- Started where `pre` holds: when `p` gives a value, it has read keywords that start at some further places, one after
the other, and `Q` holds of the places noted before with these behind them and of the value. -/
def Collects (pre : Input → Prop) (noted : List Position) (p : Parser α) (Q : List Position → α → Prop) : Prop :=
  ∀ input a rest, pre input → p input = .ok (a, rest) →
    ∃ found, (found ++ keywordStarts rest.tokens).Sublist (keywordStarts input.tokens) ∧ Q (noted ++ found) a

/-- Anywhere. -/
def anywhere (_ : Input) : Prop := True

namespace Collects

variable {pre : Input → Prop} {noted : List Position} {P : α → Prop} {Q : List Position → α → Prop}
  {R : List Position → β → Prop}

theorem weaken (h : Collects anywhere noted p Q) : Collects pre noted p Q := fun input a rest _ run =>
  h input a rest trivial run

/-- Nothing has to be noted. -/
theorem of_gives (h : Gives p P) (post : ∀ a, P a → Q noted a) : Collects pre noted p Q := by
  intro input a rest _ run
  obtain ⟨taken, ha⟩ := h input a rest run
  refine ⟨[], taken.sublist.filterMap _, ?_⟩
  rw [List.append_nil]
  exact post a ha

/-- What gives nothing collects anything. -/
theorem of_never (h : Gives p fun _ => False) : Collects pre noted p Q := of_gives h fun _ never => never.elim

theorem pure {a : α} (h : Q noted a) : Collects pre noted (Pure.pure a) Q :=
  of_gives (P := (· = a)) (.pure rfl) fun _ same => same ▸ h

theorem bind (h : Collects pre noted p Q) (next : ∀ a noted, Q noted a → Collects anywhere noted (f a) R) :
    Collects pre noted (p >>= f) R := by
  intro input b rest start run
  obtain ⟨a, middle, run, run'⟩ := bind_eq_ok_iff.1 run
  obtain ⟨found, sublist, post⟩ := h input a middle start run
  obtain ⟨found', sublist', post'⟩ := next a _ post middle b rest trivial run'
  refine ⟨found ++ found', ?_, by rwa [← List.append_assoc]⟩
  rw [List.append_assoc]
  exact ((List.Sublist.refl found).append sublist').trans sublist

/-- What is read first is not noted. -/
theorem skip (h : Gives p P) (next : ∀ a, P a → Collects anywhere noted (f a) R) : Collects pre noted (p >>= f) R :=
  bind (Q := fun n a => n = noted ∧ P a) (of_gives h fun _ ha => ⟨rfl, ha⟩) fun a _ post => post.1 ▸ next a post.2

theorem repeatFrom {step : α → Parser (α ⊕ β)} (I : List Position → α → Prop)
    (round : ∀ a noted, I noted a → Collects anywhere noted (step a) fun n => Sum.elim (I n) (R n))
    (rounds : Nat) {a : α} (start : I noted a) : Collects anywhere noted (repeatFrom step rounds a) R := by
  induction rounds generalizing a noted with
  | zero => exact of_never (.throw _)
  | succ rounds ih =>
    refine (round a noted start).bind fun r noted hr => ?_
    cases r with
    | inl a => exact ih hr
    | inr b => exact pure hr

/-- A repetition keeps the invariant `I` until it ends. -/
theorem iterate {step : α → Parser (α ⊕ β)} (I : List Position → α → Prop) {a : α} (start : I noted a)
    (round : ∀ a noted, I noted a → Collects anywhere noted (step a) fun n => Sum.elim (I n) (R n)) :
    Collects pre noted (iterate a step) R := fun input b rest _ run =>
  repeatFrom I round (input.remaining + 1) start input b rest trivial run

theorem peek {f : Lexeme → Parser β} (next : ∀ l, Collects (fun i => pre i ∧ AtLexeme l i) noted (f l) R) :
    Collects pre noted (peek >>= f) R := by
  intro input b rest start run
  obtain ⟨l, middle, run, run'⟩ := bind_eq_ok_iff.1 run
  obtain ⟨rfl, found⟩ := peek_eq_ok run
  exact next l middle b rest ⟨start, found⟩ run'

theorem place {f : Position → Parser β} (next : ∀ q, Collects (fun i => pre i ∧ AtPlace q i) noted (f q) R) :
    Collects pre noted (place >>= f) R := by
  intro input b rest start run
  obtain ⟨q, middle, run, run'⟩ := bind_eq_ok_iff.1 run
  obtain ⟨rfl, found⟩ := place_eq_ok run
  exact next q middle b rest ⟨start, found⟩ run'

theorem keywordStarts_eq {q : Position} {word : String} {input : Input} (isKeyword : AtLexeme (.keyword word) input)
    (starts : AtPlace q input) : keywordStarts input.tokens = q :: keywordStarts input.tokens.tail := by
  obtain ⟨t, ts, tokens, lexeme⟩ := isKeyword
  obtain ⟨t', ts', tokens', rfl⟩ := starts
  cases tokens.symm.trans tokens'
  rw [tokens, keywordStarts, List.filterMap_cons_some (by rw [Token.keywordStart?, lexeme])]
  rfl

/-- A keyword is read and noted. -/
theorem advance {q : Position} {word : String} (isKeyword : ∀ i, pre i → AtLexeme (.keyword word) i)
    (starts : ∀ i, pre i → AtPlace q i) : Collects pre noted advance fun n _ => n = noted ++ [q] := by
  intro input u rest start run
  refine ⟨[q], ?_, rfl⟩
  rw [keywordStarts_eq (isKeyword input start) (starts input start), advance_eq_ok run]
  exact .refl _

/-- A keyword is read, and whether it is noted is settled when the lexeme behind it is known. -/
theorem advance_peek {f : Position → Lexeme → Parser β} {word : String}
    (isKeyword : ∀ i, pre i → AtLexeme (.keyword word) i)
    (next : ∀ q l, ∃ noted', (noted' = noted ∨ noted' = noted ++ [q]) ∧ Collects anywhere noted' (f q l) R) :
    Collects pre noted (do let q ← Parser.place; Parser.advance; let l ← Parser.peek; f q l) R := by
  intro input b rest start run
  obtain ⟨q, input', placed, moving⟩ := bind_eq_ok_iff.1 run
  obtain ⟨rfl, starts⟩ := place_eq_ok placed
  obtain ⟨u, middle, moved, looking⟩ := bind_eq_ok_iff.1 moving
  obtain ⟨l, middle', looked, reading⟩ := bind_eq_ok_iff.1 looking
  obtain ⟨rfl, -⟩ := peek_eq_ok looked
  obtain ⟨noted', choice, collects⟩ := next q l
  obtain ⟨found, sublist, post⟩ := collects middle' b rest trivial reading
  rw [keywordStarts_eq (isKeyword input' start) starts, ← advance_eq_ok moved]
  rcases choice with rfl | rfl
  · exact ⟨found, sublist.cons q, post⟩
  · exact ⟨q :: found, sublist.cons_cons q, by simpa using post⟩

theorem expectKeyword {q : Position} {word : String} (starts : ∀ i, pre i → AtPlace q i) :
    Collects pre noted (expectKeyword word) fun n _ => n = noted ++ [q] := by
  intro input u rest start run
  obtain ⟨isKeyword, tail⟩ := expect_eq_ok run
  refine ⟨[q], ?_, rfl⟩
  rw [keywordStarts_eq isKeyword (starts input start), tail]
  exact .refl _

end Collects

end Parser

end CallAtlas.Source
