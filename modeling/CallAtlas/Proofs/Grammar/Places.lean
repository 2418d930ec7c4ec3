import CallAtlas.Proofs.Grammar.Judgements

/-!
# The places of keywords

Each round of the scanner goes on from the place where the round before stopped, so places only grow; and a keyword has
at least one letter, so the next one starts further on. Indents and dedents have no extent and may share a place with
the token behind them, which is why only keywords are spoken of.
-/

namespace CallAtlas.Source

namespace Position

theorem before_iff {p q : Position} : p.before q = true ↔ p.line < q.line ∨ p.line = q.line ∧ p.column < q.column := by
  simp [before]

/-- Not later than. -/
def UpTo (p q : Position) : Prop := p.line < q.line ∨ p.line = q.line ∧ p.column ≤ q.column

theorem UpTo.refl (p : Position) : p.UpTo p := .inr ⟨rfl, Nat.le_refl _⟩

theorem UpTo.trans {p q r : Position} (h : p.UpTo q) (h' : q.UpTo r) : p.UpTo r := by
  unfold UpTo at *
  omega

theorem before_trans_upTo {p q r : Position} (h : p.before q = true) (h' : q.UpTo r) : p.before r = true := by
  rw [before_iff] at *
  unfold UpTo at h'
  omega

theorem before_next (p : Position) (c : Char) : p.before (p.next c) = true := by
  have size := c.utf8Size_pos
  rw [before_iff, next]
  split
  · exact .inl (Nat.lt_succ_self _)
  · exact .inr ⟨rfl, Nat.lt_add_of_pos_right size⟩

theorem upTo_of_before {p q : Position} (h : p.before q = true) : p.UpTo q := by
  rw [before_iff] at h
  unfold UpTo
  omega

theorem upTo_after (p : Position) (cs : List Char) : p.UpTo (p.after cs) := by
  induction cs generalizing p with
  | nil => exact .refl p
  | cons c cs ih => exact (upTo_of_before (p.before_next c)).trans (ih (p.next c))

theorem before_after (p : Position) (c : Char) (cs : List Char) : p.before (p.after (c :: cs)) = true :=
  before_trans_upTo (p.before_next c) (upTo_after _ cs)

theorem upTo_nextLine (p : Position) : p.UpTo ⟨p.line + 1, 0⟩ := .inl (Nat.lt_succ_self _)

end Position

/-- The keywords among the tokens start at `p` or later, one after the other. -/
structure Follow (p : Position) (ts : List Token) : Prop where
  upTo : ∀ q ∈ keywordStarts ts, p.UpTo q
  increasing : (keywordStarts ts).Pairwise fun q r => q.before r = true

namespace Follow

variable {p q : Position} {t : Token} {ts us : List Token}

theorem of_none (none : keywordStarts ts = []) : Follow p ts := ⟨by simp [none], by simp [none]⟩

theorem mono (earlier : p.UpTo q) (h : Follow q ts) : Follow p ts :=
  ⟨fun r hr => earlier.trans (h.upTo r hr), h.increasing⟩

theorem cons_of_none (h : Follow p ts) (none : t.keywordStart? = none) : Follow p (t :: ts) := by
  have same : keywordStarts (t :: ts) = keywordStarts ts := List.filterMap_cons_none none
  exact ⟨same ▸ h.upTo, same ▸ h.increasing⟩

theorem cons (h : Follow q ts) (starts : t.start = p) (later : p.before q = true) : Follow p (t :: ts) := by
  cases keyword : t.keywordStart? with
  | none => exact (h.mono (Position.upTo_of_before later)).cons_of_none keyword
  | some r =>
    have same : r = p := by
      unfold Token.keywordStart? at keyword
      split at keyword
      · cases keyword
        exact starts
      · cases keyword
    subst same
    have all : keywordStarts (t :: ts) = r :: keywordStarts ts := List.filterMap_cons_some keyword
    refine ⟨?_, ?_⟩
    · rw [all]
      exact List.forall_mem_cons.2 ⟨.refl r, fun s hs => (Position.upTo_of_before later).trans (h.upTo s hs)⟩
    · rw [all]
      exact List.pairwise_cons.2 ⟨fun s hs => Position.before_trans_upTo later (h.upTo s hs), h.increasing⟩

theorem append_of_none (h : Follow p ts) (none : keywordStarts us = []) : Follow p (us ++ ts) := by
  have same : keywordStarts (us ++ ts) = keywordStarts ts := by
    rw [keywordStarts, List.filterMap_append, ← keywordStarts, none]
    rfl
  exact ⟨same ▸ h.upTo, same ▸ h.increasing⟩

end Follow

theorem margin?_upTo {width narrow joined : Nat} {p : Position} {cs : List Char} {m : Margin}
    (h : margin? width narrow joined p cs = some m) : p.UpTo m.stop := by
  fun_induction margin? width narrow joined p cs with
  | case1 width narrow joined p cs ih => exact (Position.upTo_of_before (p.before_next _)).trans (ih h)
  | case2 width narrow joined p cs ih => exact (Position.upTo_of_before (p.before_next _)).trans (ih h)
  | case3 width narrow joined p cs ih => exact (Position.upTo_of_before (p.before_next _)).trans (ih h)
  | case4 width narrow joined p c cs ih => exact p.upTo_nextLine.trans (ih h)
  | case5 => cases h
  | case6 =>
    cases h
    exact .refl _

/-- A lexeme is no keyword, or has a letter. -/
theorem lexeme_eq_ok {c : Char} {cs text rest : List Char} {l : Lexeme} (h : lexeme c cs = .ok (l, text, rest)) :
    (∀ start stop, Token.keywordStart? ⟨l, start, stop⟩ = none) ∨ ∃ tail, text = c :: tail := by
  unfold lexeme at h
  split at h
  · split at h <;> cases h
    exact .inl fun _ _ => rfl
  split at h
  · dsimp only at h
    split at h <;> cases h
    exact .inr ⟨_, rfl⟩
  split at h
  · split at h <;> cases h
    exact .inl fun _ _ => rfl
  · dsimp only at h
    split at h <;> cases h
    exact .inl fun _ _ => rfl

theorem keywordStarts_blocks {width narrow : Nat} {blocks open_ : List (Nat × Nat)} {ls : List Lexeme}
    (h : blockTokens width narrow blocks = .ok (ls, open_)) (p : Position) :
    keywordStarts (ls.map fun l => ⟨l, p, p⟩) = [] := by
  unfold blockTokens at h
  dsimp only at h
  split at h
  · split at h <;> cases h
    rfl
  split at h
  · split at h
    · cases h
    split at h <;> cases h
    rfl
  split at h
  · cases h
  split at h <;> cases h
  simp [keywordStarts, Token.keywordStart?]

/-- What the scanner reads follows the place where it starts. -/
theorem follow_scan (rounds : Nat) (st : LexState) (cs : List Char) : Follow st.place (scan rounds st cs) := by
  induction rounds generalizing st cs with
  | zero => exact .of_none rfl
  | succ rounds ih =>
    have go {next : LexState} {cs : List Char} (later : st.place.UpTo next.place) :
        Follow st.place (scan rounds next cs) := (ih next cs).mono later
    unfold scan
    extract_lets here newLine
    split
    · split
      · exact .of_none rfl
      · rename_i m measured
        have later := margin?_upTo measured
        extract_lets isBlank next
        split
        · exact go later
        · split
          · exact .of_none rfl
          · rename_i ls blocks tokens
            exact .append_of_none (go later) (keywordStarts_blocks tokens _)
    · split
      · split <;> exact .of_none rfl
      · exact go (Position.upTo_after _ _)
      · split
        · exact go (Position.upTo_nextLine _)
        · exact .cons_of_none (go (Position.upTo_nextLine _)) rfl
      · split
        · exact go (Position.upTo_nextLine _)
        · exact .of_none rfl
      · split
        · exact go (Position.upTo_of_before (Position.before_next _ _))
        · split
          · exact .of_none rfl
          · rename_i l text rest read
            extract_lets stop
            split
            · split
              · exact .of_none rfl
              · exact .cons_of_none (go (Position.upTo_after _ _)) rfl
            · -- a keyword is read here only, and has a letter: the next round starts behind it
              rcases lexeme_eq_ok read with none | ⟨tail, rfl⟩
              · exact .cons_of_none (go (Position.upTo_after _ _)) (none _ _)
              · exact .cons (ih _ _) rfl (Position.before_after _ _ _)

/-- The keywords of a text start one after the other. -/
theorem pairwise_tokens (text : List Char) :
    (keywordStarts (tokens text)).Pairwise fun q r => q.before r = true := (follow_scan _ _ _).increasing

end CallAtlas.Source
