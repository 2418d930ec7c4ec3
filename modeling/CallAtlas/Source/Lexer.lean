import CallAtlas.Source.Token
import CallAtlas.Text.Blank

/-!
# From characters to tokens

One pass over the characters. At the start of a logical line outside brackets the margin decides which blocks open or
close; a margin is measured twice, with tabs of eight columns and of one column, and the two measures have to agree on
what is deeper. Inside brackets line ends do not count.
-/

namespace CallAtlas.Source

/-- Both measures of a margin, and what follows it. -/
structure Margin where
  width : Nat
  narrow : Nat
  stop : Position
  rest : List Char

/-- The margin of a line; nothing if a backslash in it does not continue the line. The first backslash behind blanks
fixes the width. -/
def margin? (width narrow joined : Nat) (p : Position) : List Char → Option Margin
  | ' ' :: cs => margin? (width + 1) (narrow + 1) joined (p.next ' ') cs
  | '\t' :: cs => margin? ((width / 8 + 1) * 8) (narrow + 1) joined (p.next '\t') cs
  | '\x0c' :: cs => margin? 0 0 joined (p.next '\x0c') cs
  | '\\' :: '\n' :: c :: cs => margin? width narrow (if joined = 0 then width else joined) ⟨p.line + 1, 0⟩ (c :: cs)
  | '\\' :: _ => none
  | cs => some ⟨if joined = 0 then width else joined, if joined = 0 then narrow else joined, p, cs⟩

/-- How deep blocks may nest. -/
def maxDepth : Nat := 100

/-- How deep brackets may nest. -/
def maxBrackets : Nat := 200

/-- Close blocks down to a margin: the number of blocks closed and those that stay open, innermost first. The
outermost margin is zero and is not in the list. -/
def closeBlocks (width : Nat) : List (Nat × Nat) → Nat × List (Nat × Nat)
  | [] => (0, [])
  | b :: bs => if width < b.1 then let r := closeBlocks width bs; (r.1 + 1, r.2) else (0, b :: bs)

/-- The tokens for a margin and the blocks open behind them. -/
def blockTokens (width narrow : Nat) (blocks : List (Nat × Nat)) : Except Fault (List Lexeme × List (Nat × Nat)) :=
  let top := blocks.head?.getD (0, 0)
  if width = top.1 then if narrow = top.2 then .ok ([], blocks) else .error .tabs
  else if top.1 < width then
    if maxDepth ≤ blocks.length + 1 then .error .indentation
    else if narrow ≤ top.2 then .error .tabs
    else .ok ([.indent], (width, narrow) :: blocks)
  else
    let (closed, left) := closeBlocks width blocks
    let top := left.head?.getD (0, 0)
    if width ≠ top.1 then .error .indentation
    else if narrow ≠ top.2 then .error .tabs
    else .ok (List.replicate closed .dedent, left)

/-- Where the pass is. -/
structure LexState where
  place : Position
  atLineStart : Bool
  isBlankLine : Bool
  blocks : List (Nat × Nat)
  brackets : List Char

/-- The brackets open behind a mark; nothing if it closes what is not open, or nests too deep. -/
def bracketsAfter? (text : String) (open_ : List Char) : Option (List Char) :=
  match text.toList with
  | [c] =>
    if c == '(' || c == '[' || c == '\x7b' then if maxBrackets ≤ open_.length then none else some (c :: open_)
    else if c == ')' || c == ']' || c == '\x7d' then
      match open_ with
      | o :: rest =>
        if (o == '(' && c == ')') || (o == '[' && c == ']') || (o == '\x7b' && c == '\x7d') then some rest else none
      | [] => none
    else some open_
  | _ => some open_

/-- A lexeme at the front of the list, its characters, and what follows; a fault if there is none. -/
def lexeme (c : Char) (cs : List Char) : Except Fault (Lexeme × List Char × List Char) :=
  match literalOpening? (c :: cs) with
  | some (q, triple, opening, rest) =>
    match literalBody? q triple rest with
    | some (body, rest) => .ok (.literal (opening ++ body), opening ++ body, rest)
    | none => .error .malformed
  | none =>
    if opensName c then
      let word := c :: cs.takeWhile continuesName
      match wordLexeme? word with
      | some l => .ok (l, word, cs.dropWhile continuesName)
      | none => .error .malformed
    else if c.isDigit || (c == '.' && cs.head?.any Char.isDigit) then
      match number? (c :: cs) with
      | some (text, rest) => .ok (.number text, text, rest)
      | none => .error .malformed
    else
      let (text, rest) := mark c cs
      if text.length = 1 && !Text.isPrintable c.toNat then .error .malformed else .ok (.mark text, text.toList, rest)

/-- The tokens from a state on. Every round reads a character or measures a margin, so twice as many rounds as there
are characters suffice. -/
def scan : Nat → LexState → List Char → List Token
  | 0, st, _ => [⟨.fault .malformed false, st.place, st.place⟩]
  | rounds + 1, st, cs =>
    let here (l : Lexeme) : Token := ⟨l, st.place, st.place⟩
    if st.atLineStart then
      match margin? 0 0 0 st.place cs with
      | none => [here (.fault .malformed false)]
      | some m =>
        let isBlank := match m.rest with
          | '#' :: _ | '\n' :: _ => true
          | _ => false
        let next := { st with place := m.stop, atLineStart := false, isBlankLine := isBlank }
        if isBlank || !st.brackets.isEmpty then scan rounds next m.rest
        else
          match blockTokens m.width m.narrow st.blocks with
          | .error f => [here (.fault f false)]
          | .ok (ls, blocks) =>
            ls.map (⟨·, m.stop, m.stop⟩) ++ scan rounds { next with blocks := blocks } m.rest
    else
      match cs with
      | [] => if st.brackets.isEmpty then [here .stop] else [here (.fault .malformed false)]
      | '#' :: _ =>
        let comment := cs.takeWhile (· != '\n')
        scan rounds { st with place := st.place.after comment } (cs.dropWhile (· != '\n'))
      | '\n' :: rest =>
        let next := { st with place := ⟨st.place.line + 1, 0⟩, atLineStart := true }
        if st.isBlankLine || !st.brackets.isEmpty then scan rounds next rest
        else here .newline :: scan rounds next rest
      | '\\' :: rest =>
        match rest with
        | '\n' :: d :: more => scan rounds { st with place := ⟨st.place.line + 1, 0⟩ } (d :: more)
        | _ => [here (.fault .malformed false)]
      | c :: rest =>
        if c == ' ' || c == '\t' || c == '\x0c' then scan rounds { st with place := st.place.next c } rest
        else
          match lexeme c rest with
          | .error f => [here (.fault f true)]
          | .ok (l, text, rest) =>
            let stop := st.place.after text
            match l with
            | .mark t =>
              match bracketsAfter? t st.brackets with
              | none => [here (.fault .malformed true)]
              | some bs => ⟨l, st.place, stop⟩ :: scan rounds { st with place := stop, brackets := bs } rest
            | _ => ⟨l, st.place, stop⟩ :: scan rounds { st with place := stop } rest

/-- With a line feed at the end. -/
def closeLastLine (cs : List Char) : List Char := if cs.getLast? == some '\n' then cs else cs ++ ['\n']

/-- The tokens of a text whose first character stands at `start`. -/
def tokensFrom (start : Position) (cs : List Char) : List Token :=
  scan (2 * cs.length + 4) ⟨start, true, false, [], []⟩ cs

/-- The tokens of a source text. -/
def tokens (cs : List Char) : List Token := tokensFrom ⟨1, 0⟩ (closeLastLine (Text.unifyLineEnds cs))

end CallAtlas.Source
