import CallAtlas.Source.Lexer
import CallAtlas.Source.Tree

/-!
# Reading tokens

A parser reads from a list of tokens and either gives a value or a fault. Choices are made by looking ahead, so a
fault is final; the two places that need a second try say so with `attempt`.
-/

namespace CallAtlas.Source

/-- What is left to read, its length, and where the last token that is not about lines or blocks ended. -/
structure Input where
  tokens : List Token
  remaining : Nat
  last : Position

/-- A parser. -/
abbrev Parser := StateT Input (Except Fault)

namespace Parser

/-- The next lexeme, without reading it. A fault of the tokens is a fault of the parser that looks at it. -/
def peek : Parser Lexeme := do
  match (← get).tokens with
  | [] => throw .malformed
  | t :: _ =>
    match t.lexeme with
    | .fault cause _ => throw cause
    | l => pure l

/-- The lexeme behind the next one. -/
def peekSecond : Parser Lexeme := do
  match (← get).tokens with
  | _ :: t :: _ =>
    match t.lexeme with
    | .fault cause _ => throw cause
    | l => pure l
  | _ => throw .malformed

/-- Where the next token starts. -/
def place : Parser Position := do
  match (← get).tokens with
  | [] => throw .malformed
  | t :: _ => pure t.start

/-- Where the last token that is not about lines or blocks ended. -/
def lastPlace : Parser Position := do return (← get).last

/-- Read one token. -/
def advance : Parser Unit := modify fun input =>
  match input.tokens with
  | [] => input
  | t :: rest =>
    let last := match t.lexeme with
      | .newline | .indent | .dedent | .stop => input.last
      | _ => t.stop
    ⟨rest, input.remaining - 1, last⟩

/-- The next token has no place here. Where blocks open or close unexpectedly the margin is at fault. -/
def unexpected {α : Type} : Parser α := do
  match ← peek with
  | .indent | .dedent => throw .indentation
  | _ => throw .malformed

/-- The next lexeme is `l`. -/
def at? (l : Lexeme) : Parser Bool := do return (← peek) == l

/-- The next lexeme is the mark `text`. -/
def atMark (text : String) : Parser Bool := at? (.mark text)

/-- The next lexeme is the keyword `word`. -/
def atKeyword (word : String) : Parser Bool := at? (.keyword word)

/-- Read `l` if it is next. -/
def accept (l : Lexeme) : Parser Bool := do
  if ← at? l then advance; pure true else pure false

/-- Read the mark `text` if it is next. -/
def acceptMark (text : String) : Parser Bool := accept (.mark text)

/-- Read the keyword `word` if it is next. -/
def acceptKeyword (word : String) : Parser Bool := accept (.keyword word)

/-- Read `l`. -/
def expect (l : Lexeme) : Parser Unit := do
  unless ← accept l do unexpected

/-- Read the mark `text`. -/
def expectMark (text : String) : Parser Unit := expect (.mark text)

/-- Read the keyword `word`. -/
def expectKeyword (word : String) : Parser Unit := expect (.keyword word)

/-- Read a name. -/
def name : Parser String := do
  match ← peek with
  | .name id => advance; pure id
  | _ => unexpected

/-- Repeat a step, which reads at least one token or ends the repetition, at most `rounds` times. -/
def repeatFrom {α β : Type} (step : α → Parser (α ⊕ β)) : Nat → α → Parser β
  | 0, _ => throw .malformed
  | rounds + 1, a => do
    match ← step a with
    | .inl next => repeatFrom step rounds next
    | .inr result => pure result

/-- Repeat a step until it ends the repetition. -/
def iterate {α β : Type} (start : α) (step : α → Parser (α ⊕ β)) : Parser β := do
  repeatFrom step ((← get).remaining + 1) start

/-- The first parser, or the second one from the same place if the first finds the text malformed. -/
def attempt {α : Type} (first second : Parser α) : Parser α := fun input =>
  match first input with
  | .error .malformed => second input
  | r => r

/-- A block is missing. A faulty token further on outweighs it. -/
def missingBlock {α : Type} : Parser α := do
  match (← get).tokens.getLast?.map Token.lexeme with
  | some (.fault cause true) => throw cause
  | _ => throw .indentation

/-- Read a whole token list. -/
def run {α : Type} (p : Parser α) (tokens : List Token) : Except Fault α :=
  (StateT.run p ⟨tokens, tokens.length, ⟨1, 0⟩⟩).map (·.1)

end Parser

end CallAtlas.Source
