import CallAtlas.Text.Blank
import CallAtlas.Text.Digit

/-!
# Reading integers

An integer in decimal digits of any script, with an optional sign, blanks around it and single underscores between
digits. In a text of ASCII characters only, the separators from `1c` to `1f` are no blanks.
-/

namespace CallAtlas.Number

/-- The most digits that are read. -/
def maxDigits : Nat := 4300

/-- A blank around an integer. -/
def isIntegerBlank (isAscii : Bool) (c : Char) : Bool :=
  if isAscii then c == ' ' || (9 ≤ c.toNat && c.toNat ≤ 13) else Text.isBlank c

/-- The digit values of a digit sequence with single underscores between digits; `afterDigit` says whether a digit
stands right before. -/
def digitRun? (afterDigit : Bool) : List Char → Option (List Nat)
  | [] => if afterDigit then some [] else none
  | c :: cs =>
    if c == '_' then if afterDigit then digitRun? false cs else none
    else do
      let d ← Text.digitValue? c
      return d :: (← digitRun? true cs)

/-- The number that digits spell. -/
def ofDigits (ds : List Nat) : Nat := ds.foldl (fun n d => 10 * n + d) 0

/-- The number without a sign. -/
def natural? (cs : List Char) : Option Nat := do
  let ds ← digitRun? false cs
  if maxDigits < ds.length then none else some (ofDigits ds)

/-- The integer that a text spells. -/
def integer? (text : List Char) : Option Int :=
  let blank := isIntegerBlank (text.all fun c => decide (c.toNat < 128))
  let inner := ((text.dropWhile blank).reverse.dropWhile blank).reverse
  match inner with
  | '-' :: cs => (natural? cs).map fun n => -(n : Int)
  | '+' :: cs => (natural? cs).map fun n => (n : Int)
  | cs => (natural? cs).map fun n => (n : Int)

end CallAtlas.Number
