import CallAtlas.Number.Integer
import CallAtlas.Text.Identifier

/-!
# File names

Makes any text a file name by replacing the characters that some system does not allow in one. What they are replaced by
is a template: a text with escapes, which may name the replaced character itself.
-/

namespace CallAtlas.Files

/-- Not allowed in a file name. -/
def isForbidden (c : Char) : Bool :=
  c.toNat < 0x20 || ['<', '>', ':', '"', '/', '\\', '|', '?', '*'].contains c

/-- One piece of a template. -/
inductive Piece where
  | literal (c : Char)
  /-- The replaced character. -/
  | same
  deriving Repr, DecidableEq

/-- Why a text is no template. -/
inductive TemplateFault where
  /-- An escape that does not exist, or a group that does not. -/
  | malformed
  /-- A group by a name that no group has. -/
  | unknownName
  deriving Repr, DecidableEq

namespace Template

/-- One character, or a backslash with the character after it; a backslash at the end has none. -/
inductive Token where
  | plain (c : Char)
  | escaped (c : Char)
  | dangling
  deriving Repr, DecidableEq

/-- The tokens of a template. -/
def tokens : List Char → List Token
  | [] => []
  | ['\\'] => [.dangling]
  | '\\' :: c :: cs => .escaped c :: tokens cs
  | c :: cs => .plain c :: tokens cs

/-- The characters of a token. -/
def Token.chars : Token → List Char
  | .plain c => [c]
  | .escaped c => ['\\', c]
  | .dangling => ['\\']

/-- An octal digit. -/
def isOctal (c : Char) : Bool := '0' ≤ c && c ≤ '7'

/-- The number that octal digits spell. -/
def octal (ds : List Char) : Nat := ds.foldl (fun n d => 8 * n + (d.toNat - 48)) 0

/-- The characters that letters after a backslash stand for. -/
def letterEscapes : List (Char × Char) :=
  [('a', '\x07'), ('b', '\x08'), ('f', '\x0c'), ('n', '\n'), ('r', '\x0d'), ('t', '\t'), ('v', '\x0b')]

/-- The group of a number; there is only the whole match. -/
def group (n : Int) : Except TemplateFault Piece := if n = 0 then .ok .same else .error .malformed

/-- The group between angle brackets. -/
def namedGroup (name : List Char) : Except TemplateFault Piece :=
  if Text.isIdentifier name then .error .unknownName
  else
    match Number.integer? name with
    | some n => group n
    | none => .error .malformed

/-- The leading plain tokens that satisfy `p`, at most `count` of them. -/
def plainRun (p : Char → Bool) : Nat → List Token → List Char
  | count + 1, .plain c :: rest => if p c then c :: plainRun p count rest else []
  | _, _ => []

/-- The piece of an escape with a digit, and how many tokens after it belong to it. -/
def digitEscape (d : Char) (rest : List Token) : Except TemplateFault (Piece × Nat) :=
  if d == '0' then
    let more := plainRun isOctal 2 rest
    .ok (.literal (Char.ofNat (octal more % 256)), more.length)
  else
    let second := plainRun Char.isDigit 1 rest
    let third := if isOctal d && second.all isOctal && second.length == 1 then plainRun isOctal 1 (rest.drop 1) else []
    if third.length == 1 then
      let value := octal (d :: second ++ third)
      if 255 < value then .error .malformed else .ok (.literal (Char.ofNat value), 2)
    else .error .malformed

/-- The tokens between angle brackets as a name, and how many tokens that is with the brackets. -/
def bracketed (rest : List Token) : Except TemplateFault (List Char × Nat) :=
  match rest with
  | .plain '<' :: rest =>
    let inner := rest.takeWhile (· != .plain '>')
    match rest.drop inner.length with
    | .plain '>' :: .dangling :: _ => .error .malformed
    | .plain '>' :: _ => if inner.isEmpty then .error .malformed else .ok (inner.flatMap (·.chars), inner.length + 2)
    | _ => .error .malformed
  | _ => .error .malformed

/-- The pieces of an escape with a letter or another character, and how many tokens after it belong to it. -/
def escape (c : Char) (rest : List Token) : Except TemplateFault (List Piece × Nat) :=
  if c == 'g' then do
    let (name, used) ← bracketed rest
    return ([← namedGroup name], used)
  else if c.isDigit then do
    let (piece, used) ← digitEscape c rest
    return ([piece], used)
  else if c == '\\' then .ok ([.literal '\\'], 0)
  else
    match letterEscapes.lookup c with
    | some d => .ok ([.literal d], 0)
    | none => if c.isAlpha then .error .malformed else .ok ([.literal '\\', .literal c], 0)

/-- The pieces of a template; `rounds` bounds the tokens. -/
def piecesFrom (rounds : Nat) (ts : List Token) : Except TemplateFault (List Piece) :=
  match rounds, ts with
  | 0, _ => .ok []
  | _, [] => .ok []
  | _, .dangling :: _ => .error .malformed
  | _, _ :: .dangling :: _ => .error .malformed
  | rounds + 1, .plain c :: rest => do return .literal c :: (← piecesFrom rounds rest)
  | rounds + 1, .escaped c :: rest => do
    let (pieces, used) ← escape c rest
    return pieces ++ (← piecesFrom rounds (rest.drop used))

/-- The pieces of a template. -/
def pieces (template : String) : Except TemplateFault (List Piece) :=
  let ts := tokens template.toList
  piecesFrom ts.length ts

/-- What a character is replaced by. -/
def fill (pieces : List Piece) (c : Char) : List Char :=
  pieces.map fun
    | .literal d => d
    | .same => c

end Template

/-- A text with every forbidden character replaced. -/
def sanitizeWith (pieces : List Piece) (name : List Char) : List Char :=
  name.flatMap fun c => if isForbidden c then Template.fill pieces c else [c]

/-- A text with every forbidden character replaced by an underscore. -/
def sanitize (name : String) : String := String.ofList (sanitizeWith [.literal '_'] name.toList)

/-- A text with every forbidden character replaced as a template says. -/
def sanitizeBy (template name : String) : Except TemplateFault String := do
  return String.ofList (sanitizeWith (← Template.pieces template) name.toList)

end CallAtlas.Files
