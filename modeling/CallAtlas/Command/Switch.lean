import CallAtlas.Text.Digit
import CallAtlas.Text.Piece

/-!
# Switches

The switches of the command and the reading of one argument: a spelling of a switch, a beginning of just one long
spelling, a value attached to either, or something that is no switch.
-/

namespace CallAtlas.Command

/-- What a switch asks for. -/
inductive Switch where
  | help
  | perFile
  | perUnit
  | out
  | workers
  | guesses
  | verbose
  | debug
  | version
  deriving Repr, DecidableEq, Inhabited

namespace Switch

/-- The spellings of the switches, in the order in which they are offered. -/
def spellings : List (String × Switch) :=
  [("-h", help), ("--help", help), ("--per-file", perFile), ("--per-method", perUnit), ("--per-unit", perUnit),
    ("--out", out), ("-o", out), ("--workers", workers), ("-j", workers), ("--guess-receivers", guesses),
    ("--verbose", verbose), ("-v", verbose), ("--debug", debug), ("-d", debug), ("--version", version)]

/-- Whether a switch is followed by a value. -/
def takesValue : Switch → Bool
  | out => true
  | workers => true
  | _ => false

/-- All spellings of a switch, as messages name it. -/
def title (s : Switch) : String := "/".intercalate ((spellings.filter fun p => p.2 == s).map (·.1))

/-- The switch that is spelled so. -/
def ofSpelling? (text : String) : Option Switch := spellings.lookup text

end Switch

/-- A switch as it was given. -/
structure Given where
  spelling : String
  switch : Switch
  /-- The text attached to it. -/
  attached : Option String := none
  /-- Whether an equals sign stands before that text. -/
  bySign : Bool := false
  deriving Repr, DecidableEq, Inhabited

/-- What an argument is. -/
inductive Argument where
  /-- No switch: the project, or the value of a switch. -/
  | plain (text : String)
  /-- Ends the switches. -/
  | divider
  | switch (given : Given)
  /-- Looks like a switch but is none. -/
  | unknown (text : String)
  deriving Repr, DecidableEq, Inhabited

/-- Ends the switches: after it everything is plain. -/
def dividerText : String := "--"

/-- Some digits and nothing else. -/
def isDigits (cs : List Char) : Bool := !cs.isEmpty && cs.all fun c => (Text.digitValue? c).isSome

/-- A negative decimal number is a value rather than a switch; a line end may follow it. -/
def isNegativeNumber (text : String) : Bool :=
  match text.toList with
  | '-' :: cs =>
    let cs := if cs.getLast? == some '\n' then cs.dropLast else cs
    isDigits cs || match Text.cut? '.' cs with
      | some (whole, fraction) => (whole.isEmpty || isDigits whole) && isDigits fraction
      | none => false
  | _ => false

/-- The text before the first `=`, and the text after it if there is one. -/
def cutValue (text : String) : String × Option String :=
  match Text.cut? '=' text.toList with
  | some (name, value) => (String.ofList name, some (String.ofList value))
  | none => (text, none)

/-- The switches that an argument may stand for without being the spelling of one: those with a long spelling that
begins with it, or the one with a short spelling that it begins with. -/
def candidates (text : String) : List Given :=
  match text.toList with
  | '-' :: '-' :: _ =>
    let (name, value) := cutValue text
    (Switch.spellings.filter fun p => name.toList.isPrefixOf p.1.toList).map fun p => ⟨p.1, p.2, value, value.isSome⟩
  | _ =>
    let short := String.ofList (text.toList.take 2)
    (Switch.spellings.filter fun p => p.1 == short).map fun p =>
      ⟨p.1, p.2, some (String.ofList (text.toList.drop 2)), false⟩

/-- The switch that an argument spells out, with or without a value. -/
def spelledOut? (text : String) : Option Given :=
  match Switch.ofSpelling? text with
  | some switch => some ⟨text, switch, none, false⟩
  | none =>
    match cutValue text with
    | (name, some value) => (Switch.ofSpelling? name).map fun switch => ⟨name, switch, some value, true⟩
    | (_, none) => none

/-- What an argument before the divider is; several candidates are given back as they are. -/
def Argument.read (text : String) : Except (List Given) Argument :=
  match text.toList with
  | '-' :: _ :: _ =>
    match spelledOut? text with
    | some given => .ok (.switch given)
    | none =>
      match candidates text with
      | [] => .ok (if isNegativeNumber text || text.toList.contains ' ' then .plain text else .unknown text)
      | [given] => .ok (.switch given)
      | several => .error several
  | _ => .ok (.plain text)

end CallAtlas.Command
