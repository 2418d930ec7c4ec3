import CallAtlas.Text.NormalData
import CallAtlas.Text.Packed
import CallAtlas.Text.Piece

/-!
# Compatibility normal form

Two identifiers are the same name if their normal forms agree: every character is replaced by its compatibility
decomposition, marks are put into their canonical order, and what composes is composed again.
-/

namespace CallAtlas.Text

/-- The number that hexadecimal digits stand for. -/
def hexNumber (cs : List Char) : Nat :=
  cs.foldl (fun n c => 16 * n + (if c.isDigit then c.toNat - 48 else c.toUpper.toNat - 55)) 0

/-- The numbers of one entry, divided by commas. -/
def hexNumbers (cs : List Char) : List Nat := (splitOn ',' cs).map hexNumber

/-- The tables of normalisation. -/
structure NormalTables where
  /-- The decomposition of each character that has one. -/
  decompositions : List (Nat × List Nat)
  /-- Runs of marks with their combining class. -/
  combiningRuns : List (List Nat)
  /-- Pairs that compose, each with its composite. -/
  compositions : List (List Nat)

/-- The decompositions of the characters from `code` on. -/
def decompositionsFrom (code : Nat) : List (List Char) → List (Nat × List Nat)
  | [] => []
  | entry :: entries =>
    match cut? ':' entry with
    | some p => (code + hexNumber p.1, hexNumbers p.2) :: decompositionsFrom (code + hexNumber p.1 + 1) entries
    | none => decompositionsFrom code entries

@[inherit_doc NormalTables]
def normalTables : Thunk NormalTables := ⟨fun _ =>
  let tables := (splitOn '/' (unpacked normalAlphabet 47274 packedNormalTables)).map (splitOn ';')
  { decompositions := decompositionsFrom 0 (tables.getD 0 [])
    combiningRuns := (tables.getD 1 []).map hexNumbers
    compositions := (tables.getD 2 []).map hexNumbers }⟩

/-- The combining class of a character; zero for a starter. -/
def combiningClass (code : Nat) : Nat :=
  (normalTables.get.combiningRuns.findSome? fun
    | [first, last, cls] => if first ≤ code ∧ code ≤ last then some cls else none
    | _ => none).getD 0

/-- The parts of a computed syllable: a leading consonant, a vowel, and a trailing consonant if there is one. -/
def syllableParts (code : Nat) : List Nat :=
  let i := code - 0xAC00
  let lead := 0x1100 + i / 588
  let vowel := 0x1161 + i % 588 / 28
  if i % 28 = 0 then [lead, vowel] else [lead, vowel, 0x11A7 + i % 28]

/-- The full decomposition of one character. -/
def decompose (code : Nat) : List Nat :=
  if code < 0xA0 then [code]
  else if 0xAC00 ≤ code ∧ code ≤ 0xD7A3 then syllableParts code
  else (normalTables.get.decompositions.lookup code).getD [code]

/-- Put `code` behind what is there, given last first, but in front of marks of a higher class. -/
def insertMark (code cls : Nat) : List (Nat × Nat) → List (Nat × Nat)
  | [] => [(code, cls)]
  | p :: ps => if cls ≠ 0 ∧ cls < p.2 then p :: insertMark code cls ps else (code, cls) :: p :: ps

/-- Marks in the order of their classes, each with its class. -/
def orderMarks (codes : List Nat) : List (Nat × Nat) :=
  (codes.foldl (fun acc c => insertMark c (combiningClass c) acc) []).reverse

/-- The composite of two characters, if they have one. -/
def composePair? (a b : Nat) : Option Nat :=
  if 0x1100 ≤ a ∧ a < 0x1113 ∧ 0x1161 ≤ b ∧ b < 0x1176 then some (0xAC00 + ((a - 0x1100) * 21 + (b - 0x1161)) * 28)
  else if 0xAC00 ≤ a ∧ a ≤ 0xD7A3 ∧ (a - 0xAC00) % 28 = 0 ∧ 0x11A7 < b ∧ b < 0x11C3 then some (a + (b - 0x11A7))
  else normalTables.get.compositions.findSome? fun
    | [x, y, whole] => if x = a ∧ y = b then some whole else none
    | _ => none

/-- Composition behind a starter. `between` holds the marks that stayed behind it, last first, and `last` the class of
the last of them: a mark composes only if no mark of its class or a higher one stands between. -/
def composeFrom (starter : Nat) (between : List Nat) (last : Option Nat) : List (Nat × Nat) → List Nat
  | [] => starter :: between.reverse
  | (c, cls) :: rest =>
    let free := match last with
      | none => true
      | some l => decide (l < cls)
    match if free then composePair? starter c else none with
    | some whole => composeFrom whole between last rest
    | none =>
      if cls = 0 then starter :: between.reverse ++ composeFrom c [] none rest
      else composeFrom starter (c :: between) (some cls) rest

/-- Composition of ordered characters; marks before the first starter stay as they are. -/
def compose : List (Nat × Nat) → List Nat
  | [] => []
  | (c, cls) :: rest => if cls = 0 then composeFrom c [] none rest else c :: compose rest

/-- The compatibility normal form. -/
def normalForm (s : String) : String :=
  if s.toList.all fun c => decide (c.toNat < 128) then s
  else String.ofList ((compose (orderMarks (s.toList.flatMap fun c => decompose c.toNat))).map Char.ofNat)

end CallAtlas.Text
