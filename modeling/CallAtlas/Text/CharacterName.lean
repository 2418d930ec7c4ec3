import CallAtlas.Text.CharacterNameData
import CallAtlas.Text.Packed
import CallAtlas.Text.Piece
import CallAtlas.Text.Ranges

/-!
# Characters by name

Names are found in a table whatever their case. Two kinds of names follow a rule instead and are written in capitals: a
Hangul syllable is named by its sounds, and a unified ideograph by its code point.
-/

namespace CallAtlas.Text

/-- The value of a hexadecimal digit in capitals. -/
def capitalHexValue? (c : Char) : Option Nat :=
  if c.isDigit then some (c.toNat - 48)
  else if 'A' ≤ c && c ≤ 'F' then some (c.toNat - 55)
  else none

/-- The number that hexadecimal digits in capitals spell. -/
def capitalHex? (cs : List Char) : Option Nat :=
  cs.foldlM (fun n c => (capitalHexValue? c).map (16 * n + ·)) 0

/-- The name table. -/
def nameTable : Thunk (List Char) := ⟨fun _ => unpacked nameAlphabet 357870 packedNames⟩

/-- A search in the name table: the next code point, the last name, the line that is being read, last character first,
and the code point that was found. -/
structure NameSearch where
  code : Nat := 0
  name : List Char := []
  line : List Char := []
  found : Option Nat := none

namespace NameSearch

/-- At the end of a line. -/
def endLine (wanted : List Char) (s : NameSearch) : NameSearch :=
  match s.line.reverse with
  | '!' :: digits => { s with code := (capitalHex? digits).getD 0, line := [] }
  | shared :: rest =>
    let name := s.name.take (nameAlphabet.toList.idxOf shared) ++ rest
    { code := s.code + 1, name, line := [], found := if s.found.isNone && name == wanted then some s.code else s.found }
  | [] => s

/-- One character of the table further. -/
def step (wanted : List Char) (s : NameSearch) (c : Char) : NameSearch :=
  if c == '\n' then s.endLine wanted else { s with line := c :: s.line }

end NameSearch

/-- The character of a name in the table. -/
def tabledName? (name : List Char) : Option Nat :=
  (nameTable.get.foldl (NameSearch.step (name.map Char.toUpper)) {}).found

/-- The sounds that a syllable begins with. -/
def leadingSounds : List String :=
  ["G", "GG", "N", "D", "DD", "R", "M", "B", "BB", "S", "SS", "", "J", "JJ", "C", "K", "T", "P", "H"]

/-- The vowels of a syllable. -/
def vowelSounds : List String :=
  ["A", "AE", "YA", "YAE", "EO", "E", "YEO", "YE", "O", "WA", "WAE", "OE", "YO", "U", "WEO", "WE", "WI", "YU", "EU",
    "YI", "I"]

/-- The sounds that a syllable ends with. -/
def trailingSounds : List String :=
  ["", "G", "GG", "GS", "N", "NJ", "NH", "D", "L", "LG", "LM", "LB", "LS", "LT", "LP", "LH", "M", "B", "BS", "S", "SS",
    "NG", "J", "C", "K", "T", "P", "H"]

/-- The number of the longest sound that a text begins with, and the rest. -/
def longestSound? (sounds : List String) (cs : List Char) : Option (Nat × List Char) :=
  let fitting := sounds.zipIdx.filter fun s => s.1.toList.isPrefixOf cs
  let longest := fitting.foldl (fun best s =>
    match best with
    | some (b : String × Nat) => if b.1.length < s.1.length then some s else some b
    | none => some s) none
  longest.map fun s => (s.2, cs.drop s.1.length)

/-- The syllable of these sounds. -/
def syllableNamed? (cs : List Char) : Option Nat := do
  let (leading, cs) ← longestSound? leadingSounds cs
  let (vowel, cs) ← longestSound? vowelSounds cs
  let (trailing, cs) ← longestSound? trailingSounds cs
  if cs.isEmpty then some (0xAC00 + (leading * 21 + vowel) * 28 + trailing) else none

/-- The code points of unified ideographs. -/
def ideographRanges : Ranges :=
  [(0x3400, 0x4dbf), (0x4e00, 0x9fff), (0x20000, 0x2a6df), (0x2a700, 0x2b738), (0x2b740, 0x2b81d), (0x2b820, 0x2cea1),
    (0x2ceb0, 0x2ebe0), (0x30000, 0x3134a)]

/-- The ideograph of this code point, written with four or five digits. -/
def ideographNamed? (digits : List Char) : Option Nat := do
  if digits.length != 4 && digits.length != 5 then none
  else
    let code ← capitalHex? digits
    if ideographRanges.has code then some code else none

/-- The code point of a character name. -/
def characterNamed? (name : List Char) : Option Nat :=
  match dropFront? "HANGUL SYLLABLE ".toList name, dropFront? "CJK UNIFIED IDEOGRAPH-".toList name with
  | some sounds, _ => syllableNamed? sounds
  | _, some digits => ideographNamed? digits
  | none, none => tabledName? name

end CallAtlas.Text
