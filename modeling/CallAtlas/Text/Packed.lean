/-!
# Packed tables

A long table is kept as the digits of a fraction. The characters of the table are numbered below 64 and read bit by bit.
What was seen so far behind the same characters tells how likely a one is; the range that the fraction can still lie in
is cut in this proportion, and the side on which it lies is the bit. So an expected bit takes up next to nothing.
-/

namespace CallAtlas.Text

/-- The digits that packed tables are written with. -/
def packedDigits : List Char :=
  "0123456789ABCDEFGHIJKLMNOPQRSTUVWXYZabcdefghijklmnopqrstuvwxyz!$%&*+,./;<=>?^_|~".toList

/-- What has been read of a packed table. -/
structure Unpacking where
  /-- The digits that are left. -/
  digits : List Nat
  /-- The width of the range, and where in it the fraction lies. -/
  range : Nat := 1
  place : Nat := 0
  /-- The numbers of the last five characters, as one number. -/
  recent : Nat := 0
  /-- How often either bit was seen in each situation, zeros times 256 and ones; what was seen long ago counts less. -/
  seen : Array Nat := Array.replicate 7999993 0

namespace Unpacking

/-- Takes digits until the range is wide enough to be cut. -/
def widen : Nat → Unpacking → Unpacking
  | 0, u => u
  | n + 1, ⟨digits, range, place, recent, seen⟩ =>
    if 16777216 ≤ range then ⟨digits, range, place, recent, seen⟩
    else widen n ⟨digits.tail, 80 * range, 80 * place + digits.headD 0, recent, seen⟩

/-- The situations of a bit: the last characters, from none to five of them, and the bits before it in its character. -/
def situations (recent bits size : Nat) : List Nat :=
  [1, 64, 4096, 262144, 16777216, 1073741824].map fun m => ((recent % m + m) * 64 + bits) % size

/-- How likely a one is, out of 65536. What was seen behind more characters corrects what was seen behind fewer. -/
def chance (seen : Array Nat) (situations : List Nat) : Nat :=
  let guess := situations.foldl (fun p i =>
    let n := seen.getD i 0
    (24 * p + 65536 * (n % 256)) / (24 + n / 256 + n % 256)) 32768
  max 32 (min guess 65504)

/-- Counts a bit. -/
def count (bit : Bool) (n : Nat) : Nat :=
  if bit then (n / 256 + 1) / 2 * 256 + min (n % 256 + 2) 255
  else min (n / 256 + 2) 255 * 256 + (n % 256 + 1) / 2

/-- Reads the bit after `bits`, and gives the bits with it. -/
def readBit (bits : Nat) (u : Unpacking) : Nat × Unpacking :=
  match widen 5 u with
  | ⟨digits, range, place, recent, seen⟩ =>
    let here := situations recent bits seen.size
    let ones := range * chance seen here / 65536
    let bit := decide (place < ones)
    let seen := here.foldl (fun seen i => seen.setIfInBounds i (count bit (seen.getD i 0))) seen
    if bit then (2 * bits + 1, ⟨digits, ones, place, recent, seen⟩)
    else (2 * bits, ⟨digits, range - ones, place - ones, recent, seen⟩)

/-- Reads this many bits. -/
def readBits : Nat → Nat → Unpacking → Nat × Unpacking
  | 0, bits, u => (bits, u)
  | n + 1, bits, u =>
    match readBit bits u with
    | (bits, u) => readBits n bits u

/-- Reads this many characters of the alphabet. -/
def readChars (alphabet : Array Char) : Nat → Array Char → Unpacking → Array Char
  | 0, text, _ => text
  | n + 1, text, u =>
    match readBits 6 1 u with
    | (bits, ⟨digits, range, place, recent, seen⟩) =>
      readChars alphabet n (text.push (alphabet.getD (bits - 64) ' '))
        ⟨digits, range, place, (recent * 64 + (bits - 64)) % 1073741824, seen⟩

end Unpacking

/-- A table of this many characters of the alphabet; line ends in its packed form do not count. -/
def unpacked (alphabet : String) (length : Nat) (packed : String) : List Char :=
  let digits := packed.toList.filterMap fun c => packedDigits.idxOf? c
  (Unpacking.readChars alphabet.toList.toArray length #[] { digits }).toList

end CallAtlas.Text
