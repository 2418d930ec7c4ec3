import CallAtlas.Text.Quoted
import CallAtlas.Text.Utf8

/-!
# Digests

The SHA-1 digest of some bytes, by which two contents are compared.
-/

namespace CallAtlas.Files.Digest

/-- The bits of a word moved to the left, those that fall out coming back at the right. -/
def rotate (w : UInt32) (n : Nat) : UInt32 := (w <<< n.toUInt32) ||| (w >>> (32 - n).toUInt32)

/-- A number as bytes, highest first. -/
def bigEndian (count n : Nat) : List UInt8 :=
  (List.range count).reverse.map fun i => (n / Nat.pow 256 i % 256).toUInt8

/-- A message made up to whole blocks: one bit, zeros, and the length in bits. -/
def pad (message : List UInt8) : List UInt8 :=
  let zeros := (119 - message.length % 64) % 64
  message ++ 0x80 :: List.replicate zeros 0 ++ bigEndian 8 (8 * message.length)

/-- Four bytes as a word. -/
def wordOf (bytes : List UInt8) : UInt32 := bytes.foldl (fun w b => (w <<< 8) ||| b.toUInt32) 0

/-- The pieces of a given size, in order; `rounds` bounds their number. -/
def chunks (size : Nat) (rounds : Nat) (bytes : List UInt8) : List (List UInt8) :=
  match rounds with
  | 0 => []
  | rounds + 1 => if bytes.isEmpty then [] else bytes.take size :: chunks size rounds (bytes.drop size)

/-- One more word of the schedule. -/
def extendSchedule (w : Array UInt32) : Array UInt32 :=
  let at' (back : Nat) : UInt32 := w.getD (w.size - back) 0
  w.push (rotate (at' 3 ^^^ at' 8 ^^^ at' 14 ^^^ at' 16) 1)

/-- The eighty words that a block of sixteen words is stretched to. -/
def schedule (block : List UInt32) : Array UInt32 :=
  (List.range 64).foldl (fun w _ => extendSchedule w) block.toArray

/-- The five words of the state. -/
structure State where
  a : UInt32
  b : UInt32
  c : UInt32
  d : UInt32
  e : UInt32
  deriving Repr, DecidableEq

/-- The state before the first block. -/
def State.start : State := ⟨0x67452301, 0xEFCDAB89, 0x98BADCFE, 0x10325476, 0xC3D2E1F0⟩

/-- The mixing function and the constant of a round. -/
def mixing (i : Nat) (s : State) : UInt32 × UInt32 :=
  if i < 20 then ((s.b &&& s.c) ||| (~~~s.b &&& s.d), 0x5A827999)
  else if i < 40 then (s.b ^^^ s.c ^^^ s.d, 0x6ED9EBA1)
  else if i < 60 then ((s.b &&& s.c) ||| (s.b &&& s.d) ||| (s.c &&& s.d), 0x8F1BBCDC)
  else (s.b ^^^ s.c ^^^ s.d, 0xCA62C1D6)

/-- One round. -/
def round (s : State) (w : UInt32) (i : Nat) : State :=
  let (f, k) := mixing i s
  ⟨rotate s.a 5 + f + s.e + k + w, s.a, rotate s.b 30, s.c, s.d⟩

/-- The state after one more block. -/
def State.next (s : State) (block : List UInt8) : State :=
  let words := schedule ((chunks 4 16 block).map wordOf)
  let t := (List.range 80).foldl (fun s i => round s (words.getD i 0) i) s
  ⟨s.a + t.a, s.b + t.b, s.c + t.c, s.d + t.d, s.e + t.e⟩

/-- The digest of a message, twenty bytes. -/
def ofBytes (message : List UInt8) : List UInt8 :=
  let padded := pad message
  let s := (chunks 64 padded.length padded).foldl State.next State.start
  [s.a, s.b, s.c, s.d, s.e].flatMap fun w => bigEndian 4 w.toNat

/-- The digest of a text. -/
def ofText (text : String) : List UInt8 := ofBytes (Text.encodeUtf8 text.toList)

/-- Bytes in hexadecimal digits. -/
def hex (bytes : List UInt8) : String := String.ofList (bytes.flatMap fun b => Text.hexDigits 2 b.toNat)

end CallAtlas.Files.Digest
