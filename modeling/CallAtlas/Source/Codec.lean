import CallAtlas.Source.Literal
import CallAtlas.Text.Utf8

/-!
# Encodings of source files

An encoding is known by its names and tells how the bytes of a file give its text. Which encodings there are depends on
where the program runs, so they are a parameter (`Codecs`) of everything that reads files. Here are those that are
computed: UTF-8, UTF-7, UTF-16, and ASCII texts with escapes.
-/

namespace CallAtlas.Source

/-- Why bytes give no text. -/
inductive DecodingFault where
  /-- The bytes are not in the encoding. -/
  | malformed
  /-- The encoding is not one to read files with. -/
  | unfit
  /-- The bytes stand for half of a surrogate pair, which is no character. -/
  | surrogate
  deriving Repr, DecidableEq, Inhabited

/-- A way to read bytes. -/
abbrev Decoder := List UInt8 → Except DecodingFault (List Char)

/-- What a name stands for. -/
inductive Codec where
  | ofText (read : Decoder)
  /-- An encoding that does not give text. -/
  | notOfText

/-- The encodings that there are, by the names that files give them. -/
abbrev Codecs := List Char → Option Codec

/-- A result, if there is one. -/
def orMalformed {α : Type} : Option α → Except DecodingFault α
  | some a => .ok a
  | none => .error .malformed

/-- The text of some codes. -/
def textOfCodes (codes : List Nat) : Except DecodingFault (List Char) :=
  if codes.all fun code => decide code.isValidChar then .ok (codes.map Char.ofNat) else .error .surrogate

/-- The codes of some bytes. -/
def codesOf (bytes : List UInt8) : List Nat := bytes.map (·.toNat)

/-- Reads UTF-8. -/
def readUtf8 : Decoder := fun bytes => orMalformed (Text.decodeUtf8? bytes)

/-- Reads bytes that are the numbers of characters below a limit. -/
def readBelow (limit : Nat) : Decoder := fun bytes =>
  if (codesOf bytes).all (· < limit) then textOfCodes (codesOf bytes) else .error .malformed

/-! ## Surrogate pairs -/

/-- The first half of a pair. -/
def isHighSurrogate (unit : Nat) : Bool := 0xd800 ≤ unit && unit < 0xdc00

/-- The second half of a pair. -/
def isLowSurrogate (unit : Nat) : Bool := 0xdc00 ≤ unit && unit < 0xe000

/-- The code of a pair. -/
def pairCode (high low : Nat) : Nat := 0x10000 + (high - 0xd800) * 1024 + (low - 0xdc00)

/-- The codes of units of two bytes. A half of a pair may not stand alone. -/
def joinPairs : List Nat → Option (List Nat)
  | [] => some []
  | unit :: rest =>
    if isHighSurrogate unit then
      match rest with
      | low :: rest => if isLowSurrogate low then (joinPairs rest).map (pairCode unit low :: ·) else none
      | [] => none
    else if isLowSurrogate unit then none
    else (joinPairs rest).map (unit :: ·)

/-- The units of two bytes each. -/
def unitsOf (lowFirst : Bool) : List UInt8 → Option (List Nat)
  | [] => some []
  | [_] => none
  | a :: b :: rest =>
    (unitsOf lowFirst rest).map ((if lowFirst then a.toNat + 256 * b.toNat else 256 * a.toNat + b.toNat) :: ·)

/-- Reads UTF-16 in a known byte order. -/
def readUtf16 (lowFirst : Bool) : Decoder := fun bytes =>
  orMalformed ((unitsOf lowFirst bytes).bind joinPairs) >>= textOfCodes

/-- UTF-16 in the byte order that a mark at the start tells. A file that names its encoding does not start with one. -/
def readMarkedUtf16 : Decoder := fun bytes => do
  let _ ← readUtf16 true bytes
  throw .unfit

/-! ## UTF-7 -/

/-- Where a text in UTF-7 is being read. -/
inductive Shift where
  /-- Among plain characters. -/
  | plain
  /-- Right behind a plus sign. -/
  | opened
  /-- Among letters that stand for six bits each: how many bits are left over, the number that they make, and the first
  half of a pair, or zero. -/
  | inside (bits number high : Nat)

/-- The six bits that a letter stands for. -/
def sixBits? (code : Nat) : Option Nat :=
  "ABCDEFGHIJKLMNOPQRSTUVWXYZabcdefghijklmnopqrstuvwxyz0123456789+/".toList.idxOf? (Char.ofNat code)

namespace Shift

/-- A byte among plain characters. -/
def stepPlain (code : Nat) : Option (List Nat × Shift) :=
  if code = 0x2b then some ([], opened) else if code < 128 then some ([code], plain) else none

/-- A unit of sixteen bits, with `bits` left over. -/
def stepUnit (bits number high unit : Nat) : List Nat × Shift :=
  if high ≠ 0 && isLowSurrogate unit then ([pairCode high unit], inside bits number 0)
  else
    let front := if high = 0 then [] else [high]
    if isHighSurrogate unit then (front, inside bits number unit) else (front ++ [unit], inside bits number 0)

/-- What a byte adds. -/
def step (code : Nat) : Shift → Option (List Nat × Shift)
  | plain => stepPlain code
  | opened =>
    match sixBits? code with
    | some n => some ([], inside 6 n 0)
    | none => if code = 0x2d then some ([0x2b], plain) else none
  | inside bits number high =>
    match sixBits? code with
    | some n =>
      let number := 64 * number + n
      if bits + 6 < 16 then some ([], inside (bits + 6) number high)
      else some (stepUnit (bits - 10) (number % 1 <<< (bits - 10)) high (number >>> (bits - 10)))
    | none =>
      if 6 ≤ bits || number ≠ 0 then none
      else
        let front := if high ≠ 0 && code < 128 then [high] else []
        if code = 0x2d then some (front, plain) else (stepPlain code).map fun p => (front ++ p.1, p.2)

/-- The codes of some bytes. -/
def codes? : Shift → List Nat → Option (List Nat)
  | inside bits number high, [] => if high ≠ 0 || 6 ≤ bits || number ≠ 0 then none else some []
  | _, [] => some []
  | s, code :: rest => (s.step code).bind fun p => (p.2.codes? rest).map (p.1 ++ ·)

end Shift

/-- Reads UTF-7. -/
def readUtf7 : Decoder := fun bytes => orMalformed (Shift.plain.codes? (codesOf bytes)) >>= textOfCodes

/-! ## Escapes -/

/-- Reads a text with the escapes of literals. No backslash may be left over at the end. -/
def readEscapes : Decoder := fun bytes =>
  let chars := (codesOf bytes).map Char.ofNat
  let isOpen := (chars.reverse.takeWhile (· == '\\')).length % 2 == 1
  orMalformed (if isOpen then none else unescape false (chars.length + 1) chars) >>= textOfCodes

/-- The codes of a text in which a backslash, a letter `u` and four digits stand for a character, or `U` and eight. Every
round reads a character. -/
def rawCodes? : Nat → List Char → Option (List Nat)
  | 0, _ => some []
  | _, [] => some []
  | rounds + 1, '\\' :: c :: cs =>
    if c == 'u' || c == 'U' then do
      let (code, rest) ← hexEscape? (if c == 'u' then 4 else 8) cs
      if 0x10ffff < code then none
      return code :: (← rawCodes? rounds rest)
    else (rawCodes? rounds cs).map (0x5c :: c.toNat :: ·)
  | rounds + 1, c :: cs => (rawCodes? rounds cs).map (c.toNat :: ·)

/-- Reads a text with no other escapes than these. -/
def readRawEscapes : Decoder := fun bytes =>
  let chars := (codesOf bytes).map Char.ofNat
  orMalformed (rawCodes? (chars.length + 1) chars) >>= textOfCodes

end CallAtlas.Source
