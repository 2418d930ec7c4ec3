/-!
# UTF-8

Texts as bytes and back. Decoding refuses what no text is written as: stray and missing continuation bytes, forms longer
than needed, surrogates, and codes beyond the last character.
-/

namespace CallAtlas.Text

/-- The bytes of a text. -/
def encodeUtf8 (cs : List Char) : List UInt8 := cs.flatMap String.utf8EncodeChar

/-- The six bits that a continuation byte carries. -/
def continuation? (b : UInt8) : Option Nat := if b.toNat / 64 == 2 then some (b.toNat % 64) else none

/-- The character of a code, if it needs more than the codes below `least`. -/
def charFrom? (least code : Nat) : Option Char :=
  if least ≤ code && code.isValidChar then some (Char.ofNat code) else none

/-- The text that some bytes spell. -/
def decodeUtf8? : List UInt8 → Option (List Char)
  | [] => some []
  | a :: rest =>
    let n := a.toNat
    if n < 0x80 then (decodeUtf8? rest).map (Char.ofNat n :: ·)
    else if n / 32 == 6 then
      match rest with
      | b :: rest => do
        let c ← charFrom? 0x80 (64 * (n % 32) + (← continuation? b))
        return c :: (← decodeUtf8? rest)
      | _ => none
    else if n / 16 == 14 then
      match rest with
      | b :: b' :: rest => do
        let c ← charFrom? 0x800 (4096 * (n % 16) + 64 * (← continuation? b) + (← continuation? b'))
        return c :: (← decodeUtf8? rest)
      | _ => none
    else if n / 8 == 30 then
      match rest with
      | b :: b' :: b'' :: rest => do
        let code := 262144 * (n % 8) + 4096 * (← continuation? b) + 64 * (← continuation? b') + (← continuation? b'')
        let c ← charFrom? 0x10000 code
        return c :: (← decodeUtf8? rest)
      | _ => none
    else none

end CallAtlas.Text
