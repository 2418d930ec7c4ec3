import CallAtlas.Text.Printable

/-!
# Quoted text

A text between quotes, as a literal of the analysed language: apostrophes unless the text holds one and no double
quote; backslash, the quote in use, controls and unprintable code points are escaped. Texts are lists of code points,
because an escape may also name half of a surrogate pair.
-/

namespace CallAtlas.Text

/-- The lower-case hexadecimal digits of a number, at least `width` of them. -/
def hexDigits (width n : Nat) : List Char :=
  let ds := Nat.toDigits 16 n
  List.replicate (width - ds.length) '0' ++ ds

/-- A code point by its number: two, four or eight hexadecimal digits. -/
def codeEscape (code : Nat) : List Char :=
  if code < 0x100 then '\\' :: 'x' :: hexDigits 2 code
  else if code < 0x10000 then '\\' :: 'u' :: hexDigits 4 code
  else '\\' :: 'U' :: hexDigits 8 code

/-- The escape of a backslash, a line end, a tab or an unprintable code point; other code points as they are. -/
def escapeCode (code : Nat) : List Char :=
  if code = 0x5c then ['\\', '\\']
  else if code = 0xa then ['\\', 'n']
  else if code = 0xd then ['\\', 'r']
  else if code = 0x9 then ['\\', 't']
  else if isPrintable code then [Char.ofNat code]
  else codeEscape code

/-- The quote that a text is written in. -/
def quoteFor (codes : List Nat) : Char :=
  if codes.contains 0x27 && !codes.contains 0x22 then '"' else '\''

/-- The text between its quotes. -/
def quotedCodes (codes : List Nat) : List Char :=
  let q := quoteFor codes
  q :: (codes.flatMap fun c => if c = q.toNat then ['\\', q] else escapeCode c) ++ [q]

/-- A text between its quotes. -/
def quoted (s : String) : String := String.ofList (quotedCodes (s.toList.map (·.toNat)))

/-- Bytes between quotes: everything outside printable ASCII is escaped. -/
def quotedBytes (bytes : List Nat) : List Char :=
  let q := quoteFor bytes
  'b' :: q :: (bytes.flatMap fun b =>
    if b = q.toNat then ['\\', q]
    else if b < 0x7f then escapeCode b
    else '\\' :: 'x' :: hexDigits 2 b) ++ [q]

end CallAtlas.Text
