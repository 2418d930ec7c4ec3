import CallAtlas.Number.Double

/-!
# Decimal text of floating-point numbers

Two ways to write a number: with the fewest digits that read back as the same number, and rounded to a given count
of significant digits. Both work on the exact value.
-/

namespace CallAtlas.Number

/-- The power of ten below or at the positive quotient `num / den`. -/
def decimalExponent (num den : Nat) : Int :=
  let guess : Int := (Int.ofNat num.log2 - Int.ofNat den.log2) * 30103 / 100000
  let reached (e : Int) : Bool := let s := scaleDown 10 e num den; decide (s.2 ≤ s.1)
  if reached (guess + 2) then guess + 2
  else if reached (guess + 1) then guess + 1
  else if reached guess then guess
  else if reached (guess - 1) then guess - 1
  else guess - 2

/-- A decimal: its digits as a number, and the power of ten of the last digit. -/
structure Decimal where
  digits : Nat
  exponent : Int
  deriving Repr, DecidableEq, Inhabited

namespace Decimal

/-- The quotient `num / den` cut to `count` digits from its leading one. -/
def cut (num den count : Nat) : Decimal :=
  let e := decimalExponent num den - Int.ofNat count + 1
  let s := scaleDown 10 e num den
  ⟨s.1 / s.2, e⟩

/-- The positive number that a decimal reads as. -/
def read (d : Decimal) : Double := .ofDecimal false d.digits d.exponent

/-- Of the two decimals around `num / den` with `count` digits, the nearest one that reads as `x`. -/
def shortOf? (x : Double) (num den count : Nat) : Option Decimal :=
  let low := cut num den count
  let high : Decimal := ⟨low.digits + 1, low.exponent⟩
  match low.read == x, high.read == x with
  | true, false => some low
  | false, true => some high
  | false, false => none
  | true, true =>
    let s := scaleDown 10 low.exponent num den
    if divNearest s.1 s.2 = low.digits then some low else some high

/-- The decimal with the fewest digits that reads as the positive number `significand * 2 ^ exponent`; of those with
equally many, the nearest. Seventeen digits always suffice. -/
def shortest (significand : Nat) (exponent : Int) : Decimal :=
  let v := Double.ratio significand exponent
  let x := Double.finite false significand exponent
  ((List.range 17).findSome? fun n => shortOf? x v.1 v.2 (n + 1)).getD (cut v.1 v.2 17)

/-- The quotient `num / den` rounded to `count` significant digits, an exact half to the even digit. -/
def rounded (num den count : Nat) : Decimal :=
  let e := decimalExponent num den - Int.ofNat count + 1
  let s := scaleDown 10 e num den
  let d := divNearest s.1 s.2
  if d = Nat.pow 10 count then ⟨Nat.pow 10 (count - 1), e + 1⟩ else ⟨d, e⟩

end Decimal

/-- The decimal digits of a number. -/
def digitsOf (n : Nat) : List Char := Nat.toDigits 10 n

/-- A run of zeros. -/
def zeros (n : Nat) : List Char := List.replicate n '0'

/-- Without the zeros at the back. -/
def dropZeros (cs : List Char) : List Char := (cs.reverse.dropWhile (· == '0')).reverse

/-- The power of ten after the mark `e`, signed and with at least two digits. -/
def exponentText (e : Int) : List Char :=
  let ds := digitsOf e.natAbs
  'e' :: (if e < 0 then '-' else '+') :: (if ds.length < 2 then '0' :: ds else ds)

/-- Digits whose first one stands for `10 ^ lead`, written with a point and no exponent. The flag keeps a fraction of
one zero behind a whole number. -/
def positional (ds : List Char) (lead : Int) (keepPoint : Bool) : List Char :=
  match lead with
  | .negSucc n => '0' :: '.' :: (zeros n ++ ds)
  | .ofNat n =>
    if ds.length ≤ n + 1 then ds ++ zeros (n + 1 - ds.length) ++ (if keepPoint then ['.', '0'] else [])
    else ds.take (n + 1) ++ '.' :: ds.drop (n + 1)

/-- Digits whose first one stands for `10 ^ lead`, written with an exponent. -/
def scientific (ds : List Char) (lead : Int) : List Char :=
  (match ds with
    | [] => []
    | d :: [] => [d]
    | d :: rest => d :: '.' :: rest) ++ exponentText lead

/-- The shortest text that reads back as the number: positional from `10 ^ -4` to below `10 ^ 16`. The flag keeps a
fraction of one zero behind a whole number. -/
def shortestText (keepPoint : Bool) : Double → List Char
  | .nan => "nan".toList
  | .infinite s => (if s then ['-'] else []) ++ "inf".toList
  | .finite s m e =>
    let sign := if s then ['-'] else []
    if m = 0 then sign ++ (if keepPoint then "0.0".toList else "0".toList)
    else
      let d := Decimal.shortest m e
      let all := digitsOf d.digits
      let lead := d.exponent + Int.ofNat all.length - 1
      let ds := dropZeros all
      sign ++ (if -4 ≤ lead ∧ lead < 16 then positional ds lead keepPoint else scientific ds lead)

/-- The number rounded to `count` significant digits, without zeros at the back of the fraction: positional from
`10 ^ -4` to below `10 ^ count`. -/
def generalText (count : Nat) : Double → List Char
  | .nan => "nan".toList
  | .infinite s => (if s then ['-'] else []) ++ "inf".toList
  | .finite s m e =>
    let sign := if s then ['-'] else []
    if m = 0 then sign ++ ['0']
    else
      let v := Double.ratio m e
      let d := Decimal.rounded v.1 v.2 count
      let lead := d.exponent + Int.ofNat count - 1
      let ds := dropZeros (digitsOf d.digits)
      sign ++ (if -4 ≤ lead ∧ lead < Int.ofNat count then positional ds lead false else scientific ds lead)

/-- Blanks in front up to the given width. -/
def padStart (width : Nat) (cs : List Char) : List Char := List.replicate (width - cs.length) ' ' ++ cs

end CallAtlas.Number
