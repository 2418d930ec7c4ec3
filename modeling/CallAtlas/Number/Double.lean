/-!
# Binary floating-point numbers of 53 bits

A finite number is a significand times a power of two, so every operation is exact rational arithmetic followed by
one rounding to the nearest representable number, an exact half going to the even significand.
-/

namespace CallAtlas.Number

/-- A floating-point number with a significand of at most 53 bits and an exponent between -1074 and 971. -/
inductive Double where
  | finite (negative : Bool) (significand : Nat) (exponent : Int)
  | infinite (negative : Bool)
  | nan
  deriving Repr, BEq, DecidableEq, Inhabited

/-- The quotient rounded to the nearest natural number, an exact half to the even one. -/
def divNearest (num den : Nat) : Nat :=
  let q := num / den
  let r := 2 * (num % den)
  if r < den then q else if den < r then q + 1 else if q % 2 = 0 then q else q + 1

/-- Numerator and denominator of `num / den` divided by `base ^ e`. -/
def scaleDown (base : Nat) (e : Int) (num den : Nat) : Nat × Nat :=
  match e with
  | .ofNat n => (num, den * Nat.pow base n)
  | .negSucc n => (num * Nat.pow base (n + 1), den)

namespace Double

/-- Zero of either sign. -/
def zero (negative : Bool) : Double := .finite negative 0 (-1074)

/-- The number nearest to the quotient `num / den`, of the given sign. -/
def ofRatio (negative : Bool) (num den : Nat) : Double :=
  if num = 0 then zero negative
  else
    let q₀ : Int := Int.ofNat num.log2 - Int.ofNat den.log2 - 53
    let s₀ := scaleDown 2 q₀ num den
    let q := max (if Nat.pow 2 53 ≤ s₀.1 / s₀.2 then q₀ + 1 else q₀) (-1074)
    let s := scaleDown 2 q num den
    let m := divNearest s.1 s.2
    let (m, q) := if m = Nat.pow 2 53 then (Nat.pow 2 52, q + 1) else (m, q)
    if q > 971 then .infinite negative else .finite negative m q

/-- The number nearest to `digits * 10 ^ exponent`. Exponents far outside the range are settled by the count of
digits alone. -/
def ofDecimal (negative : Bool) (digits : Nat) (exponent : Int) : Double :=
  if digits = 0 then zero negative
  else
    let size : Int := Int.ofNat (Nat.toDigits 10 digits).length + exponent
    if size > 400 then .infinite negative
    else if size < -400 then zero negative
    else
      let s := scaleDown 10 (-exponent) digits 1
      ofRatio negative s.1 s.2

/-- The number nearest to an integer. -/
def ofInt (n : Int) : Double := ofRatio (decide (n < 0)) n.natAbs 1

/-- Numerator and denominator of the size of a finite number. -/
def ratio (significand : Nat) (exponent : Int) : Nat × Nat := scaleDown 2 (-exponent) significand 1

/-- The product. -/
def mul : Double → Double → Double
  | .nan, _ | _, .nan => .nan
  | .infinite s, .finite t m _ | .finite t m _, .infinite s => if m = 0 then .nan else .infinite (s != t)
  | .infinite s, .infinite t => .infinite (s != t)
  | .finite s m e, .finite t n f =>
    let a := ratio m e
    let b := ratio n f
    ofRatio (s != t) (a.1 * b.1) (a.2 * b.2)

/-- The quotient by a finite number other than zero. -/
def div : Double → Double → Double
  | .nan, _ | _, .nan => .nan
  | .infinite s, .finite t _ _ => .infinite (s != t)
  | .infinite _, .infinite _ => .nan
  | .finite s _ _, .infinite t => zero (s != t)
  | .finite s m e, .finite t n f =>
    let a := ratio m e
    let b := ratio n f
    if n = 0 then .nan else ofRatio (s != t) (a.1 * b.2) (a.2 * b.1)

/-- The opposite number. -/
def neg : Double → Double
  | .nan => .nan
  | .infinite s => .infinite (!s)
  | .finite s m e => .finite (!s) m e

/-- The sum. -/
def add : Double → Double → Double
  | .nan, _ | _, .nan => .nan
  | .infinite s, .infinite t => if s = t then .infinite s else .nan
  | .infinite s, .finite .. | .finite .., .infinite s => .infinite s
  | .finite s m e, .finite t n f =>
    let a := ratio m e
    let b := ratio n f
    let x : Int := (if s then -1 else 1) * Int.ofNat (a.1 * b.2) + (if t then -1 else 1) * Int.ofNat (b.1 * a.2)
    ofRatio (if x = 0 then s && t else decide (x < 0)) x.natAbs (a.2 * b.2)

/-- The difference. -/
def sub (x y : Double) : Double := add x (neg y)

/-- Strictly below the integer `k`; false of no number at all. -/
def ltInt : Double → Int → Bool
  | .nan, _ => false
  | .infinite s, _ => s
  | .finite s m e, k =>
    let a := ratio m e
    decide ((if s then -1 else 1) * Int.ofNat a.1 < k * Int.ofNat a.2)

end Double

/-- A number as it is given: a whole number of any size, or a floating-point number. -/
inductive Quantity where
  | whole (n : Int)
  | real (x : Double)
  deriving Repr, BEq, Inhabited

namespace Quantity

/-- Strictly below the integer `k`. -/
def ltInt : Quantity → Int → Bool
  | .whole n, k => decide (n < k)
  | .real x, k => x.ltInt k

/-- The nearest floating-point number; nothing for a whole number beyond the range. -/
def toDouble? : Quantity → Option Double
  | .real x => some x
  | .whole n =>
    match Double.ofInt n with
    | .infinite _ => none
    | x => some x

end Quantity

end CallAtlas.Number
