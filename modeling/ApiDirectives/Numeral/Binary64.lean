/-!
# Double precision

Numbers of the document that are no integers are binary64 values. They are kept as exact data, a
sign, a significand and a power of two, so that reading and printing are computations with natural
numbers: reading rounds a ratio to the nearest value, a half to the even one, and printing looks for
the decimal with the fewest digits that reads back.
-/

namespace ApiDirectives

/-- A binary64 value. A finite one is `± significand * 2 ^ exponent`, kept with the significand in
`[2^52, 2^53)`, or with the least exponent `-1074` and a smaller significand. -/
inductive Binary64 where
  | finite (negative : Bool) (significand : Nat) (exponent : Int)
  | infinite (negative : Bool)
  | undefined
  deriving Repr, DecidableEq, Inhabited

namespace Binary64

/-- The least exponent of a finite value. -/
def leastExponent : Int := -1074

/-- The greatest exponent of a finite value. -/
def greatestExponent : Int := 971

/-- Zero, with a sign. -/
def zero (negative : Bool) : Binary64 :=
  .finite negative 0 leastExponent

/-- The quotient `num / (den * 2 ^ e)` rounded down, its remainder and its divisor. -/
def scaled (num den : Nat) (e : Int) : Nat × Nat × Nat :=
  let divisor := den * Nat.pow 2 e.toNat
  let dividend := num * Nat.pow 2 (-e).toNat
  (dividend / divisor, dividend % divisor, divisor)

/-- A quotient rounded to the nearest integer, a half to the even one. -/
def roundedEven (quotient remainder divisor : Nat) : Nat :=
  if divisor < 2 * remainder || (2 * remainder == divisor && quotient % 2 == 1) then quotient + 1
  else quotient

/-- The exponent at which a positive ratio has a significand of 53 bits, but not below the least. -/
def exponentFor (num den : Nat) : Int :=
  let guess := (num.log2 : Int) - (den.log2 : Int) - 52
  let e := if Nat.pow 2 52 ≤ (scaled num den guess).1 then guess else guess - 1
  max e leastExponent

/-- The value nearest to a ratio with a positive denominator. -/
def ofRatio (negative : Bool) (num den : Nat) : Binary64 :=
  if num = 0 then zero negative
  else
    let e := exponentFor num den
    let (q, r, d) := scaled num den e
    let m := roundedEven q r d
    let (m, e) := if m = Nat.pow 2 53 then (Nat.pow 2 52, e + 1) else (m, e)
    if greatestExponent < e then .infinite negative else .finite negative m e

/-- The value nearest to `digits * 10 ^ exponent`. Exponents beyond all values are cut off before a
power of ten is formed. -/
def ofDecimal (negative : Bool) (digits : Nat) (exponent : Int) : Binary64 :=
  if digits = 0 then zero negative
  else
    let magnitude : Int := (Nat.toDigits 10 digits).length + exponent
    if 310 < magnitude then .infinite negative
    else if magnitude < -330 then zero negative
    else ofRatio negative (digits * Nat.pow 10 exponent.toNat) (Nat.pow 10 (-exponent).toNat)

/-- The value of an integer, rounded to the nearest. -/
def ofInt (n : Int) : Binary64 :=
  ofRatio (n < 0) n.natAbs 1

/-- The number with its sign changed. -/
def negated : Binary64 → Binary64
  | .finite negative m e => .finite (!negative) m e
  | .infinite negative => .infinite (!negative)
  | .undefined => .undefined

/-- Neither infinite nor undefined. -/
def isFinite : Binary64 → Bool
  | .finite .. => true
  | _ => false

/-- The integer that a value is equal to, if there is one. -/
def toInt? : Binary64 → Option Int
  | .finite negative m e =>
    let divisor := Nat.pow 2 (-e).toNat
    if m % divisor = 0 then
      let n : Int := (m / divisor * Nat.pow 2 e.toNat : Nat)
      some (if negative then -n else n)
    else none
  | _ => none

/-- Whether two values are equal as numbers: the zeros are, and an undefined value is equal to
nothing. -/
def sameNumber : Binary64 → Binary64 → Bool
  | .undefined, _ => false
  | _, .undefined => false
  | .infinite a, .infinite b => a == b
  | .finite a m e, .finite b n f => (m == 0 && n == 0) || (a == b && m == n && e == f)
  | _, _ => false

end Binary64

end ApiDirectives
