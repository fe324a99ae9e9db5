import ApiDirectives.Numeral.Binary64

/-!
# The shortest decimal

A finite value is printed with the fewest significant digits that read back as it, and among those
with the nearest; of two equally near the one with the even last digit. The search tries one digit,
two digits and so on: on each decimal grid only the two neighbours of the value can be nearest to it.
-/

namespace ApiDirectives

namespace Binary64

/-- A positive ratio. -/
structure Ratio where
  num : Nat
  den : Nat

/-- Whether one ratio is less than another. -/
def Ratio.lt (a b : Ratio) : Bool := a.num * b.den < b.num * a.den

/-- Whether one ratio is at most another. -/
def Ratio.le (a b : Ratio) : Bool := a.num * b.den ≤ b.num * a.den

/-- `n * 2 ^ e`. -/
def Ratio.binary (n : Nat) (e : Int) : Ratio := ⟨n * Nat.pow 2 e.toNat, Nat.pow 2 (-e).toNat⟩

/-- `n * 10 ^ e`. -/
def Ratio.decimal (n : Nat) (e : Int) : Ratio := ⟨n * Nat.pow 10 e.toNat, Nat.pow 10 (-e).toNat⟩

/-- The distance of two ratios. -/
def Ratio.distance (a b : Ratio) : Ratio :=
  let x := a.num * b.den
  let y := b.num * a.den
  ⟨max x y - min x y, a.den * b.den⟩

/-- The exponent of the leading decimal digit of a positive ratio. -/
def leadingExponent (v : Ratio) : Int :=
  let guess : Int := (Nat.toDigits 10 v.num).length - (Nat.toDigits 10 v.den).length
  if (Ratio.decimal 1 guess).le v then guess else guess - 1

/-- The reals that round to a value: their ends, and whether the ends are among them. -/
structure Neighbourhood where
  low : Ratio
  high : Ratio
  closed : Bool

/-- The neighbourhood of `m * 2 ^ e`. Below a power of two the values lie twice as dense. -/
def neighbourhood (m : Nat) (e : Int) : Neighbourhood where
  low := if m = Nat.pow 2 52 && leastExponent < e then Ratio.binary (4 * m - 1) (e - 2)
    else Ratio.binary (4 * m - 2) (e - 2)
  high := Ratio.binary (4 * m + 2) (e - 2)
  closed := m % 2 == 0

/-- Whether a ratio rounds to the value of a neighbourhood. -/
def Neighbourhood.holds (n : Neighbourhood) (v : Ratio) : Bool :=
  if n.closed then n.low.le v && v.le n.high else n.low.lt v && v.lt n.high

/-- The best decimal with `count` digits in the neighbourhood, if there is one: its digits and the
exponent of the last one. -/
def candidate (v : Ratio) (near : Neighbourhood) (leading : Int) (count : Nat) :
    Option (Nat × Int) :=
  let e := leading - count + 1
  let unit := Ratio.decimal 1 e
  let low := (v.num * unit.den) / (v.den * unit.num)
  let below := Ratio.decimal low e
  let above := Ratio.decimal (low + 1) e
  match near.holds below && 0 < low, near.holds above with
  | false, false => none
  | true, false => some (low, e)
  | false, true => some (low + 1, e)
  | true, true =>
    let down := v.distance below
    let up := v.distance above
    if down.lt up then some (low, e)
    else if up.lt down then some (low + 1, e)
    else if low % 2 = 0 then some (low, e) else some (low + 1, e)

/-- The first hit among the grids with `17 - fuel` digits and more. -/
def searchShortest (v : Ratio) (near : Neighbourhood) (leading : Int) : Nat → Nat × Int
  | 0 => (0, 0)
  | fuel + 1 =>
    match candidate v near leading (18 - (fuel + 1)) with
    | some d => d
    | none => searchShortest v near leading fuel

/-- Drops the final zeros of a positive number of digits, at most `fuel` of them. -/
def dropZeros : Nat → Nat → Int → Nat × Int
  | 0, n, e => (n, e)
  | fuel + 1, n, e => if n % 10 = 0 then dropZeros fuel (n / 10) (e + 1) else (n, e)

/-- The shortest digits of `m * 2 ^ e` for a positive `m`, with the exponent of the last one. -/
def shortestDigits (m : Nat) (e : Int) : Nat × Int :=
  let v := Ratio.binary m e
  let (n, x) := searchShortest v (neighbourhood m e) (leadingExponent v) 17
  dropZeros 20 n x

/-- How a decimal is laid out as text. -/
structure Layout where
  /-- Leading exponents from this one on are written positionally, … -/
  positionalFrom : Int
  /-- … up to but without this one. -/
  positionalBelow : Int
  /-- Written after the digits of a value in exponent form that has one digit only. -/
  bareSignificand : String
  infinity : String
  undefined : String

/-- An exponent with its sign and at least two digits. -/
def exponentText (x : Int) : String :=
  let digits := toString x.natAbs
  (if x < 0 then "-" else "+") ++ (if digits.length < 2 then "0" ++ digits else digits)

/-- A finite positive number with the given digits, the last of them at exponent `x`. -/
def Layout.digitsText (l : Layout) (digits : Nat) (x : Int) : String :=
  let ds := Nat.toDigits 10 digits
  let leading := x + ds.length - 1
  if l.positionalFrom ≤ leading && leading < l.positionalBelow then
    if 0 ≤ x then String.ofList (ds ++ List.replicate x.toNat '0') ++ ".0"
    else if 0 ≤ leading then
      let whole := (leading + 1).toNat
      String.ofList (ds.take whole ++ '.' :: ds.drop whole)
    else "0." ++ String.ofList (List.replicate (-leading - 1).toNat '0' ++ ds)
  else
    let significand := match ds with
      | [] => ""
      | [d] => String.singleton d ++ l.bareSignificand
      | d :: rest => String.ofList (d :: '.' :: rest)
    significand ++ "e" ++ exponentText leading

/-- A value as text. -/
def Layout.render (l : Layout) : Binary64 → String
  | .finite negative m e =>
    let sign := if negative then "-" else ""
    if m = 0 then sign ++ "0.0"
    else
      let (n, x) := shortestDigits m e
      sign ++ l.digitsText n x
  | .infinite negative => (if negative then "-" else "") ++ l.infinity
  | .undefined => l.undefined

end Binary64

end ApiDirectives
