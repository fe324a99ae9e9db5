import ApiDirectives.Numeral.Binary64
import ApiDirectives.Text.Blank
import ApiDirectives.Text.Digit

/-!
# Reading numbers

Values of directives are text; an integer or a number is read from it by two small grammars. Digits
of every script count by their value, blanks around the number are dropped, and an underscore may
stand between two digits.
-/

namespace ApiDirectives.Numeral

open ApiDirectives.Text

/-- Blanks that may surround a number: the ASCII ones without the information separators, and those
of other scripts. -/
def isMargin (c : Char) : Bool :=
  (9 ≤ c.toNat && c.toNat ≤ 13) || c == ' ' || (127 ≤ c.toNat && isBlank c)

/-- A decimal digit of any script by its ASCII form; other characters stay. -/
def plainDigit (c : Char) : Char :=
  match decimalValue? c with
  | some v => Char.ofNat (48 + v)
  | none => c

/-- Removes underscores that stand between two digits, and refuses others. -/
def dropUnderscores : Char → List Char → Option (List Char)
  | previous, [] => if previous = '_' then none else some []
  | previous, c :: r =>
    if c = '_' then if previous.isDigit then dropUnderscores c r else none
    else if previous = '_' && !c.isDigit then none
    else (dropUnderscores c r).map (c :: ·)

/-- The characters of a number: margins and underscores dropped, digits in ASCII. -/
def plain (s : String) : Option (List Char) :=
  dropUnderscores ' ' ((trimOf isMargin s.toList).map plainDigit)

/-- The value of decimal digits. -/
def digitsValue (ds : List Char) : Nat :=
  ds.foldl (fun n d => n * 10 + (d.toNat - 48)) 0

/-- A sign, if there is one, and what follows it. -/
def sign : List Char → Bool × List Char
  | '-' :: r => (true, r)
  | '+' :: r => (false, r)
  | cs => (false, cs)

/-- The most digits an integer may have. -/
def digitLimit : Nat := 4300

/-- Why a text is no integer. -/
inductive IntegerFault where
  | malformed
  | tooLong (digits : Nat)
  deriving Repr, DecidableEq

/-- Reads an integer: an optional sign and digits, at most `digitLimit` of them. -/
def readInteger (s : String) : Except IntegerFault Int :=
  match plain s with
  | none => .error .malformed
  | some cs =>
    let (negative, ds) := sign cs
    if ds.isEmpty || !ds.all Char.isDigit then .error .malformed
    else if digitLimit < ds.length then .error (.tooLong ds.length)
    else
      let n : Int := digitsValue ds
      .ok (if negative then -n else n)

/-- Reads an exponent: nothing, or the mark, an optional sign and digits, to the end of the text. -/
def readExponent : List Char → Option Int
  | [] => some 0
  | c :: r =>
    if c = 'e' || c = 'E' then
      let (negative, ds) := sign r
      if ds.isEmpty || !ds.all Char.isDigit then none
      else
        let n : Int := digitsValue ds
        some (if negative then -n else n)
    else none

/-- Reads a decimal with an optional fraction and exponent. -/
def readDecimal (negative : Bool) (cs : List Char) : Option Binary64 :=
  let whole := cs.takeWhile Char.isDigit
  let afterWhole := cs.dropWhile Char.isDigit
  let (fraction, rest) := match afterWhole with
    | '.' :: r => (r.takeWhile Char.isDigit, r.dropWhile Char.isDigit)
    | r => ([], r)
  if whole.isEmpty && fraction.isEmpty then none
  else
    (readExponent rest).map fun e =>
      Binary64.ofDecimal negative (digitsValue (whole ++ fraction)) (e - fraction.length)

/-- Reads a number of double precision, the words for the infinite and undefined ones included. -/
def readNumber (s : String) : Option Binary64 :=
  match plain s with
  | none => none
  | some cs =>
    let (negative, body) := sign cs
    let word := String.ofList (body.map Char.toLower)
    if word = "inf" || word = "infinity" then some (.infinite negative)
    else if word = "nan" then some .undefined
    else readDecimal negative body

end ApiDirectives.Numeral
