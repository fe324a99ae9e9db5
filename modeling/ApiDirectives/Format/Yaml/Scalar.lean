import ApiDirectives.Numeral.Reading

/-!
# What a plain scalar stands for

A scalar without quotes stands for nothing, a truth value, a number or a date when its text has the
form of one, and for itself otherwise. The forms are those of YAML 1.1: `yes` is a truth value, `010`
is eight, `1:30` is ninety, and an exponent needs a point and a sign.
-/

namespace ApiDirectives.Yaml

open Text

/-- What a plain scalar stands for. -/
inductive ScalarKind where
  | null
  | bool (b : Bool)
  | int
  | float
  | timestamp
  | merge
  | value
  | str
  deriving Repr, DecidableEq, Inhabited

/-- Words for truth. -/
def trueWords : List String :=
  ["yes", "Yes", "YES", "true", "True", "TRUE", "on", "On", "ON"]

/-- Words for falsehood. -/
def falseWords : List String :=
  ["no", "No", "NO", "false", "False", "FALSE", "off", "Off", "OFF"]

/-- Words for nothing; the empty scalar is one. -/
def nullWords : List String := ["~", "null", "Null", "NULL", ""]

/-- What follows an optional sign. -/
def unsigned : List Char → List Char
  | '-' :: r => r
  | '+' :: r => r
  | cs => cs

/-- A decimal digit or an underscore. -/
def isDigitOrGap (c : Char) : Bool := c.isDigit || c == '_'

/-- One or more characters of a class, and nothing else. -/
def allOf (p : Char → Bool) (cs : List Char) : Bool := !cs.isEmpty && cs.all p

/-- A digit below eight, or an underscore. -/
def isOctalOrGap (c : Char) : Bool := ('0' ≤ c && c ≤ '7') || c == '_'

/-- A binary digit or an underscore. -/
def isBinaryOrGap (c : Char) : Bool := c == '0' || c == '1' || c == '_'

/-- A hexadecimal digit or an underscore. -/
def isHexOrGap (c : Char) : Bool :=
  c.isDigit || ('a' ≤ c && c ≤ 'f') || ('A' ≤ c && c ≤ 'F') || c == '_'

/-- A place of a number in base sixty: one digit, or two with the first below six. -/
def isSexagesimalPlace : List Char → Bool
  | [a] => a.isDigit
  | [a, b] => '0' ≤ a && a ≤ '5' && b.isDigit
  | _ => false

/-- A decimal number that starts with a digit of a class, then colons and places. -/
def isSexagesimal (starts : Char → Bool) (cs : List Char) : Bool :=
  match piecesOf ':' cs with
  | (c :: whole) :: p :: ps => starts c && whole.all isDigitOrGap && (p :: ps).all isSexagesimalPlace
  | _ => false

/-- A nonzero digit. -/
def isNonzero (c : Char) : Bool := '1' ≤ c && c ≤ '9'

/-- An integer without its sign. -/
def isUnsignedInt : List Char → Bool
  | [] => false
  | ['0'] => true
  | '0' :: 'b' :: r => allOf isBinaryOrGap r
  | '0' :: 'x' :: r => allOf isHexOrGap r
  | '0' :: r => allOf isOctalOrGap r
  | c :: r => (isNonzero c && r.all isDigitOrGap) || isSexagesimal isNonzero (c :: r)

/-- Nothing, or the mark of an exponent, a sign and digits. -/
def isExponent : List Char → Bool
  | [] => true
  | e :: s :: r => (e == 'e' || e == 'E') && (s == '-' || s == '+') && allOf Char.isDigit r
  | _ => false

/-- Digits, a point, digits, an exponent. -/
def isPointed (cs : List Char) : Bool :=
  match cs.takeWhile isDigitOrGap, cs.dropWhile isDigitOrGap with
  | c :: _, '.' :: r => c.isDigit && isExponent (r.dropWhile isDigitOrGap)
  | _, _ => false

/-- A number in base sixty with a fraction. -/
def isSexagesimalFloat (cs : List Char) : Bool :=
  match cs.dropWhile (· != '.') with
  | '.' :: r => isSexagesimal Char.isDigit (cs.takeWhile (· != '.')) && r.all isDigitOrGap
  | _ => false

/-- The words for infinity after the point. -/
def infinityWords : List String := [".inf", ".Inf", ".INF"]

/-- The words for an undefined number. -/
def undefinedWords : List String := [".nan", ".NaN", ".NAN"]

/-- A number of double precision. -/
def isFloat (cs : List Char) : Bool :=
  let body := unsigned cs
  isPointed body || isSexagesimalFloat body || infinityWords.contains (String.ofList body)
    || undefinedWords.contains (String.ofList cs)
    || match cs with
      | '.' :: c :: r => c.isDigit && isExponent (r.dropWhile isDigitOrGap)
      | _ => false

/-- Between `least` and `most` digits, the most there are, and what follows. -/
def digits? (least most : Nat) (cs : List Char) : Option (List Char × List Char) :=
  let taken := (cs.take most).takeWhile Char.isDigit
  if taken.length < least then none else some (taken, cs.drop taken.length)

/-- One given character, and what follows. -/
def char? (c : Char) : List Char → Option (List Char)
  | [] => none
  | d :: r => if c = d then some r else none

/-- A blank inside a line. -/
def isGap (c : Char) : Bool := c == ' ' || c == '\t'

/-- A year, a month and a day; the latter two may have one digit. -/
def date? (least : Nat) (cs : List Char) : Option (List Char × List Char × List Char × List Char) := do
  let (year, r) ← digits? 4 4 cs
  let r ← char? '-' r
  let (month, r) ← digits? least 2 r
  let r ← char? '-' r
  let (day, r) ← digits? least 2 r
  return (year, month, day, r)

/-- How far a time zone is away, in minutes; nothing is no distance. -/
def zone? (cs : List Char) : Option Int :=
  match cs.dropWhile isGap with
  | [] => if cs.isEmpty then some 0 else none
  | ['Z'] => some 0
  | c :: r =>
    if c == '-' || c == '+' then
      let away (hours minutes : List Char) : Int :=
        let n : Int := Numeral.digitsValue hours * 60 + Numeral.digitsValue minutes
        if c == '-' then -n else n
      match digits? 1 2 r with
      | some (hours, []) => some (away hours [])
      | some (hours, ':' :: m) =>
        if m.length == 2 && m.all Char.isDigit then some (away hours m) else none
      | _ => none
    else none

/-- What separates a date from a time. -/
def timeMark? : List Char → Option (List Char)
  | [] => none
  | c :: r =>
    if c = 'T' || c = 't' then some r
    else if isGap c then some (r.dropWhile isGap)
    else none

/-- A time of day, with an optional fraction and zone. -/
structure Clock where
  hour : Nat
  minute : Nat
  second : Nat
  zone : Int
  deriving Repr, DecidableEq, Inhabited

/-- Reads a time of day. -/
def clock? (cs : List Char) : Option Clock := do
  let (hour, r) ← digits? 1 2 cs
  let r ← char? ':' r
  let (minute, r) ← digits? 2 2 r
  let r ← char? ':' r
  let (second, r) ← digits? 2 2 r
  let zone ← match r with
    | '.' :: r => zone? (r.dropWhile Char.isDigit)
    | r => zone? r
  return ⟨Numeral.digitsValue hour, Numeral.digitsValue minute, Numeral.digitsValue second, zone⟩

/-- A date, alone or with a time. -/
def isTimestamp (cs : List Char) : Bool :=
  (match date? 2 cs with
  | some (_, _, _, []) => true
  | _ => false) ||
  match date? 1 cs with
  | some (_, _, _, r) => ((timeMark? r).bind clock?).isSome
  | none => false

/-- What a plain scalar stands for. -/
def plainKind (cs : List Char) : ScalarKind :=
  let s := String.ofList cs
  if trueWords.contains s then .bool true
  else if falseWords.contains s then .bool false
  else if isFloat cs then .float
  else if isUnsignedInt (unsigned cs) then .int
  else if s = "<<" then .merge
  else if nullWords.contains s then .null
  else if isTimestamp cs then .timestamp
  else if s = "=" then .value
  else .str

end ApiDirectives.Yaml
