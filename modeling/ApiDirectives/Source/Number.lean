import ApiDirectives.Text.Blank

/-!
# Number literals

The reach of a number literal. Digits may have single underscores between them, a decimal integer
has no leading zero unless all its digits are zeros, and a literal may not run into a word, except
into one of a few keywords.
-/

namespace ApiDirectives.Source

open ApiDirectives.Text

/-- Characters that may continue a name, as far as the cut into tokens is concerned. -/
def continuesName (c : Char) : Bool :=
  c.isAlphanum || c == '_' || 128 ≤ c.toNat

/-- Characters that may start a name, as far as the cut into tokens is concerned. -/
def startsName (c : Char) : Bool :=
  c.isAlpha || c == '_' || 128 ≤ c.toNat

/-- What follows digits of a class with single underscores between them; none if an underscore does
not stand between two digits. -/
def digitsRest (digit : Char → Bool) : List Char → Option (List Char)
  | '_' :: c :: r => if digit c then digitsRest digit r else none
  | ['_'] => none
  | [] => some []
  | c :: r => if digit c then digitsRest digit r else some (c :: r)

/-- Words that may follow a number directly. -/
def wordsAfterNumber : List String := ["and", "else", "for", "if", "in", "is", "or"]

/-- Whether a number may end before these characters. -/
def endsNumber (cs : List Char) : Bool :=
  wordsAfterNumber.any (fun w => (dropLiteral? w.toList cs).isSome)
    || !(cs.head?.any continuesName)

/-- What follows a number that ends here, unless it runs into a word. -/
def numberEnd (cs : List Char) : Option (List Char) :=
  if endsNumber cs then some cs else none

/-- What follows the mark of an imaginary number, or a number that ends here. -/
def imaginaryRest : List Char → Option (List Char)
  | c :: r => if c = 'j' || c = 'J' then numberEnd r else numberEnd (c :: r)
  | [] => some []

/-- What follows an exponent, if there is one. -/
def exponentRest : List Char → Option (List Char)
  | c :: r =>
    if c = 'e' || c = 'E' then
      match r with
      | d :: s =>
        if d = '+' || d = '-' then
          if s.head?.any Char.isDigit then (digitsRest Char.isDigit s).bind imaginaryRest else none
        else if d.isDigit then (digitsRest Char.isDigit r).bind imaginaryRest
        else numberEnd (c :: r)
      | [] => none
    else imaginaryRest (c :: r)
  | [] => some []

/-- What follows the digits after a point. -/
def fractionRest (cs : List Char) : Option (List Char) :=
  if cs.head?.any Char.isDigit then (digitsRest Char.isDigit cs).bind exponentRest
  else exponentRest cs

/-- What follows the digits of another base, of which there must be one. -/
def basedRest (digit : Char → Bool) (cs : List Char) : Option (List Char) :=
  let body := match cs with
    | '_' :: r => r
    | r => r
  if body.head?.any digit then (digitsRest digit body).bind fun rest =>
    if rest.head?.any Char.isDigit then none else numberEnd rest
  else none

/-- Whether some digit of a run is not zero. -/
def hasNonzero (cs : List Char) : Bool :=
  (cs.takeWhile fun c => c.isDigit || c == '_').any fun c => c != '0' && c != '_'

/-- What follows a decimal number. -/
def decimalRest (cs : List Char) : Option (List Char) :=
  (digitsRest Char.isDigit cs).bind fun rest =>
    match rest with
    | '.' :: r => fractionRest r
    | c :: _ =>
      if c = 'e' || c = 'E' || c = 'j' || c = 'J' then exponentRest rest
      else if cs.head? = some '0' && hasNonzero cs then none
      else numberEnd rest
    | [] => some []

/-- What follows the number at the front; none if it is malformed. -/
def numberRest (cs : List Char) : Option (List Char) :=
  match cs with
  | '.' :: r => fractionRest r
  | '0' :: c :: r =>
    if c = 'x' || c = 'X' then
      basedRest (fun d => d.isDigit || ('a' ≤ d && d ≤ 'f') || ('A' ≤ d && d ≤ 'F')) r
    else if c = 'o' || c = 'O' then basedRest (fun d => '0' ≤ d && d ≤ '7') r
    else if c = 'b' || c = 'B' then basedRest (fun d => d == '0' || d == '1') r
    else decimalRest cs
  | _ => decimalRest cs

end ApiDirectives.Source
