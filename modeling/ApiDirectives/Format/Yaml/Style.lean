import ApiDirectives.Format.Yaml.Scalar

/-!
# How a scalar may be written

A text is written without quotes where it cannot be taken for anything else, between single quotes
where these need no escapes, and between double quotes otherwise.
-/

namespace ApiDirectives.Yaml

/-- The ways to write a scalar. -/
inductive Style where
  | plain
  | single
  | double
  deriving Repr, DecidableEq, Inhabited

/-- Characters that end a line of a scalar. -/
def isBreak (c : Char) : Bool :=
  c == '\n' || c.toNat == 0x85 || c.toNat == 0x2028 || c.toNat == 0x2029

/-- Characters that count as white space around an indicator. -/
def isSpaceLike (c : Char) : Bool :=
  c.toNat == 0 || c == ' ' || c == '\t' || c == '\r' || isBreak c

/-- Whether what follows counts as white space; the end does. -/
def isFollowedBySpace : List Char → Bool
  | [] => true
  | c :: _ => isSpaceLike c

/-- Characters that only double quotes can show. -/
def isSpecial (c : Char) : Bool :=
  let n := c.toNat
  !(c == '\n' || (0x20 ≤ n && n ≤ 0x7E) || n == 0x85 || (0xA0 ≤ n && n ≤ 0xFFFD && n != 0xFEFF)
    || (0x10000 ≤ n && n < 0x10FFFF))

/-- Indicators that may not start a plain scalar. -/
def isLeadingIndicator (c : Char) : Bool :=
  "#,[]\x7b\x7d&*!|>'\"%@`".toList.contains c

/-- Whether an indicator stands where a plain scalar would be read as something else; `afterSpace`
says whether white space or the start stands before the text. -/
def hasIndicator (afterSpace : Bool) : List Char → Bool
  | [] => false
  | c :: r =>
    (c == ':' && isFollowedBySpace r) || (c == '#' && afterSpace) || hasIndicator (isSpaceLike c) r

/-- Whether the text starts like a plain scalar. -/
def startsPlain : List Char → Bool
  | [] => false
  | c :: r =>
    !(isLeadingIndicator c || ((c == '?' || c == ':' || c == '-') && isFollowedBySpace r)
      || (c :: r).take 3 == ['-', '-', '-'] || (c :: r).take 3 == ['.', '.', '.'])

/-- Whether two characters of given classes follow each other. -/
def hasPair (p q : Char → Bool) : List Char → Bool
  | a :: b :: r => (p a && q b) || hasPair p q (b :: r)
  | _ => false

/-- A space. -/
def isSpace (c : Char) : Bool := c == ' '

/-- Whether a text may stand without quotes in block context, as far as its characters go. -/
def mayBePlain (cs : List Char) : Bool :=
  match cs with
  | [] => true
  | c :: _ =>
    let last := cs.getLastD c
    startsPlain cs && !hasIndicator true cs && !cs.any isBreak && !cs.any isSpecial
      && !isSpace c && !isSpace last

/-- Whether a text may stand between single quotes: no special characters, no space before or after
a line end. -/
def mayBeSingle (cs : List Char) : Bool :=
  !cs.any isSpecial && !hasPair isSpace isBreak cs && !hasPair isBreak isSpace cs

/-- How a text is written. Keys stay on one line. -/
def textStyle (isKey : Bool) (cs : List Char) : Style :=
  let plain := plainKind cs == .str && mayBePlain cs && !(isKey && (cs.isEmpty || cs.any isBreak))
  if plain then .plain
  else if mayBeSingle cs && !(isKey && cs.any isBreak) then .single
  else .double

end ApiDirectives.Yaml
