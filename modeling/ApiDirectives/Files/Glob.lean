import ApiDirectives.Text.Blank

/-!
# Glob patterns

A star matches any characters, slashes included, a question mark one, and brackets one of a set. In a
set a hyphen between two characters is a range; a range whose ends are in the wrong order is left
out. A bracket that is never closed is itself.
-/

namespace ApiDirectives

/-- A part of a pattern. -/
inductive GlobPart where
  | star
  | any
  | one (c : Char)
  /-- A character that is in one of some ranges, or, negated, in none. -/
  | oneOf (negated : Bool) (ranges : List (Char × Char))
  deriving Repr, DecidableEq, Inhabited

namespace GlobPart

/-- The body of a set that was just opened, and what follows its bracket. A bracket that stands
first, or first after the negation, is in the set. -/
def setBody? (cs : List Char) : Option (List Char × List Char) :=
  let (mark, rest) := match cs with
    | '!' :: r => (['!'], r)
    | r => ([], r)
  let (first, rest) := match rest with
    | ']' :: r => ([']'], r)
    | r => ([], r)
  match rest.dropWhile (· != ']') with
  | ']' :: after => some (mark ++ first ++ rest.takeWhile (· != ']'), after)
  | _ => none

/-- The pieces of a set between the hyphens that make ranges. After such a hyphen the next two
characters are no such hyphen; `skip` counts those that are still to be passed over. -/
def chunksFrom (skip : Nat) (chunk : List Char) : List Char → List (List Char)
  | [] => [chunk.reverse]
  | c :: r =>
    match skip with
    | skip + 1 => chunksFrom skip (c :: chunk) r
    | 0 => if c = '-' then chunk.reverse :: chunksFrom 2 [] r else chunksFrom 0 (c :: chunk) r

/-- The pieces of a set. A hyphen at the end belongs to the piece before it. -/
def chunks (body : List Char) : List (List Char) :=
  let skip := if body.head? = some '!' then 2 else 1
  let all := chunksFrom skip [] body
  match all.reverse with
  | [] :: last :: r => (r.reverse) ++ [last ++ ['-']]
  | _ => all

/-- Joins pieces whose range would be empty, from the last to the first. -/
def withoutEmptyRanges : List (List Char) → List (List Char)
  | [] => []
  | a :: r =>
    match withoutEmptyRanges r with
    | [] => [a]
    | b :: r =>
      match a.getLast?, b.head? with
      | some x, some y => if y < x then (a.dropLast ++ b.drop 1) :: r else a :: b :: r
      | _, _ => a :: b :: r

/-- The ranges of pieces, the first characters of which were used before if `used` says so. -/
def rangesFrom (used : Bool) : List (List Char) → List (Char × Char)
  | [] => []
  | [a] => (if used then a.drop 1 else a).map fun c => (c, c)
  | a :: b :: r =>
    let own := if used then a.drop 1 else a
    let range := match a.getLast?, b.head? with
      | some x, some y => [(x, y)]
      | _, _ => []
    own.dropLast.map (fun c => (c, c)) ++ range ++ rangesFrom true (b :: r)

/-- The part that a set stands for. -/
def ofSet (body : List Char) : GlobPart :=
  match withoutEmptyRanges (chunks body) with
  | ('!' :: a) :: r => .oneOf true (rangesFrom false (a :: r))
  | cs => .oneOf false (rangesFrom false cs)

/-- Whether a part other than a star matches a character. -/
def fits (p : GlobPart) (c : Char) : Bool :=
  match p with
  | .star | .any => true
  | .one d => d == c
  | .oneOf negated ranges => ranges.any (fun (a, b) => a ≤ c && c ≤ b) != negated

end GlobPart

/-- The parts of a pattern. The first argument bounds the number of parts. -/
def globPartsFrom : Nat → List Char → List GlobPart
  | 0, _ => []
  | _ + 1, [] => []
  | fuel + 1, c :: r =>
    if c = '*' then .star :: globPartsFrom fuel r
    else if c = '?' then .any :: globPartsFrom fuel r
    else if c = '[' then
      match GlobPart.setBody? r with
      | some (body, rest) => .ofSet body :: globPartsFrom fuel rest
      | none => .one '[' :: globPartsFrom fuel r
    else .one c :: globPartsFrom fuel r

/-- The parts of a pattern. -/
def globParts (pattern : String) : List GlobPart :=
  globPartsFrom (pattern.length + 1) pattern.toList

/-- Whether parts match a whole text. -/
def globMatches : List GlobPart → List Char → Bool
  | [], cs => cs.isEmpty
  | .star :: ps, [] => globMatches ps []
  | .star :: ps, c :: cs => globMatches ps (c :: cs) || globMatches (.star :: ps) cs
  | _ :: _, [] => false
  | p :: ps, c :: cs => p.fits c && globMatches ps cs
termination_by ps cs => (ps.length, cs.length)

/-- Whether a pattern matches a path or one of its parts. -/
def globExcludes (path : String) (pattern : String) : Bool :=
  let parts := globParts pattern
  globMatches parts path.toList
    || (Text.piecesOf '/' path.toList).any fun part => globMatches parts part

/-- Whether a path is excluded by one of some patterns. -/
def isExcluded (path : String) (patterns : List String) : Bool :=
  patterns.any (globExcludes path)

end ApiDirectives
