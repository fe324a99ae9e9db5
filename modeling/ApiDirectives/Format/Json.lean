import ApiDirectives.Numeral.Shortest
import ApiDirectives.Text.Quoted
import ApiDirectives.Value

/-!
# JSON text

Values as JSON, on one line or indented. Text is kept as it is but for quotes, backslashes and
controls.
-/

namespace ApiDirectives.Json

/-- Numbers are positional for exponents from -4 up to 15, with at least one digit after the point. -/
def numbers : Binary64.Layout where
  positionalFrom := -4
  positionalBelow := 16
  bareSignificand := ""
  infinity := "Infinity"
  undefined := "NaN"

/-- The form of a character inside quotes. -/
def escaped (c : Char) : List Char :=
  if c = '"' then ['\\', '"']
  else if c = '\\' then ['\\', '\\']
  else if c = '\n' then ['\\', 'n']
  else if c = '\r' then ['\\', 'r']
  else if c = '\t' then ['\\', 't']
  else if c.toNat = 8 then ['\\', 'b']
  else if c.toNat = 12 then ['\\', 'f']
  else if c.toNat < 32 then '\\' :: 'u' :: Text.hexPadded 4 c.toNat
  else [c]

/-- A text between quotes. -/
def quoted (s : String) : String :=
  String.ofList ('"' :: s.toList.flatMap escaped ++ ['"'])

/-- How members are laid out: on one line, or one a line with an indentation for each level. -/
inductive Layout where
  | line
  | indented (width : Nat)
  deriving Repr, DecidableEq

/-- The layout of an indentation width: none is one line, and a negative one indents by nothing. -/
def Layout.ofWidth (width : Int) : Layout :=
  if width = 0 then .line else .indented width.toNat

/-- What stands before the first member and after the last, at a level. -/
def Layout.edge (l : Layout) (level : Nat) : String :=
  match l with
  | .line => ""
  | .indented width => "\n" ++ String.ofList (List.replicate (width * level) ' ')

/-- What stands between two members, at a level. -/
def Layout.between (l : Layout) (level : Nat) : String :=
  match l with
  | .line => ", "
  | .indented _ => "," ++ l.edge level

mutual

/-- A value at a level. -/
def render (l : Layout) (level : Nat) : Value → String
  | .null => "null"
  | .bool true => "true"
  | .bool false => "false"
  | .int n => toString n
  | .float x => numbers.render x
  | .str s => quoted s
  | .list [] => "[]"
  | .list (v :: r) =>
    "[" ++ l.edge (level + 1) ++ render l (level + 1) v ++ renderMore l (level + 1) r
      ++ l.edge level ++ "]"
  | .object [] => "\x7b\x7d"
  | .object ((k, v) :: r) =>
    "\x7b" ++ l.edge (level + 1) ++ quoted k ++ ": " ++ render l (level + 1) v
      ++ renderMembers l (level + 1) r ++ l.edge level ++ "\x7d"

/-- The elements of a list after the first. -/
def renderMore (l : Layout) (level : Nat) : List Value → String
  | [] => ""
  | v :: r => l.between level ++ render l level v ++ renderMore l level r

/-- The members of an object after the first. -/
def renderMembers (l : Layout) (level : Nat) : List (String × Value) → String
  | [] => ""
  | (k, v) :: r =>
    l.between level ++ quoted k ++ ": " ++ render l level v ++ renderMembers l level r

end

/-- A value as a JSON text with a final line end. -/
def text (width : Int) (v : Value) : String :=
  render (.ofWidth width) 0 v ++ "\n"

end ApiDirectives.Json
