import ApiDirectives.Format.Yaml.Fault
import ApiDirectives.Format.Yaml.Style

/-!
# Places in a YAML text

A cursor is the text ahead with the index, the line and the column of its first character. Behind the
text stands a null character, which no valid text holds, so that a class of characters says by itself
whether the end belongs to it.
-/

namespace ApiDirectives.Yaml

/-- What stands behind the text. -/
def endMark : Char := '\x00'

/-- Characters that end a line. -/
def endsLine (c : Char) : Bool := c == '\r' || isBreak c

/-- Ends of lines and of the text. -/
def isLineEdge (c : Char) : Bool := c == endMark || endsLine c

/-- A space, or the end of a line or of the text. -/
def isWordEdge (c : Char) : Bool := isSpace c || isLineEdge c

/-- A space or a tab, or the end of a line or of the text. -/
def isEdge (c : Char) : Bool := c == '\t' || isWordEdge c

/-- A place in a text. -/
structure Cursor where
  rest : List Char
  index : Nat := 0
  line : Nat := 0
  column : Nat := 0
  deriving Repr, DecidableEq, Inhabited

namespace Cursor

/-- The character so many places ahead. -/
def peek (c : Cursor) (ahead : Nat := 0) : Char := c.rest.getD ahead endMark

/-- The next place. A carriage return before a line feed does not end a line by itself, and a byte
order mark takes no column. -/
def next (c : Cursor) : Cursor :=
  match c.rest with
  | [] => c
  | x :: r =>
    if endsLine x && !(x == '\r' && r.head? == some '\n') then
      { rest := r, index := c.index + 1, line := c.line + 1, column := 0 }
    else if x.toNat == 0xFEFF then { c with rest := r, index := c.index + 1 }
    else { c with rest := r, index := c.index + 1, column := c.column + 1 }

/-- The place so many characters on. -/
def skip : Nat → Cursor → Cursor
  | 0, c => c
  | n + 1, c => skip n c.next

/-- The run of characters of a class. -/
def run (c : Cursor) (p : Char → Bool) : List Char := c.rest.takeWhile p

/-- The place behind a run of characters of a class. -/
def skipWhile (c : Cursor) (p : Char → Bool) : Cursor := c.skip (c.run p).length

/-- The end of a line as a text keeps it, and the place behind it. -/
def lineEnd? (c : Cursor) : Option (Char × Cursor) :=
  match c.rest with
  | [] => none
  | '\r' :: '\n' :: _ => some ('\n', c.skip 2)
  | x :: _ =>
    if x == '\r' || x == '\n' || x.toNat == 0x85 then some ('\n', c.next)
    else if endsLine x then some (x, c.next)
    else none

/-- The place behind the end of a line, if there is one. -/
def pastLineEnd (c : Cursor) : Cursor := ((c.lineEnd?).map Prod.snd).getD c

/-- Whether three equal marks and an edge stand ahead. -/
def atMark (c : Cursor) (mark : Char) : Bool :=
  c.rest.take 3 == [mark, mark, mark] && isEdge (c.peek 3)

/-- Whether what separates documents stands ahead. -/
def atSeparator (c : Cursor) : Bool := c.atMark '-' || c.atMark '.'

/-- The place behind spaces and a comment. -/
def skipComment (c : Cursor) : Cursor :=
  let c := c.skipWhile isSpace
  if c.peek == '#' then c.skipWhile fun x => !isLineEdge x else c

end Cursor

/-- What a scanner of a part gives: the part and the place behind it. -/
abbrev Part (α : Type) := Except Fault (α × Cursor)

end ApiDirectives.Yaml
