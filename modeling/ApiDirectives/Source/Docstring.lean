import ApiDirectives.Source.Literal
import ApiDirectives.Source.Tree

/-!
# Docstrings

A string literal that is the first statement of a module documents it. Its text is shown without the
margin that its lines have in common and without blank lines at its ends.
-/

namespace ApiDirectives.Source

open ApiDirectives.Text

/-- The text of literals side by side; bytes and literals with expressions have none. -/
def literalText : List Tree → Option (List Char)
  | [] => some []
  | .leaf t :: r =>
    let l := Literal.ofToken t.text
    if t.kind = .string && !l.isBytes && !l.isFormat then
      match l.value, literalText r with
      | some head, some tail => some (head ++ tail)
      | _, _ => none
    else none
  | .node .. :: _ => none

/-- The text of an expression that is a string literal. -/
def Tree.literal? (t : Tree) : Option (List Char) :=
  match t.core with
  | .leaf token => literalText [.leaf token]
  | .node (.expression .strings) ts => literalText ts
  | .node .. => none

/-- Text with blanks in place of tabs, which reach to multiples of eight. -/
def expandTabs (column : Nat) : List Char → List Char
  | [] => []
  | c :: r =>
    if c = '\t' then
      let width := 8 - column % 8
      List.replicate width ' ' ++ expandTabs (column + width) r
    else if c = '\n' || c = '\r' then c :: expandTabs 0 r
    else c :: expandTabs (column + 1) r

/-- The width of the blanks at the start of a line that is not blank. -/
def marginOf (line : List Char) : Option Nat :=
  let content := line.dropWhile isBlank
  if content.isEmpty then none else some (line.length - content.length)

/-- The lines of a docstring without their common margin. -/
def withoutMargin : List (List Char) → List (List Char)
  | [] => []
  | first :: others =>
    let others := match (others.filterMap marginOf).min? with
      | some margin => others.map (·.drop margin)
      | none => others
    first.dropWhile isBlank :: others

/-- The text of a docstring as it is shown. -/
def shownDocstring (cs : List Char) : String :=
  let lines := withoutMargin (piecesOf '\n' (expandTabs 0 cs))
  let lines := ((lines.reverse.dropWhile List.isEmpty).reverse).dropWhile List.isEmpty
  joined "\n" (lines.map String.ofList)

end ApiDirectives.Source
