import ApiDirectives.Format.Yaml.Style
import ApiDirectives.Numeral.Shortest
import ApiDirectives.Text.Quoted
import ApiDirectives.Value

/-!
# YAML text

Values as YAML in block style: members and elements one a line, lists inside members not indented,
long texts folded at spaces beyond column eighty. The pen that writes keeps its column, and whether
what it wrote last was white space or indentation, because these decide what has to stand before the
next thing.
-/

namespace ApiDirectives.Yaml

/-- Numbers are positional for exponents from -4 up to 15, and have a point also before an
exponent. -/
def numbers : Binary64.Layout where
  positionalFrom := -4
  positionalBelow := 16
  bareSignificand := ".0"
  infinity := ".inf"
  undefined := ".nan"

/-- The column beyond which texts are folded. -/
def foldColumn : Nat := 80

/-- The longest key that stands on the line of its value. -/
def longestSimpleKey : Nat := 122

/-- What has been written, and where the pen stands. -/
structure Pen where
  written : List String := []
  column : Nat := 0
  afterSpace : Bool := true
  inIndentation : Bool := true

namespace Pen

/-- The text written. -/
def text (p : Pen) : String :=
  String.join p.written.reverse

/-- Writes something within a line. -/
def put (p : Pen) (s : String) : Pen :=
  { p with written := s :: p.written, column := p.column + s.length }

/-- Writes characters within a line. -/
def putChars (p : Pen) (cs : List Char) : Pen :=
  if cs.isEmpty then p else p.put (String.ofList cs)

/-- Ends the line with a given mark. -/
def breakLine (p : Pen) (mark : String := "\n") : Pen :=
  { written := mark :: p.written, column := 0, afterSpace := true, inIndentation := true }

/-- Moves to an indentation, on a new line unless the pen stands before it. -/
def indent (p : Pen) (width : Nat) : Pen :=
  let p :=
    if !p.inIndentation || width < p.column || (p.column == width && !p.afterSpace) then p.breakLine
    else p
  if p.column < width then
    { p.put (String.ofList (List.replicate (width - p.column) ' ')) with afterSpace := true }
  else p

/-- Writes an indicator, after a space if it needs one. -/
def indicator (p : Pen) (mark : String) (needsSpace : Bool) (isSpace isIndentation : Bool := false) :
    Pen :=
  let data := if p.afterSpace || !needsSpace then mark else " " ++ mark
  { p.put data with
    afterSpace := isSpace
    inIndentation := p.inIndentation && isIndentation }

/-- The pen inside a text: what it wrote last is neither white space nor indentation. -/
def inText (p : Pen) : Pen :=
  { p with afterSpace := false, inIndentation := false }

end Pen

/-! ## Scalars -/

/-- Writes a text without quotes, word by word; a single space beyond the fold column becomes a line
end. `spaces` counts the spaces before the next word and `word` is the word being read, backwards. -/
def plainFrom (width : Nat) (fold : Bool) (p : Pen) (spaces : Nat) (word : List Char) :
    List Char → Pen
  | [] => (p.putChars (List.replicate spaces ' ')).putChars word.reverse
  | c :: r =>
    if c = ' ' then
      if word.isEmpty then plainFrom width fold p (spaces + 1) [] r
      else
        let p := (p.putChars (List.replicate spaces ' ')).putChars word.reverse
        plainFrom width fold p 1 [] r
    else if word.isEmpty && spaces == 1 && foldColumn < p.column && fold then
      plainFrom width fold (p.indent width).inText 0 [c] r
    else plainFrom width fold p spaces (c :: word) r

/-- Writes a text without quotes. -/
def writePlain (p : Pen) (width : Nat) (fold : Bool) (cs : List Char) : Pen :=
  if cs.isEmpty then p
  else
    let p := if p.afterSpace then p else p.put " "
    plainFrom width fold p.inText 0 [] cs

/-- What a single-quoted text is in the middle of: a word, spaces or line ends. The characters read
and not yet written are kept backwards. -/
inductive Stretch where
  | word
  | spaces
  | breaks
  deriving DecidableEq

/-- Writes line ends inside quotes: a line feed first needs an empty line to survive folding. -/
def writeBreaks (p : Pen) (width : Nat) (breaks : List Char) : Pen :=
  let p := if breaks.head? == some '\n' then p.breakLine else p
  let p := breaks.foldl (fun p c => p.breakLine (String.singleton c)) p
  p.indent width

/-- The stretch that a character belongs to. -/
def stretchOf (c : Char) : Stretch :=
  if c = ' ' then .spaces else if isBreak c then .breaks else .word

/-- Writes a finished stretch of a single-quoted text; a single space in the middle of the text
beyond the fold column becomes a line end. -/
def writeStretch (p : Pen) (width : Nat) (fold inside : Bool) (s : Stretch) (cs : List Char) : Pen :=
  match s with
  | .word => p.putChars (cs.flatMap fun c => if c = '\'' then ['\'', '\''] else [c])
  | .spaces =>
    if cs.length == 1 && foldColumn < p.column && fold && inside then p.indent width
    else p.putChars cs
  | .breaks => writeBreaks p width cs

/-- Writes the rest of a single-quoted text; `read` is the stretch being read, backwards, and `first`
says whether it is the first one. -/
def singleFrom (width : Nat) (fold : Bool) (p : Pen) (s : Stretch) (read : List Char)
    (first : Bool) : List Char → Pen
  | [] => writeStretch p width fold false s read.reverse
  | c :: r =>
    if stretchOf c = s then singleFrom width fold p s (c :: read) first r
    else
      let p := writeStretch p width fold (!first) s read.reverse
      singleFrom width fold p (stretchOf c) [c] (first && read.isEmpty) r

/-- Writes a text between single quotes. -/
def writeSingle (p : Pen) (width : Nat) (fold : Bool) (cs : List Char) : Pen :=
  let p := p.indicator "'" true
  let p := singleFrom width fold p .word [] true cs
  p.indicator "'" false

/-- The letter after a backslash that stands for a character, if there is one. -/
def escapeLetter (c : Char) : Option Char :=
  match c.toNat with
  | 0 => some '0'
  | 7 => some 'a'
  | 8 => some 'b'
  | 9 => some 't'
  | 10 => some 'n'
  | 11 => some 'v'
  | 12 => some 'f'
  | 13 => some 'r'
  | 27 => some 'e'
  | 34 => some '"'
  | 92 => some '\\'
  | 0x85 => some 'N'
  | 0xA0 => some '_'
  | 0x2028 => some 'L'
  | 0x2029 => some 'P'
  | _ => none

/-- Whether a character stands for itself between double quotes. -/
def isLiteral (c : Char) : Bool :=
  let n := c.toNat
  c != '"' && c != '\\' && n != 0x2028 && n != 0x2029 && n != 0xFEFF
    && ((0x20 ≤ n && n ≤ 0x7E) || (0xA0 ≤ n && n ≤ 0xFFFD))

/-- Digits of an escape are capital. -/
def hexUpper (width n : Nat) : String :=
  String.ofList ((Text.hexPadded width n).map Char.toUpper)

/-- The escape of a character. -/
def escape (c : Char) : String :=
  let n := c.toNat
  match escapeLetter c with
  | some l => "\\" ++ String.singleton l
  | none =>
    if n ≤ 0xFF then "\\x" ++ hexUpper 2 n
    else if n ≤ 0xFFFF then "\\u" ++ hexUpper 4 n
    else "\\U" ++ hexUpper 8 n

/-- Writes the rest of a double-quoted text. `read` holds the literal characters not yet written,
backwards, and `first` says whether the text starts here. A text is folded before a space or after
an escape, never at its ends; the fold is escaped, and so is a space after it. -/
def doubleFrom (width : Nat) (fold : Bool) (p : Pen) (read : List Char) (first : Bool) :
    List Char → Pen
  | [] => p.putChars read.reverse
  | c :: r =>
    let (p, read) :=
      if isLiteral c then (p, read) else ((p.putChars read.reverse).put (escape c), [])
    let escaped := !isLiteral c
    let mayFold := !first && !r.isEmpty && fold && (c == ' ' || escaped || read.isEmpty)
    let reach := if escaped then p.column - 1 else p.column + read.length
    if mayFold && foldColumn < reach then
      let p := ((p.putChars read.reverse).put "\\").indent width
      let p := p.inText
      if escaped then
        let p := if r.head? == some ' ' then p.put "\\" else p
        doubleFrom width fold p [] false r
      else
        let p := if c == ' ' then p.put "\\" else p
        doubleFrom width fold p [c] false r
    else if escaped then doubleFrom width fold p [] false r
    else doubleFrom width fold p (c :: read) false r

/-- Writes a text between double quotes. -/
def writeDouble (p : Pen) (width : Nat) (fold : Bool) (cs : List Char) : Pen :=
  let p := p.indicator "\"" true
  let p := doubleFrom width fold p [] true cs
  p.indicator "\"" false

/-- Writes a text in its style; keys are not folded. -/
def writeText (p : Pen) (width : Nat) (isKey : Bool) (s : String) : Pen :=
  let cs := s.toList
  match textStyle isKey cs with
  | .plain => writePlain p width (!isKey) cs
  | .single => writeSingle p width (!isKey) cs
  | .double => writeDouble p width (!isKey) cs

/-! ## Collections -/

/-- Whether a key can stand on the line of its value. -/
def isSimpleKey (key : String) : Bool :=
  key != "" && key.length ≤ longestSimpleKey && !key.toList.any isBreak

/-- The indentation one level deeper; the outermost level is not indented. -/
def deeper (step : Nat) : Option Nat → Nat
  | none => 0
  | some n => n + step

/-- The indentation of a folded scalar. -/
def scalarIndent (step : Nat) : Option Nat → Nat
  | none => step
  | some n => n + step

mutual

/-- Writes a value. `level` is the indentation of what contains it, none at the outermost level, and
`inMember` says whether it is the value of a member. -/
def write (step : Nat) (level : Option Nat) (inMember : Bool) (p : Pen) : Value → Pen
  | .null => writePlain p (scalarIndent step level) true "null".toList
  | .bool b => writePlain p (scalarIndent step level) true (if b then "true" else "false").toList
  | .int n => writePlain p (scalarIndent step level) true (toString n).toList
  | .float x => writePlain p (scalarIndent step level) true (numbers.render x).toList
  | .str s => writeText p (scalarIndent step level) false s
  | .list [] => (p.indicator "[" true true).indicator "]" false
  | .object [] => (p.indicator "\x7b" true true).indicator "\x7d" false
  | .list (v :: r) =>
    let level := if inMember && !p.inIndentation then level.getD 0 else deeper step level
    writeItems step level p (v :: r)
  | .object (m :: r) => writeMembers step (deeper step level) p (m :: r)

/-- Writes elements at an indentation. -/
def writeItems (step level : Nat) (p : Pen) : List Value → Pen
  | [] => p
  | v :: r =>
    let p := (p.indent level).indicator "-" true false true
    writeItems step level (write step (some level) false p v) r

/-- Writes members at an indentation. A key that cannot stand on the line of its value is marked. -/
def writeMembers (step level : Nat) (p : Pen) : List (String × Value) → Pen
  | [] => p
  | (k, v) :: r =>
    let p := p.indent level
    let p :=
      if isSimpleKey k then
        (writeText p (scalarIndent step (some level)) true k).indicator ":" false
      else
        let p := p.indicator "?" true false true
        let p := writeText p (scalarIndent step (some level)) false k
        (p.indent level).indicator ":" true false true
    writeMembers step level (write step (some level) true p v) r

end

/-- The indentation step: widths from two to nine are taken, others count as two. -/
def stepOf (width : Int) : Nat :=
  if 1 < width && width < 10 then width.toNat else 2

/-- A value as a YAML text with a final line end. -/
def text (width : Int) (v : Value) : String :=
  let p := write (stepOf width) none false {} v
  (p.indent 0).text

end ApiDirectives.Yaml
