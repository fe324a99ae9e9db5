import ApiDirectives.Source.Fault
import ApiDirectives.Source.Lexer
import ApiDirectives.Text.Word

/-!
# Comments of a source

Comments are found by a scan of their own, line by line, that needs no valid source: it follows
strings, brackets, continued lines and margins, and passes over whatever else it meets. Lines are
ended by line feeds only. A comment counts if nothing but blanks stands before it on its line.
-/

namespace ApiDirectives.Source

open ApiDirectives.Text

/-- A comment that has its line for itself: the number of the line, and the text after the sign and
one blank. -/
structure Comment where
  line : Nat
  text : String
  deriving Repr, DecidableEq, Inhabited

/-- A string that goes on in the next line: its quotation mark, whether that is a triple one, and
where it starts. -/
structure OpenString where
  quote : Char
  isLong : Bool
  line : Nat
  column : Nat
  deriving Repr, DecidableEq, Inhabited

/-- The state of the scan at the start of a line. -/
structure Scan where
  /-- The string that the line starts in. -/
  string : Option OpenString := none
  /-- Whether strings in single quotation marks may go on only after a backslash. It stays set once
  such a string was cut off, and then holds for triple ones too. -/
  strict : Bool := false
  /-- Opening brackets less closing ones. -/
  nesting : Int := 0
  /-- Whether the line continues the one before. -/
  continued : Bool := false
  /-- The open margins, innermost first. -/
  margins : List Nat := []
  /-- The comments so far, the last one first. -/
  comments : List Comment := []
  deriving Repr, Inhabited

/-- The lines of a text with their line feeds; `line` is the line being read, backwards. -/
def feedLinesFrom (line : List Char) : List Char → List (List Char)
  | [] => if line.isEmpty then [] else [line.reverse]
  | '\n' :: r => ('\n' :: line).reverse :: feedLinesFrom [] r
  | c :: r => feedLinesFrom (c :: line) r

/-- The lines of a text with their line feeds. -/
def feedLines (cs : List Char) : List (List Char) := feedLinesFrom [] cs

/-! ## Numbers -/

/-- What follows digits with single underscores between them. -/
def looseDigits (digit : Char → Bool) : List Char → List Char
  | '_' :: c :: r => if digit c then looseDigits digit r else '_' :: c :: r
  | c :: r => if digit c then looseDigits digit r else c :: r
  | [] => []

/-- What follows a decimal digit and more of them. -/
def digitPart? (cs : List Char) : Option (List Char) :=
  match cs with
  | c :: r => if c.isDigit then some (looseDigits Char.isDigit r) else none
  | [] => none

/-- What follows an exponent. -/
def exponent? : List Char → Option (List Char)
  | c :: r =>
    if c = 'e' || c = 'E' then
      match r with
      | '-' :: s => digitPart? s
      | '+' :: s => digitPart? s
      | s => digitPart? s
    else none
  | [] => none

/-- What follows a number with a point. -/
def pointNumber? (cs : List Char) : Option (List Char) :=
  let mantissa := match cs with
    | '.' :: r => digitPart? r
    | _ =>
      match digitPart? cs with
      | some ('.' :: r) => some ((digitPart? r).getD r)
      | _ => none
  mantissa.map fun rest => (exponent? rest).getD rest

/-- What follows a number with an exponent and no point. -/
def exponentNumber? (cs : List Char) : Option (List Char) := (digitPart? cs).bind exponent?

/-- What follows the mark of an imaginary number. -/
def imaginaryMark? : List Char → Option (List Char)
  | c :: r => if c = 'j' || c = 'J' then some r else none
  | [] => none

/-- What follows the digits of an integer in another base. -/
def basedDigits? (digit : Char → Bool) (cs : List Char) : Option (List Char) :=
  let body := match cs with
    | '_' :: r => r
    | r => r
  match body with
  | c :: r => if digit c then some (looseDigits digit r) else none
  | [] => none

/-- What follows an integer. -/
def integer? (cs : List Char) : Option (List Char) :=
  match cs with
  | '0' :: r =>
    let zeros := some (looseDigits (· == '0') r)
    match r with
    | c :: s =>
      let found :=
        if c = 'x' || c = 'X' then
          basedDigits? (fun d => d.isDigit || ('a' ≤ d && d ≤ 'f') || ('A' ≤ d && d ≤ 'F')) s
        else if c = 'b' || c = 'B' then basedDigits? (fun d => d == '0' || d == '1') s
        else if c = 'o' || c = 'O' then basedDigits? (fun d => '0' ≤ d && d ≤ '7') s
        else none
      found <|> zeros
    | [] => zeros
  | _ => digitPart? cs

/-- What follows the number at the front, if there is one. -/
def looseNumber? (cs : List Char) : Option (List Char) :=
  ((digitPart? cs).bind imaginaryMark?) <|> ((pointNumber? cs).bind imaginaryMark?)
    <|> ((exponentNumber? cs).bind imaginaryMark?) <|> pointNumber? cs <|> exponentNumber? cs
    <|> integer? cs

/-! ## Strings -/

/-- What follows the end of a string between triple quotation marks. -/
def longEnd? (quote : Char) : List Char → Option (List Char)
  | [] => none
  | '\\' :: c :: r => if c = '\n' then none else longEnd? quote r
  | ['\\'] => none
  | c :: r =>
    if c = quote && r.take 2 == [quote, quote] then some (r.drop 2) else longEnd? quote r

/-- What follows the end of a string between single quotation marks that started on a line
before. -/
def shortEnd? (quote : Char) : List Char → Option (List Char)
  | [] => none
  | '\\' :: c :: r => if c = '\n' then none else shortEnd? quote r
  | ['\\'] => none
  | c :: r => if c = quote then some r else shortEnd? quote r

/-- How a string between single quotation marks ends on the line it starts at. -/
inductive ShortEnd where
  /-- It is closed; this follows. -/
  | closed (rest : List Char)
  /-- It goes on in the next line. -/
  | goesOn
  /-- It is neither, and so no string. -/
  | broken

/-- The end of a string between single quotation marks on the line it starts at. -/
def shortEnd (quote : Char) : List Char → ShortEnd
  | [] => .broken
  | '\n' :: _ => .broken
  | '\\' :: '\n' :: _ => .goesOn
  | '\\' :: '\r' :: '\n' :: _ => .goesOn
  | '\\' :: _ :: r => shortEnd quote r
  | ['\\'] => .broken
  | c :: r => if c = quote then .closed r else shortEnd quote r

/-- The length of the mark of a string at the front, if a quotation mark follows it. -/
def markLength? (cs : List Char) : Option Nat :=
  let lengths := [0, 1, 2].filter fun n =>
    (n = 0 || stringMarks.contains (lowerAscii (String.ofList (cs.take n))))
      && (cs.drop n).head?.any isQuote
  lengths.head?

/-- The string at the front. -/
inductive StringStart where
  | none
  | long (quote : Char) (body : List Char)
  | short (quote : Char) (body : List Char)

/-- The string at the front, its mark and quotation marks dropped. -/
def stringStart (cs : List Char) : StringStart :=
  match markLength? cs with
  | none => .none
  | some n =>
    match cs.drop n with
    | a :: b :: c :: r => if a = b && b = c then .long a r else .short a (b :: c :: r)
    | a :: r => .short a r
    | [] => .none

/-! ## Lines -/

/-- The text of a comment that starts with its sign, without the sign and one blank. -/
def commentText (cs : List Char) : String :=
  match cs.drop 1 with
  | ' ' :: r => String.ofList r
  | r => String.ofList r

/-- Adds a comment if only blanks stand before it. -/
def Scan.comment (s : Scan) (number : Nat) (before text : List Char) : Scan :=
  if before.all isBlank then { s with comments := ⟨number, commentText text⟩ :: s.comments } else s

/-- Scans what is left of a line. The first argument bounds the number of steps. -/
def scanRest (number : Nat) (line : List Char) : Nat → Scan → List Char → Scan
  | 0, s, _ => s
  | _ + 1, s, [] => s
  | fuel + 1, s, c :: r =>
    let here := c :: r
    let tokens := here.dropWhile isSpacing
    let column := line.length - tokens.length
    match tokens with
    | [] => s
    | '#' :: _ =>
      let text := tokens.takeWhile fun c => c != '\r' && c != '\n'
      scanRest number line fuel (s.comment number (line.take column) text)
        (tokens.drop text.length)
    | '\\' :: '\n' :: rest => scanRest number line fuel { s with continued := true } rest
    | '\\' :: '\r' :: '\n' :: rest => scanRest number line fuel { s with continued := true } rest
    | t :: rest =>
      let word := tokens.takeWhile isWord
      let single : Scan × List Char :=
        if !word.isEmpty then (s, tokens.drop word.length)
        else if t = '(' || t = '[' || t = '\x7b' then ({ s with nesting := s.nesting + 1 }, rest)
        else if t = ')' || t = ']' || t = '\x7d' then ({ s with nesting := s.nesting - 1 }, rest)
        else (s, rest)
      let other : Scan × List Char :=
        match looseNumber? tokens with
        | some rest => (s, rest)
        | none => single
      match stringStart tokens with
      | .long quote body =>
        match longEnd? quote body with
        | some rest => scanRest number line fuel s rest
        | none => { s with string := some ⟨quote, true, number, column⟩ }
      | .short quote body =>
        match shortEnd quote body with
        | .closed rest => scanRest number line fuel s rest
        | .goesOn => { s with string := some ⟨quote, false, number, column⟩, strict := true }
        | .broken => scanRest number line fuel single.1 single.2
      | .none => scanRest number line fuel other.1 other.2

/-- The width of a line's margin, and what follows. -/
def lineMargin (width : Nat) : List Char → Nat × List Char
  | ' ' :: r => lineMargin (width + 1) r
  | '\t' :: r => lineMargin ((width / 8 + 1) * 8) r
  | '\x0c' :: r => lineMargin 0 r
  | cs => (width, cs)

/-- Compares a margin with the open ones. -/
def openMargins (width : Nat) (margins : List Nat) : Option (List Nat) :=
  if margins.headD 0 < width then some (width :: margins)
  else if width = 0 || margins.contains width then some (margins.dropWhile (width < ·))
  else none

/-- Whether a line ends in a backslash and a line end. -/
def endsContinued (line : List Char) : Bool :=
  match line.reverse with
  | '\n' :: '\\' :: _ => true
  | '\n' :: '\r' :: '\\' :: _ => true
  | _ => false

/-- Scans a line inside a string. -/
def scanString (s : Scan) (o : OpenString) (number : Nat) (line : List Char) : Scan :=
  match if o.isLong then longEnd? o.quote line else shortEnd? o.quote line with
  | some rest =>
    scanRest number line (line.length + 1) { s with string := none, strict := false } rest
  | none => if s.strict && !endsContinued line then { s with string := none } else s

/-- Scans a line. -/
def scanLine (s : Scan) (number : Nat) (line : List Char) : Except SourceFault Scan :=
  match s.string with
  | some o => .ok (scanString s o number line)
  | none =>
    if s.nesting ≠ 0 || s.continued then
      .ok (scanRest number line (line.length + 1) { s with continued := false } line)
    else
      match lineMargin 0 line with
      | (_, []) => .ok s
      | (width, c :: r) =>
        if c = '#' then
          .ok (s.comment number [] (dropEnd (fun c => c = '\r' || c = '\n') (c :: r)))
        else if c = '\r' || c = '\n' then .ok s
        else
          match openMargins width s.margins with
          | none => .error (.invalid number)
          | some margins => .ok (scanRest number line (line.length + 1) { s with margins } (c :: r))

/-- Scans lines, numbered from `number` on. -/
def scanLines (s : Scan) (number : Nat) : List (List Char) → Except SourceFault Scan
  | [] =>
    match s.string with
    | some o => .error (.openString o.line o.column)
    | none => if s.nesting ≠ 0 || s.continued then .error (.openStatement number) else .ok s
  | line :: r =>
    match scanLine s number line with
    | .error e => .error e
    | .ok s => scanLines s (number + 1) r

/-- The comments of a source, in order. -/
def comments (source : String) : Except SourceFault (List Comment) :=
  (scanLines {} 1 (feedLines source.toList)).map fun s => s.comments.reverse

theorem comments_ofList (cs : List Char) :
    comments (String.ofList cs) = (scanLines {} 1 (feedLines cs)).map fun s => s.comments.reverse := by
  rw [comments, String.toList_ofList]

end ApiDirectives.Source
