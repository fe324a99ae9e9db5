import ApiDirectives.Source.Number
import ApiDirectives.Source.Token
import ApiDirectives.Text.Identifier

/-!
# Cutting a source into tokens

The cut works on text whose lines all end in a line feed. At the start of a line the margin is
measured twice, once with tabs that reach to multiples of eight and once with tabs that count one;
the two must agree on every comparison. Between brackets line ends and margins mean nothing.
-/

namespace ApiDirectives.Source

open ApiDirectives.Text

/-- Text with line feeds as its only line ends. -/
def unixLines : List Char → List Char
  | [] => []
  | '\r' :: '\n' :: r => '\n' :: unixLines r
  | '\r' :: r => '\n' :: unixLines r
  | c :: r => c :: unixLines r

/-- Whether a text ends in a carriage return and a line feed. -/
def endsInPair : List Char → Bool
  | [] => false
  | ['\r', '\n'] => true
  | _ :: r => endsInPair r

/-- A text whose every line is ended. After a carriage return and a line feed at the end there is an
empty line more. -/
def endedLines (cs : List Char) : List Char :=
  let text := unixLines cs
  if text.getLast? = some '\n' && !endsInPair cs then text else text ++ ['\n']

/-! ## Margins -/

/-- The width of a margin, with wide and with narrow tabs. -/
structure Margin where
  wide : Nat := 0
  narrow : Nat := 0
  deriving Repr, DecidableEq, Inhabited

/-- The margin of a line: its widths, the width before the first line that was continued inside it,
the number of lines it spans beyond the first, and what follows. -/
structure Margins where
  margin : Margin := {}
  continued : Nat := 0
  lines : Nat := 0
  rest : List Char := []
  deriving Repr, Inhabited

/-- Why a margin cannot be measured: a backslash is followed by something else than a line end, or
by the end of the text; also the number of lines read by then. -/
inductive Continuation where
  | broken (lines : Nat)
  | atEnd (lines : Nat)
  deriving Repr, DecidableEq

/-- Measures the margin of a line. -/
def measure (m : Margins) : List Char → Except Continuation Margins
  | ' ' :: r => measure { m with margin := ⟨m.margin.wide + 1, m.margin.narrow + 1⟩ } r
  | '\t' :: r => measure { m with margin := ⟨(m.margin.wide / 8 + 1) * 8, m.margin.narrow + 1⟩ } r
  | '\x0c' :: r => measure { m with margin := {} } r
  | '\\' :: '\n' :: r =>
    if r.isEmpty then .error (.atEnd m.lines)
    else
      let continued := if m.continued = 0 then m.margin.wide else m.continued
      measure { m with continued, lines := m.lines + 1 } r
  | '\\' :: _ => .error (.broken m.lines)
  | cs => .ok { m with rest := cs }

/-- The margin that counts: the one before the first continuation, if there was one. -/
def Margins.counted (m : Margins) : Margin :=
  if m.continued = 0 then m.margin else ⟨m.continued, m.continued⟩

/-! ## The state of a cut -/

/-- The number of open brackets that a source may have at most. -/
def bracketLimit : Nat := 200

/-- The number of margins that a source may have open at most. -/
def marginLimit : Nat := 100

/-- A cut under way: the line, the open margins and brackets, innermost first, and the tokens so
far, the last one first. -/
structure Lexing where
  line : Nat
  margins : List Margin := []
  brackets : List (Char × Nat) := []
  done : List Token := []
  deriving Repr, Inhabited

namespace Lexing

/-- Adds a token. -/
def emit (s : Lexing) (kind : TokenKind) (text : String) : Lexing :=
  { s with done := ⟨kind, text, s.line, s.brackets.length, none⟩ :: s.done }

/-- The line of the innermost open bracket. -/
def openLine (s : Lexing) : Option Nat := s.brackets.head?.map Prod.snd

/-- The tokens so far, with what ended them. -/
def stop (s : Lexing) (fault : TokenFault) : Tokens := ⟨s.done.reverse.toArray, some fault⟩

/-- Characters that make no token. -/
def lexical (s : Lexing) : Tokens := s.stop ⟨s.line, true, none⟩

/-- A mistake in the layout of lines. -/
def layout (s : Lexing) : Tokens := s.stop ⟨s.line, false, s.openLine⟩

/-- The text ends too early; an open bracket is blamed if there is one. -/
def early (s : Lexing) : Tokens := s.stop ⟨s.openLine.getD s.line, false, s.openLine⟩

/-- A line that cannot be continued. -/
def uncontinued (s : Lexing) : Continuation → Tokens
  | .broken lines => { s with line := s.line + lines }.layout
  | .atEnd lines => { s with line := s.line + lines }.early

/-- The innermost open margin. -/
def margin (s : Lexing) : Margin := s.margins.headD {}

/-- Closes the margins that are wider than the given one. -/
def dedent (m : Margin) : List Margin → Lexing → Lexing
  | [], s => { s with margins := [] }
  | top :: below, s =>
    if m.wide < top.wide then dedent m below (({ s with margins := below }).emit .dedent "")
    else { s with margins := top :: below }

/-- Compares the margin of a line with the open ones. -/
def indent (s : Lexing) (m : Margin) : Except Tokens Lexing :=
  let top := s.margin
  if m.wide = top.wide then
    if m.narrow = top.narrow then .ok s else .error s.layout
  else if top.wide < m.wide then
    if marginLimit ≤ s.margins.length + 1 || m.narrow ≤ top.narrow then .error s.layout
    else .ok ({ s with margins := m :: s.margins }.emit .indent "")
  else
    let closed := dedent m s.margins s
    if m.wide = closed.margin.wide && m.narrow = closed.margin.narrow then .ok closed
    else .error s.layout

/-- Opens a bracket. -/
def opened (s : Lexing) (c : Char) : Except Tokens Lexing :=
  if bracketLimit ≤ s.brackets.length then .error s.lexical
  else .ok (({ s with brackets := (c, s.line) :: s.brackets }).emit .sign (String.singleton c))

/-- The bracket that a closing one closes. -/
def partner : Char → Char
  | ')' => '('
  | ']' => '['
  | _ => '\x7b'

/-- Closes a bracket. -/
def closed (s : Lexing) (c : Char) : Except Tokens Lexing :=
  match s.brackets with
  | [] => .error s.lexical
  | (o, _) :: below =>
    if o = partner c then .ok ({ s with brackets := below }.emit .sign (String.singleton c))
    else .error s.lexical

end Lexing

/-! ## Single tokens -/

/-- The body of a string between single quotation marks: what was read, backwards, the closing mark
included, and what follows. None if the line ends before. -/
def shortString (quote : Char) (taken : List Char) : List Char → Option (List Char × List Char)
  | [] => none
  | '\\' :: c :: r => shortString quote (c :: '\\' :: taken) r
  | '\n' :: _ => none
  | c :: r => if c = quote then some (c :: taken, r) else shortString quote (c :: taken) r

/-- The body of a string between triple quotation marks, which may span lines. -/
def longString (quote : Char) (taken : List Char) : List Char → Option (List Char × List Char)
  | [] => none
  | '\\' :: c :: r => longString quote (c :: '\\' :: taken) r
  | a :: b :: c :: r =>
    if a = quote && b = quote && c = quote then some (c :: b :: a :: taken, r)
    else longString quote (a :: taken) (b :: c :: r)
  | _ :: r => longString quote taken r

/-- The string that starts with a quotation mark at the front. -/
def stringRest (taken : List Char) : List Char → Option (List Char × List Char)
  | a :: b :: c :: r =>
    if b = a then
      if c = a then longString a (c :: b :: a :: taken) r else some (b :: a :: taken, c :: r)
    else shortString a (a :: taken) (b :: c :: r)
  | a :: r => shortString a (a :: taken) r
  | [] => none

/-- What may stand before the quotation mark of a string. -/
def stringMarks : List String := ["b", "r", "u", "f", "br", "rb", "fr", "rf"]

/-- Signs of three and of two characters; all others have one. -/
def longSigns : List String :=
  ["...", "**=", "//=", "<<=", ">>=", "!=", "%=", "&=", "**", "*=", "+=", "-=", "->", "//", "/=",
    ":=", "<<", "<=", "<>", "==", ">=", ">>", "@=", "^=", "|="]

/-- The long sign at the front. -/
def longSign? (cs : List Char) : Option (String × List Char) :=
  longSigns.findSome? fun sign => (dropLiteral? sign.toList cs).map fun rest => (sign, rest)

/-- Whether a character is a quotation mark. -/
def isQuote (c : Char) : Bool := c == '\'' || c == '"'

/-- Blanks between tokens. -/
def isSpacing (c : Char) : Bool := c == ' ' || c == '\t' || c == '\x0c'

/-- Adds a string that was read backwards; its line is the one it starts at. -/
def Lexing.emitString (s : Lexing) (taken : List Char) : Lexing :=
  let s := s.emit .string (String.ofList taken.reverse)
  { s with line := s.line + taken.count '\n' }

/-! ## The cut -/

/-- Cuts text into tokens; `atStart` says whether a line starts here. The first argument bounds the
number of steps: no text needs more than two for a character. -/
def cutFrom : Nat → Bool → Lexing → List Char → Tokens
  | 0, _, s, _ => s.lexical
  | fuel + 1, true, s, cs =>
    let s := if cs.isEmpty then s else { s with line := s.line + 1 }
    match measure {} cs with
    | .error e => s.uncontinued e
    | .ok m =>
      let s := { s with line := s.line + m.lines }
      match m.rest with
      | '#' :: r => cutFrom fuel true s ((r.dropWhile (· != '\n')).drop 1)
      | '\n' :: r => cutFrom fuel true s r
      | rest =>
        if s.brackets.isEmpty then
          match s.indent m.counted with
          | .error stopped => stopped
          | .ok s => cutFrom fuel false s rest
        else cutFrom fuel false s rest
  | fuel + 1, false, s, cs =>
    match cs.dropWhile isSpacing with
    | [] =>
      if s.brackets.isEmpty then ⟨(s.emit .endMarker "").done.reverse.toArray, none⟩ else s.early
    | '#' :: r => cutFrom fuel false s (r.dropWhile (· != '\n'))
    | '\n' :: r =>
      cutFrom fuel true (if s.brackets.isEmpty then s.emit .newline "" else s) r
    | '\\' :: '\n' :: r =>
      if r.isEmpty then s.early else cutFrom fuel false { s with line := s.line + 1 } r
    | '\\' :: _ => s.layout
    | c :: r =>
      if startsName c then
        let word := c :: r.takeWhile continuesName
        let rest := r.dropWhile continuesName
        let text := String.ofList word
        if rest.head?.any isQuote && stringMarks.contains (lowerAscii text) then
          match stringRest word.reverse rest with
          | some (taken, rest) => cutFrom fuel false (s.emitString taken) rest
          | none => s.lexical
        else if word.any (fun c => 128 ≤ c.toNat) && !isIdentifier word then s.lexical
        else if keywords.contains text then cutFrom fuel false (s.emit .keyword text) rest
        else cutFrom fuel false (s.emit .name text) rest
      else if isQuote c then
        match stringRest [] (c :: r) with
        | some (taken, rest) => cutFrom fuel false (s.emitString taken) rest
        | none => s.lexical
      else if c.isDigit || (c == '.' && r.head?.any Char.isDigit) then
        match numberRest (c :: r) with
        | some rest =>
          let text := (c :: r).take (r.length + 1 - rest.length)
          cutFrom fuel false (s.emit .number (String.ofList text)) rest
        | none => s.lexical
      else
        match longSign? (c :: r) with
        | some (sign, rest) => cutFrom fuel false (s.emit .sign sign) rest
        | none =>
          if c == '(' || c == '[' || c == '\x7b' then
            match s.opened c with
            | .error stopped => stopped
            | .ok s => cutFrom fuel false s r
          else if c == ')' || c == ']' || c == '\x7d' then
            match s.closed c with
            | .error stopped => stopped
            | .ok s => cutFrom fuel false s r
          else if 32 ≤ c.toNat && c.toNat < 127 then
            cutFrom fuel false (s.emit .sign (String.singleton c)) r
          else s.lexical

/-- The tokens of a text, whose first line has the given number. -/
def Tokens.ofText (firstLine : Nat) (cs : List Char) : Tokens :=
  let text := endedLines cs
  cutFrom (2 * text.length + 4) true { line := firstLine - 1 } text

end ApiDirectives.Source
