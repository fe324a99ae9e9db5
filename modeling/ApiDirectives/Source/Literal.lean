import ApiDirectives.Numeral.Reading
import ApiDirectives.Source.Token

/-!
# String literals

A string token is a mark, a quotation mark, a body and a quotation mark. The mark says whether the
body is bytes, whether backslashes are kept, and whether it holds expressions in braces.
-/

namespace ApiDirectives.Source

open ApiDirectives.Text

/-- A string token taken apart. -/
structure Literal where
  isRaw : Bool := false
  isBytes : Bool := false
  isFormat : Bool := false
  /-- The characters before the body. -/
  head : List Char := []
  body : List Char := []
  deriving Repr, DecidableEq, Inhabited

/-- Takes a string token apart. -/
def Literal.ofToken (text : String) : Literal :=
  let cs := text.toList
  let mark := (cs.takeWhile Char.isAlpha).map Char.toLower
  let quoted := cs.dropWhile Char.isAlpha
  let long := match quoted with
    | a :: b :: c :: _ :: _ :: _ :: _ => a == b && b == c
    | _ => false
  let width := if long then 3 else 1
  let inner := quoted.drop width
  { isRaw := mark.contains 'r'
    isBytes := mark.contains 'b'
    isFormat := mark.contains 'f'
    head := cs.take (mark.length + width)
    body := inner.take (inner.length - width) }

/-! ## Escapes -/

/-- The value of a hexadecimal digit. -/
def hexValue? (c : Char) : Option Nat :=
  if '0' ≤ c && c ≤ '9' then some (c.toNat - 48)
  else if 'a' ≤ c && c ≤ 'f' then some (c.toNat - 87)
  else if 'A' ≤ c && c ≤ 'F' then some (c.toNat - 55)
  else none

/-- The value of exactly `count` hexadecimal digits at the front, and what follows. -/
def hexNumber? (count : Nat) (cs : List Char) : Option (Nat × List Char) :=
  let digits := (cs.take count).filterMap hexValue?
  if digits.length = count then some (digits.foldl (fun n d => n * 16 + d) 0, cs.drop count)
  else none

/-- Escapes of one letter. -/
def letterEscape? (c : Char) : Option Char :=
  if c = 'a' then some '\x07'
  else if c = 'b' then some '\x08'
  else if c = 'f' then some '\x0c'
  else if c = 'n' then some '\n'
  else if c = 'r' then some '\r'
  else if c = 't' then some '\t'
  else if c = 'v' then some '\x0b'
  else if c = '\\' || c = '\'' || c = '"' then some c
  else none

/-- The number of digits of an escape by code. -/
def codeDigits? (isBytes : Bool) (c : Char) : Option Nat :=
  if c = 'x' then some 2
  else if isBytes then none
  else if c = 'u' then some 4
  else if c = 'U' then some 8
  else none

/-- A character by its code; what has no character is shown by the replacement character. -/
def characterOf (code : Nat) : Char :=
  if code.isValidChar then Char.ofNat code else '\ufffd'

/-- An octal escape of at most three digits: its value and its length. -/
def octalEscape (cs : List Char) : Nat × Nat :=
  let digits := (cs.take 3).takeWhile fun c => '0' ≤ c && c ≤ '7'
  (digits.foldl (fun n d => n * 8 + (d.toNat - 48)) 0, digits.length)

/-- The text that a body without raw marks stands for; none if an escape is cut short or out of
range. The first argument bounds the number of steps. -/
def unescapeFrom : Nat → Bool → List Char → Option (List Char)
  | 0, _, _ => some []
  | _ + 1, _, [] => some []
  | _ + 1, _, ['\\'] => some ['\\']
  | fuel + 1, isBytes, '\\' :: c :: r =>
    match codeDigits? isBytes c with
    | some count =>
      match hexNumber? count r with
      | some (code, rest) =>
        if 0x10FFFF < code then none
        else (unescapeFrom fuel isBytes rest).map (characterOf code :: ·)
      | none => none
    | none =>
      if c = 'N' && !isBytes then
        match r with
        | '\x7b' :: name =>
          match name.dropWhile (· != '\x7d') with
          | '\x7d' :: rest =>
            if name.head? = some '\x7d' then none
            else (unescapeFrom fuel isBytes rest).map ('\ufffd' :: ·)
          | _ => none
        | _ => none
      else if c = '\n' then unescapeFrom fuel isBytes r
      else
        match letterEscape? c with
        | some e => (unescapeFrom fuel isBytes r).map (e :: ·)
        | none =>
          match octalEscape (c :: r) with
          | (_, 0) => (unescapeFrom fuel isBytes r).map fun t => '\\' :: c :: t
          | (code, count) =>
            (unescapeFrom fuel isBytes (r.drop (count - 1))).map (characterOf code :: ·)
  | fuel + 1, isBytes, c :: r => (unescapeFrom fuel isBytes r).map (c :: ·)

/-- The text that a body without raw marks stands for. -/
def unescape (isBytes : Bool) (cs : List Char) : Option (List Char) :=
  unescapeFrom (cs.length + 1) isBytes cs

/-- The text of a literal. -/
def Literal.value (l : Literal) : Option (List Char) :=
  if l.isRaw then some l.body else unescape l.isBytes l.body

/-! ## Expressions in braces -/

/-- What is checked in a body with braces, in order: the text between them is an expression, the
number of lines before it given, or there is a mistake. -/
inductive Embedded where
  | expression (text : List Char) (lines : Nat)
  | mistake
  deriving Repr, DecidableEq, Inhabited

/-- Where the scan of an expression stands: the open brackets, and the quotation mark of the string
it is in, with whether that is a triple one. -/
structure Nesting where
  brackets : List Char := []
  quote : Option (Char × Bool) := none
  deriving Repr, Inhabited

/-- Whether three equal marks stand at the front, with something after them. -/
def tripleAhead (q : Char) : List Char → Bool
  | a :: b :: c :: _ => a == q && b == q && c == q
  | _ => false

/-- The expression at the front, read backwards into `taken`, and what follows it: a sign that ends
it, or the end of the body. None if it cannot be one. -/
def expressionRest : Nat → Nesting → List Char → List Char → Option (List Char × List Char)
  | 0, _, _, _ => none
  | _ + 1, s, taken, [] => if s.quote.isNone && s.brackets.isEmpty then some (taken, []) else none
  | fuel + 1, s, taken, c :: r =>
    if c = '\\' then none
    else
      match s.quote with
      | some (q, long) =>
        if c = q then
          if !long then expressionRest fuel { s with quote := none } (c :: taken) r
          else if tripleAhead q (c :: r) then
            expressionRest fuel { s with quote := none } (q :: q :: q :: taken) (r.drop 2)
          else expressionRest fuel s (c :: taken) r
        else expressionRest fuel s (c :: taken) r
      | none =>
        if c = '\'' || c = '"' then
          if tripleAhead c (c :: r) then
            expressionRest fuel { s with quote := some (c, true) } (c :: c :: c :: taken) (r.drop 2)
          else expressionRest fuel { s with quote := some (c, false) } (c :: taken) r
        else if c = '(' || c = '[' || c = '\x7b' then
          if 200 ≤ s.brackets.length then none
          else expressionRest fuel { s with brackets := c :: s.brackets } (c :: taken) r
        else if c = '#' then none
        else if s.brackets.isEmpty && ['!', ':', '\x7d', '=', '<', '>'].contains c then
          if r.head? = some '=' && ['!', '=', '<', '>'].contains c then
            expressionRest fuel s ('=' :: c :: taken) (r.drop 1)
          else if c = '<' || c = '>' then expressionRest fuel s (c :: taken) r
          else some (taken, c :: r)
        else if c = ')' || c = ']' || c = '\x7d' then
          match s.brackets with
          | [] => none
          | o :: below =>
            if (o = '(' && c = ')') || (o = '[' && c = ']') || (o = '\x7b' && c = '\x7d') then
              expressionRest fuel { s with brackets := below } (c :: taken) r
            else none
        else expressionRest fuel s (c :: taken) r

/-- How a piece of plain text in such a body ends. -/
inductive PlainEnd where
  /-- At a doubled brace, after which plain text goes on. -/
  | doubled
  /-- At a brace or at the end. -/
  | brace
  /-- At a closing brace that closes nothing. -/
  | stray
  deriving Repr, DecidableEq

/-- The plain text at the front, read backwards into `taken`, how it ends, and what follows. Braces
are doubled at the top level only. -/
def plainRest (isRaw isTop : Bool) : Nat → List Char → List Char → List Char × PlainEnd × List Char
  | 0, taken, cs => (taken, .stray, cs)
  | _ + 1, taken, [] => (taken, .brace, [])
  | fuel + 1, taken, c :: r =>
    let brace (b : Char) (before rest : List Char) : List Char × PlainEnd × List Char :=
      if isTop && rest.head? = some b then (b :: before, .doubled, rest.drop 1)
      else if isTop && b = '\x7d' then (before, .stray, b :: rest)
      else (before, .brace, b :: rest)
    if !isRaw && c = '\\' then
      match r with
      | [] => (c :: taken, .brace, [])
      | 'N' :: '\x7b' :: s =>
        let name := s.takeWhile (· != '\x7d')
        let rest := s.dropWhile (· != '\x7d')
        plainRest isRaw isTop fuel
          ((rest.take 1).reverse ++ name.reverse ++ '\x7b' :: 'N' :: c :: taken) (rest.drop 1)
      | 'N' :: d :: s => plainRest isRaw isTop fuel (d :: 'N' :: c :: taken) s
      | d :: s =>
        if d = '\x7b' || d = '\x7d' then brace d (c :: taken) s
        else plainRest isRaw isTop fuel (d :: c :: taken) s
    else if c = '\x7b' || c = '\x7d' then brace c taken r
    else plainRest isRaw isTop fuel (c :: taken) r

/-- The blanks of an expression that is nothing but blanks. -/
def isExpressionBlank (c : Char) : Bool := c == ' ' || c == '\t' || c == '\n' || c == '\x0c'

/-- Blanks after the sign that asks for the text of an expression. -/
def isAsciiBlank (c : Char) : Bool := c == ' ' || (9 ≤ c.toNat && c.toNat ≤ 13)

/-- What stands after a conversion; none if it is malformed. -/
def conversionRest : List Char → Option (List Char)
  | '!' :: r =>
    let isInside (c : Char) : Bool := c != '\x7d' && c != ':'
    match r.takeWhile isInside, r.dropWhile isInside with
    | [c], rest => if (c = 's' || c = 'r' || c = 'a') && !rest.isEmpty then some rest else none
    | _, _ => none
  | cs => some cs

/-- The checks of a body with braces, the number of lines before the rest of it given; also what
follows, which is a closing brace for a nested one. The number of levels bounds the nesting. -/
def embeddedFrom (isRaw : Bool) : Nat → Nat → Nat → List Char → List Embedded × List Char
  | 0, _, _, cs => ([.mistake], cs)
  | fuel + 1, level, lines, cs =>
    let (taken, ending, rest) := plainRest isRaw (level == 0) (cs.length + 1) [] cs
    let lines := lines + taken.count '\n'
    if !isRaw && (unescape false taken.reverse).isNone then ([.mistake], rest)
    else
      match ending, rest with
      | .stray, _ => ([.mistake], rest)
      | .doubled, _ => embeddedFrom isRaw fuel level lines rest
      | .brace, [] => if level = 0 then ([], []) else ([.mistake], [])
      | .brace, '\x7d' :: _ => if level = 0 then ([.mistake], rest) else ([], rest)
      | .brace, _ :: inner =>
        if 2 ≤ level then ([.mistake], rest)
        else
          match expressionRest (inner.length + 1) {} [] inner with
          | none | some (_, []) => ([.mistake], rest)
          | some (expression, after) =>
            if expression.all isExpressionBlank then ([.mistake], rest)
            else
              let check := Embedded.expression expression.reverse lines
              let lines := lines + expression.count '\n'
              let shown := match after with
                | '=' :: r => r.dropWhile isAsciiBlank
                | r => r
              match conversionRest shown with
              | none => ([check, .mistake], shown)
              | some (':' :: r) =>
                if r.isEmpty then ([check, .mistake], r)
                else
                  match embeddedFrom isRaw fuel (level + 1) lines r with
                  | (inside, '\x7d' :: rest) =>
                    if inside.contains .mistake then (check :: inside, rest)
                    else
                      let (more, rest') := embeddedFrom isRaw fuel level
                        (lines + r.count '\n' - rest.count '\n') rest
                      (check :: inside ++ more, rest')
                  | (inside, rest) => (check :: inside ++ [.mistake], rest)
              | some ('\x7d' :: r) =>
                let (more, rest) := embeddedFrom isRaw fuel level lines r
                (check :: more, rest)
              | some r => ([check, .mistake], r)

/-- The checks of a literal with expressions in braces. -/
def Literal.embedded (l : Literal) : List Embedded :=
  (embeddedFrom l.isRaw (l.body.length + 1) 0 (l.head.count '\n') l.body).1

/-! ## Flaws -/

/-- What is wrong with one literal at a line; `check` gives the line of a mistake in an expression,
which starts at a given line. -/
def Literal.flaw (check : Nat → List Char → Option Nat) (line : Nat) (l : Literal) : Option Flaw :=
  if l.isBytes && l.body.any (fun c => 128 ≤ c.toNat) then some (.at line)
  else if l.isFormat then
    l.embedded.findSome? fun
      | .mistake => some .here
      | .expression text lines => (check (line + lines) text).map .at
  else if l.value.isNone then some .here
  else none

/-- What is wrong with literals that stand side by side: the first flaw of one of them, or that
bytes and text are mixed. -/
def flawOfRun (check : Nat → List Char → Option Nat) (isBytes : Bool) : List Token → Option Flaw
  | [] => none
  | t :: r =>
    let l := Literal.ofToken t.text
    if l.isFormat then
      if isBytes then some .here
      else
        match l.flaw check t.line with
        | some f => some f
        | none => flawOfRun check isBytes r
    else
      match l.flaw check t.line with
      | some f => some f
      | none => if l.isBytes = isBytes then flawOfRun check isBytes r else some .here

/-- Whether a number is a decimal integer with more digits than are read. -/
def isTooLong (text : String) : Bool :=
  let cs := text.toList
  Numeral.digitLimit < cs.length && cs.all (fun c => c.isDigit || c == '_')
    && Numeral.digitLimit < (cs.filter Char.isDigit).length

/-- Gives the first token of each run of string tokens the flaw of the run; `inRun` says whether the
token before was one. -/
def withFlaws (check : Nat → List Char → Option Nat) (inRun : Bool) : List Token → List Token
  | [] => []
  | t :: r =>
    if t.kind = .string then
      let rest := withFlaws check true r
      if inRun then t :: rest
      else
        let run := t :: r.takeWhile fun u => u.kind = .string
        { t with flaw := flawOfRun check (Literal.ofToken t.text).isBytes run } :: rest
    else if t.kind = .number && isTooLong t.text then
      { t with flaw := some (.at t.line) } :: withFlaws check false r
    else t :: withFlaws check false r

end ApiDirectives.Source
