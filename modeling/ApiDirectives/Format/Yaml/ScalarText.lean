import ApiDirectives.Format.Yaml.Cursor

/-!
# The text of a scalar

A scalar is plain, quoted or a block. In a plain or quoted one a single line end is a space and
further ones are kept; in a block they are kept, or folded where the style says so.
-/

namespace ApiDirectives.Yaml

/-- What a line end and further ones after it stand for: a line feed alone is a space. -/
def folded (first : Char) (further : List Char) : List Char :=
  if first != '\n' then first :: further else if further.isEmpty then [' '] else further

/-! ## Quoted scalars -/

/-- The character that an escape of one letter stands for. -/
def escaped? (c : Char) : Option Char :=
  match c with
  | '0' => some '\x00'
  | 'a' => some '\x07'
  | 'b' => some '\x08'
  | 't' => some '\t'
  | '\t' => some '\t'
  | 'n' => some '\n'
  | 'v' => some '\x0b'
  | 'f' => some '\x0c'
  | 'r' => some '\r'
  | 'e' => some '\x1b'
  | ' ' => some ' '
  | '"' => some '"'
  | '\\' => some '\\'
  | '/' => some '/'
  | 'N' => some (Char.ofNat 0x85)
  | '_' => some (Char.ofNat 0xA0)
  | 'L' => some (Char.ofNat 0x2028)
  | 'P' => some (Char.ofNat 0x2029)
  | _ => none

/-- How many digits an escape by number has. -/
def escapeWidth? (c : Char) : Option Nat :=
  match c with
  | 'x' => some 2
  | 'u' => some 4
  | 'U' => some 8
  | _ => none

/-- A hexadecimal digit. -/
def isHex (c : Char) : Bool := c != '_' && isHexOrGap c

/-- The value of a hexadecimal digit. -/
def hexValue (c : Char) : Nat :=
  if c.isDigit then c.toNat - '0'.toNat
  else if c.isUpper then c.toNat - 'A'.toNat + 10
  else c.toNat - 'a'.toNat + 10

/-- The number that hexadecimal digits write. -/
def hexNumber (cs : List Char) : Nat := cs.foldl (fun n c => n * 16 + hexValue c) 0

/-- The character with a number; half of a pair has none and is shown as unknown. -/
def charOf (n : Nat) : Char := if h : n.isValidChar then Char.ofNatAux n h else Char.ofNat 0xFFFD

/-- The line ends ahead, with the blanks around them dropped. The first argument bounds their
number. -/
def quotedBreaks : Nat → Cursor → Part (List Char)
  | 0, c => .ok ([], c)
  | bound + 1, c =>
    if c.atSeparator then refuse .separatorInQuotes
    else
      let c := c.skipWhile isGap
      match c.lineEnd? with
      | none => .ok ([], c)
      | some (b, c) => (quotedBreaks bound c).map fun (bs, c) => (b :: bs, c)

/-- Blanks and line ends inside quotes. -/
def quotedGap (c : Cursor) : Part (List Char) :=
  let blanks := c.run isGap
  let c := c.skip blanks.length
  if c.peek == endMark then refuse .unclosedQuote
  else
    match c.lineEnd? with
    | none => .ok (blanks, c)
    | some (b, c) => (quotedBreaks (c.rest.length + 1) c).map fun (bs, c) => (folded b bs, c)

/-- What an escape stands for; the cursor is behind the backslash. An escaped line end stands for
nothing. -/
def escapeText (c : Cursor) : Part (List Char) :=
  match escaped? c.peek, escapeWidth? c.peek with
  | some x, _ => .ok ([x], c.next)
  | none, some width =>
    let digits := c.next.rest.take width
    if digits.length < width || !digits.all isHex then refuse .unknownEscape
    else
      let number := hexNumber digits
      if 0x110000 ≤ number then .error (.unreadable (.codePoint number))
      else .ok ([charOf number], c.next.skip width)
  | none, none =>
    match c.lineEnd? with
    | some (_, c) => quotedBreaks (c.rest.length + 1) c
    | none => refuse .unknownEscape

/-- The rest of a quoted scalar; `read` is what was read, backwards. The first argument bounds the
length. -/
def quotedFrom (double : Bool) : Nat → Cursor → List Char → Part (List Char)
  | 0, _, _ => refuse .unclosedQuote
  | bound + 1, c, read =>
    let x := c.peek
    if isEdge x then
      match quotedGap c with
      | .error e => .error e
      | .ok (gap, c) => quotedFrom double bound c (gap.reverse ++ read)
    else if double && x == '\\' then
      match escapeText c.next with
      | .error e => .error e
      | .ok (cs, c) => quotedFrom double bound c (cs.reverse ++ read)
    else if double && x == '"' then .ok (read.reverse, c.next)
    else if !double && x == '\'' then
      if c.peek 1 == '\'' then quotedFrom double bound (c.skip 2) ('\'' :: read)
      else .ok (read.reverse, c.next)
    else quotedFrom double bound c.next (x :: read)

/-- The text of a quoted scalar; the cursor is at its opening quote. -/
def quotedScalar (c : Cursor) : Part (List Char) :=
  quotedFrom (c.peek == '"') (c.rest.length + 1) c.next []

/-! ## Plain scalars -/

/-- Indicators of flow collections. -/
def isFlowIndicator (c : Char) : Bool := ",[]\x7b\x7d".toList.contains c

/-- Whether a colon before a character is a value indicator. -/
def closesKey (flow : Bool) (c : Char) : Bool := isEdge c || (flow && isFlowIndicator c)

/-- The characters of a plain scalar up to a blank or an indicator. -/
def plainRun (flow : Bool) : List Char → List Char
  | [] => []
  | x :: r =>
    if isEdge x || (x == ':' && closesKey flow (r.headD endMark))
      || (flow && (x == '?' || isFlowIndicator x)) then []
    else x :: plainRun flow r

/-- What stands between two runs of a plain scalar. -/
structure PlainGap where
  /-- What it stands for; nothing if a document ends in it. -/
  text : Option (List Char)
  cursor : Cursor
  /-- Whether it goes over a line end. -/
  crossed : Bool

/-- The line ends ahead, with the spaces around them dropped; none if a document ends there. The
first argument bounds the length. -/
def plainBreaks : Nat → Cursor → Option (List Char) × Cursor
  | 0, c => (some [], c)
  | bound + 1, c =>
    let c := c.skipWhile isSpace
    match c.lineEnd? with
    | none => (some [], c)
    | some (b, c) =>
      if c.atSeparator then (none, c)
      else
        let (bs, c) := plainBreaks bound c
        (bs.map (b :: ·), c)

/-- The gap ahead. -/
def plainGap (c : Cursor) : PlainGap :=
  let spaces := c.run isSpace
  let c := c.skip spaces.length
  match c.lineEnd? with
  | none => ⟨some spaces, c, false⟩
  | some (b, c) =>
    if c.atSeparator then ⟨none, c, true⟩
    else
      let (bs, c) := plainBreaks (c.rest.length + 1) c
      ⟨bs.map (folded b), c, true⟩

/-- The rest of a plain scalar: its text, the place behind it, and whether a line end was the last
thing passed. `read` is what was read, backwards, and `gap` the gap before the cursor. The first
argument bounds the number of runs. -/
def plainScalarFrom (flow : Bool) (indent : Int) :
    Nat → Cursor → List Char → PlainGap → List Char × Cursor × Bool
  | 0, c, read, gap => (read.reverse, c, gap.crossed)
  | bound + 1, c, read, gap =>
    let run := if c.peek == '#' then [] else plainRun flow c.rest
    if run.isEmpty then (read.reverse, c, gap.crossed)
    else
      let read := run.reverse ++ ((gap.text.getD []).reverse ++ read)
      let gap := plainGap (c.skip run.length)
      match gap.text with
      | none | some [] => (read.reverse, gap.cursor, gap.crossed)
      | some _ =>
        if gap.cursor.peek == '#' || (!flow && (gap.cursor.column : Int) < indent) then
          (read.reverse, gap.cursor, gap.crossed)
        else plainScalarFrom flow indent bound gap.cursor read gap

/-- The text of a plain scalar, the place behind it, and whether a line end was the last thing
passed. Its further lines are indented by at least `indent`. -/
def plainScalar (flow : Bool) (indent : Int) (c : Cursor) : List Char × Cursor × Bool :=
  plainScalarFrom flow indent (c.rest.length + 1) c [] ⟨some [], c, false⟩

/-! ## Block scalars -/

/-- What becomes of the line ends after a block scalar. -/
inductive Chomping where
  | clip
  | keep
  | strip
  deriving Repr, DecidableEq, Inhabited

/-- The mark for the line ends after a block scalar. -/
def chomping? (c : Char) : Option Chomping :=
  if c == '+' then some .keep else if c == '-' then some .strip else none

/-- A digit that says how far a block scalar is indented. -/
def increment? (c : Char) : Option Nat :=
  if c.isDigit then some (c.toNat - '0'.toNat) else none

/-- The first line of a block scalar, behind its indicator. -/
def blockHeader (c : Cursor) : Part (Chomping × Option Nat) :=
  let (chomping, increment, c) :=
    match chomping? c.peek with
    | some mark =>
      match increment? c.next.peek with
      | some n => (mark, some n, c.skip 2)
      | none => (mark, none, c.next)
    | none =>
      match increment? c.peek with
      | none => (.clip, none, c)
      | some n =>
        match chomping? c.next.peek with
        | some mark => (mark, some n, c.skip 2)
        | none => (.clip, some n, c.next)
  let past := c.skipComment
  if increment = some 0 || !isWordEdge c.peek || !isLineEdge past.peek then refuse .blockHeader
  else .ok ((chomping, increment), past.pastLineEnd)

/-- The empty lines at the start of a block scalar, and the widest indentation seen. The first
argument bounds the length. -/
def blockIndentation : Nat → Cursor → List Char → Nat → List Char × Nat × Cursor
  | 0, c, breaks, width => (breaks.reverse, width, c)
  | bound + 1, c, breaks, width =>
    let c := c.skipWhile isSpace
    let width := max width c.column
    match c.lineEnd? with
    | none => (breaks.reverse, width, c)
    | some (b, c) => blockIndentation bound c (b :: breaks) width

/-- The place behind spaces, but not past a column. -/
def skipIndent (indent : Nat) (c : Cursor) : Cursor :=
  c.skip (min (indent - c.column) (c.run isSpace).length)

/-- Line ends and the indentation after each. The first argument bounds the number. -/
def blockBreaks (indent : Nat) : Nat → Cursor → List Char × Cursor
  | 0, c => ([], c)
  | bound + 1, c =>
    let c := skipIndent indent c
    match c.lineEnd? with
    | none => ([], c)
    | some (b, c) =>
      let (bs, c) := blockBreaks indent bound c
      (b :: bs, c)

/-- Whether a line of a block scalar is ahead. -/
def atBlockLine (indent : Nat) (c : Cursor) : Bool := c.column == indent && c.peek != endMark

/-- The lines of a block scalar: the text, backwards, the last line end, the empty lines behind it,
and the place. The first argument bounds the number of lines. -/
def blockLines (fold : Bool) (indent : Nat) :
    Nat → Cursor → List Char → List Char → List Char × List Char × List Char × Cursor
  | 0, c, read, breaks => (read, [], breaks, c)
  | bound + 1, c, read, breaks =>
    if !atBlockLine indent c then (read, [], breaks, c)
    else
      let line := c.run fun x => !isLineEdge x
      let read := line.reverse ++ (breaks.reverse ++ read)
      let flush := !isGap c.peek
      let c := c.skip line.length
      let ending := ((c.lineEnd?).map fun (b, _) => [b]).getD []
      let (breaks, c) := blockBreaks indent (c.rest.length + 1) c.pastLineEnd
      if !atBlockLine indent c then (read, ending, breaks, c)
      else
        let between :=
          if fold && ending == ['\n'] && flush && !isGap c.peek then
            if breaks.isEmpty then [' '] else []
          else ending
        blockLines fold indent bound c (between ++ read) breaks

/-- The text of a block scalar in a collection that is indented by `indent`; the cursor is at the
indicator. -/
def blockScalar (indent : Int) (c : Cursor) : Part (List Char) :=
  match blockHeader c.next with
  | .error e => .error e
  | .ok ((chomping, increment), start) =>
    let least := (max (indent + 1) 1).toNat
    let (width, breaks, start) :=
      match increment with
      | some n =>
        let width := least + n - 1
        let (breaks, start) := blockBreaks width (start.rest.length + 1) start
        (width, breaks, start)
      | none =>
        let (breaks, width, start) := blockIndentation (start.rest.length + 1) start [] 0
        (max least width, breaks, start)
    let (read, ending, breaks, past) :=
      blockLines (c.peek == '>') width (start.rest.length + 1) start [] breaks
    let tail := match chomping with
      | .strip => []
      | .clip => ending
      | .keep => ending ++ breaks
    .ok (read.reverse ++ tail, past)

end ApiDirectives.Yaml
