import ApiDirectives.Format.Yaml.ScalarText
import ApiDirectives.Text.Utf8

/-!
# Tokens of a YAML text

Indentation becomes tokens that open and close collections. A key is recognised only by the colon
behind it, so every place where a key may start is remembered until its line ends, and the token that
announces it is put in front of it afterwards.
-/

namespace ApiDirectives.Yaml

/-- What a directive says. -/
inductive Instruction where
  | version (major minor : Nat)
  /-- What a tag handle stands for. -/
  | handle (name meaning : String)
  | other
  deriving Repr, DecidableEq, Inhabited

/-- The tokens. -/
inductive Token where
  | directive (instruction : Instruction)
  | documentStart
  | documentEnd
  | streamEnd
  | blockSequenceStart
  | blockMappingStart
  | blockEnd
  | flowSequenceStart
  | flowSequenceEnd
  | flowMappingStart
  | flowMappingEnd
  | blockEntry
  | flowEntry
  | key
  | value
  | alias (name : String)
  | anchor (name : String)
  /-- A tag without a handle is given in full. -/
  | tag (handle : Option String) (suffix : String)
  | scalar (text : String) (plain : Bool)
  deriving Repr, DecidableEq, Inhabited

/-! ## Names, tags and directives -/

/-- Characters of names. -/
def isNameChar (c : Char) : Bool := c.isAlphanum || c == '-' || c == '_'

/-- The name of an anchor or an alias; the cursor is behind its indicator. -/
def anchorName (c : Cursor) : Part String :=
  let name := c.run isNameChar
  let c := c.skip name.length
  if name.isEmpty || !(isEdge c.peek || "?:,]\x7d%@`".toList.contains c.peek) then refuse .anchorName
  else .ok (String.ofList name, c)

/-- Characters of tags, other than escapes. -/
def isTagChar (c : Char) : Bool :=
  c.isAlphanum || "-;/?:@&=+$,_.!~*'()[]".toList.contains c

/-- Bytes written as percent signs and two digits each. -/
def percentBytes : Nat → Cursor → Part (List UInt8)
  | 0, c => .ok ([], c)
  | bound + 1, c =>
    if c.peek == '%' then
      let digits := c.next.rest.take 2
      if digits.length < 2 || !digits.all isHex then refuse .tagName
      else
        (percentBytes bound (c.skip 3)).map fun (bs, c) => ((hexNumber digits).toUInt8 :: bs, c)
    else .ok ([], c)

/-- The characters of a tag; escapes are UTF-8. The first argument bounds the length. -/
def tagChars : Nat → Cursor → List Char → Part (List Char)
  | 0, c, read => .ok (read.reverse, c)
  | bound + 1, c, read =>
    if c.peek == '%' then
      match percentBytes (c.rest.length + 1) c with
      | .error e => .error e
      | .ok (bytes, c) =>
        match Text.decodeUtf8 bytes with
        | .error _ => refuse .tagName
        | .ok cs => tagChars bound c (cs.reverse ++ read)
    else if isTagChar c.peek then tagChars bound c.next (c.peek :: read)
    else .ok (read.reverse, c)

/-- The text of a tag, which is not empty. -/
def tagText (c : Cursor) : Part String :=
  match tagChars (c.rest.length + 1) c [] with
  | .error e => .error e
  | .ok (cs, past) => if past.index = c.index then refuse .tagName else .ok (String.ofList cs, past)

/-- A tag handle; the cursor is at its exclamation mark. -/
def tagHandle (c : Cursor) : Part String :=
  if c.peek != '!' then refuse .tagName
  else if c.peek 1 == ' ' then .ok ("!", c.next)
  else
    let name := c.next.run isNameChar
    let past := c.next.skip name.length
    if past.peek != '!' then refuse .tagName
    else .ok (String.ofList ('!' :: name ++ ['!']), past.next)

/-- A tag; the cursor is at its exclamation mark. -/
def tagToken (c : Cursor) : Except Fault (Token × Cursor) := do
  let (token, c) ← (do
    if c.peek 1 == '<' then
      let (suffix, c) ← tagText (c.skip 2)
      if c.peek != '>' then refuse .tagName
      else return (Token.tag none suffix, c.next)
    else if isEdge (c.peek 1) then return (Token.tag none "!", c.next)
    else
      let (handle, c) ←
        if (c.next.run fun x => !isWordEdge x).contains '!' then tagHandle c
        else .ok ("!", c.next)
      let (suffix, c) ← tagText c
      return (Token.tag (some handle) suffix, c) : Except Fault (Token × Cursor))
  if isWordEdge c.peek then .ok (token, c) else refuse .tagName

/-- A number of a version. -/
def versionPart (c : Cursor) : Part Nat :=
  let digits := c.run Char.isDigit
  if digits.isEmpty then refuse .directive
  else .ok (Numeral.digitsValue digits, c.skip digits.length)

/-- What a directive of some name says; the cursor is behind the name. -/
def instruction (name : String) (c : Cursor) : Except Fault (Instruction × Cursor) := do
  match name with
  | "YAML" =>
    let (major, c) ← versionPart (c.skipWhile isSpace)
    if c.peek != '.' then refuse .directive
    else
      let (minor, c) ← versionPart c.next
      if isWordEdge c.peek then return (.version major minor, c) else refuse .directive
  | "TAG" =>
    let (handle, c) ← tagHandle (c.skipWhile isSpace)
    if c.peek != ' ' then refuse .directive
    else
      let (meaning, c) ← tagText (c.skipWhile isSpace)
      if isWordEdge c.peek then return (.handle handle meaning, c) else refuse .directive
  | _ => return (.other, c.skipWhile fun x => !isLineEdge x)

/-- A directive with the rest of its line; the cursor is at its percent sign. -/
def directiveToken (c : Cursor) : Except Fault (Token × Cursor) := do
  let name := c.next.run isNameChar
  let c := c.next.skip name.length
  if name.isEmpty || !isWordEdge c.peek then refuse .directive
  else
    let (said, c) ← instruction (String.ofList name) c
    let c := c.skipComment
    if isLineEdge c.peek then return (.directive said, c.pastLineEnd) else refuse .directive

/-! ## The scanner -/

/-- A place where a key may have started: its token's number, where it is, and whether nothing else
may stand there. -/
structure PossibleKey where
  token : Nat
  required : Bool
  index : Nat
  line : Nat
  column : Nat
  deriving Repr, DecidableEq, Inhabited

/-- The state of a scan. -/
structure Scan where
  cursor : Cursor
  tokens : Array Token := #[]
  /-- How many flow collections are open. -/
  flow : Nat := 0
  /-- The indentation of the innermost block collection, and of those around it. -/
  indent : Int := -1
  indents : List Int := []
  /-- Whether a key may start here. -/
  keysAllowed : Bool := true
  /-- The possible keys, at most one for each number of open flow collections. -/
  keys : List (Nat × PossibleKey) := []
  done : Bool := false

namespace Scan

/-- Whether the scan is outside all flow collections. -/
def inBlock (s : Scan) : Bool := s.flow == 0

/-- The column. -/
def column (s : Scan) : Int := s.cursor.column

/-- Adds a token. -/
def emit (s : Scan) (t : Token) : Scan := { s with tokens := s.tokens.push t }

/-- Adds a token and passes over its characters. -/
def emitOver (s : Scan) (count : Nat) (t : Token) : Scan :=
  { s.emit t with cursor := s.cursor.skip count }

/-- Puts a token in front of the one with a number. -/
def insertBefore (s : Scan) (number : Nat) (t : Token) : Scan :=
  { s with tokens := (s.tokens.take number).push t ++ s.tokens.drop number }

/-- How many characters a key may have. -/
def longestKey : Nat := 1024

/-- Whether a possible key is too far behind to be one. -/
def isStale (s : Scan) (k : PossibleKey) : Bool :=
  k.line != s.cursor.line || longestKey < s.cursor.index - k.index

/-- Forgets the possible keys of which some property holds; a required one may not be forgotten. -/
def forgetKeys (s : Scan) (p : Nat × PossibleKey → Bool) : Except Fault Scan :=
  if s.keys.any fun k => p k && k.2.required then refuse .unfinishedKey
  else .ok { s with keys := s.keys.filter fun k => !p k }

/-- Forgets the possible key of this level. -/
def forgetKey (s : Scan) : Except Fault Scan := s.forgetKeys fun k => k.1 == s.flow

/-- Remembers that a key may start here. -/
def rememberKey (s : Scan) : Except Fault Scan := do
  if s.keysAllowed then
    let s ← s.forgetKey
    let key : PossibleKey :=
      ⟨s.tokens.size, s.inBlock && s.indent == s.column, s.cursor.index, s.cursor.line,
        s.cursor.column⟩
    return { s with keys := (s.flow, key) :: s.keys }
  else return s

/-- Closes block collections that are indented further than a column. -/
def unwindTo (column : Int) (s : Scan) : List Int → Scan
  | [] => s
  | outer :: r =>
    if column < s.indent then unwindTo column { s.emit .blockEnd with indent := outer, indents := r } r
    else s

/-- Closes block collections that are indented further than a column. -/
def unwind (s : Scan) (column : Int) : Scan :=
  if s.inBlock then unwindTo column s s.indents else s

/-- Opens a block collection at a column unless one is open there. -/
def openAt (s : Scan) (column : Int) : Option Scan :=
  if s.indent < column then some { s with indent := column, indents := s.indent :: s.indents }
  else none

/-- Passes over blanks, comments and line ends; after a line end a key may start. The first argument
bounds the number of lines. -/
def skipBlanks : Nat → Scan → Scan
  | 0, s => s
  | bound + 1, s =>
    let c := s.cursor.skipComment
    match c.lineEnd? with
    | none => { s with cursor := c }
    | some (_, c) =>
      skipBlanks bound { s with cursor := c, keysAllowed := s.keysAllowed || s.inBlock }

/-- The end of the text. -/
def finish (s : Scan) : Except Fault Scan := do
  let s ← (s.unwind (-1)).forgetKey
  return { s.emit .streamEnd with keysAllowed := false, keys := [], done := true }

/-- The start or the end of a document. -/
def separator (s : Scan) (t : Token) : Except Fault Scan := do
  let s ← (s.unwind (-1)).forgetKey
  return { s.emitOver 3 t with keysAllowed := false }

/-- A directive. -/
def directive (s : Scan) : Except Fault Scan := do
  let s ← (s.unwind (-1)).forgetKey
  let (t, c) ← directiveToken s.cursor
  return { s.emit t with keysAllowed := false, cursor := c }

/-- Opens a flow collection. -/
def openFlow (s : Scan) (t : Token) : Except Fault Scan := do
  let s ← s.rememberKey
  return { s.emitOver 1 t with flow := s.flow + 1, keysAllowed := true }

/-- Closes a flow collection. -/
def closeFlow (s : Scan) (t : Token) : Except Fault Scan := do
  let s ← s.forgetKey
  return { s.emitOver 1 t with flow := s.flow - 1, keysAllowed := false }

/-- A comma. -/
def flowEntry (s : Scan) : Except Fault Scan := do
  let s ← s.forgetKey
  return { s.emitOver 1 .flowEntry with keysAllowed := true }

/-- In a block, opens a collection here unless one is open; that needs a place for a key. -/
def openBlock (s : Scan) (t : Token) (problem : Problem) : Except Fault Scan :=
  if s.inBlock then
    if s.keysAllowed then .ok (((s.openAt s.column).map fun s => s.emit t).getD s)
    else refuse problem
  else .ok s

/-- A hyphen before an entry. -/
def blockEntry (s : Scan) : Except Fault Scan := do
  let s ← s.openBlock .blockSequenceStart .misplacedEntry
  let s ← s.forgetKey
  return { s.emitOver 1 .blockEntry with keysAllowed := true }

/-- A question mark before a key. -/
def explicitKey (s : Scan) : Except Fault Scan := do
  let s ← s.openBlock .blockMappingStart .misplacedKey
  let s ← s.forgetKey
  return { s.emitOver 1 .key with keysAllowed := s.inBlock }

/-- A colon before a value. If a key is possible at this level, it was one. -/
def valueMark (s : Scan) : Except Fault Scan := do
  match s.keys.lookup s.flow with
  | some k =>
    let s := { s with keys := s.keys.filter fun k => k.1 != s.flow }
    let s := s.insertBefore k.token .key
    let s := if s.inBlock then
        ((s.openAt k.column).map fun s => s.insertBefore k.token .blockMappingStart).getD s
      else s
    return { s.emitOver 1 .value with keysAllowed := false }
  | none =>
    let s ← s.openBlock .blockMappingStart .misplacedValue
    let s ← s.forgetKey
    return { s.emitOver 1 .value with keysAllowed := s.inBlock }

/-- A token that may be a key or start one. -/
def atom (s : Scan) (read : Cursor → Part Token) : Except Fault Scan := do
  let s ← s.rememberKey
  let (t, c) ← read s.cursor
  return { s.emit t with keysAllowed := false, cursor := c }

/-- A block scalar. -/
def blockText (s : Scan) : Except Fault Scan := do
  let s ← s.forgetKey
  let (cs, c) ← blockScalar s.indent s.cursor
  return { s.emit (.scalar (String.ofList cs) false) with keysAllowed := true, cursor := c }

/-- A plain scalar. -/
def plainText (s : Scan) : Except Fault Scan := do
  let s ← s.rememberKey
  let (cs, c, crossed) := plainScalar (!s.inBlock) (s.indent + 1) s.cursor
  return { s.emit (.scalar (String.ofList cs) true) with keysAllowed := crossed, cursor := c }

/-- Whether a plain scalar may start here. A hyphen may, and in a block also a question mark or a
colon, if no blank follows. -/
def startsPlain (s : Scan) : Bool :=
  let x := s.cursor.peek
  if isEdge x || isLeadingIndicator x then false
  else if x == '-' then !isEdge (s.cursor.peek 1)
  else if x == '?' || x == ':' then s.inBlock && !isEdge (s.cursor.peek 1)
  else true

/-- Whether an indicator stands alone; in flow collections that does not matter. -/
def standsAlone (s : Scan) : Bool := !s.inBlock || isEdge (s.cursor.peek 1)

/-- Reads the next token. -/
def token (s : Scan) : Except Fault Scan :=
  let x := s.cursor.peek
  let first := s.cursor.column == 0
  if x == endMark then s.finish
  else if x == '%' && first then s.directive
  else if first && s.cursor.atMark '-' then s.separator .documentStart
  else if first && s.cursor.atMark '.' then s.separator .documentEnd
  else if x == '[' then s.openFlow .flowSequenceStart
  else if x == '\x7b' then s.openFlow .flowMappingStart
  else if x == ']' then s.closeFlow .flowSequenceEnd
  else if x == '\x7d' then s.closeFlow .flowMappingEnd
  else if x == ',' then s.flowEntry
  else if x == '-' && isEdge (s.cursor.peek 1) then s.blockEntry
  else if x == '?' && s.standsAlone then s.explicitKey
  else if x == ':' && s.standsAlone then s.valueMark
  else if x == '*' then s.atom fun c => (anchorName c.next).map fun (n, c) => (.alias n, c)
  else if x == '&' then s.atom fun c => (anchorName c.next).map fun (n, c) => (.anchor n, c)
  else if x == '!' then s.atom tagToken
  else if (x == '|' || x == '>') && s.inBlock then s.blockText
  else if x == '\'' || x == '"' then
    s.atom fun c => (quotedScalar c).map fun (cs, c) => (.scalar (String.ofList cs) false, c)
  else if s.startsPlain then s.plainText
  else refuse .strayCharacter

/-- Passes over what stands before the next token, closes collections that end there, and reads the
token. -/
def step (s : Scan) : Except Fault Scan := do
  let s := skipBlanks (s.cursor.rest.length + 1) s
  let s ← s.forgetKeys fun k => s.isStale k.2
  (s.unwind s.column).token

/-- Reads tokens to the end. The first argument bounds their number. -/
def run : Nat → Scan → Except Fault Scan
  | 0, _ => refuse .strayCharacter
  | bound + 1, s => if s.done then .ok s else s.step.bind (run bound)

end Scan

/-- Characters that a text may hold. -/
def isPrintable (c : Char) : Bool :=
  let n := c.toNat
  n == 0x09 || n == 0x0A || n == 0x0D || (0x20 ≤ n && n ≤ 0x7E) || n == 0x85
    || (0xA0 ≤ n && n ≤ 0xFFFD) || 0x10000 ≤ n

/-- A text without the byte order mark it may start with. -/
def withoutMark : List Char → List Char
  | c :: r => if c.toNat == 0xFEFF then r else c :: r
  | [] => []

/-- The tokens of a text. -/
def tokens (text : List Char) : Except Fault (List Token) :=
  if !text.all isPrintable then refuse .unprintable
  else
    (Scan.run (text.length + 2) { cursor := { rest := withoutMark text } }).map
      fun s => s.tokens.toList

end ApiDirectives.Yaml
