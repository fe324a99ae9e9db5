import ApiDirectives.Text.Blank
import ApiDirectives.Text.Encoding
import ApiDirectives.Text.Quoted

/-!
# Reading source files

A source file says in a comment of its first two lines how it is encoded; without that it is UTF-8. A
byte order mark says that it is UTF-8 too, and a comment that says otherwise is a conflict. All line
ends become line feeds.
-/

namespace ApiDirectives

open Text

/-- Why a source file has no text. -/
inductive EncodingFault where
  /-- The bytes are no text of the encoding. -/
  | undecodable (fault : DecodeFault)
  /-- One of the first lines is no UTF-8 and declares nothing. -/
  | undeclared (path : String)
  /-- The declared encoding is unknown. -/
  | unknown (path name : String)
  /-- A byte order mark and another declaration. -/
  | conflict (path : String)
  deriving Repr, DecidableEq

/-- The wording of a fault. -/
def EncodingFault.message : EncodingFault → String
  | .undecodable fault => fault.message
  | .undeclared path => "invalid or missing encoding declaration for " ++ quotedText path
  | .unknown path name => "unknown encoding for " ++ quotedText path ++ ": " ++ name
  | .conflict path => "encoding problem for " ++ quotedText path ++ ": utf-8"

/-- Characters of the names of encodings. -/
def isEncodingChar (c : Char) : Bool := c.isAlphanum || c == '_' || c == '-' || c == '.'

/-- The name that a declaration at the front gives. -/
def declarationAt? (cs : List Char) : Option String :=
  match dropLiteral? "coding".toList cs with
  | some (c :: r) =>
    if c = ':' || c = '=' then
      let name := (r.dropWhile fun c => c == ' ' || c == '\t').takeWhile isEncodingChar
      if name.isEmpty then none else some (String.ofList name)
    else none
  | _ => none

/-- The first declaration in a text. -/
def findDeclaration? : List Char → Option String
  | [] => none
  | c :: r =>
    match declarationAt? (c :: r) with
    | some name => some name
    | none => if c = '\n' then none else findDeclaration? r

/-- Blanks that may stand before a comment. -/
def isDeclarationBlank (c : Char) : Bool := c == ' ' || c == '\t' || c == '\x0c'

/-- The encoding that a line declares, if it is a comment that does. -/
def declaredName? (line : List Char) : Option String :=
  match line.dropWhile isDeclarationBlank with
  | '#' :: r => findDeclaration? r
  | _ => none

/-- Whether a line has no code: a comment or nothing. -/
def isCodeFree (line : List UInt8) : Bool :=
  match line.dropWhile fun b => b == 0x20 || b == 0x09 || b == 0x0C with
  | [] => true
  | b :: _ => b == 0x23 || b == 0x0D || b == 0x0A

/-- The name of an encoding as it is reported: the two most common ones have one name each. -/
def commonName (name : String) : String :=
  let short := String.ofList ((name.toList.take 12).map fun c => if c = '_' then '-' else c.toLower)
  let is (base : String) : Bool :=
    short = base || (dropLiteral? (base ++ "-").toList short.toList).isSome
  if is "utf-8" then "utf-8"
  else if is "latin-1" || is "iso-8859-1" || is "iso-latin-1" then "iso-8859-1"
  else name

/-- The first line of some bytes and the rest. -/
def firstLine (bytes : List UInt8) : List UInt8 × List UInt8 :=
  let line := bytes.takeWhile (· != 0x0A)
  match bytes.dropWhile (· != 0x0A) with
  | [] => (line, [])
  | b :: r => (line ++ [b], r)

/-- The encoding that a line declares; `marked` says that there is a byte order mark. -/
def lineEncoding (path : String) (marked : Bool) (line : List UInt8) :
    Except EncodingFault (Option Encoding) :=
  match decodeUtf8 line with
  | .error _ => .error (.undeclared path)
  | .ok cs =>
    match declaredName? cs with
    | none => .ok none
    | some name =>
      let name := commonName name
      match Encoding.ofName? name with
      | none => .error (.unknown path name)
      | some e => if marked && name != "utf-8" then .error (.conflict path) else .ok (some e)

/-- The encoding of a file whose byte order mark was dropped. -/
def fileEncoding (path : String) (marked : Bool) (bytes : List UInt8) :
    Except EncodingFault Encoding :=
  let (first, rest) := firstLine bytes
  if first.isEmpty then .ok .utf8
  else
    match lineEncoding path marked first with
    | .error e => .error e
    | .ok (some e) => .ok e
    | .ok none =>
      let (second, _) := firstLine rest
      if !isCodeFree first || second.isEmpty then .ok .utf8
      else
        match lineEncoding path marked second with
        | .error e => .error e
        | .ok (some e) => .ok e
        | .ok none => .ok .utf8

/-- Text with line feeds as its only line ends. -/
def withLineFeeds : List Char → List Char
  | [] => []
  | '\r' :: '\n' :: r => '\n' :: withLineFeeds r
  | '\r' :: r => '\n' :: withLineFeeds r
  | c :: r => c :: withLineFeeds r

/-- The text of a source file. -/
def decodeSource (path : String) (bytes : List UInt8) : Except EncodingFault String :=
  let marked := dropByteOrderMark bytes
  let body := marked.getD bytes
  match fileEncoding path marked.isSome body with
  | .error e => .error e
  | .ok e =>
    match e.decode body with
    | .error fault => .error (.undecodable fault)
    | .ok cs => .ok (String.ofList (withLineFeeds cs))

end ApiDirectives
