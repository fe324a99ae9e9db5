import ApiDirectives.Directive.Basic
import ApiDirectives.Text.Blank
import ApiDirectives.Text.Digit
import ApiDirectives.Text.Word

/-!
# Reading directives

A line is read from left to right and never backwards: each member is a longest run of a class of
characters, a quoted text, or a fixed word, and what follows the last member is free text in which
constraints, tags and the word for "required" are looked for. A line whose keyword is unknown or
whose members do not fit is prose and yields nothing.

The type of a parameter or field is the longest run of type characters, and the whole run has to be
in the type grammar: names joined by bars, each with any number of array suffixes. So no part of a
run is taken for the type. What ends the run is not looked at.
-/

namespace ApiDirectives

open Text

namespace Line

/-! ## Members -/

/-- One or more blanks. -/
def blanks? : List Char → Option (List Char)
  | [] => none
  | c :: r => if isBlank c then some (r.dropWhile isBlank) else none

/-- One or more characters of a class, the longest such run. -/
def run? (p : Char → Bool) (cs : List Char) : Option (List Char × List Char) :=
  let taken := cs.takeWhile p
  if taken.isEmpty then none else some (taken, cs.dropWhile p)

/-- A text up to a closing mark. -/
def upTo? (close : Char) (cs : List Char) : Option (List Char × List Char) :=
  match cs.dropWhile (· != close) with
  | [] => none
  | _ :: r => some (cs.takeWhile (· != close), r)

/-- A text between an opening and a closing mark. -/
def between? (opening close : Char) : List Char → Option (List Char × List Char)
  | [] => none
  | c :: r => if c = opening then upTo? close r else none

/-- A text between double quotes. -/
def quoted? : List Char → Option (List Char × List Char) :=
  between? '"' '"'

/-- A reader that yields nothing when its input does not fit, and then reads nothing. -/
def optional (read : List Char → Option (List Char × List Char)) (cs : List Char) :
    List Char × List Char :=
  (read cs).getD ([], cs)

/-- Blanks followed by a quoted text, or nothing. -/
def note (cs : List Char) : List Char × List Char :=
  optional (fun cs => blanks? cs >>= quoted?) cs

/-- Anything but blanks. -/
def isSolid (c : Char) : Bool := !isBlank c

/-- Anything but blanks and double quotes. -/
def isBare (c : Char) : Bool := !isBlank c && c != '"'

/-- Blanks, then one or more solid characters. -/
def solid? (cs : List Char) : Option (List Char × List Char) :=
  blanks? cs >>= run? isSolid

/-- Blanks, then one or more bare characters. -/
def bare? (cs : List Char) : Option (List Char × List Char) :=
  blanks? cs >>= run? isBare

/-- Blanks, then one or more word characters. -/
def word? (cs : List Char) : Option (List Char × List Char) :=
  blanks? cs >>= run? isWord

/-- The characters of a version after its first digit. -/
def isVersionChar (c : Char) : Bool :=
  isWord c || c == '.' || c == '+' || c == '-'

/-- Blanks, an optional letter `v`, then a digit and version characters. -/
def version? (cs : List Char) : Option (List Char × List Char) :=
  match blanks? cs with
  | none => none
  | some r =>
    let r := match r with
      | 'v' :: t => t
      | t => t
    match r with
    | [] => none
    | c :: t =>
      if isDecimal c then some (c :: t.takeWhile isVersionChar, t.dropWhile isVersionChar) else none

/-- Blanks, then exactly three digits, whatever follows them. -/
def status? (cs : List Char) : Option (List Char × List Char) :=
  match blanks? cs with
  | some (a :: b :: c :: r) =>
    if isDecimal a && isDecimal b && isDecimal c then some ([a, b, c], r) else none
  | _ => none

/-- The characters of a scope name. -/
def isScopeChar (c : Char) : Bool :=
  isWord c || c == ':' || c == '.' || c == '/' || c == '-'

/-- The first of several words that stands at the front. -/
def oneOf? {α : Type} (name : α → String) (options : List α) (cs : List Char) :
    Option (α × List Char) :=
  options.findSome? fun a => (dropLiteral? (name a).toList cs).map fun r => (a, r)

/-! ## Types -/

/-- The characters of a type. -/
def isTypeChar (c : Char) : Bool :=
  isNameChar c || c == '[' || c == ']' || c == '|'

/-- Array suffixes, any number of them. -/
def areSuffixes : List Char → Bool
  | [] => true
  | '[' :: ']' :: r => areSuffixes r
  | _ => false

/-- A name of the type grammar: a word character, more name characters, then array suffixes. -/
def isTypeName : List Char → Bool
  | [] => false
  | c :: r => isWord c && areSuffixes (r.dropWhile isNameChar)

/-- The type grammar: names joined by bars. -/
def isType (cs : List Char) : Bool :=
  (piecesOf '|' cs).all isTypeName

/-- A type: the longest run of type characters, if it is in the grammar. -/
def type? (cs : List Char) : Option (List Char × List Char) :=
  let taken := cs.takeWhile isTypeChar
  if isType taken then some (taken, cs.dropWhile isTypeChar) else none

/-! ## Free text after the members -/

/-- A value after an equals sign: a quoted text with its quotes, or solid characters. -/
def value? (cs : List Char) : Option (List Char) :=
  match quoted? cs with
  | some (t, _) => some ('"' :: t ++ ['"'])
  | none => (run? isSolid cs).map (·.1)

/-- The value of `key=value` at the front of a text. -/
def valueAt? (key cs : List Char) : Option (List Char) :=
  dropLiteral? (key ++ ['=']) cs >>= value?

/-- The value of the first `key=value` that follows a blank. -/
def valueAfterBlank? (key : List Char) : List Char → Option (List Char)
  | [] => none
  | c :: r =>
    match if isBlank c then valueAt? key r else none with
    | some v => some v
    | none => valueAfterBlank? key r

/-- Either kind of quote. -/
def isQuote (c : Char) : Bool := c == '"' || c == '\''

/-- Looks for `key=value` at the front of a text or after a blank, and gives the value without the
quotes at its ends. -/
def scanKey (key cs : List Char) : Option (List Char) :=
  let found := match valueAt? key cs with
    | some v => some v
    | none => valueAfterBlank? key cs
  found.map (trimOf isQuote)

/-- The constraints that a free text gives, in their fixed order. -/
def constraints (cs : List Char) : List (Constraint × String) :=
  Constraint.all.filterMap fun c => (scanKey c.key.toList cs).map fun v => (c, String.ofList v)

/-- The tags of a free text: after each number sign, the longest run of name characters. -/
def hashtags : List Char → List String
  | [] => []
  | c :: r =>
    if c = '#' && !(r.takeWhile isNameChar).isEmpty then
      String.ofList (r.takeWhile isNameChar) :: hashtags r
    else hashtags r

/-- Whether the text after the keyword has the word for "required" after a space. -/
def isRequired (tail : List Char) : Bool :=
  occurs " required".toList tail

/-! ## Grammars -/

/-- Text of a run of characters. -/
abbrev str (cs : List Char) : String := String.ofList cs

/-- `!api version` -/
def api? (tail : List Char) : Option Directive := do
  let (version, _) ← version? tail
  return .api (str version)

/-- A quoted text that is not empty. -/
def quotedSome? (cs : List Char) : Option (List Char × List Char) :=
  match quoted? cs with
  | some (t, r) => if t.isEmpty then none else some (t, r)
  | none => none

/-- `!info "title" version "description"` -/
def info? (tail : List Char) : Option Directive := do
  let (title, r) ← blanks? tail >>= quotedSome?
  let (version, r) ← version? r
  let (description, _) := note r
  return .info (str title) (str version) (str description)

/-- Blanks and a text between marks that is not empty, or nothing. -/
def marked (opening close : Char) (cs : List Char) : List Char × List Char :=
  optional (fun cs =>
    match blanks? cs >>= between? opening close with
    | some (t, r) => if t.isEmpty then none else some (t, r)
    | none => none) cs

/-- `!contact "name" <email> (url)` -/
def contact? (tail : List Char) : Option Directive := do
  let (name, r) ← blanks? tail >>= quoted?
  let (email, r) := marked '<' '>' r
  let (url, _) := marked '(' ')' r
  return .contact (str name) (str email) (str url)

/-- `!license name url` -/
def license? (tail : List Char) : Option Directive := do
  let (name, r) ← solid? tail
  let (url, _) := optional solid? r
  return .license (str name) (str url)

/-- A solid text and a note. -/
def solidNote? (tail : List Char) : Option (String × String) := do
  let (subject, r) ← solid? tail
  let (text, _) := note r
  return (str subject, str text)

/-- `!tos url` -/
def tos? (tail : List Char) : Option Directive := do
  let (url, _) ← solid? tail
  return .tos (str url)

/-- A word followed by a colon. -/
def wordColon? (tail : List Char) : Option (List Char × List Char) := do
  let (name, r) ← word? tail
  let r ← dropLiteral? [':'] r
  return (name, r)

/-- A colon and word characters, or nothing. -/
def colonWord : List Char → List Char × List Char
  | ':' :: r => (r.takeWhile isWord, r.dropWhile isWord)
  | r => ([], r)

/-- `!security name:type:place "description" url` -/
def security? (tail : List Char) : Option Directive := do
  let (name, r) ← wordColon? tail
  let (type, r) ← oneOf? SchemeType.name SchemeType.all r
  let (place, r) := colonWord r
  let (description, r) := note r
  let (url, _) := optional solid? r
  return .security (str name) type (str place) (str description) (str url)

/-- `!scope scheme name "description"` -/
def scope? (tail : List Char) : Option Directive := do
  let (scheme, r) ← word? tail
  let (name, r) ← blanks? r >>= run? isScopeChar
  let (description, _) := note r
  return .scope (str scheme) (str name) (str description)

/-- `!link "label" url` -/
def link? (tail : List Char) : Option Directive := do
  let (label, r) ← blanks? tail >>= quotedSome?
  let (url, _) ← solid? r
  return .link (str label) (str url)

/-- The methods that a webhook may have. -/
def webhookMethods : List Method := [.get, .post, .put, .delete, .patch]

/-- `!webhook name:method "description"` -/
def webhook? (tail : List Char) : Option Directive := do
  let (name, r) ← wordColon? tail
  let (method, r) ← oneOf? Method.lower webhookMethods r
  let (description, _) := note r
  return .webhook (str name) method (str description)

/-- `schema "description" required` -/
def payload? (tail : List Char) : Option Payload := do
  let (schema, r) ← bare? tail
  let (description, _) := note r
  return ⟨str schema, str description, isRequired tail⟩

/-- `!webhook-response status schema "description"` -/
def webhookResponse? (tail : List Char) : Option Directive := do
  let (status, r) ← status? tail
  let (schema, r) ← bare? r
  let (description, _) := note r
  return .webhookResponse ⟨str status, str schema, str description⟩

/-- `!METHOD path -> operationId "summary" #tag …` -/
def route? (method : Method) (tail : List Char) : Option Directive := do
  let (path, r) ← solid? tail
  let r ← blanks? r >>= dropLiteral? ['-', '>']
  let (operationId, r) ← solid? r
  let (summary, r) := note r
  return .route method (str path) (str operationId) (str summary) (hashtags r)

/-- A question mark, or nothing. -/
def questionMark : List Char → Bool × List Char
  | '?' :: r => (true, r)
  | r => (false, r)

/-- `name:type? "description" required key=value …` -/
def slot? (tail : List Char) : Option Slot := do
  let (name, r) ← blanks? tail >>= run? isNameChar
  let r ← dropLiteral? [':'] r
  let (type, r) ← type? r
  let (nullable, r) := questionMark r
  let (description, r) := note r
  return ⟨str name, str type, str description, isRequired tail, nullable, constraints r⟩

/-- `status schema "description"`, each part optional. -/
def reply (defaultStatus : String) (tail : List Char) : Reply :=
  let (status, r) := optional status? tail
  let (schema, r) := optional bare? r
  let (description, _) := note r
  ⟨if status.isEmpty then defaultStatus else str status, str schema, str description⟩

/-- `!secure name …`: the words up to the end of the line. -/
def secure? (tail : List Char) : Option Directive := do
  let r ← blanks? tail
  let rest := r.takeWhile (· != '\n')
  if rest.isEmpty then none else return .secure ((wordsOf rest).map str)

/-- `!model "description" extends=parents` -/
def model (tail : List Char) : Directive :=
  let (description, r) := note tail
  .model (str description) ((scanKey "extends".toList r).map str)

/-- The grammar of a keyword, applied to what follows it. -/
def directive? (keyword : String) (tail : List Char) : Option Directive :=
  match keyword with
  | "api" => api? tail
  | "info" => info? tail
  | "contact" => contact? tail
  | "license" => license? tail
  | "server" => (solidNote? tail).map fun (url, description) => .server url description
  | "tag" => (solidNote? tail).map fun (name, description) => .tag name description
  | "tos" => tos? tail
  | "security" => security? tail
  | "scope" => scope? tail
  | "externalDocs" =>
    (solidNote? tail).map fun (url, description) => .externalDocs url description
  | "link" => link? tail
  | "body" => (payload? tail).map .body
  | "ok" => some (.ok (reply "200" tail))
  | "error" => some (.error (reply "500" tail))
  | "secure" => secure? tail
  | "webhook" => webhook? tail
  | "webhook-body" => (payload? tail).map .webhookBody
  | "webhook-response" => webhookResponse? tail
  | "model" => some (model tail)
  | "field" => (slot? tail).map .field
  | other =>
    match Method.ofUpper? other, Place.ofName? other with
    | some method, _ => route? method tail
    | none, some place => (slot? tail).map (.parameter place)
    | none, none => none

/-- The keyword of a line and what follows it. -/
def keyword? : List Char → Option (String × List Char)
  | '!' :: c :: r =>
    if c.isAlpha then some (str (c :: r.takeWhile isNameChar), r.dropWhile isNameChar) else none
  | _ => none

/-- Reads a line whose ends have no blanks. -/
def remark? (cs : List Char) : Option Remark := do
  let (keyword, tail) ← keyword? cs
  let d ← directive? keyword tail
  return ⟨str cs, d⟩

end Line

/-- Reads one line; prose and malformed directives yield nothing. -/
def Remark.ofLine? (line : String) : Option Remark :=
  Line.remark? (trimList line.toList)

/-- The directives of a text, one line at a time. -/
def Remark.ofText (text : String) : List Remark :=
  (lines text).filterMap Remark.ofLine?

/-- The directives of a text whose characters are known are those of the lines of the characters. -/
theorem Remark.ofText_ofList (cs : List Char) :
    Remark.ofText (String.ofList cs) =
      (linesOf cs).filterMap fun line => Line.remark? (trimList line) := by
  have hline : Remark.ofLine? ∘ String.ofList = fun line => Line.remark? (trimList line) := by
    funext line
    rw [Function.comp_apply, Remark.ofLine?, String.toList_ofList]
  rw [Remark.ofText, lines, String.toList_ofList, List.filterMap_map, hline]

/-- Finds `key=value` or `key="quoted value"` in a text and gives the bare value. -/
def scanKeyword (text key : String) : Option String :=
  (Line.scanKey key.toList text.toList).map String.ofList

end ApiDirectives
