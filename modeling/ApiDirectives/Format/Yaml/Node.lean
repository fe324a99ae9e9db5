import ApiDirectives.Format.Yaml.Token

/-!
# Nodes of a YAML document

Tokens become a tree of scalars, sequences and mappings, each with a tag that says what it stands
for. An alias is replaced by the node it names. Inside a collection its own name stands for an empty
collection of its kind.
-/

namespace ApiDirectives.Yaml

/-- What a node stands for. -/
inductive Tag where
  | null
  | bool
  | int
  | float
  | timestamp
  | str
  | binary
  | seq
  | map
  | set
  | pairs
  | merge
  | value
  | other
  deriving Repr, DecidableEq, Inhabited

/-- What the names of the common tags start with. -/
def commonTags : String := "tag:yaml.org,2002:"

/-- The tag with a full name. An ordered mapping is a list of pairs. -/
def Tag.ofName (name : String) : Tag :=
  match Text.dropLiteral? commonTags.toList name.toList with
  | none => .other
  | some cs =>
    match String.ofList cs with
    | "null" => .null
    | "bool" => .bool
    | "int" => .int
    | "float" => .float
    | "timestamp" => .timestamp
    | "str" => .str
    | "binary" => .binary
    | "seq" => .seq
    | "map" => .map
    | "set" => .set
    | "omap" => .pairs
    | "pairs" => .pairs
    | "merge" => .merge
    | "value" => .value
    | _ => .other

/-- The tag of a plain scalar. -/
def Tag.ofPlain (text : String) : Tag :=
  match plainKind text.toList with
  | .null => .null
  | .bool _ => .bool
  | .int => .int
  | .float => .float
  | .timestamp => .timestamp
  | .merge => .merge
  | .value => .value
  | .str => .str

/-- A node. -/
inductive Node where
  | scalar (tag : Tag) (text : String)
  | sequence (tag : Tag) (items : List Node)
  | mapping (tag : Tag) (entries : List (Node × Node))
  deriving Repr, Inhabited

/-- A node that is not written. -/
def Node.absent : Node := .scalar .null ""

/-- What the handles of tags stand for. -/
abbrev Handles := List (String × String)

/-- The handles that need no directive. -/
def defaultHandles : Handles := [("!", "!"), ("!!", commonTags)]

/-- The tokens ahead, and the nodes that have names. -/
structure Reading where
  tokens : List Token
  names : List (String × Node) := []

/-- Reads a part of a document. -/
abbrev Reader := StateT Reading (Except Fault)

namespace Reader

/-- A text that breaks a rule. -/
def fail {α : Type} (problem : Problem) : Reader α := fun _ => refuse problem

/-- The next token. -/
def peek : Reader Token := return (← get).tokens.headD .streamEnd

/-- Passes over a token. -/
def drop : Reader Unit := modify fun r => { r with tokens := r.tokens.tail }

/-- Whether the next token is one of some. -/
def ahead (options : List Token) : Reader Bool := return options.contains (← peek)

/-- Passes over the next token if it is a given one. -/
def accept (t : Token) : Reader Bool := do
  if (← peek) = t then
    drop
    return true
  else return false

/-- Passes over the comma before an entry of a flow collection, which the first one has not. -/
def separated (first : Bool) : Reader Bool := if first then return true else accept .flowEntry

/-- The node of an alias. -/
def named (name : String) : Reader Node := do
  match (← get).names.lookup name with
  | some n => return n
  | none => fail .unknownAlias

/-- Gives a node a name that no node has yet. -/
def introduce (name : Option String) (n : Node) : Reader Unit := do
  match name with
  | none => return ()
  | some name =>
    if ((← get).names.lookup name).isSome then fail .repeatedAnchor
    else modify fun r => { r with names := (name, n) :: r.names }

/-- Gives a named node its contents. -/
def complete (name : Option String) (n : Node) : Reader Node := do
  match name with
  | none => return n
  | some name =>
    modify fun r => { r with names := (name, n) :: r.names }
    return n

/-- An anchor, if there is one. -/
def anchor? : Reader (Option String) := do
  match ← peek with
  | .anchor name =>
    drop
    return some name
  | _ => return none

/-- The full name of a tag, if there is one. -/
def tag? (handles : Handles) : Reader (Option String) := do
  match ← peek with
  | .tag none suffix =>
    drop
    return some suffix
  | .tag (some handle) suffix =>
    drop
    match handles.lookup handle with
    | some meaning => return some (meaning ++ suffix)
    | none => fail .unknownHandle
  | _ => return none

/-- The anchor and the tag of a node, in either order. -/
def properties (handles : Handles) : Reader (Option String × Option String) := do
  match ← anchor? with
  | some name => return (some name, ← tag? handles)
  | none =>
    match ← tag? handles with
    | some tag => return (← anchor?, some tag)
    | none => return (none, none)

end Reader

/-- The tag of a node: one that says nothing leaves the choice to the form of the node. -/
def tagOr (form : Tag) (given : Option String) : Tag :=
  match given with
  | none | some "!" => form
  | some name => .ofName name

/-- The tag of a scalar: without a tag a plain one is judged by its text, any other is a text. -/
def scalarTag (text : String) (plain : Bool) (given : Option String) : Tag :=
  match given, plain with
  | none, false => .str
  | _, _ => tagOr (.ofPlain text) given

open Reader

mutual

/-- A node. `block` says whether block collections may start here, and `indentless` whether a
sequence may stand at the indentation of its mapping. The first number bounds how many steps the
reader takes. -/
def node (handles : Handles) : Nat → Bool → Bool → Reader Node
  | 0, _, _ => fail .unexpectedToken
  | bound + 1, block, indentless => do
    match ← peek with
    | .alias name =>
      drop
      named name
    | _ =>
      let (name, tag) ← properties handles
      match ← peek with
      | .scalar text plain =>
        drop
        let n := Node.scalar (scalarTag text plain tag) text
        introduce name n
        return n
      | .flowSequenceStart =>
        drop
        introduce name (.sequence (tagOr .seq tag) [])
        complete name (.sequence (tagOr .seq tag) (← flowItems handles bound true))
      | .flowMappingStart =>
        drop
        introduce name (.mapping (tagOr .map tag) [])
        complete name (.mapping (tagOr .map tag) (← flowEntries handles bound true))
      | next =>
        if next = .blockEntry && indentless then
          introduce name (.sequence (tagOr .seq tag) [])
          complete name (.sequence (tagOr .seq tag) (← indentlessItems handles bound))
        else if next = .blockSequenceStart && block then
          drop
          introduce name (.sequence (tagOr .seq tag) [])
          complete name (.sequence (tagOr .seq tag) (← blockItems handles bound))
        else if next = .blockMappingStart && block then
          drop
          introduce name (.mapping (tagOr .map tag) [])
          complete name (.mapping (tagOr .map tag) (← blockEntries handles bound))
        else if name.isSome || tag.isSome then
          let n := Node.scalar (scalarTag "" true tag) ""
          introduce name n
          return n
        else fail .unexpectedToken

/-- A node, or nothing if one of some tokens is next. -/
def nodeUnless (handles : Handles) : Nat → List Token → Bool → Bool → Reader Node
  | 0, _, _, _ => fail .unexpectedToken
  | bound + 1, ends, block, indentless => do
    if ← ahead ends then return .absent
    else node handles bound block indentless

/-- The items of a block sequence. -/
def blockItems (handles : Handles) : Nat → Reader (List Node)
  | 0 => fail .unexpectedToken
  | bound + 1 => do
    if ← accept .blockEntry then
      let item ← nodeUnless handles bound [.blockEntry, .blockEnd] true false
      return item :: (← blockItems handles bound)
    else if ← accept .blockEnd then return []
    else fail .unexpectedToken

/-- The items of a sequence that stands at the indentation of its mapping. -/
def indentlessItems (handles : Handles) : Nat → Reader (List Node)
  | 0 => fail .unexpectedToken
  | bound + 1 => do
    if ← accept .blockEntry then
      let item ← nodeUnless handles bound [.blockEntry, .key, .value, .blockEnd] true false
      return item :: (← indentlessItems handles bound)
    else return []

/-- The entries of a block mapping. -/
def blockEntries (handles : Handles) : Nat → Reader (List (Node × Node))
  | 0 => fail .unexpectedToken
  | bound + 1 => do
    if ← accept .key then
      let key ← nodeUnless handles bound [.key, .value, .blockEnd] true true
      let value ←
        if ← accept .value then nodeUnless handles bound [.key, .value, .blockEnd] true true
        else pure .absent
      return (key, value) :: (← blockEntries handles bound)
    else if ← accept .blockEnd then return []
    else fail .unexpectedToken

/-- The items of a flow sequence; one with a colon is a mapping of one entry. -/
def flowItems (handles : Handles) : Nat → Bool → Reader (List Node)
  | 0, _ => fail .unexpectedToken
  | bound + 1, first => do
    if ← accept .flowSequenceEnd then return []
    else if !(← separated first) then fail .unexpectedToken
    else if ← accept .flowSequenceEnd then return []
    else if ← accept .key then
      let entry ← flowPair handles bound .flowSequenceEnd
      return .mapping .map [entry] :: (← flowItems handles bound false)
    else
      let item ← node handles bound false false
      return item :: (← flowItems handles bound false)

/-- A key and a value in a flow collection that a token closes; the key's indicator was passed. -/
def flowPair (handles : Handles) : Nat → Token → Reader (Node × Node)
  | 0, _ => fail .unexpectedToken
  | bound + 1, close => do
    let key ← nodeUnless handles bound [.value, .flowEntry, close] false false
    let value ←
      if ← accept .value then nodeUnless handles bound [.flowEntry, close] false false
      else pure .absent
    return (key, value)

/-- The entries of a flow mapping; one without a colon has no value. -/
def flowEntries (handles : Handles) : Nat → Bool → Reader (List (Node × Node))
  | 0, _ => fail .unexpectedToken
  | bound + 1, first => do
    if ← accept .flowMappingEnd then return []
    else if !(← separated first) then fail .unexpectedToken
    else if ← accept .flowMappingEnd then return []
    else if ← accept .key then
      let entry ← flowPair handles bound .flowMappingEnd
      return entry :: (← flowEntries handles bound false)
    else
      let key ← node handles bound false false
      return (key, .absent) :: (← flowEntries handles bound false)

end

/-- What directives add to the default handles. -/
structure Prologue where
  versioned : Bool := false
  handles : Handles := []

/-- Reads the directives before a document. -/
def prologue : Prologue → List Token → Except Fault (Handles × List Token)
  | p, .directive d :: r =>
    match d with
    | .other => prologue p r
    | .version major _ =>
      if p.versioned then refuse .repeatedDirective
      else if major != 1 then refuse .unsupportedVersion
      else prologue { p with versioned := true } r
    | .handle name meaning =>
      if (p.handles.lookup name).isSome then refuse .repeatedDirective
      else prologue { p with handles := (name, meaning) :: p.handles } r
  | p, ts => .ok (p.handles ++ defaultHandles, ts)

/-- Whether a token ends a document or starts one. -/
def endsDocument : Token → Bool
  | .directive _ | .documentStart | .documentEnd | .streamEnd => true
  | _ => false

/-- The node of a document, with the tokens after it. -/
def documentNode (handles : Handles) (ts : List Token) : Except Fault (Node × List Token) :=
  ((node handles (4 * ts.length + 4) true false).run { tokens := ts }).map
    fun (n, r) => (n, r.tokens)

/-- The only document of a stream, if there is one. -/
def document? (ts : List Token) : Except Fault (Option Node) := do
  match ts with
  | [] | .streamEnd :: _ => return none
  | first :: _ =>
    let (n, rest) ←
      match first with
      | .directive _ | .documentStart => do
        let (handles, ts) ← prologue {} ts
        match ts with
        | .documentStart :: r =>
          if endsDocument (r.headD .streamEnd) then pure (Node.absent, r) else documentNode handles r
        | _ => refuse .unexpectedToken
      | _ => documentNode defaultHandles ts
    match rest.dropWhile (· == .documentEnd) with
    | [] | .streamEnd :: _ => return some n
    | _ => refuse .secondDocument

end ApiDirectives.Yaml
