import ApiDirectives.Resolve.TypeExpr

/-!
# Values of types

Defaults, examples and enumerations are written as text and become values of the schema's type. Text
that does not read as its type is kept as text with a warning, so no value is lost.
-/

namespace ApiDirectives

open Text

/-- The first type of a node that is not null; empty if there is none. -/
def Schema.primaryType (s : Schema) : String :=
  (s.type.find? (· != "null")).getD ""

/-- Reads a finite number. It is an integer if it is integral and written without a point and an
exponent. -/
def readFinite (text : String) : Option Number :=
  match Numeral.readNumber text with
  | some x =>
    match x.isFinite, x.toInt? with
    | false, _ => none
    | true, some n =>
      let plain := !text.toList.contains '.' && !(text.toList.map Char.toLower).contains 'e'
      some (if plain then .int n else .float x)
    | true, none => some (.float x)
  | none => none

/-- Reads a truth value, in letters of any case. -/
def readTruth (text : String) : Option Bool :=
  let word := lowerAscii text
  if word = "true" || word = "1" || word = "yes" then some true
  else if word = "false" || word = "0" || word = "no" then some false
  else none

/-- Reads an integer. -/
def readWhole (text : String) : Option Int :=
  (Numeral.readInteger text).toOption

/-- Reads a text as a value of a primitive type; types without a reading have none. -/
def readPrimitive (type text : String) : Option Value :=
  if type = "integer" then (readWhole text).map .int
  else if type = "number" then (readFinite text).map Number.value
  else if type = "boolean" then (readTruth text).map .bool
  else some (.str text)

/-- The pieces of a comma-separated text without blanks at their ends. -/
def commaPieces (text : String) : List String :=
  (piecesOf ',' text.toList).map fun p => String.ofList (trimList p)

/-- The value of a text for a type that is no array. -/
def coercePrimitive (type text what : String) (location : Option Location) : Resolution Value :=
  match readPrimitive type text with
  | some v => pure v
  | none => do
    Resolution.report (.unreadableValue what text type) location
    return .str text

/-- The types of the values that a text is read as: how many array levels, and the type inside. -/
inductive ValueShape where
  | leaf (type : String)
  | array (items : ValueShape)
  deriving Repr, Inhabited

/-- The shape of values of a schema. -/
def Schema.shape : Schema → ValueShape
  | ⟨_, type, _, _, _, _, _, items, _, _, _, _, _, _, _, _, _, _, _⟩ =>
    match (type.find? (· != "null")).getD "", items with
    | "array", some inner => .array inner.shape
    | t, _ => .leaf t

/-- The value of a text for a shape. An array's elements are separated by commas, and blank ones are
left out. -/
def ValueShape.coerce (what : String) (location : Option Location) :
    ValueShape → String → Resolution Value
  | .leaf type, text => coercePrimitive type text what location
  | .array items, text => do
    let vs ← Resolution.each (items.coerce what location) ((commaPieces text).filter (· != ""))
    return .list vs

/-- The value of a text for a schema. -/
def Schema.coerce (s : Schema) (text what : String) (location : Option Location) :
    Resolution Value :=
  s.shape.coerce what location text

end ApiDirectives
