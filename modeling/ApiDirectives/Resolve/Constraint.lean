import ApiDirectives.Draft.Basic
import ApiDirectives.Resolve.Coercion

/-!
# Constraints

Constraints and descriptions are put beside a schema's own members. Before version 3.1 the siblings
of a reference are ignored by readers, so there the reference is wrapped first. Empty texts and empty
lists are no constraints.
-/

namespace ApiDirectives

open Text

/-- Members to be put beside those of a schema. Absent and empty ones change nothing. -/
structure Siblings where
  description : String := ""
  format : String := ""
  pattern : String := ""
  nullable : Bool := false
  enum : List Value := []
  minimum : Option Number := none
  maximum : Option Number := none
  minLength : Option Int := none
  maxLength : Option Int := none
  defaultValue : Value := .null
  exampleValue : Value := .null
  deriving Inhabited

/-- Values that count as absent: nothing, the empty text and the empty list. -/
def Value.isVoid : Value → Bool
  | .null => true
  | .str s => s == ""
  | .list [] => true
  | _ => false

/-- Whether there is nothing to put. -/
def Siblings.isEmpty (u : Siblings) : Bool :=
  u.description == "" && u.format == "" && u.pattern == "" && !u.nullable && u.enum.isEmpty
    && u.minimum.isNone && u.maximum.isNone && u.minLength.isNone && u.maxLength.isNone
    && u.defaultValue.isVoid && u.exampleValue.isVoid

/-- The new text, or the old one if there is no new one. -/
def orText (new old : String) : String := if new = "" then old else new

/-- The new value, or the old one if there is no new one. -/
def orValue (new old : Value) : Value := if new.isVoid then old else new

/-- Puts siblings over the members of a node. -/
def Schema.overlay (s : Schema) (u : Siblings) : Schema :=
  { s with
    description := orText u.description s.description
    format := orText u.format s.format
    pattern := orText u.pattern s.pattern
    nullable := s.nullable || u.nullable
    enum := if u.enum.isEmpty then s.enum else u.enum
    minimum := u.minimum <|> s.minimum
    maximum := u.maximum <|> s.maximum
    minLength := u.minLength <|> s.minLength
    maxLength := u.maxLength <|> s.maxLength
    defaultValue := orValue u.defaultValue s.defaultValue
    exampleValue := orValue u.exampleValue s.exampleValue }

/-- Puts siblings beside a node; a reference is wrapped where its siblings would be ignored. -/
def Schema.withSiblings (d : Dialect) (s : Schema) (u : Siblings) : Resolution Schema := do
  if u.isEmpty then return s
  else if s.ref == "" then return s.overlay u
  else
    let typeSets ← Resolution.typeSets d
    return if typeSets then s.overlay u else Schema.overlay { allOf := [s] } u

/-- Makes a node admit null. -/
def Schema.makeNullable (d : Dialect) (s : Schema) : Resolution Schema := do
  let typeSets ← Resolution.typeSets d
  if !typeSets then s.withSiblings d { nullable := true }
  else if s.type.isEmpty then return { oneOf := [s, { type := ["null"] }] }
  else if s.type.contains "null" then return s
  else return { s with type := s.type ++ ["null"] }

/-- The value of a constraint, if it is given. -/
def constraint? (constraints : List (Constraint × String)) (c : Constraint) : Option String :=
  constraints.lookup c

/-- The value of a default or an example, or nothing. -/
def givenValue (s : Schema) (constraints : List (Constraint × String)) (c : Constraint)
    (location : Option Location) : Resolution Value :=
  match constraint? constraints c with
  | some text => s.coerce text c.key location
  | none => pure .null

/-- The values of an enumeration. -/
def enumValues (s : Schema) (constraints : List (Constraint × String))
    (location : Option Location) : Resolution (List Value) :=
  match constraint? constraints .enum with
  | some text => Resolution.each (fun t => s.coerce t "enum" location) (commaPieces text)
  | none => pure []

/-- A bound: a length for texts, a number for other types. -/
structure Bound where
  length : Option Int := none
  number : Option Number := none

/-- The bound that a constraint gives for a type. -/
def bound (type : String) (constraints : List (Constraint × String)) (c : Constraint)
    (location : Option Location) : Resolution Bound :=
  match constraint? constraints c with
  | none => pure {}
  | some text =>
    let read : Option Bound :=
      if type = "string" then (readWhole text).map fun n => { length := some n }
      else (readFinite text).map fun x => { number := some x }
    match read with
    | some b => pure b
    | none => do
      Resolution.report (.unreadableBound c.key text) location
      return {}

/-- The length that a constraint gives. -/
def length (constraints : List (Constraint × String)) (c : Constraint)
    (location : Option Location) : Resolution (Option Int) :=
  match constraint? constraints c with
  | none => pure none
  | some text =>
    match readWhole text with
    | some n => pure (some n)
    | none => do
      Resolution.report (.unreadableLength c.key text) location
      return none

/-- The siblings that constraints and a description give for a schema. -/
def siblings (s : Schema) (constraints : List (Constraint × String)) (location : Option Location)
    (description : String) : Resolution Siblings := do
  let defaultValue ← givenValue s constraints .default location
  let exampleValue ← givenValue s constraints .sample location
  let enum ← enumValues s constraints location
  let lower ← bound s.primaryType constraints .min location
  let upper ← bound s.primaryType constraints .max location
  let minLength ← length constraints .minLength location
  let maxLength ← length constraints .maxLength location
  return {
    description
    format := (constraint? constraints .format).getD ""
    pattern := (constraint? constraints .pattern).getD ""
    enum
    minimum := lower.number
    maximum := upper.number
    minLength := minLength <|> lower.length
    maxLength := maxLength <|> upper.length
    defaultValue
    exampleValue }

/-- Applies constraints and a description to a schema. -/
def Schema.constrain (d : Dialect) (s : Schema) (constraints : List (Constraint × String))
    (location : Option Location) (description : String) : Resolution Schema := do
  let u ← siblings s constraints location description
  s.withSiblings d u

/-- The schema of a field. -/
def FieldDraft.resolve (d : Dialect) (f : FieldDraft) : Resolution Schema := do
  let s ← resolveType d f.type (some f.location)
  let s ← s.constrain d f.constraints (some f.location) f.description
  if f.nullable then s.makeNullable d else return s

end ApiDirectives
