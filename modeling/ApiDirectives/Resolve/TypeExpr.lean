import ApiDirectives.Document.Basic
import ApiDirectives.Resolve.Notice

/-!
# Types

A type is written as a name, an array suffix after a type, or names joined by bars. The suffix is
looked at first, so that it applies to all that stands before it. A name is a short form with a
format, a primitive type, or the name of a schema, which is referred to.
-/

namespace ApiDirectives

open Text

/-- A type as written. -/
inductive TypeExpr where
  | name (n : String)
  | array (items : TypeExpr)
  | union (members : List TypeExpr)
  deriving Repr, Inhabited

/-- Dropping blanks makes a text no longer. -/
theorem trimList_length_le (cs : List Char) : (trimList cs).length ≤ cs.length := by
  simp only [trimList, trimOf, dropEnd, List.length_reverse]
  refine Nat.le_trans (List.dropWhile_sublist _).length_le ?_
  rw [List.length_reverse]
  exact (List.dropWhile_sublist _).length_le

namespace TypeExpr

/-- What stands before an array suffix at the end of a text. -/
def withoutSuffix? (cs : List Char) : Option (List Char) :=
  match cs.reverse with
  | ']' :: '[' :: r => some r.reverse
  | _ => none

theorem withoutSuffix?_length {cs r : List Char} (h : withoutSuffix? cs = some r) :
    r.length < cs.length := by
  unfold withoutSuffix? at h
  split at h
  · rename_i t ht
    injection h with h
    have := congrArg List.length ht
    simp only [List.length_reverse, List.length_cons] at this
    subst h
    simp only [List.length_reverse]
    omega
  · cases h

/-- Reads a member of a union: a name with array suffixes. -/
def readMember (cs : List Char) : TypeExpr :=
  match _h : withoutSuffix? (trimList cs) with
  | some r => .array (readMember r)
  | none => .name (String.ofList (trimList cs))
termination_by cs.length
decreasing_by exact Nat.lt_of_lt_of_le (withoutSuffix?_length _h) (trimList_length_le cs)

/-- Reads a type. -/
def read (cs : List Char) : TypeExpr :=
  match _h : withoutSuffix? (trimList cs) with
  | some r => .array (read r)
  | none =>
    if (trimList cs).contains '|' then
      .union (((piecesOf '|' (trimList cs)).filter (!·.isEmpty)).map readMember)
    else .name (String.ofList (trimList cs))
termination_by cs.length
decreasing_by exact Nat.lt_of_lt_of_le (withoutSuffix?_length _h) (trimList_length_le cs)

/-- Reads a type. -/
def ofString (s : String) : TypeExpr := read s.toList

end TypeExpr

/-! ## Names -/

/-- The primitive types. -/
def primitiveTypes : List String :=
  ["string", "integer", "number", "boolean", "object", "null", "array"]

/-- Short names of types, with the type and the format that they stand for. -/
def shortTypes : List (String × String × String) :=
  [("int", "integer", ""), ("int32", "integer", "int32"), ("int64", "integer", "int64"),
    ("long", "integer", "int64"), ("float", "number", "float"), ("double", "number", "double"),
    ("bool", "boolean", ""), ("str", "string", ""), ("date", "string", "date"),
    ("date-time", "string", "date-time"), ("datetime", "string", "date-time"),
    ("uuid", "string", "uuid"), ("email", "string", "email"), ("uri", "string", "uri"),
    ("binary", "string", "binary"), ("byte", "string", "byte"),
    ("password", "string", "password")]

/-- The schema of a name that stands for no other schema. -/
def builtinSchema? (name : String) : Option Schema :=
  match shortTypes.lookup name with
  | some (type, format) => some { type := [type], format }
  | none => if primitiveTypes.contains name then some { type := [name] } else none

/-! ## Schemas -/

/-- A node with one type that is no array. -/
def Schema.isPlainPrimitive (s : Schema) : Bool :=
  match s.type with
  | [t] => t != "array" && s.ref == ""
  | _ => false

/-- The members of a list without repetitions, in order of first appearance. -/
def distinct (xs : List String) : List String :=
  xs.foldl (fun seen x => if seen.contains x then seen else seen ++ [x]) []

/-- The format that the members agree on, those without one apart. -/
def commonFormat (members : List Schema) : String :=
  match distinct ((members.map (·.format)).filter (· != "")) with
  | [f] => f
  | _ => ""

/-- The union of primitive types. Before sets of types, one type and null are a nullable type. -/
def primitiveUnion (typeSets : Bool) (members : List Schema) : Schema :=
  let types := distinct (members.flatMap (·.type))
  let format := commonFormat members
  if !typeSets && types.contains "null" && types.length == 2 then
    { type := types.filter (· != "null"), format, nullable := true }
  else { type := types, format }

/-- The union of schemas: a set of types if all are primitive, else alternatives. -/
def unionSchema (d : Dialect) (members : List Schema) : Resolution Schema := do
  if members.all Schema.isPlainPrimitive then
    let typeSets ← Resolution.typeSets d
    return primitiveUnion typeSets members
  else
    return { oneOf := members }

mutual

/-- The schema of a type. -/
def TypeExpr.schema (d : Dialect) (location : Option Location) : TypeExpr → Resolution Schema
  | .name n =>
    match builtinSchema? n with
    | some s => pure s
    | none => do
      Resolution.notice (.reference n location)
      return Schema.reference n
  | .array items => do
    let s ← items.schema d location
    return Schema.arrayOf s
  | .union members => do
    let ss ← TypeExpr.schemas d location members
    unionSchema d ss

/-- The schemas of types, in order. -/
def TypeExpr.schemas (d : Dialect) (location : Option Location) :
    List TypeExpr → Resolution (List Schema)
  | [] => pure []
  | t :: r => do
    let s ← t.schema d location
    let ss ← TypeExpr.schemas d location r
    return s :: ss

end

/-- The schema of a written type. -/
def resolveType (d : Dialect) (token : String) (location : Option Location) : Resolution Schema :=
  (TypeExpr.ofString token).schema d location

end ApiDirectives
