import ApiDirectives.Numeral.Binary64

/-!
# Values

Free-form data: what a default, an example or an enumeration may hold, what a configuration file
says, and what a document becomes before it is written.
-/

namespace ApiDirectives

/-- A value of a data format. Objects keep their members in order. -/
inductive Value where
  | null
  | bool (b : Bool)
  | int (n : Int)
  | float (x : Binary64)
  | str (s : String)
  | list (vs : List Value)
  | object (members : List (String × Value))
  deriving Repr, Inhabited, BEq

/-- A bound of a schema: an integer or a number of double precision. -/
inductive Number where
  | int (n : Int)
  | float (x : Binary64)
  deriving Repr, DecidableEq, Inhabited

/-- The value of a number as it is. -/
def Number.value : Number → Value
  | .int n => .int n
  | .float x => .float x

/-- The value of a bound: an integral one is written as an integer. -/
def Number.written : Number → Value
  | .int n => .int n
  | .float x =>
    match x.toInt? with
    | some n => .int n
    | none => .float x

end ApiDirectives
