import ApiDirectives.Diagnostic
import ApiDirectives.Resolve.Dialect

/-!
# Notices

Resolving a draft is a function of the draft and the dialect; what it has to say on the way is
collected as notices. A reference to a schema is a notice whether the schema is declared or not, and
only `settle` decides, knowing the declared names, which references become diagnostics: the first
one to each undeclared name. So what was reported before can change later diagnostics and nothing
else.
-/

namespace ApiDirectives

/-- Something noticed while a draft is resolved. -/
inductive Notice where
  | reference (name : String) (location : Option Location)
  | finding (diagnostic : Diagnostic)
  deriving Repr, DecidableEq

/-- Turns notices into diagnostics, given the declared names and the names reported before; also
gives the names reported by then. -/
def settle (declared : List String) (reported : List String) :
    List Notice → List Diagnostic × List String
  | [] => ([], reported)
  | .finding d :: r =>
    let (ds, reported) := settle declared reported r
    (d :: ds, reported)
  | .reference name location :: r =>
    if declared.contains name || reported.contains name then settle declared reported r
    else
      let (ds, reported) := settle declared (name :: reported) r
      (⟨.undeclaredSchema name, location⟩ :: ds, reported)

/-- A computation that notices things and needs a readable version. -/
def Resolution (α : Type) := Except VersionFault (α × List Notice)

namespace Resolution

/-- Notices nothing. -/
def pure {α : Type} (a : α) : Resolution α := .ok (a, [])

/-- Continues with a result and keeps the notices of both computations in order. -/
def bind {α β : Type} (x : Resolution α) (f : α → Resolution β) : Resolution β :=
  match x with
  | .error e => .error e
  | .ok (a, before) =>
    match f a with
    | .error e => .error e
    | .ok (b, later) => .ok (b, before ++ later)

instance : Monad Resolution where
  pure := pure
  bind := bind

/-- Notices one thing. -/
def notice (n : Notice) : Resolution Unit := .ok ((), [n])

/-- Notices a finding. -/
def report (cause : Cause) (location : Option Location) : Resolution Unit :=
  notice (.finding ⟨cause, location⟩)

/-- Asks for the dialect. -/
def typeSets (d : Dialect) : Resolution Bool :=
  d.map fun b => (b, [])

/-- Computes for each member of a list, in order. -/
def each {α β : Type} (f : α → Resolution β) : List α → Resolution (List β)
  | [] => pure []
  | a :: r => do
    let b ← f a
    let bs ← each f r
    return b :: bs

end Resolution

end ApiDirectives
