import ApiDirectives.Text.Blank

/-!
# Suggestions for a misspelt name

Two names are compared by their longest common stretch, then the stretches before it with each other
and those after it. The likeness is twice the number of characters found this way by the number of
all characters. Names that are alike for three fifths are worth a suggestion.
-/

namespace ApiDirectives

/-- How many characters two lists have in common at their fronts. -/
def commonFront : List Char → List Char → Nat
  | a :: r, b :: s => if a = b then commonFront r s + 1 else 0
  | _, _ => 0

/-- A common stretch: where it is in either list, and its length. -/
structure CommonRun where
  left : Nat
  right : Nat
  length : Nat
  deriving Repr, DecidableEq, Inhabited

/-- The longest common stretch; of several the one that is first on the left, then on the right. -/
def longestRun (a b : List Char) : CommonRun :=
  let starts := (List.range a.length).flatMap fun i => (List.range b.length).map fun j => (i, j)
  starts.foldl (fun best (i, j) =>
    let length := commonFront (a.drop i) (b.drop j)
    if best.length < length then ⟨i, j, length⟩ else best) ⟨0, 0, 0⟩

/-- How many characters two lists share in stretches. The first argument bounds the number of
stretches. -/
def sharedChars : Nat → List Char → List Char → Nat
  | 0, _, _ => 0
  | bound + 1, a, b =>
    let s := longestRun a b
    if s.length = 0 then 0
    else
      sharedChars bound (a.take s.left) (b.take s.right) + s.length
        + sharedChars bound (a.drop (s.left + s.length)) (b.drop (s.right + s.length))

/-- The number of shared characters of two names and the number of all characters. -/
def likeness (a b : String) : Nat × Nat :=
  (sharedChars (a.length + 1) a.toList b.toList, a.length + b.length)

/-- Whether the first of two fractions is the greater one. -/
def isGreater (p q : Nat × Nat) : Bool := q.1 * p.2 < p.1 * q.2

/-- The names that are like a given one, at most three, the likest first. -/
def similarNames (name : String) (names : List String) : List String :=
  let alike := names.filterMap fun n =>
    let (shared, all) := likeness n name
    if 3 * all ≤ 10 * shared then some (n, shared, all) else none
  let before (a b : String × Nat × Nat) : Bool :=
    isGreater a.2 b.2 || (!isGreater b.2 a.2 && decide (b.1 ≤ a.1))
  ((alike.mergeSort before).take 3).map Prod.fst

end ApiDirectives
