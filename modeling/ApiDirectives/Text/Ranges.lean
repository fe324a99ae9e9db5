/-!
# Tables of code points

A property of characters is kept as the sorted array of its maximal runs of code points.
-/

namespace ApiDirectives.Text

/-- Runs of code points, each given by its first and last member. -/
abbrev Ranges := Array (Nat × Nat)

/-- Whether a character lies in one of the runs. -/
def Ranges.has (t : Ranges) (c : Char) : Bool :=
  t.any fun r => r.1 ≤ c.toNat && c.toNat ≤ r.2

end ApiDirectives.Text
