/-!
# Places in a source

A declaration or a finding is placed by the file's path, relative to the scanned root, and a line
number that starts at one.
-/

namespace ApiDirectives

/-- A line of a file. -/
structure Location where
  file : String
  line : Int
  deriving Repr, DecidableEq, Inhabited

/-- The path and the line with a colon between them. -/
def Location.render (l : Location) : String :=
  l.file ++ ":" ++ toString l.line

end ApiDirectives
