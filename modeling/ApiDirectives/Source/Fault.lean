/-!
# Faults of a source

Why nothing can be taken from a source. Only an invalid source is a finding about that source; the
other faults stop whatever reads it.
-/

namespace ApiDirectives.Source

/-- Why a source cannot be read. -/
inductive SourceFault where
  /-- It is no valid module; the line of the mistake. -/
  | invalid (line : Nat)
  /-- It has a null character. -/
  | nullCharacter
  /-- The scan for comments ended in a string that starts here. -/
  | openString (line column : Nat)
  /-- The scan for comments ended in a statement; the line after the last. -/
  | openStatement (line : Nat)
  deriving Repr, DecidableEq, Inhabited

/-- The wording of a fault. -/
def SourceFault.message : SourceFault → String
  | .invalid _ => "cannot parse source"
  | .nullCharacter => "source code string cannot contain null bytes"
  | .openString line column =>
    "('EOF in multi-line string', (" ++ toString line ++ ", " ++ toString column ++ "))"
  | .openStatement line => "('EOF in multi-line statement', (" ++ toString line ++ ", 0))"

end ApiDirectives.Source
