import ApiDirectives.Source.Grammar.Case
import ApiDirectives.Source.Grammar.Expression
import ApiDirectives.Source.Grammar.Slip
import ApiDirectives.Source.Grammar.Statement

/-!
# The Python grammar

All productions together.
-/

namespace ApiDirectives.Source

/-- The production of a rule. -/
def Rule.production : Rule → Production
  | .statement r => r.production
  | .expression r => r.production
  | .case r => r.production
  | .slip r => r.production

end ApiDirectives.Source
