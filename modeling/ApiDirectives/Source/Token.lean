/-!
# Tokens of a Python source

A source is cut into tokens before it is parsed. A token knows its line and how many brackets are
open after it, since both decide how a mistake is reported. Cutting stops at the first thing that is
no token; what is wrong there is kept beside the tokens, because a parser that never gets that far
may have found another mistake first.
-/

namespace ApiDirectives.Source

/-- What a token is. Keywords are no names. -/
inductive TokenKind where
  | name
  | keyword
  | sign
  | number
  | string
  | newline
  | indent
  | dedent
  | endMarker
  deriving Repr, DecidableEq, Inhabited

/-- Where a literal that cannot be read is reported: at the last token looked at, or at a line. -/
inductive Flaw where
  | here
  | at (line : Nat)
  deriving Repr, DecidableEq, Inhabited

/-- A token. -/
structure Token where
  kind : TokenKind
  text : String
  /-- The line it starts at. -/
  line : Nat
  /-- The number of brackets that are open after it. -/
  depth : Nat := 0
  /-- What is wrong with the literal that starts here. -/
  flaw : Option Flaw := none
  deriving Repr, DecidableEq, Inhabited

/-- Why there are no more tokens. -/
structure TokenFault where
  /-- The line that a parser reports when it gets there. -/
  line : Nat
  /-- Whether the characters themselves are at fault; then it is reported before any other
  mistake of the source. -/
  lexical : Bool
  /-- The line of the innermost open bracket. -/
  openLine : Option Nat
  deriving Repr, DecidableEq, Inhabited

/-- The tokens of a source, and what ended them if it was not the end of the source. -/
structure Tokens where
  items : Array Token
  fault : Option TokenFault := none
  deriving Repr, Inhabited

/-- The keywords of the language. -/
def keywords : List String :=
  ["False", "None", "True", "and", "as", "assert", "async", "await", "break", "class", "continue",
    "def", "del", "elif", "else", "except", "finally", "for", "from", "global", "if", "import", "in",
    "is", "lambda", "nonlocal", "not", "or", "pass", "raise", "return", "try", "while", "with",
    "yield"]

end ApiDirectives.Source
