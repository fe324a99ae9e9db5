import ApiDirectives.Source.Grammar.Rule
import ApiDirectives.Source.Token

/-!
# Patterns

What a production is made of: tokens, rules, sequences, ordered choices, repetitions and looks
ahead. The first alternative that matches is taken and never reconsidered. Patterns are data, so that
the grammar can be read, and one function runs them all.
-/

namespace ApiDirectives.Source

/-- What an expression is the target of. -/
inductive TargetUse where
  | assigned
  | iterated
  | deleted
  deriving Repr, DecidableEq, Inhabited

/-- What to do at the end of a mistake's shape. -/
inductive Slip where
  /-- Report the last token looked at. -/
  | here
  /-- Report the marked part. -/
  | atSpot
  /-- Report the first token of the marked part. -/
  | atStart
  /-- Report the first part of the marked expression that cannot be a target, if there is one. -/
  | badTarget (use : TargetUse)
  /-- Report the marked part, if it stands between brackets. -/
  | missingComma
  /-- Report the marked name, if it is that of a former statement. -/
  | statementCall
  /-- Report the last of the marked arguments, if there are several. -/
  | bareGenerator
  /-- Go on if the marked number is real, else report it. -/
  | wantReal
  /-- Go on if the marked number is imaginary, else report it. -/
  | wantImaginary
  deriving Repr, DecidableEq, Inhabited

/-- What a run of tokens has to look like. -/
inductive Pattern where
  /-- A token of a kind. -/
  | kind (k : TokenKind)
  /-- A keyword or a sign. -/
  | text (s : String)
  /-- A name that is a keyword in some places only. -/
  | soft (s : String)
  /-- Any such name. -/
  | softWord
  /-- String literals side by side. -/
  | literals
  /-- What a rule matches. -/
  | rule (r : Rule)
  /-- The first of some sequences that matches. -/
  | choice (alternatives : List (List Pattern))
  /-- Something or nothing. -/
  | opt (p : Pattern)
  /-- Any number of times. -/
  | many (p : Pattern)
  /-- At least once. -/
  | many1 (p : Pattern)
  /-- At least once, with a sign between. -/
  | separated (s : String) (p : Pattern)
  /-- If it matches here; nothing is taken. -/
  | ahead (p : Pattern)
  /-- If it does not match here; nothing is taken. -/
  | notAhead (p : Pattern)
  /-- Rules out the later alternatives of the choice. -/
  | cut
  /-- A sign that must stand here. -/
  | forced (s : String)
  /-- Marks a part for a report. -/
  | spot (p : Pattern)
  /-- Ends the shape of a mistake. -/
  | slip (s : Slip)
  /-- Matches while mistakes are looked for, and takes nothing. -/
  | diagnosing
  deriving Inhabited

namespace Pattern

/-- A name. -/
def name : Pattern := .kind .name

/-- A number. -/
def number : Pattern := .kind .number

/-- A string literal. -/
def string : Pattern := .kind .string

/-- The end of a logical line. -/
def newline : Pattern := .kind .newline

/-- The start of a block. -/
def indent : Pattern := .kind .indent

/-- The end of a block. -/
def dedent : Pattern := .kind .dedent

/-- The end of the source. -/
def endMarker : Pattern := .kind .endMarker

/-- A sequence. -/
def run (items : List Pattern) : Pattern := .choice [items]

/-- The first pattern that matches. -/
def oneOf (ps : List Pattern) : Pattern := .choice (ps.map ([·]))

end Pattern

instance : Coe String Pattern := ⟨.text⟩
instance : Coe StatementRule Pattern := ⟨fun r => .rule (.statement r)⟩
instance : Coe ExpressionRule Pattern := ⟨fun r => .rule (.expression r)⟩
instance : Coe CaseRule Pattern := ⟨fun r => .rule (.case r)⟩
instance : Coe SlipRule Pattern := ⟨fun r => .rule (.slip r)⟩

/-- How a rule matches. -/
inductive Production where
  /-- By the first alternative that matches; `kept` says whether results are kept for each
  position. -/
  | alternatives (kept : Bool) (items : List (List Pattern))
  /-- As alternatives, without looking for mistakes inside. -/
  | quietly (items : List (List Pattern))
  /-- By a first part and then as many of some steps as match; results are kept. -/
  | growing (base : List Pattern) (steps : List (List Pattern))
  deriving Inhabited

namespace Pattern

/-- Alternatives. -/
def plain (items : List (List Pattern)) : Production := .alternatives false items

/-- Alternatives whose result at a position is kept. -/
def kept (items : List (List Pattern)) : Production := .alternatives true items

/-- Alternatives inside which no mistakes are looked for. -/
def quiet (items : List (List Pattern)) : Production := .quietly items

/-- A first part, and steps that extend it to the right. -/
def grown (base : List Pattern) (steps : List (List Pattern)) : Production := .growing base steps

end Pattern

end ApiDirectives.Source
