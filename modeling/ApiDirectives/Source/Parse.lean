import ApiDirectives.Source.Grammar.Basic
import ApiDirectives.Source.Lexer
import ApiDirectives.Source.Literal
import ApiDirectives.Source.Tree

/-!
# Parsing a source

Patterns are matched against the tokens from left to right. If the whole source matches, the result
is its tree. If not, it is matched again with the rules for mistakes, and the line to report is that
of the first mistake found, or that of the furthest token the first pass looked at. A mistake in the
characters of the source, or a bracket that was opened before and never closed, goes first.
-/

namespace ApiDirectives.Source

/-- Results kept at a position, by rule: the tree and the position after it, or a failure. -/
abbrev Kept := List (Rule × Option (Tree × Nat))

/-- The state of a pass: how many tokens were looked at, and what is kept for each position. -/
structure Progress where
  seen : Nat := 0
  memo : Array Kept := #[]
  deriving Inhabited

/-- Why a pass stops: the line to report, the number of tokens looked at by then, and whether it is
because there are no more tokens. -/
structure Halt where
  line : Nat
  seen : Nat
  exhausted : Bool
  deriving Repr, Inhabited

/-- A step of a pass. -/
abbrev Pass := StateT Progress (Except Halt)

/-- How a sequence ended: with its trees and the position after it, or without, where a refusal also
rules out the alternatives after it. -/
inductive Match where
  | done (trees : List Tree) (position : Nat)
  | failed
  | refused
  deriving Inhabited

namespace Tokens

/-- Stops at a line. -/
def halt {α : Type} (line : Nat) : Pass α := fun p => .error ⟨line, p.seen, false⟩

/-- The line of the last token looked at. -/
def lastLine (g : Tokens) (seen : Nat) : Nat := (g.items[seen - 1]?.map (·.line)).getD 0

/-- Stops at the last token looked at. -/
def haltHere {α : Type} (g : Tokens) : Pass α := fun p => .error ⟨g.lastLine p.seen, p.seen, false⟩

/-- Looks at the token at a position. -/
def look (g : Tokens) (position : Nat) : Pass (Option Token) := fun p =>
  match g.items[position]?, g.fault with
  | some t, _ => .ok (some t, { p with seen := max p.seen (position + 1) })
  | none, some fault => .error ⟨fault.line, position + 1, true⟩
  | none, none => .ok (none, p)

/-- Stops if there is something wrong with a literal. -/
def heed (g : Tokens) : Option Flaw → Pass Unit
  | none => pure ()
  | some .here => g.haltHere
  | some (.at line) => halt line

/-- Takes a token that fits. -/
def take (g : Tokens) (fits : Token → Bool) (position : Nat) :
    Pass (Option (List Tree × Nat)) := do
  match ← g.look position with
  | some t =>
    if fits t then
      if t.kind = .number then g.heed t.flaw
      return some ([.leaf t], position + 1)
    else return none
  | none => return none

/-- String tokens side by side, at most `fuel` of them. -/
def takeStrings (g : Tokens) : Nat → Nat → List Tree → Pass (List Tree × Nat)
  | 0, position, trees => return (trees.reverse, position)
  | fuel + 1, position, trees => do
    match ← g.look position with
    | some t =>
      if t.kind = .string then g.takeStrings fuel (position + 1) (.leaf t :: trees)
      else return (trees.reverse, position)
    | none => return (trees.reverse, position)

/-- String literals side by side, all of them readable. -/
def takeLiterals (g : Tokens) (position : Nat) : Pass (Option (List Tree × Nat)) := do
  let (trees, after) ← g.takeStrings (g.items.size + 1) position []
  if trees.isEmpty then return none
  else
    g.heed (g.items[position]?.bind (·.flaw))
    return some (trees, after)

/-- Does what the shape of a mistake ends in. True if the sequence goes on. -/
def settle (g : Tokens) (s : Slip) (spot : Tree) (position : Nat) : Pass Bool :=
  match s with
  | .here => g.haltHere
  | .atSpot => halt spot.line
  | .atStart => halt spot.start
  | .badTarget use =>
    match spot.badTarget? use with
    | some t => halt t.line
    | none => return false
  | .missingComma =>
    if spot.isFormerStatement || (g.items[position - 1]?.map (·.depth)).getD 0 = 0 then return false
    else halt spot.line
  | .statementCall => if spot.isFormerStatement then halt spot.line else return false
  | .bareGenerator =>
    match spot.positional with
    | [] | [_] => return false
    | ts => halt ((ts.getLast?.map Tree.line).getD 0)
  | .wantReal => if spot.isImaginary then halt spot.line else return true
  | .wantImaginary => if spot.isImaginary then return true else halt spot.line

/-- What is kept for a rule at a position. -/
def known (rule : Rule) (position : Nat) : Pass (Option (Option (Tree × Nat))) := fun p =>
  .ok ((p.memo[position]?.getD []).lookup rule, p)

/-- Keeps a result. -/
def keep (rule : Rule) (position : Nat) (result : Option (Tree × Nat)) : Pass Unit := fun p =>
  .ok ((), { p with memo := p.memo.modify position ((rule, result) :: ·) })

mutual

/-- Matches a pattern at a position. -/
def matchPattern (g : Tokens) : Nat → Bool → Pattern → Nat → Pass (Option (List Tree × Nat))
  | 0, _, _, _ => return none
  | fuel + 1, diagnose, pattern, position =>
    match pattern with
    | .kind k => g.take (fun t => t.kind = k) position
    | .text s => g.take (fun t => t.text == s) position
    | .soft s => g.take (fun t => t.kind = .name && t.text == s) position
    | .softWord =>
      g.take (fun t => t.kind = .name && ["_", "case", "match"].contains t.text) position
    | .literals => g.takeLiterals position
    | .rule r => do
      match ← g.matchRule fuel diagnose r position with
      | some (tree, after) => return some ([tree], after)
      | none => return none
    | .choice alternatives => g.matchChoice fuel diagnose alternatives position
    | .opt p => do
      match ← g.matchPattern fuel diagnose p position with
      | some found => return some found
      | none => return some ([], position)
    | .many p => do
      return some (← g.matchMany fuel diagnose p position [])
    | .many1 p => do
      match ← g.matchMany fuel diagnose p position [] with
      | ([], _) => return none
      | found => return some found
    | .separated s p => do
      match ← g.matchPattern fuel diagnose p position with
      | some (trees, after) =>
        return some (← g.matchMany fuel diagnose (.choice [[.text s, p]]) after trees.reverse)
      | none => return none
    | .ahead p => do
      match ← g.matchPattern fuel diagnose p position with
      | some _ => return some ([], position)
      | none => return none
    | .notAhead p => do
      match ← g.matchPattern fuel diagnose p position with
      | some _ => return none
      | none => return some ([], position)
    | .forced s => do
      match ← g.look position with
      | some t => if t.text == s then return some ([.leaf t], position + 1) else halt t.line
      | none => return none
    | .spot p => g.matchPattern fuel diagnose p position
    | .cut | .slip _ => return some ([], position)
    | .diagnosing => return (if diagnose then some ([], position) else none)

/-- Matches the first alternative that does. -/
def matchChoice (g : Tokens) :
    Nat → Bool → List (List Pattern) → Nat → Pass (Option (List Tree × Nat))
  | 0, _, _, _ => return none
  | _ + 1, _, [], _ => return none
  | fuel + 1, diagnose, items :: others, position => do
    match ← g.matchItems fuel diagnose items position [] default false with
    | .done trees after => return some (trees, after)
    | .failed => g.matchChoice fuel diagnose others position
    | .refused => return none

/-- Matches a sequence; the trees so far come backwards, with the marked one and whether the later
alternatives are ruled out. -/
def matchItems (g : Tokens) :
    Nat → Bool → List Pattern → Nat → List Tree → Tree → Bool → Pass Match
  | 0, _, _, _, _, _, _ => return .failed
  | _ + 1, _, [], position, trees, _, _ => return .done trees.reverse position
  | fuel + 1, diagnose, item :: items, position, trees, spot, committed =>
    match item with
    | .cut => g.matchItems fuel diagnose items position trees spot true
    | .slip s => do
      if ← g.settle s spot position then
        g.matchItems fuel diagnose items position trees spot committed
      else return .refused
    | item => do
      match ← g.matchPattern fuel diagnose item position with
      | some (found, after) =>
        let spot := match item with
          | .spot _ => found.headD spot
          | _ => spot
        g.matchItems fuel diagnose items after (found.reverse ++ trees) spot committed
      | none => return (if committed then .refused else .failed)

/-- Matches a pattern as often as it does; the trees so far come backwards. -/
def matchMany (g : Tokens) :
    Nat → Bool → Pattern → Nat → List Tree → Pass (List Tree × Nat)
  | 0, _, _, position, trees => return (trees.reverse, position)
  | fuel + 1, diagnose, pattern, position, trees => do
    match ← g.matchPattern fuel diagnose pattern position with
    | some (found, after) =>
      g.matchMany fuel diagnose pattern after (found.reverse ++ trees)
    | none => return (trees.reverse, position)

/-- Matches a rule, or recalls how it matched. -/
def matchRule (g : Tokens) : Nat → Bool → Rule → Nat → Pass (Option (Tree × Nat))
  | 0, _, _, _ => return none
  | fuel + 1, diagnose, rule, position =>
    match rule.production with
    | .alternatives false items => do
      match ← g.matchChoice fuel diagnose items position with
      | some (trees, after) => return some (.ofRule rule trees, after)
      | none => return none
    | .quietly items => do
      match ← g.matchChoice fuel false items position with
      | some (trees, after) => return some (.ofRule rule trees, after)
      | none => return none
    | .alternatives true items => do
      let _ ← g.look position
      match ← known rule position with
      | some result => return result
      | none =>
        let result := (← g.matchChoice fuel diagnose items position).map fun (trees, after) =>
          (Tree.ofRule rule trees, after)
        keep rule position result
        return result
    | .growing base steps => do
      let _ ← g.look position
      match ← known rule position with
      | some result => return result
      | none =>
        match ← g.matchChoice fuel diagnose [base] position with
        | some (trees, after) =>
          let result ← g.grow fuel diagnose rule steps (.ofRule rule trees) after
          keep rule position (some result)
          return some result
        | none =>
          keep rule position none
          return none

/-- Extends a tree to the right by steps as often as one matches. -/
def grow (g : Tokens) : Nat → Bool → Rule → List (List Pattern) → Tree → Nat → Pass (Tree × Nat)
  | 0, _, _, _, tree, position => return (tree, position)
  | fuel + 1, diagnose, rule, steps, tree, position => do
    match ← g.matchChoice fuel diagnose steps position with
    | some (trees, after) => g.grow fuel diagnose rule steps (.node rule (tree :: trees)) after
    | none => return (tree, position)

end

/-- Enough steps for any source with these tokens: between two tokens only so many rules can be
entered. -/
def fuel (g : Tokens) : Nat := 4000 * (g.items.size + 2)

/-- One pass over the tokens, with the number of tokens looked at before. -/
def pass (g : Tokens) (rule : Rule) (diagnose : Bool) (seen : Nat) :
    Except Halt (Option (Tree × Nat) × Progress) :=
  (g.matchRule g.fuel diagnose rule 0).run ⟨seen, Array.replicate (g.items.size + 1) []⟩

/-- The line to report when a mistake was found at a line: what ended the tokens may go first. -/
def blamed (g : Tokens) (seen line : Nat) : Nat :=
  match g.fault with
  | none => line
  | some fault =>
    if fault.lexical then fault.line
    else
      match fault.openLine with
      | some openLine => if openLine < g.lastLine seen then openLine else line
      | none => line

/-- The line to report when a pass stopped. -/
def blamedHalt (g : Tokens) (h : Halt) : Nat :=
  if h.exhausted then h.line else g.blamed h.seen h.line

/-- The tree of a rule that matches from the start, or the line of the mistake. -/
def parse (g : Tokens) (rule : Rule) : Except Nat Tree :=
  match g.pass rule false 0 with
  | .error h => .error (g.blamedHalt h)
  | .ok (some (tree, _), _) => .ok tree
  | .ok (none, p) =>
    match g.pass rule true p.seen with
    | .error h => .error (g.blamedHalt h)
    | .ok (_, q) =>
      match g.items[p.seen - 1]? with
      | some last =>
        if last.kind = .indent || last.kind = .dedent then .error (g.lastLine q.seen)
        else .error (g.blamed q.seen last.line)
      | none => .error 0

end Tokens

/-- Parses text from a line on. Expressions inside string literals are parsed in turn; the number of
levels bounds how deep they nest. -/
def parseText : Nat → Rule → Nat → List Char → Except Nat Tree
  | 0, _, line, _ => .error line
  | levels + 1, rule, firstLine, cs =>
    let tokens := Tokens.ofText firstLine cs
    let check (line : Nat) (text : List Char) : Option Nat :=
      match parseText levels (.expression .starExpressions) line ('(' :: text ++ [')']) with
      | .ok _ => none
      | .error bad => some bad
    let items := withFlaws check false tokens.items.toList
    Tokens.parse { tokens with items := items.toArray } rule

/-- The tree of a module, or the line of the mistake that makes it invalid. -/
def parseModule (cs : List Char) : Except Nat Tree :=
  parseText (cs.length + 1) (.statement .module) 1 cs

end ApiDirectives.Source
