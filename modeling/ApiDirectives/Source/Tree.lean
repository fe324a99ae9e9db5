import ApiDirectives.Source.Grammar.Pattern

/-!
# Syntax trees

A tree has the tokens of a source at its leaves and a rule at each inner node. A rule that matched
one thing only leaves no node, so a name that is a whole expression is just the name. Repetitions and
options are spliced into the children of their rule.
-/

namespace ApiDirectives.Source

/-- A syntax tree. -/
inductive Tree where
  | leaf (token : Token)
  | node (rule : Rule) (children : List Tree)
  deriving Inhabited

namespace Tree

/-- The tree of what a rule matched. -/
def ofRule (r : Rule) : List Tree → Tree
  | [t] => t
  | ts => .node r ts

/-- The children of a node. -/
def children : Tree → List Tree
  | .leaf _ => []
  | .node _ ts => ts

/-- The line of the first token; zero if there is none. -/
def start : Tree → Nat
  | .leaf t => t.line
  | .node _ ts =>
    match ts with
    | [] => 0
    | t :: _ => t.start

/-- Whether a leaf has a text. -/
def isText (s : String) : Tree → Bool
  | .leaf t => t.text == s
  | .node .. => false

/-- Rules whose brackets only group: the tree stands for what is between them. -/
def isGrouping : Rule → Bool
  | .expression .parenthesized | .slip .badHintedTarget | .case .groupPattern => true
  | _ => false

/-- A tree without the brackets that only group it. -/
def core : Tree → Tree
  | .leaf t => .leaf t
  | .node r ts =>
    match ts with
    | [a, b, c] => if isGrouping r then b.core else .node r [a, b, c]
    | ts => .node r ts

/-- The line that a tree is reported at: that of its first token, grouping brackets apart. -/
def line (t : Tree) : Nat := t.core.start

/-- The name that a tree is, if it is one. -/
def name? (t : Tree) : Option String :=
  match t.core with
  | .leaf t => if t.kind = .name then some t.text else none
  | .node .. => none

/-- Names that were statements once. -/
def isFormerStatement (t : Tree) : Bool :=
  t.name?.any fun n => n == "print" || n == "exec"

/-- Whether a number literal is imaginary. -/
def isImaginary : Tree → Bool
  | .leaf t => t.text.toList.getLast?.any fun c => c == 'j' || c == 'J'
  | .node .. => false

/-! ## Targets -/

/-- Whether a rule is a list of expressions between commas. -/
def isSeries : Rule → Bool
  | .expression .starNamedExpressions | .expression .starExpressions
  | .expression .expressions => true
  | _ => false

/-- Whether a rule is a list or a tuple between brackets. -/
def isDisplay : Rule → Bool
  | .expression .listDisplay | .expression .tupleDisplay => true
  | _ => false

/-- Whether a rule is an expression with a star before it. -/
def isStarred : Rule → Bool
  | .expression .starExpression | .expression .starNamedExpression
  | .expression .starredExpression => true
  | _ => false

mutual

/-- The first part of an expression that cannot be a target. Lists and tuples are looked into, and
for the target of a loop also the left side of its `in`. -/
def badTarget? (use : TargetUse) : Tree → Option Tree
  | .leaf t => if t.kind = .name then none else some (.leaf t)
  | .node r ts =>
    if isSeries r || isDisplay r then badElement? use ts
    else if isStarred r then
      if use = .deleted then some (.node r ts) else badElement? use ts
    else if isGrouping r then badElement? use ts
    else if r = .expression .comparison then
      match use, ts with
      | .iterated, left :: pair :: _ =>
        if pair.children.head?.any (isText "in") then badTarget? use left else none
      | _, _ => some (.node r ts)
    else if r = .expression .primary then
      match ts with
      | _ :: sign :: _ => if isText "." sign || isText "[" sign then none else some (.node r ts)
      | _ => some (.node r ts)
    else some (.node r ts)

/-- The first such part of the elements of a list; brackets, commas and stars are passed over. -/
def badElement? (use : TargetUse) : List Tree → Option Tree
  | [] => none
  | t :: ts =>
    let found := match t with
      | .leaf token =>
        if ["(", ")", "[", "]", ",", "*"].contains token.text then none else badTarget? use t
      | .node .. => badTarget? use t
    match found with
    | some bad => some bad
    | none => badElement? use ts

end

/-! ## Arguments -/

/-- Whether a tree is an argument with a keyword, or a mapping that is unpacked. -/
def isKeyword : Tree → Bool
  | .node (.expression .keywordOrStarred) _ | .node (.expression .keywordOrDoubleStarred) _ => true
  | _ => false

/-- The arguments of a call that have no keyword. -/
def positional : Tree → List Tree
  | .node (.expression .argumentList) ts =>
    ts.flatMap fun t =>
      match t with
      | .node (.expression .keywordArguments) ks =>
        ks.filter fun k => !isText "," k && !isKeyword k
      | t => if isText "," t || isKeyword t then [] else [t]
  | .node (.expression .keywordArguments) ks => ks.filter fun k => !isText "," k && !isKeyword k
  | t => if isKeyword t then [] else [t]

end Tree

end ApiDirectives.Source
