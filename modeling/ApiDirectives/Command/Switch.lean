import ApiDirectives.Command.Suggestion
import ApiDirectives.Text.Quoted

/-!
# Switches and operands

The arguments of a command are switches and operands in any order. A switch has a long name, a short
one or both; its value follows it, behind an equals sign for a long name or at once for a short one.
Short switches without values may be run together. After two hyphens everything is an operand.
-/

namespace ApiDirectives

open Text

/-- The switches of all commands. -/
inductive Switch where
  | output
  | format
  | config
  | exclude
  | version
  | includeTests
  | strict
  | verbose
  | logFile
  | help
  deriving Repr, DecidableEq, Inhabited

namespace Switch

/-- The names of a switch, a short one first. -/
def names : Switch → List String
  | .output => ["-o", "--output"]
  | .format => ["--format"]
  | .config => ["--config"]
  | .exclude => ["--exclude"]
  | .version => ["--openapi-version"]
  | .includeTests => ["--include-tests"]
  | .strict => ["--strict"]
  | .verbose => ["-v", "--verbose"]
  | .logFile => ["--log-file"]
  | .help => ["--help"]

/-- Whether a switch has a value. -/
def takesValue : Switch → Bool
  | .output | .format | .config | .exclude | .version | .logFile => true
  | .includeTests | .strict | .verbose | .help => false

/-- A switch as messages name it. -/
def hint (s : Switch) : String := joined " / " (s.names.map quotedText)

end Switch

/-- Why the arguments of a command are refused. -/
inductive UsageFault where
  | unknownSwitch (name : String) (similar : List String)
  | unknownCommand (name : String) (similar : List String)
  | noCommand
  | valueMissing (name : String)
  | valueUnwanted (name : String)
  | operandMissing (name : String)
  | operandsUnwanted (operands : List String)
  | badValue (hint reason : String)
  deriving Repr, DecidableEq, Inhabited

/-- What is said of similar names. -/
def similarText : List String → String
  | [] => ""
  | [name] => " Did you mean " ++ quotedText name ++ "?"
  | names =>
    let sorted := names.mergeSort fun a b => decide (a ≤ b)
    " (Did you mean one of: " ++ joined ", " (sorted.map quotedText) ++ "?)"

/-- The wording of a fault. -/
def UsageFault.message : UsageFault → String
  | .unknownSwitch name similar => "No such option " ++ quotedText name ++ "." ++ similarText similar
  | .unknownCommand name similar =>
    "No such command " ++ quotedText name ++ "." ++ similarText similar
  | .noCommand => "Missing command."
  | .valueMissing name => "Option " ++ quotedText name ++ " requires an argument."
  | .valueUnwanted name => "Option " ++ quotedText name ++ " does not take a value."
  | .operandMissing name => "Missing argument '" ++ name ++ "'."
  | .operandsUnwanted operands =>
    "Got unexpected extra argument" ++ (if operands.length = 1 then "" else "s") ++ " ("
      ++ joined " " operands ++ ")"
  | .badValue hint reason => "Invalid value for " ++ hint ++ ": " ++ reason

/-- What arguments say: switches with their values, in order, and operands. -/
structure Arguments where
  switches : List (Switch × String) := []
  operands : List String := []
  deriving Repr, DecidableEq, Inhabited

namespace Arguments

/-- Adds a switch in front. -/
def withSwitch (a : Arguments) (s : Switch) (value : String := "") : Arguments :=
  { a with switches := (s, value) :: a.switches }

/-- Adds switches in front. -/
def withSwitches (a : Arguments) (ss : List (Switch × String)) : Arguments :=
  { a with switches := ss ++ a.switches }

/-- Adds an operand in front. -/
def withOperand (a : Arguments) (operand : String) : Arguments :=
  { a with operands := operand :: a.operands }

/-- The last value of a switch. -/
def value? (a : Arguments) (s : Switch) : Option String := a.switches.reverse.lookup s

/-- All values of a switch. -/
def values (a : Arguments) (s : Switch) : List String :=
  (a.switches.filter (·.1 == s)).map Prod.snd

/-- Whether a switch is given. -/
def has (a : Arguments) (s : Switch) : Bool := a.switches.any (·.1 == s)

end Arguments

/-- The switch with a name. -/
def switchNamed? (known : List Switch) (name : String) : Option Switch :=
  known.find? (·.names.contains name)

/-- Whether a name is a long one. -/
def isLong (name : String) : Bool := (dropLiteral? "--".toList name.toList).isSome

/-- The name and the value of an argument with an equals sign. -/
def splitValue (argument : String) : String × Option String :=
  let cs := argument.toList
  match cs.dropWhile (· != '=') with
  | [] => (argument, none)
  | _ :: value => (String.ofList (cs.takeWhile (· != '=')), some (String.ofList value))

/-- Short switches that are run together: those that are complete, and the last one if its value is
still to come. -/
def shortSwitches (known : List Switch) :
    List Char → Except UsageFault (List (Switch × String) × Option (String × Switch))
  | [] => .ok ([], none)
  | c :: r =>
    let name := String.ofList ['-', c]
    match switchNamed? known name with
    | none => .error (.unknownSwitch name [])
    | some s =>
      if s.takesValue then
        if r.isEmpty then .ok ([], some (name, s)) else .ok ([(s, String.ofList r)], none)
      else (shortSwitches known r).map fun (ss, open?) => ((s, "") :: ss, open?)

/-- What an argument that looks like a switch says: the switches that are complete, and one whose
value is still to come. -/
def switchesOf (known : List Switch) (argument : String) :
    Except UsageFault (List (Switch × String) × Option (String × Switch)) :=
  let (name, value) := splitValue argument
  let long := known.filter fun s => s.names.any fun n => isLong n && n == name
  match long, value with
  | s :: _, some value =>
    if s.takesValue then .ok ([(s, value)], none) else .error (.valueUnwanted name)
  | s :: _, none => if s.takesValue then .ok ([], some (name, s)) else .ok ([(s, "")], none)
  | [], _ =>
    if isLong argument then
      .error (.unknownSwitch name
        (similarNames name (known.flatMap fun s => s.names.filter isLong)))
    else shortSwitches known (argument.toList.drop 1)

/-- Whether an argument looks like a switch. A hyphen alone does not. -/
def looksLikeSwitch (argument : String) : Bool :=
  argument.toList.head? == some '-' && 1 < argument.length

/-- Reads arguments. Unless operands may be mixed with switches, the first one ends the switches. -/
def readArguments (known : List Switch) (mixed : Bool) : List String → Except UsageFault Arguments
  | [] => .ok {}
  | argument :: rest =>
    if argument = "--" then .ok { operands := rest }
    else if looksLikeSwitch argument then
      match switchesOf known argument with
      | .error e => .error e
      | .ok (ss, none) => (readArguments known mixed rest).map (·.withSwitches ss)
      | .ok (ss, some (name, s)) =>
        match rest with
        | [] => .error (.valueMissing name)
        | value :: rest =>
          (readArguments known mixed rest).map (·.withSwitches (ss ++ [(s, value)]))
    else if mixed then (readArguments known mixed rest).map (·.withOperand argument)
    else .ok { operands := argument :: rest }

end ApiDirectives
