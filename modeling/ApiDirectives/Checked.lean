import ApiDirectives.Numeral.Reading
import ApiDirectives.Value

/-!
# Checking values against a shape

Documents and configurations are read from free-form values. A check collects every fault with the
way to it, member by member and element by element, instead of stopping at the first one. Scalars
are read generously: a number may be given as text, a truth value as one of the usual words.
-/

namespace ApiDirectives

/-- What can be wrong with a value. -/
inductive FaultKind where
  | missing
  | unknownMember
  | notText
  | notUnicode
  | notPath
  | notTruth
  | unreadableTruth
  | notInteger
  | unreadableInteger
  | fractional
  | oversize
  | notFinite
  | notNumber
  | unreadableNumber
  | notList
  | notTable
  | notObject
  deriving Repr, DecidableEq, Inhabited

/-- The wording of a fault. -/
def FaultKind.message : FaultKind → String
  | .missing => "field required"
  | .unknownMember => "extra inputs are not permitted"
  | .notText => "input should be a valid string"
  | .notUnicode => "input should be a valid string, unable to parse raw data as a unicode string"
  | .notPath => "input is not a valid path"
  | .notTruth => "input should be a valid boolean"
  | .unreadableTruth => "input should be a valid boolean, unable to interpret input"
  | .notInteger => "input should be a valid integer"
  | .unreadableInteger => "input should be a valid integer, unable to parse string as an integer"
  | .fractional => "input should be a valid integer, got a number with a fractional part"
  | .oversize => "unable to parse input string as an integer, exceeded maximum size"
  | .notFinite => "input should be a finite number"
  | .notNumber => "input should be a valid number"
  | .unreadableNumber => "input should be a valid number, unable to parse string as a number"
  | .notList => "input should be a valid list"
  | .notTable => "input should be a valid dictionary"
  | .notObject => "input should be a valid object"

/-- A fault and the way to it: names of members and numbers of elements. -/
structure Fault where
  way : List String
  kind : FaultKind
  deriving Repr, DecidableEq, Inhabited

/-- A fault as a line of a report. -/
def Fault.message (f : Fault) : String := Text.joined "." f.way ++ ": " ++ f.kind.message

/-- A result, or all faults. -/
def Checked (α : Type) := Except (List Fault) α

namespace Checked

variable {α β : Type}

/-- No fault. -/
def ok (a : α) : Checked α := Except.ok a

/-- One fault, here. -/
def fault (kind : FaultKind) : Checked α := Except.error [⟨[], kind⟩]

/-- Applies a checked function to a checked argument; the faults of both count. -/
def apply (f : Checked (α → β)) (x : Checked α) : Checked β :=
  match f, x with
  | Except.ok f, Except.ok a => Except.ok (f a)
  | Except.ok _, Except.error e => Except.error e
  | Except.error e, Except.ok _ => Except.error e
  | Except.error e, Except.error e' => Except.error (e ++ e')

instance : Applicative Checked where
  pure := ok
  seq f x := apply f (x ())

/-- Moves faults below a member or an element. -/
def under (step : String) (x : Checked α) : Checked α :=
  match x with
  | Except.ok a => Except.ok a
  | Except.error e => Except.error (e.map fun f => { f with way := step :: f.way })

/-- Checks elements, numbered from `n` on. -/
def eachFrom (n : Nat) (check : α → Checked β) : List α → Checked (List β)
  | [] => ok []
  | a :: r => (· :: ·) <$> under (toString n) (check a) <*> eachFrom (n + 1) check r

/-- Checks members, under their names. -/
def members (check : α → Checked β) : List (String × α) → Checked (List (String × β))
  | [] => ok []
  | (k, a) :: r => (fun b bs => (k, b) :: bs) <$> under k (check a) <*> members check r

end Checked

/-! ## Scalars -/

/-- A text. -/
def Value.text : Value → Checked String
  | .str s => .ok s
  | _ => .fault .notText

/-- The words for truth and falsehood, in letters of any case. -/
def truthWord (s : String) : Option Bool :=
  let word := Text.lowerAscii s
  if ["1", "on", "t", "true", "y", "yes"].contains word then some true
  else if ["0", "off", "f", "false", "n", "no"].contains word then some false
  else none

/-- The least integer above those of a machine word with a sign. -/
def wordLimit : Int := Nat.pow 2 63

/-- Integers that fit into a machine word with a sign. -/
def isWord (n : Int) : Bool := -wordLimit ≤ n && n < wordLimit

/-- The integer of a number that is integral and whose size is below that of a machine word. -/
def wordOf? (x : Binary64) : Option Int :=
  match x.toInt? with
  | some n => if -wordLimit < n && n < wordLimit then some n else none
  | none => none

/-- A truth value by its number: zero or one. -/
def truthNumber (n : Int) : Checked Bool :=
  if n = 0 then .ok false else if n = 1 then .ok true else .fault .unreadableTruth

/-- A truth value: itself, zero or one, or a word for it. -/
def Value.truth : Value → Checked Bool
  | .bool b => .ok b
  | .int n => if isWord n then truthNumber n else .fault .notTruth
  | .float x =>
    match wordOf? x with
    | some n => truthNumber n
    | none => .fault .notTruth
  | .str s =>
    match truthWord s with
    | some b => .ok b
    | none => .fault .unreadableTruth
  | _ => .fault .notTruth

/-- Digits without the zeros in front of them, and the underscores among these; a zero stays where
no other digit follows. `last` is the character just dropped. -/
def afterZeros (last : Char) : List Char → Option (List Char)
  | [] => some [last]
  | c :: r =>
    if c == '0' || c == '_' then afterZeros c r
    else if c.isDigit then some (c :: r)
    else if c == '.' then some (last :: c :: r)
    else none

/-- A number without the zeros in front of it. Behind a minus sign they stay. -/
def withoutZeros : List Char → Option (List Char)
  | [] => none
  | c :: r =>
    if c == '0' then afterZeros c r else if c.isDigit || c == '-' then some (c :: r) else none

/-- The characters before a point that only zeros follow. -/
def wholePart (cs : List Char) : List Char :=
  match cs.dropWhile (· != '.') with
  | '.' :: r => if r.all (· == '0') then cs.takeWhile (· != '.') else cs
  | _ => cs

/-- Text without its underscores, if each stands alone and inside. -/
def withoutUnderscores (cs : List Char) : List Char :=
  if cs.head? == some '_' || cs.getLast? == some '_' || Text.occurs ['_', '_'] cs then cs
  else cs.filter (· != '_')

/-- The digits of a sign and digits in plain form: ASCII, and no zero in front of others. -/
def plainDigits? (cs : List Char) : Option (List Char) :=
  let ds := (Numeral.sign cs).2
  if cs.head? != some '+' && !ds.isEmpty && ds.all Char.isDigit
    && !(ds.head? == some '0' && 1 < ds.length) then some ds
  else none

/-- An integer written as text: a sign, ASCII digits with single underscores between them, and a
fraction of zeros. -/
def wholeText (s : String) : Checked Int :=
  let cs := Text.trimOf Numeral.isMargin s.toList
  let body := match cs with
    | '+' :: '-' :: _ => none
    | '+' :: r => withoutZeros r
    | r => withoutZeros r
  match body with
  | none => .fault .unreadableInteger
  | some cs =>
    let cs := withoutUnderscores (wholePart cs)
    match plainDigits? cs with
    | none => .fault .unreadableInteger
    | some ds =>
      if Numeral.digitLimit < ds.length then .fault .oversize
      else
        let n : Int := Numeral.digitsValue ds
        .ok (if cs.head? == some '-' then -n else n)

/-- An integer: itself, a truth value, an integral number, or text. -/
def Value.whole : Value → Checked Int
  | .int n => .ok n
  | .bool b => .ok (if b then 1 else 0)
  | .float x =>
    match x.isFinite, x.toInt?, wordOf? x with
    | false, _, _ => .fault .notFinite
    | true, none, _ => .fault .fractional
    | true, some _, none => .fault .oversize
    | true, some _, some n => .ok n
  | .str s => wholeText s
  | _ => .fault .notInteger

/-- A number written as text: ASCII, with single underscores anywhere inside. -/
def numberText (s : String) : Option Binary64 :=
  let cs := withoutUnderscores (Text.trimOf Numeral.isMargin s.toList)
  if cs.all fun c => c.toNat < 128 && c != '_' && c != ' ' then
    Numeral.readNumber (String.ofList cs)
  else none

/-- A number of double precision: itself, an integer, a truth value, or text. -/
def Value.number : Value → Checked Binary64
  | .float x => .ok x
  | .int n => .ok (Binary64.ofInt n)
  | .bool b => .ok (Binary64.ofInt (if b then 1 else 0))
  | .str s =>
    match numberText s with
    | some x => .ok x
    | none => .fault .unreadableNumber
  | _ => .fault .notNumber

/-- A list of texts. -/
def Value.textList : Value → Checked (List String)
  | .list vs => Checked.eachFrom 0 Value.text vs
  | _ => .fault .notList

/-- Something or nothing. -/
def Value.optional {α : Type} (check : Value → Checked α) : Value → Checked (Option α)
  | .null => .ok none
  | v => some <$> check v

/-- Whatever it is. -/
def Value.free : Value → Checked Value := .ok

/-! ## Members -/

/-- The first member that has one of some names, the names taken in order. -/
def pick (names : List String) (ms : List (String × Value)) :
    Option { m : String × Value // m ∈ ms } :=
  names.findSome? fun name => ms.attach.find? fun m => m.val.1 == name

/-- A member that may be left out. -/
def member {α : Type} (names : List String) (absent : α) (check : Value → Checked α)
    (ms : List (String × Value)) : Checked α :=
  match pick names ms with
  | some ⟨(k, v), _⟩ => Checked.under k (check v)
  | none => .ok absent

/-- A member that may not be left out; its absence is reported under its first name. -/
def needed {α : Type} (names : List String) (check : Value → Checked α)
    (ms : List (String × Value)) : Checked α :=
  match pick names ms with
  | some ⟨(k, v), _⟩ => Checked.under k (check v)
  | none => Checked.under (names.headD "") (.fault .missing)

/-- The members of an object. -/
def Value.asObject {α : Type} (check : List (String × Value) → Checked α) : Value → Checked α
  | .object ms => check ms
  | _ => .fault .notObject

/-- A table with its values checked. -/
def Value.table {α : Type} (check : Value → Checked α) : Value → Checked (List (String × α))
  | .object ms => Checked.members check ms
  | _ => .fault .notTable

/-- A list with its elements checked. -/
def Value.elements {α : Type} (check : Value → Checked α) : Value → Checked (List α)
  | .list vs => Checked.eachFrom 0 check vs
  | _ => .fault .notList

end ApiDirectives
