import ApiDirectives.Format.Yaml.Node
import ApiDirectives.Numeral.Binary64
import ApiDirectives.Text.Base64

/-!
# Data of a YAML document

What the nodes of a document stand for. A merge key in a mapping adds the entries of other mappings
in front, so that the mapping's own entries win. Keys are scalars.
-/

namespace ApiDirectives.Yaml

open Text

/-- What a node stands for. Of a moment only its text matters here. -/
inductive Datum where
  | null
  | bool (b : Bool)
  | int (n : Int)
  | float (x : Binary64)
  | str (s : String)
  | bytes (bs : List UInt8)
  | moment (text : String)
  | list (items : List Datum)
  | set (items : List Datum)
  | table (entries : List (Datum × Datum))
  deriving Repr, Inhabited, BEq

namespace Datum

/-- Whether a datum may be a key: collections may not. -/
def mayBeKey : Datum → Bool
  | .list _ | .set _ | .table _ => false
  | _ => true

/-- Whether a datum is nothing, false, zero or empty. -/
def isEmpty : Datum → Bool
  | .null => true
  | .bool b => !b
  | .int n => n = 0
  | .float x => x.toInt? = some 0
  | .str s => s = ""
  | .bytes bs => bs.isEmpty
  | .moment _ => false
  | .list items => items.isEmpty
  | .set items => items.isEmpty
  | .table entries => entries.isEmpty

end Datum

/-- A scalar that stands for no value. -/
def unreadable {α : Type} (fault : ScalarFault) : Except Fault α := .error (.unreadable fault)

/-! ## Numbers -/

/-- A sign and the characters after it, underscores dropped; the text may not be empty. -/
def signed (text : List Char) : Except Fault (Bool × List Char) :=
  match text.filter (· != '_') with
  | [] => unreadable .emptyNumber
  | cs => .ok (cs.head? == some '-', unsigned cs)

/-- An integer in a base that is a power of two. -/
def integerIn (base : Nat) (isDigit : Char → Bool) (cs : List Char) : Except Fault Nat :=
  if allOf isDigit cs then .ok (cs.foldl (fun n c => n * base + hexValue c) 0)
  else unreadable (.notInteger base (String.ofList cs))

/-- An integer in base ten. -/
def decimal (cs : List Char) : Except Fault Int :=
  let text := String.ofList cs
  match Numeral.readInteger text with
  | .ok n => .ok n
  | .error .malformed => unreadable (.notInteger 10 text)
  | .error (.tooLong digits) => unreadable (.tooLong digits)

/-- An integer without its sign: binary, hexadecimal, octal, in base sixty or decimal. -/
def magnitude (cs : List Char) : Except Fault Int := do
  match cs with
  | [] => unreadable .emptyNumber
  | ['0'] => return 0
  | '0' :: 'b' :: r => return (← integerIn 2 isBinaryOrGap r)
  | '0' :: 'x' :: r => return (← integerIn 16 isHexOrGap r)
  | '0' :: r => return (← integerIn 8 isOctalOrGap ('0' :: r))
  | cs =>
    if cs.contains ':' then
      return (← (piecesOf ':' cs).mapM decimal).foldl (fun n d => n * 60 + d) 0
    else decimal cs

/-- The integer that a text stands for. -/
def integer (text : List Char) : Except Fault Int := do
  let (negative, cs) ← signed text
  let n ← magnitude cs
  return if negative then -n else n

/-- A number in base sixty from its places: decimals scaled by a power of ten. -/
def sexagesimal (negative : Bool) (places : List (List Char)) : Except Fault Binary64 := do
  let fraction := ((places.getLastD []).dropWhile (· != '.')).tail
  let scale := Nat.pow 10 fraction.length
  let part (cs : List Char) : Except Fault Nat :=
    match Numeral.readNumber (String.ofList cs) with
    | none => unreadable (.notNumber (String.ofList cs))
    | some _ =>
      let whole := Numeral.digitsValue (cs.takeWhile (· != '.'))
      let tail := (cs.dropWhile (· != '.')).tail
      .ok (whole * scale + Numeral.digitsValue tail)
  let parts ← places.mapM part
  return Binary64.ofRatio negative (parts.foldl (fun n d => n * 60 + d) 0) scale

/-- The number that a text stands for. -/
def number (text : List Char) : Except Fault Binary64 := do
  let (negative, cs) ← signed (text.map Char.toLower)
  if cs = ".inf".toList then return .infinite negative
  else if cs = ".nan".toList then return .undefined
  else if cs.contains ':' then sexagesimal negative (piecesOf ':' cs)
  else
    match Numeral.readNumber (String.ofList cs) with
    | none => unreadable (.notNumber (String.ofList cs))
    | some x => return if negative then x.negated else x

/-! ## Other scalars -/

/-- The truth value that a word stands for, in letters of any case. -/
def truthOf (text : String) : Except Fault Bool :=
  let word := lowerAscii text
  if trueWords.contains word then .ok true
  else if falseWords.contains word then .ok false
  else unreadable (.notTruth word)

/-- How many days a month has. -/
def daysIn (year month : Nat) : Nat :=
  if month = 2 then
    if year % 4 = 0 && (year % 100 != 0 || year % 400 = 0) then 29 else 28
  else if month = 4 || month = 6 || month = 9 || month = 11 then 30
  else 31

/-- Why a date does not exist. -/
def dateFault? (year month day : Nat) : Option ScalarFault :=
  if year = 0 then some (.year year)
  else if month = 0 || 12 < month then some .month
  else if day = 0 || daysIn year month < day then some .day
  else none

/-- Why a time does not exist. -/
def clockFault? (c : Clock) : Option ScalarFault :=
  if 23 < c.hour then some .hour
  else if 59 < c.minute then some .minute
  else if 59 < c.second then some .second
  else none

/-- Why a text stands for no moment. -/
def momentFault? (cs : List Char) : Option ScalarFault :=
  match date? 1 cs with
  | none => some .notMoment
  | some (year, month, day, r) =>
    let fault := dateFault? (Numeral.digitsValue year) (Numeral.digitsValue month)
      (Numeral.digitsValue day)
    if r.isEmpty then fault
    else
      match (timeMark? r).bind clock? with
      | none => some .notMoment
      | some clock =>
        if 1440 ≤ clock.zone.natAbs then some (.offset clock.zone)
        else fault.or (clockFault? clock)

/-- The bytes that a text stands for. -/
def binary (text : String) : Except Fault (List UInt8) :=
  let cs := text.toList
  if cs.any fun c => 0x7F < c.toNat then refuse .base64
  else
    match decodeBase64 cs with
    | some bs => .ok bs
    | none => refuse .base64

/-- What a scalar with a tag stands for. -/
def scalarDatum (tag : Tag) (text : String) : Except Fault Datum :=
  match tag with
  | .null => .ok .null
  | .bool => (truthOf text).map .bool
  | .int => (integer text.toList).map .int
  | .float => (number text.toList).map .float
  | .str => .ok (.str text)
  | .binary => (binary text).map .bytes
  | .timestamp =>
    match momentFault? text.toList with
    | some fault => unreadable fault
    | none => .ok (.moment text)
  | .seq | .map | .set | .pairs => refuse .wrongShape
  | .merge | .value | .other => refuse .unknownTag

/-! ## Nodes -/

/-- Whether a node is a merge key. -/
def Node.isMerge : Node → Bool
  | .scalar .merge _ => true
  | _ => false

mutual

/-- The text of a node that stands for a scalar: its own, or that of the value that a mapping has
for its value key. -/
def Node.scalarText? : Node → Option String
  | .scalar _ text => some text
  | .sequence .. => none
  | .mapping _ entries => valueText? entries

/-- The text of the first value key. -/
def valueText? : List (Node × Node) → Option String
  | [] => none
  | (.scalar .value _, v) :: _ => v.scalarText?
  | _ :: r => valueText? r

end

/-- An entry replaces one with the same key. -/
def putEntry (entries : List (Datum × Datum)) (k v : Datum) : List (Datum × Datum) :=
  if entries.any (·.1 == k) then entries.map fun e => if e.1 == k then (k, v) else e
  else entries ++ [(k, v)]

/-- Entries put one after another. -/
def tableOf (entries : List (Datum × Datum)) : List (Datum × Datum) :=
  entries.foldl (fun t (k, v) => putEntry t k v) []

mutual

/-- What a node stands for. -/
def Node.datum : Node → Except Fault Datum
  | .scalar tag text => scalarDatum tag text
  | .sequence tag items =>
    match tag with
    | .seq => (itemData items).map .list
    | .pairs => (pairData items).map .list
    | .merge | .value | .other => refuse .unknownTag
    | _ => refuse .wrongShape
  | .mapping tag entries =>
    match tag with
    | .map => (entryData entries).map fun (merged, own) => .table (tableOf (merged ++ own))
    | .set => (entryData entries).map fun (merged, own) =>
      .set ((tableOf (merged ++ own)).map Prod.fst)
    | .seq | .pairs => refuse .wrongShape
    | .merge | .value | .other => refuse .unknownTag
    | tag =>
      match valueText? entries with
      | some text => scalarDatum tag text
      | none => refuse .wrongShape

/-- What the items of a sequence stand for. -/
def itemData : List Node → Except Fault (List Datum)
  | [] => .ok []
  | n :: r => do
    let d ← n.datum
    return d :: (← itemData r)

/-- What the items of a list of pairs stand for: each is a mapping with one entry. -/
def pairData : List Node → Except Fault (List Datum)
  | [] => .ok []
  | .mapping _ [(k, v)] :: r => do
    let k ← k.datum
    let v ← v.datum
    return .list [k, v] :: (← pairData r)
  | _ => refuse .wrongShape

/-- What the entries of a mapping stand for: those that merge keys add, and its own. -/
def entryData : List (Node × Node) → Except Fault (List (Datum × Datum) × List (Datum × Datum))
  | [] => .ok ([], [])
  | (k, v) :: r => do
    if k.isMerge then
      let added ← mergeData v
      let (merged, own) ← entryData r
      return (added ++ merged, own)
    else
      let key ← match k with
        | .scalar .value text => .ok (.str text)
        | k => k.datum
      if key.mayBeKey then
        let value ← v.datum
        let (merged, own) ← entryData r
        return (merged, (key, value) :: own)
      else refuse .collectionAsKey

/-- The entries that a merge key adds: those of a mapping, or of several, the first of which wins. -/
def mergeData : Node → Except Fault (List (Datum × Datum))
  | .scalar .. => refuse .unmergeable
  | .mapping _ entries => (entryData entries).map fun (merged, own) => merged ++ own
  | .sequence _ items => mergeAll items

/-- The entries of several mappings, the last in front. -/
def mergeAll : List Node → Except Fault (List (Datum × Datum))
  | [] => .ok []
  | .mapping _ entries :: r => do
    let (merged, own) ← entryData entries
    return (← mergeAll r) ++ (merged ++ own)
  | _ => refuse .unmergeable

end

/-- What a text stands for; an empty one stands for nothing. -/
def read (text : List Char) : Except Fault Datum := do
  match ← document? (← tokens text) with
  | none => return .null
  | some n => n.datum

end ApiDirectives.Yaml
