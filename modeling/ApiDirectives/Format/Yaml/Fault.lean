import ApiDirectives.Numeral.Reading
import ApiDirectives.Text.Quoted

/-!
# Faults of a YAML text

A text may break the rules of the format, or follow them and have a scalar that stands for no value:
a month thirteen, say. The two are kept apart, since only the first is a fault of the format.
-/

namespace ApiDirectives.Yaml

open Text

/-- How a text breaks the rules of the format. -/
inductive Problem where
  | unprintable
  | unfinishedKey
  | misplacedEntry
  | misplacedKey
  | misplacedValue
  | strayCharacter
  | directive
  | anchorName
  | tagName
  | blockHeader
  | unclosedQuote
  | separatorInQuotes
  | unknownEscape
  | unexpectedToken
  | repeatedDirective
  | unsupportedVersion
  | unknownHandle
  | secondDocument
  | unknownAlias
  | repeatedAnchor
  | unknownTag
  | wrongShape
  | collectionAsKey
  | unmergeable
  | base64
  deriving Repr, DecidableEq, Inhabited

/-- The wording of a problem. -/
def Problem.message : Problem → String
  | .unprintable => "special characters are not allowed"
  | .unfinishedKey => "could not find expected ':'"
  | .misplacedEntry => "sequence entries are not allowed here"
  | .misplacedKey => "mapping keys are not allowed here"
  | .misplacedValue => "mapping values are not allowed here"
  | .strayCharacter => "found a character that cannot start any token"
  | .directive => "a directive cannot be read"
  | .anchorName => "the name of an anchor cannot be read"
  | .tagName => "a tag cannot be read"
  | .blockHeader => "the first line of a block scalar cannot be read"
  | .unclosedQuote => "found unexpected end of stream"
  | .separatorInQuotes => "found unexpected document separator"
  | .unknownEscape => "found unknown escape character"
  | .unexpectedToken => "expected something else"
  | .repeatedDirective => "found duplicate directive"
  | .unsupportedVersion => "found incompatible document (version 1.* is required)"
  | .unknownHandle => "found undefined tag handle"
  | .secondDocument => "expected a single document in the stream"
  | .unknownAlias => "found undefined alias"
  | .repeatedAnchor => "found duplicate anchor"
  | .unknownTag => "could not determine a constructor for the tag"
  | .wrongShape => "a tag does not fit its node"
  | .collectionAsKey => "found unhashable key"
  | .unmergeable => "expected a mapping or list of mappings for merging"
  | .base64 => "failed to decode base64 data"

/-- Why a scalar stands for no value. -/
inductive ScalarFault where
  | notInteger (base : Nat) (text : String)
  | tooLong (digits : Nat)
  | notNumber (text : String)
  | emptyNumber
  | notTruth (word : String)
  | notMoment
  | year (year : Nat)
  | month
  | day
  | hour
  | minute
  | second
  /-- A zone a day or more away, in minutes. -/
  | offset (minutes : Int)
  | codePoint (number : Nat)
  deriving Repr, DecidableEq, Inhabited

/-- A length of time in the days and seconds it is kept in. -/
def span (minutes : Int) : String :=
  let days := minutes.fdiv 1440
  let seconds := (minutes - days * 1440) * 60
  let parts := (if days = 0 then [] else ["days=" ++ toString days])
    ++ (if seconds = 0 then [] else ["seconds=" ++ toString seconds])
  "datetime.timedelta(" ++ joined ", " parts ++ ")"

/-- The greatest number that a code point may be tried with. -/
def greatestCodeNumber : Nat := 0x7FFFFFFF

/-- The wording of a scalar fault. -/
def ScalarFault.message : ScalarFault → String
  | .notInteger base text =>
    "invalid literal for int() with base " ++ toString base ++ ": "
      ++ String.ofList ((quotedText text).toList.take 200)
  | .tooLong digits =>
    "Exceeds the limit (" ++ toString Numeral.digitLimit
      ++ " digits) for integer string conversion: value has " ++ toString digits
      ++ " digits; use sys.set_int_max_str_digits() to increase the limit"
  | .notNumber text => "could not convert string to float: " ++ quotedText text
  | .emptyNumber => "string index out of range"
  | .notTruth word => quotedText word
  | .notMoment => "'NoneType' object has no attribute 'groupdict'"
  | .year n => "year " ++ toString n ++ " is out of range"
  | .month => "month must be in 1..12"
  | .day => "day is out of range for month"
  | .hour => "hour must be in 0..23"
  | .minute => "minute must be in 0..59"
  | .second => "second must be in 0..59"
  | .offset minutes =>
    "offset must be a timedelta strictly between -timedelta(hours=24) and timedelta(hours=24), not "
      ++ span minutes ++ "."
  | .codePoint number =>
    if greatestCodeNumber < number then "Python int too large to convert to C int"
    else "chr() arg not in range(0x110000)"

/-- Why a text has no value. -/
inductive Fault where
  | invalid (problem : Problem)
  | unreadable (fault : ScalarFault)
  deriving Repr, DecidableEq, Inhabited

/-- The wording of a fault. -/
def Fault.message : Fault → String
  | .invalid problem => problem.message
  | .unreadable fault => fault.message

/-- A text that breaks a rule. -/
def refuse {α : Type} (problem : Problem) : Except Fault α := .error (.invalid problem)

end ApiDirectives.Yaml
