import ApiDirectives.Numeral.Reading
import ApiDirectives.Text.Quoted

/-!
# Version dialects

From version 3.1 on a schema says "or null" by a set of types, before that by a flag, and before 3.1
the siblings of a reference are ignored. The dialect is decided by the first two parts of the
version, as far as they are digits. A part may look like digits without being a number; then there
is no dialect, and asking for it is a fault.
-/

namespace ApiDirectives

open Text

/-- The version of a document without a version directive. -/
def defaultVersion : String := "3.0.3"

/-- A part of a version that looks like digits but is no number. -/
inductive VersionFault where
  | notNumber (part : String)
  | tooLong (digits : Nat)
  deriving Repr, DecidableEq

/-- The wording of a fault of the version. -/
def VersionFault.message : VersionFault → String
  | .notNumber part =>
    "invalid literal for int() with base 10: " ++ String.ofList ((quotedText part).toList.take 200)
  | .tooLong digits =>
    "Exceeds the limit (" ++ toString Numeral.digitLimit
      ++ " digits) for integer string conversion: value has " ++ toString digits
      ++ " digits; use sys.set_int_max_str_digits() to increase the limit"

/-- The number of a part that consists of digits. -/
def versionNumber (part : String) : Except VersionFault Int :=
  match Numeral.readInteger part with
  | .ok n => .ok n
  | .error .malformed => .error (.notNumber part)
  | .error (.tooLong digits) => .error (.tooLong digits)

/-- The numbers of the leading parts that consist of digits. -/
def versionNumbers : List String → Except VersionFault (List Int)
  | [] => .ok []
  | part :: r =>
    if part = "" || !part.toList.all isDigit then .ok []
    else
      match versionNumber part with
      | .error e => .error e
      | .ok n => (versionNumbers r).map (n :: ·)

/-- Whether the leading numbers of a version are those of 3.1 or a later one. -/
def isTypeSetVersion : List Int → Bool
  | [] => false
  | [major] => 3 < major
  | major :: minor :: _ => 3 < major || (major == 3 && 1 ≤ minor)

/-- Whether schemas of a document have sets of types; a fault if the version cannot be read. -/
abbrev Dialect := Except VersionFault Bool

/-- The dialect of a version. -/
def Dialect.of (version : String) : Dialect :=
  (versionNumbers ((pieces '.' version).take 2)).map isTypeSetVersion

end ApiDirectives
