import ApiDirectives.Text.Blank

/-!
# Times of records

A time is shown as a date, a time of day and milliseconds, from the milliseconds since the start of
1970. Years are counted in spans of four hundred, which all have the same number of days, from the
first of March on, so that a leap day is the last of its year.
-/

namespace ApiDirectives

/-- A date. -/
structure Day where
  year : Nat
  month : Nat
  day : Nat
  deriving Repr, DecidableEq, Inhabited

/-- The date so many days after the first of March of the year zero. -/
def Day.afterMarchZero (days : Nat) : Day :=
  let era := days / 146097
  let ofEra := days % 146097
  let yearOfEra := (ofEra - ofEra / 1460 + ofEra / 36524 - ofEra / 146096) / 365
  let ofYear := ofEra - (365 * yearOfEra + yearOfEra / 4 - yearOfEra / 100)
  let shifted := (5 * ofYear + 2) / 153
  let month := if shifted < 10 then shifted + 3 else shifted - 9
  { year := era * 400 + yearOfEra + (if month ≤ 2 then 1 else 0)
    month
    day := ofYear - (153 * shifted + 2) / 5 + 1 }

/-- How many days after the first of March of the year zero the year 1970 starts. -/
def epochDay : Nat := 719468

example : Day.afterMarchZero epochDay = ⟨1970, 1, 1⟩ := by decide

example : Day.afterMarchZero (epochDay + 11016) = ⟨2000, 2, 29⟩ := by decide

/-- A number with zeros in front. -/
def padded (width n : Nat) : String :=
  let text := toString n
  String.ofList (List.replicate (width - text.length) '0') ++ text

/-- The time so many milliseconds after the start of 1970. -/
def timeStamp (milliseconds : Nat) : String :=
  let seconds := milliseconds / 1000
  let d := Day.afterMarchZero (epochDay + seconds / 86400)
  let clock := seconds % 86400
  Text.joined "-" [padded 4 d.year, padded 2 d.month, padded 2 d.day] ++ " "
    ++ Text.joined ":" [padded 2 (clock / 3600), padded 2 (clock / 60 % 60), padded 2 (clock % 60)]
    ++ "," ++ padded 3 (milliseconds % 1000)

end ApiDirectives
