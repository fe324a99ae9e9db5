import ApiDirectives.Files.Path
import ApiDirectives.Log.Record
import ApiDirectives.Table

/-!
# Where records go

Warnings and worse go to the console, and everything does when a run is verbose. A log file takes
everything, each record with its time.
-/

namespace ApiDirectives

/-- What was asked for: everything on the console, a log file. -/
structure LogSetup where
  verbose : Bool := false
  toFile : Bool := false
  deriving Repr, DecidableEq, Inhabited

namespace LogSetup

/-- The least level of records on the console. -/
def consoleLevel (s : LogSetup) : Level := if s.verbose then .debug else .warning

/-- The least level of records that are kept at all. -/
def level (s : LogSetup) : Level := if s.toFile then .debug else s.consoleLevel

/-- How many places records go to. -/
def sinks (s : LogSetup) : Nat := if s.toFile then 2 else 1

end LogSetup

/-- Whether a record is of a level or worse. -/
def Record.reaches (r : Record) (level : Level) : Bool := level.rank ≤ r.level.rank

/-- The name of the log that all stages share. -/
def sharedLog : String := "bangspec"

/-- The log of a record: that of its stage, below the shared one, or the shared one itself. -/
def Record.log (r : Record) : String :=
  match r.stage with
  | none | some "" => sharedLog
  | some stage => sharedLog ++ "." ++ stage

/-- The stage that a log is of: its name below the shared one, or the main stage. -/
def stageOfLog (log : String) : String :=
  match Text.dropLiteral? (sharedLog ++ ".").toList log.toList with
  | some stage => String.ofList stage
  | none => "main"

/-- The stage as it is shown. -/
def Record.stageName (r : Record) : String := stageOfLog r.log

/-- A record on the console. -/
def Record.consoleLine (r : Record) : String :=
  "[bangspec:" ++ r.stageName ++ "] " ++ r.level.name ++ " " ++ r.text ++ "\n"

/-- A record in a file, behind its time. -/
def Record.fileLine (time : String) (r : Record) : String :=
  time ++ " " ++ r.level.name ++ " " ++ r.stageName ++ ": " ++ r.text ++ "\n"

/-- What the console shows of some records. -/
def LogSetup.console (s : LogSetup) (records : List Record) : String :=
  String.join ((records.filter (·.reaches s.consoleLevel)).map Record.consoleLine)

/-- What a log file holds of some records. -/
def logText (time : String) (records : List Record) : String :=
  String.join ((records.filter (·.reaches .debug)).map (Record.fileLine time))

/-! ## Steps -/

/-- A step that sets up where records go, and the records of that step. -/
structure LogStep where
  verbose : Bool := false
  file : Option FilePath := none
  records : List Record := []
  deriving Repr, DecidableEq, Inhabited

/-- What the step asks for. -/
def LogStep.setup (s : LogStep) : LogSetup := ⟨s.verbose, s.file.isSome⟩

/-- What the console shows of a step. -/
def LogStep.console (s : LogStep) : String := s.setup.console s.records

/-- Adds the records of a step to its log file, if it has one. -/
def LogStep.store (time : String) (files : Table FilePath String) (s : LogStep) :
    Table FilePath String :=
  match s.file with
  | none => files
  | some path => files.put path ((files.get? path).getD "" ++ logText time s.records)

/-- The log files after some steps. -/
def logFiles (time : String) (steps : List LogStep) : Table FilePath String :=
  steps.foldl (LogStep.store time) []

end ApiDirectives
