import ApiDirectives.Log.Sink

/-!
# The shared log

A process sets its log up again and again, and each set-up takes the handlers of the one before away.
The stages have logs of their own, which write nothing: a record goes up the names above its log, from
dot to dot, until it comes to the shared log, and the handlers of that write it. A record that comes
past the shared log is shown by itself, if it is a warning or worse.
-/

namespace ApiDirectives

/-! ## Names -/

/-- Whether the way up from a log leads to the shared one. The name is read backwards: what stands
before a dot is the name of a log above, and the nearest such log that is in use goes on from there. If
it is not in use, the character before the dot is passed over, be it another dot. -/
def leadsToShared (used : List String) : List Char → Bool
  | '.' :: c :: r =>
    let above := String.ofList (c :: r).reverse
    if above = sharedLog then true
    else if used.contains above then leadsToShared used (c :: r)
    else leadsToShared used r
  | _ :: r => leadsToShared used r
  | [] => false

/-! ## Handlers -/

/-- A place that records are written to. -/
inductive Sink where
  | console
  | file (path : FilePath)
  deriving Repr, DecidableEq, Inhabited

/-- What a record is in a place. -/
def Record.line (r : Record) (time : String) : Sink → String
  | .console => r.consoleLine
  | .file _ => r.fileLine time

/-- A handler writes the records of a level or worse to a place. -/
structure Handler where
  sink : Sink
  level : Level
  deriving Repr, DecidableEq, Inhabited

/-- A log: the least level of the records that it lets through, and its handlers. One that was never
set up lets warnings through and has no handlers. -/
structure Logger where
  level : Level := .warning
  handlers : List Handler := []
  deriving Repr, DecidableEq, Inhabited

namespace Logger

/-- Takes a handler away. -/
def remove (l : Logger) (h : Handler) : Logger := { l with handlers := l.handlers.erase h }

/-- Adds a handler. -/
def add (l : Logger) (h : Handler) : Logger := { l with handlers := l.handlers ++ [h] }

/-- Sets a log up as a step asks for. -/
def configure (l : Logger) (s : LogStep) : Logger :=
  let cleared := l.handlers.foldl remove { l with level := s.setup.level }
  let shown := cleared.add ⟨.console, s.setup.consoleLevel⟩
  match s.file with
  | none => shown
  | some path => shown.add ⟨.file path, .debug⟩

end Logger

/-! ## Processes -/

/-- What a process has logged so far. -/
structure Logging where
  /-- The shared log. -/
  logger : Logger := {}
  /-- The names of the logs in use. -/
  used : List String := []
  err : String := ""
  files : Table FilePath String := []
  deriving Repr, Inhabited

namespace Logging

/-- Adds text at the end of a place. A file that is not there is made. -/
def add (l : Logging) (sink : Sink) (text : String) : Logging :=
  match sink with
  | .console => { l with err := l.err ++ text }
  | .file path => { l with files := l.files.put path ((l.files.get? path).getD "" ++ text) }

/-- Sets the shared log up as a step asks for, and opens its file. -/
def configure (l : Logging) (s : LogStep) : Logging :=
  let configured := { l with logger := l.logger.configure s }
  match s.file with
  | none => configured
  | some path => configured.add (.file path) ""

/-- What a handler does with a record. -/
def handle (time : String) (r : Record) (l : Logging) (h : Handler) : Logging :=
  if r.reaches h.level then l.add h.sink (r.line time h.sink) else l

/-- What is done with a record that has come to no handler. -/
def fallBack (l : Logging) (r : Record) : Logging :=
  if r.reaches .warning then l.add .console (r.text ++ "\n") else l

/-- Whether a record comes to the shared log. -/
def hears (l : Logging) (r : Record) : Bool :=
  r.log = sharedLog || leadsToShared l.used r.log.toList.reverse

/-- Logs a record. -/
def log (time : String) (l : Logging) (r : Record) : Logging :=
  let logger := if l.hears r then l.logger else {}
  let l := { l with used := r.log :: l.used }
  if r.reaches logger.level then
    if logger.handlers.isEmpty then l.fallBack r
    else logger.handlers.foldl (handle time r) l
  else l

/-- Takes a step: sets the shared log up and logs the records. -/
def step (time : String) (l : Logging) (s : LogStep) : Logging :=
  s.records.foldl (log time) (l.configure s)

/-- Takes some steps. -/
def run (time : String) (l : Logging) (steps : List LogStep) : Logging :=
  steps.foldl (step time) l

end Logging

end ApiDirectives
