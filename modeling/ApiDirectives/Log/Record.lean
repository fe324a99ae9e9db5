/-!
# Log records

Each stage of a run notes what it does. A record has the stage it comes from, a level and a text.
-/

namespace ApiDirectives

/-- How important a record is: the greater the rank, the more. -/
structure Level where
  rank : Int
  deriving Repr, DecidableEq, Inhabited

namespace Level

def debug : Level := ⟨10⟩

def info : Level := ⟨20⟩

def warning : Level := ⟨30⟩

def error : Level := ⟨40⟩

def critical : Level := ⟨50⟩

/-- The word for a level; one that has none is shown by its rank. -/
def name (l : Level) : String :=
  match l.rank with
  | 0 => "NOTSET"
  | 10 => "DEBUG"
  | 20 => "INFO"
  | 30 => "WARNING"
  | 40 => "ERROR"
  | 50 => "CRITICAL"
  | rank => "Level " ++ toString rank

end Level

/-- A record; the main stage has no name of its own. -/
structure Record where
  stage : Option String
  level : Level
  text : String
  deriving Repr, DecidableEq, Inhabited

/-- A debug record of a stage. -/
def note (stage text : String) : Record := ⟨some stage, .debug, text⟩

end ApiDirectives
