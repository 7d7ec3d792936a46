import Reckoner.Text.Quoted
import Reckoner.Text.Uppercase

/-!
# Log records

Every activity tells what it did as a list of records, in order. A logger shows the records that
reach its level.
-/

namespace Reckoner.Log

/-- How grave a record is. -/
inductive Level where
  /-- Below every record; a logger set to it takes the level of the whole program, a warning. -/
  | notset
  /-- A detail. -/
  | debug
  /-- A step of the normal course. -/
  | info
  /-- Something unexpected. -/
  | warning
  /-- A failed activity. -/
  | error
  /-- A failure of the program. -/
  | critical
  deriving DecidableEq, Repr

namespace Level

/-- The number of a level. -/
def number : Level → Nat
  | .notset => 0
  | .debug => 10
  | .info => 20
  | .warning => 30
  | .error => 40
  | .critical => 50

/-- The name of a level. -/
def name : Level → String
  | .notset => "NOTSET"
  | .debug => "DEBUG"
  | .info => "INFO"
  | .warning => "WARNING"
  | .error => "ERROR"
  | .critical => "CRITICAL"

/-- The level of an upper-case name; two levels have a second name. -/
def ofName? (name : String) : Option Level :=
  if name = "FATAL" then some .critical
  else if name = "WARN" then some .warning
  else
    [Level.critical, .error, .warning, .info, .debug, .notset].find? fun level =>
      level.name == name

end Level

/-- What an activity tells. -/
structure Record where
  /-- How grave it is. -/
  level : Level
  /-- The words. -/
  message : String
  deriving DecidableEq, Repr

/-- A record of the normal course. -/
def info (message : String) : Record := ⟨.info, message⟩

/-- A record of a failed activity. -/
def error (message : String) : Record := ⟨.error, message⟩

/-- The line of a record. -/
def Record.line (record : Record) : String :=
  record.level.name ++ " | MainProcess | " ++ record.message

/-- A name that is no level, in upper case. -/
structure UnknownLevel where
  /-- The name. -/
  name : String
  deriving DecidableEq, Repr

/-- The words for a name that is no level. -/
def UnknownLevel.message (unknown : UnknownLevel) : String :=
  "Unknown level: " ++ Text.quote unknown.name

/-- The name of the program's logger. -/
def loggerName : String := "calcnote"

/-- A logger: its level alone changes. -/
structure Logger where
  /-- The level that was set. -/
  level : Level
  deriving DecidableEq, Repr

namespace Logger

/-- The logger of a program that was not configured. -/
def initial : Logger := ⟨.info⟩

/-- A logger of a named level; the case of the name does not matter. -/
def ofName (name : String) : Except UnknownLevel Logger :=
  match Level.ofName? (Text.upper name) with
  | some level => .ok ⟨level⟩
  | none => .error ⟨Text.upper name⟩

/-- The least level that a logger shows. -/
def threshold (logger : Logger) : Level :=
  if logger.level = .notset then .warning else logger.level

/-- The lines of the records that a logger shows. -/
def lines (logger : Logger) (records : List Record) : List String :=
  (records.filter fun record => logger.threshold.number ≤ record.level.number).map Record.line

end Logger

end Reckoner.Log
