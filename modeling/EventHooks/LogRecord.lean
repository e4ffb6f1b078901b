/-!
# Log records

The program reports what it does in records, each with a level and the part of the program that
speaks. A threshold drops the records below it.
-/
namespace EventHooks

/-- How grave a record is. -/
inductive LogLevel
  | debug
  | info
  | warning
  | error
  deriving DecidableEq, Repr

/-- The part of the program that speaks. -/
inductive LogSource
  | process
  | dispatcher
  | settings
  | commandLine
  deriving DecidableEq, Repr

/-- A log record. -/
structure LogRecord where
  level : LogLevel
  source : LogSource
  message : String
  deriving DecidableEq, Repr

namespace LogLevel

/-- Every level, the least grave first. -/
def all : List LogLevel := [.debug, .info, .warning, .error]

/-- The name of a level. -/
def name : LogLevel → String
  | .debug => "DEBUG"
  | .info => "INFO"
  | .warning => "WARNING"
  | .error => "ERROR"

/-- The level with a name. -/
def ofName? (name : String) : Option LogLevel :=
  all.find? (·.name == name)

/-- The place of a level in the order. -/
def rank : LogLevel → Nat
  | .debug => 0
  | .info => 1
  | .warning => 2
  | .error => 3

/-- Whether records of a level pass a threshold. -/
def passes (level threshold : LogLevel) : Bool :=
  threshold.rank ≤ level.rank

end LogLevel

/-- The name of a source. -/
def LogSource.name : LogSource → String
  | .process => "playerhook.process"
  | .dispatcher => "playerhook.dispatcher"
  | .settings => "playerhook.settings"
  | .commandLine => "playerhook.__main__"

/-- A record on one line. -/
def LogRecord.shown (record : LogRecord) : String :=
  s!"{record.level.name} {record.source.name}: {record.message}"

end EventHooks
