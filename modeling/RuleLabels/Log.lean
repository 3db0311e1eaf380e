/-!
# Log

Messages with a level and the name of the part that sends them. A log keeps those that reach its
threshold.
-/

namespace RuleLabels

/-- The levels of messages. -/
inductive Level where
  | debug
  | info
  | warning
  | error
  | critical
  deriving DecidableEq

namespace Level

/-- The name of a level. -/
def name : Level → String
  | debug => "DEBUG"
  | info => "INFO"
  | warning => "WARNING"
  | error => "ERROR"
  | critical => "CRITICAL"

/-- The number of a level. -/
def number : Level → Nat
  | debug => 10
  | info => 20
  | warning => 30
  | error => 40
  | critical => 50

end Level

/-- What a name, in capitals, means as a threshold. -/
inductive Threshold where
  | number (n : Nat)
  | unknownName (s : String)
  | notALevel

namespace Threshold

/-- The thresholds that have names. -/
def named : List (String × Threshold) := [
  ("CRITICAL", .number 50), ("FATAL", .number 50), ("ERROR", .number 40), ("WARNING", .number 30),
  ("WARN", .number 30), ("INFO", .number 20), ("DEBUG", .number 10), ("NOTSET", .number 0),
  ("BASIC_FORMAT", .unknownName "%(levelname)s:%(name)s:%(message)s"), ("_STYLES", .notALevel)]

/-- The threshold of a name in capitals; one without a meaning is that of information. -/
def ofName (name : String) : Threshold := (named.lookup name).getD (.number 20)

end Threshold

/-- A message. -/
structure LogEntry where
  level : Level
  sender : String
  message : String

/-- The messages sent, the last one first, with the threshold that messages have to reach and the
number of outputs installed. Zero stands for the threshold of warnings. -/
structure Log where
  threshold : Nat
  outputs : Nat
  entries : List LogEntry

namespace Log

/-- A log of everything. -/
def everything : Log := ⟨10, 0, []⟩

instance : Inhabited Log := ⟨everything⟩

/-- A message reaches the threshold. -/
def admits (log : Log) (level : Level) : Bool :=
  (if log.threshold = 0 then 30 else log.threshold) ≤ level.number

/-- The log with a message sent. -/
def send (log : Log) (e : LogEntry) : Log :=
  if log.admits e.level then { log with entries := e :: log.entries } else log

/-- The log with a threshold and an output, of which one is enough. -/
def configure (log : Log) (threshold : Nat) : Log := { log with threshold, outputs := 1 }

end Log

end RuleLabels
