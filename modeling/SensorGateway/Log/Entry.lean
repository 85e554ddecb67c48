/-!
# Log lines

A log line has a level and comes from a part of the program.  Lines of lesser weight than
information are not kept.
-/

namespace SensorGateway.Log

/-- The weight of a log line. -/
inductive Level
  | error
  | warn
  | info
  deriving DecidableEq, Repr

/-- The name of a level at the front of a line. -/
def Level.text : Level → String
  | error => "ERROR"
  | warn => "WARN"
  | info => "INFO"

/-- The part of the program that a line comes from. -/
inductive Source
  /-- The command line. -/
  | main
  /-- The publishing queue. -/
  | publisher
  /-- The device registry. -/
  | registry
  /-- The decoding sessions. -/
  | session
  /-- The Bluetooth link. -/
  | bluetooth
  deriving DecidableEq, Repr

/-- A log line. -/
structure Entry where
  level : Level
  source : Source
  message : String
  deriving DecidableEq, Repr

/-- A log line as it is shown. -/
def Entry.text (e : Entry) : String := e.level.text ++ " " ++ e.message

end SensorGateway.Log
