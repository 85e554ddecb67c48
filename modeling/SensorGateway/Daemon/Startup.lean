import SensorGateway.Config.Reader
import SensorGateway.Daemon.CommandLine
import SensorGateway.Log.Filter

/-!
# From the command line to a configuration

The files are a function, so that it does not matter here where they come from.
-/

namespace SensorGateway.Startup

/-- The bytes of each file that can be read. -/
abbrev Files := String → Except IoFault Bytes

/-- Reads the configuration at a path. -/
def load (files : Files) (path : String) : Except Error Config :=
  match files path with
  | .ok bytes => Config.ofBytes bytes
  | .error fault => .error (.io fault)

/-- What is said of a configuration that cannot be used. -/
def refusal (path : String) (error : Error) : String :=
  s!"Failed to load {path}: {error.message}"

/-- A line of the program itself. -/
def note (level : Log.Level) (message : String) : Log.Entry where
  level
  source := .main
  message

/-- What is said of a configuration that has been read. -/
def announcement (path : String) (config : Config) : List Log.Entry :=
  [note .info s!"Using config: {path}",
    note .info (s!"{config.batteries.length} BMS, "
      ++ s!"{config.tanks.length} tank sensors configured")]

/-- The lines that a configuration wants to be kept. -/
def filter (config : Config) : Log.Filter := .ofText config.logging.level

end SensorGateway.Startup
