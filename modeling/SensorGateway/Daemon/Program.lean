import SensorGateway.Bus.ConfiguredSink
import SensorGateway.Daemon.Run

/-!
# The program

From the words of the command line to the lines that are shown and the exit code.
-/

namespace SensorGateway.Program

open Bluetooth

/-- What a run has shown. -/
structure Exit (ρ : Type) where
  /-- Whether all went well. -/
  code : UInt8
  /-- The lines in order. -/
  lines : List String
  /-- The radio, if it was used. -/
  radio : Option ρ

/-- What is around the program. -/
structure Surroundings (ρ ν : Type) where
  files : Startup.Files
  /-- The radio, if there is one. -/
  radio : Option ρ
  network : ν
  time : Instant

/-- The exit code of a program that could not be built up: nothing is said of it in the log. -/
def crashed : UInt8 := 101

/-- What is shown when the program cannot go on. -/
def failure (text : String) : String := "Error: " ++ text

variable {ρ ν : Type}

/-- The lines of a log that are shown. -/
def shown (config : Config) (logs : List Log.Entry) : List String :=
  ((Startup.filter config).apply logs).map Log.Entry.text

variable [Radio ρ] [Network ν]

/-- Runs the program until it is told to stop, which is decided by the lines shown so far, or for so
many turns. -/
def run (around : Surroundings ρ ν) (words : List String) (isStopped : List String → Bool)
    (fuel : Nat) : Exit ρ :=
  let path := CommandLine.configPath words
  match Startup.load around.files path with
  | .error e => { code := 1, lines := [failure (Startup.refusal path e)], radio := none }
  | .ok config =>
      let opening := shown config (Startup.announcement path config)
      if Publisher.capacityLimit < config.publisher.queueCapacity then
        { code := crashed, lines := opening, radio := none }
      else
        match around.radio with
        | none =>
            { code := 1, lines := opening ++ [failure "Default adapter not found"], radio := none }
        | some radio =>
            let sink := ConfiguredSink.ofConfig config.publisher.sink around.network
            let lines (d : Daemon ρ (ConfiguredSink ν)) := opening ++ shown config d.station.logs
            let start := Daemon.new config radio sink around.time
            let d := (start.run (isStopped ∘ lines) fuel).shutdown
            { code := 0, lines := lines d, radio := some d.station.radio }

end SensorGateway.Program
