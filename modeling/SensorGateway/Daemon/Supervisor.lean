import SensorGateway.Daemon.Station

/-!
# Keeping a battery connected

A supervisor makes one attempt after another to have a battery connected.  An attempt opens a session
at the gateway, establishes a link and lets it work for as long as it does; then the session is
closed, and after a pause the next attempt begins.

The attempt waits for its clock and for the battery.  It is therefore cut into pieces, each of which
goes on until there is something to wait for.
-/

namespace SensorGateway

open Bluetooth

/-- Why an attempt has ended. -/
inductive AttemptError
  | gateway (error : Error)
  | link (error : LinkError)
  deriving DecidableEq, Repr

/-- The wording of an error. -/
def AttemptError.message : AttemptError → String
  | gateway e => e.message
  | link e => e.message

/-- How far an attempt is. -/
inductive Attempt
  /-- The link works for a session. -/
  | working (link : Link) (task : Nat)
  | finished (result : Except AttemptError Unit)

namespace Attempt

variable {ρ σ : Type} [Radio ρ] [TopicSink σ]

/-- Goes on after the link has done something.  A link that is over is stopped; that this may fail
does not matter. -/
def after (task : Nat) (link : Link) : Link.Progress → StateM (Station ρ σ) Attempt
  | .running link => return .working link task
  | .over result => do
      let _ ← link.stop
      return .finished (result.mapError .link)

/-- Opens a session and a link. -/
def start (b : BatteryConfig) : StateM (Station ρ σ) Attempt := do
  match ← Station.onGateway (·.connect b.id) with
  | .error e => return .finished (.error (.gateway e))
  | .ok task =>
      match ← (Link.establish b.bleName).run with
      | .error e => return .finished (.error (.link e))
      | .ok link => after task link (← link.start)

/-- Lets the link react. -/
def react (link : Link) (task : Nat) (s : Link.Stimulus) : StateM (Station ρ σ) Attempt := do
  after task link (← link.react (Station.deliver task) s)

/-- How long the pause between two attempts is, in seconds. -/
def pause : Nat := 10

/-- Closes the session. -/
def conclude (b : BatteryConfig) (result : Except AttemptError Unit) :
    StateM (Station ρ σ) Unit := do
  let _ ← Station.onGateway (·.disconnect b.id)
  match result with
  | .ok () => return ()
  | .error e =>
      Station.log [{
        level := .warn
        source := .main
        message := s!"{b.id}: {e.message}, retrying in {pause}s" }]

end Attempt

/-! ## A supervisor and its clock

Time is counted in half milliseconds, so that half a poll interval is a whole number. -/

/-- What a supervisor waits for. -/
inductive Waiting
  /-- The next attempt. -/
  | pause
  /-- The end of a search that finds nothing. -/
  | search (error : LinkError)
  /-- The next tick of a link. -/
  | tick (link : Link) (task : Nat)

/-- A supervisor. -/
structure Supervisor where
  battery : BatteryConfig
  waiting : Waiting := .pause
  /-- When it has been waiting for long enough. -/
  due : Nat := 0

namespace Supervisor

/-- So many seconds. -/
def seconds (n : Nat) : Nat := 2000 * n

/-- How long a battery is looked for. -/
def searchTime : Nat := seconds 30

variable {ρ σ : Type} [Radio ρ] [TopicSink σ]

/-- Goes on with an attempt, which has something to do next at `due` if it has not finished. -/
def resume (s : Supervisor) (now due : Nat) : Attempt → StateM (Station ρ σ) Supervisor
  | .working link task => return { s with waiting := .tick link task, due }
  | .finished result => do
      Attempt.conclude s.battery result
      return { s with waiting := .pause, due := now + seconds Attempt.pause }

/-- Does what is due. -/
def serve (s : Supervisor) (now : Nat) : StateM (Station ρ σ) Supervisor :=
  match s.waiting with
  | .pause => do
      match ← Attempt.start s.battery with
      | .finished (.error (.link (.notFound name))) =>
          return { s with waiting := .search (.notFound name), due := now + searchTime }
      | attempt => s.resume now now attempt
  | .search error => s.resume now now (.finished (.error (.link error)))
  | .tick link task => do
      s.resume now (s.due + s.battery.pollIntervalMs) (← Attempt.react link task .tick)

/-- Takes what has come from the battery, if anything has. -/
def hear (s : Supervisor) (now : Nat) : StateM (Station ρ σ) (Option Supervisor) :=
  match s.waiting with
  | .tick link task => do
      match ← (Radio.notice link.device : StateM (Station ρ σ) (Option Notice)) with
      | none => return none
      | some notice => return some (← s.resume now s.due (← Attempt.react link task (.notice notice)))
  | _ => return none

end Supervisor

end SensorGateway
