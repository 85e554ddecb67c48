import SensorGateway.Bluetooth.Scripted
import SensorGateway.Daemon.Program

/-!
# The command

The command runs the program with the words of the command line and the files of the system.  It has
no radio: a gateway that shall hear devices is given one by an application of the library.
-/

namespace SensorGateway.Program

/-- The fault that an error of the system is. -/
def faultOf : IO.Error → IoFault
  | .noFileOrDirectory .. => .noSuchFile
  | .inappropriateType .. => .isDirectory
  | e => .other e.toString

/-- The bytes of a file, or why it cannot be read. -/
def readBytes (path : String) : IO (Except IoFault Bytes) := do
  try
    return .ok (← IO.FS.readBinFile path).toList
  catch e => return .error (faultOf e)

/-- What the command has around it, for a configuration that has been read. -/
def surroundings (path : String) (content : Except IoFault Bytes) :
    Surroundings Bluetooth.ScriptedRadio Offline where
  files p := if p = path then content else .error .noSuchFile
  radio := none
  network := {}
  time := { seconds := 0, nanoseconds := 0 }

end SensorGateway.Program

open SensorGateway in
/-- Runs the program and shows its lines. -/
def main (words : List String) : IO UInt32 := do
  let path := CommandLine.configPath words
  let content ← Program.readBytes path
  let exit := Program.run (Program.surroundings path content) words (fun _ => true) 0
  for line in exit.lines do
    IO.eprintln line
  return exit.code.toUInt32
