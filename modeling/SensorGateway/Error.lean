import SensorGateway.Config.Fault

/-!
# Errors of the gateway
-/

namespace SensorGateway

/-- What can go wrong outside the program. -/
inductive IoFault
  | noSuchFile
  | isDirectory
  /-- A file where a path goes on. -/
  | notDirectory
  /-- A path, or a name in it, with too many bytes. -/
  | nameTooLong
  /-- A file that is not UTF-8. -/
  | notText
  | unreachable
  | refused
  | brokenPipe
  /-- A network address without a socket number. -/
  | invalidAddress
  /-- A network address with an impossible socket number. -/
  | invalidSocketNumber
  /-- Anything else, in the words of the system. -/
  | other (text : String)
  deriving DecidableEq, Repr

/-- The wording of a fault, with the number of the operating system where it comes from there. -/
def IoFault.message : IoFault → String
  | noSuchFile => "No such file or directory (os error 2)"
  | isDirectory => "Is a directory (os error 21)"
  | notDirectory => "Not a directory (os error 20)"
  | nameTooLong => "File name too long (os error 36)"
  | notText => "stream did not contain valid UTF-8"
  | unreachable => "Network is unreachable (os error 101)"
  | refused => "Connection refused (os error 111)"
  | brokenPipe => "Broken pipe (os error 32)"
  | invalidAddress => "invalid socket address"
  | invalidSocketNumber => "invalid port value"
  | other text => text

/-- Why a payload was not delivered. -/
inductive PublishFault
  /-- Nobody takes deliveries any more. -/
  | receiverDropped
  /-- The bus does not take deliveries at the moment. -/
  | busDown
  /-- A text that is not JSON. -/
  | malformed
  deriving DecidableEq, Repr

/-- The wording of a publish fault. -/
def PublishFault.message : PublishFault → String
  | receiverDropped => "receiver dropped"
  | busDown => "bus down"
  | malformed => "malformed JSON"

/-- An error of the gateway. -/
inductive Error
  | io (fault : IoFault)
  /-- The configuration is not TOML, or not of the expected form. -/
  | config
  | invalid (fault : ConfigFault)
  | publish (fault : PublishFault)
  /-- The session that was addressed has stopped. -/
  | sessionClosed
  | unknownDevice (id : String)
  deriving DecidableEq, Repr

/-- The wording of an error. -/
def Error.message : Error → String
  | io fault => "I/O error: " ++ fault.message
  | config => "Config parse error"
  | invalid fault => "Invalid configuration: " ++ fault.message
  | publish fault => "Publish error: " ++ fault.message
  | sessionClosed => "Session closed"
  | unknownDevice id => "Unknown device: " ++ id

end SensorGateway
