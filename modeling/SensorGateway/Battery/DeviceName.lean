import SensorGateway.Text.Parts
import SensorGateway.Text.Utf8

/-!
# The name of a battery

The answer to the name request is text, filled up with zero bytes.
-/

namespace SensorGateway.DeviceName

/-- The name in a payload: first the zeros at the end go, then the blanks on both sides. -/
def decode (payload : Bytes) : String :=
  .ofList (Text.trim (Text.dropEnd (· == '\x00') (Utf8.decodeLossy payload)))

end SensorGateway.DeviceName
