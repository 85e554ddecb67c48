import SensorGateway.Error
import SensorGateway.Json.Printer
import SensorGateway.Log.Entry

/-!
# Deliveries and where they go

A delivery is a payload for a topic.  A sink takes deliveries one at a time; it may fail to take one,
which loses that delivery, it may have no room at the moment, and it may break down for good.
-/

namespace SensorGateway

/-- A payload for a topic. -/
structure Delivery where
  topic : String
  payload : Json
  deriving BEq

/-- The text of a delivery: topic and payload, in this order. -/
def Delivery.text (d : Delivery) : String :=
  "\x7b\"topic\":" ++ Json.quoted d.topic ++ ",\"payload\":" ++ d.payload.text ++ "\x7d"

/-- How a sink answers to a delivery. -/
inductive Reception
  | accepted
  /-- The delivery is lost. -/
  | failed (error : Error)
  /-- There is no room at the moment. -/
  | blocked
  /-- The sink takes nothing any more, not even this. -/
  | broken
  deriving DecidableEq, Repr

/-- A sink after it has been offered a delivery. -/
structure Offered (σ : Type) where
  sink : σ
  reception : Reception
  logs : List Log.Entry

/-- Destinations of deliveries. -/
class TopicSink (σ : Type) where
  /-- Offers a delivery. -/
  offer : σ → Delivery → Offered σ

end SensorGateway
