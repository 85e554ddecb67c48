import SensorGateway.Bus.LineSink
import SensorGateway.Bus.Sinks
import SensorGateway.Config.Basic

/-!
# The sink of a configuration
-/

namespace SensorGateway

/-- A sink of one of the kinds that can be configured. -/
inductive ConfiguredSink (ν : Type)
  | log (sink : LogSink)
  | lines (sink : LineSink ν)

namespace ConfiguredSink

variable {ν : Type}

/-- The sink that a configuration asks for, in a given network. -/
def ofConfig (config : SinkConfig) (network : ν) : ConfiguredSink ν :=
  match config with
  | .log => .log {}
  | .tcp address => .lines (.new address network)

instance [Network ν] : TopicSink (ConfiguredSink ν) where
  offer
    | .log sink, d =>
        let o := TopicSink.offer sink d
        { sink := .log o.sink, reception := o.reception, logs := o.logs }
    | .lines sink, d =>
        let o := TopicSink.offer sink d
        { sink := .lines o.sink, reception := o.reception, logs := o.logs }

end ConfiguredSink

end SensorGateway
