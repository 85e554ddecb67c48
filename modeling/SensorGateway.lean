import SensorGateway.Bluetooth.Link
import SensorGateway.Bluetooth.Scripted
import SensorGateway.Bus.ConfiguredSink
import SensorGateway.Bus.Interleaving
import SensorGateway.Bus.Publisher
import SensorGateway.Config.Reader
import SensorGateway.Daemon.Directory
import SensorGateway.Daemon.Program
import SensorGateway.Gateway.Crowd
import SensorGateway.Gateway.Schedule
import SensorGateway.Json.Printer
import SensorGateway.Json.Reader
import SensorGateway.Log.Filter
import SensorGateway.Main
import SensorGateway.Proofs.Bus.Ledger
import SensorGateway.Proofs.Bus.Staleness
import SensorGateway.Proofs.Gateway.EventFeed
import SensorGateway.Proofs.Gateway.Disconnect
import SensorGateway.Proofs.Wire.Format
import SensorGateway.Proofs.Wire.Recovery
import SensorGateway.Proofs.Wire.Segmentation
import SensorGateway.Session.Device
import SensorGateway.Wire.Command
import SensorGateway.Wire.Reassembler
import SensorGateway.Proofs.Bus.Accounting
import SensorGateway.Proofs.Session.LastReports
import SensorGateway.Proofs.Session.LowBattery
import SensorGateway.Proofs.Session.Stream
import SensorGateway.Proofs.Gateway.Proceeding
import SensorGateway.Proofs.Gateway.Journal
import SensorGateway.Proofs.Gateway.Tracking
import SensorGateway.Proofs.Gateway.Isolation
import SensorGateway.Proofs.Gateway.Overlap
import SensorGateway.Proofs.Session.LastReading
import SensorGateway.Proofs.Daemon.TankScan
import SensorGateway.Proofs.Guarded.Session
import SensorGateway.Proofs.Daemon.Attempt
import SensorGateway.Proofs.Bus.Warnings
import SensorGateway.Proofs.Bus.LineFraming
import SensorGateway.Proofs.Bluetooth.Protocol
import SensorGateway.Proofs.Config.WellFormed
import SensorGateway.Proofs.Wire.Delay
import SensorGateway.Proofs.Wire.Detection
import SensorGateway.Proofs.Session.Undecoded
import SensorGateway.Proofs.Wire.Command
import SensorGateway.Proofs.Session.Echo
import SensorGateway.Proofs.Tank.Spelling
import SensorGateway.Proofs.Gateway.Failure
import SensorGateway.Proofs.Battery.Hardware
import SensorGateway.Proofs.Battery.Cells
import SensorGateway.Proofs.Tank.Layout
import SensorGateway.Proofs.Tank.Lookup
import SensorGateway.Proofs.Tank.Filling
import SensorGateway.Proofs.Telemetry.Series
import SensorGateway.Proofs.Telemetry.Payload
import SensorGateway.Proofs.Battery.Name
