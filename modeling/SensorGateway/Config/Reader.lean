import SensorGateway.Config.Validation
import SensorGateway.Number.Decimal
import SensorGateway.Text.Utf8
import SensorGateway.Toml.Reader

/-!
# Configurations from TOML

A structure is a table with its fields by name, or an array with its fields in the order in which
they are declared.  What is left out has a default; in an array that holds at the end only, and not
for fields that may be absent.  Integers serve as numbers with a fraction, not the other way round.
Keys that have no meaning are ignored, except at the top, where they are refused.
-/

namespace SensorGateway.Config

/-- The fields of a structure, by name or by position. -/
inductive Parts
  | named (entries : List (String × Toml))
  | listed (items : List Toml)

namespace Parts

/-- The fields of a value.  A date is a structure without any of the fields asked for. -/
def of? : Toml → Option Parts
  | .table entries => some (.named entries)
  | .array items => some (.listed items)
  | .dateTime => some (.named [])
  | _ => none

/-- The value of a field. -/
def find? (p : Parts) (position : Nat) (name : String) : Option Toml :=
  match p with
  | named entries => entries.lookup name
  | listed items => items[position]?

variable {α : Type}

/-- A field that has to be there. -/
def required (p : Parts) (position : Nat) (name : String) (read : Toml → Option α) : Option α := do
  read (← p.find? position name)

/-- A field with a default. -/
def defaulted (p : Parts) (position : Nat) (name : String) (read : Toml → Option α) (value : α) :
    Option α :=
  match p.find? position name with
  | some found => read found
  | none => some value

/-- A field that may be absent where fields have names. -/
def absentable (p : Parts) (position : Nat) (name : String) (read : Toml → Option α) :
    Option (Option α) :=
  match p.find? position name, p with
  | some found, _ => (read found).map some
  | none, named _ => some none
  | none, listed _ => none

end Parts

/-! ## Single values -/

/-- A text. -/
def text? : Toml → Option String
  | .string s => some s
  | _ => none

/-- A truth value. -/
def flag? : Toml → Option Bool
  | .boolean b => some b
  | _ => none

/-- A natural number below a limit. -/
def nat? (limit : Nat) : Toml → Option Nat
  | .integer n => if 0 ≤ n ∧ n < limit then some n.toNat else none
  | _ => none

/-- A number. -/
def number? : Toml → Option Float
  | .float x => some x
  | .integer n => some (Float.ofInt n)
  | _ => none

/-- The items of an array. -/
def list? {α : Type} (read : Toml → Option α) : Toml → Option (List α)
  | .array items => items.mapM read
  | _ => none

/-- A medium: its name, or a table with nothing but its name as a key for nothing. -/
def medium? : Toml → Option Medium
  | .string s => Medium.ofName? s
  | .table [(s, .table [])] => Medium.ofName? s
  | .table [(s, .array [])] => Medium.ofName? s
  | _ => none

/-! ## Structures -/

/-- What is logged. -/
def logging? (v : Toml) : Option LoggingConfig := do
  let p ← Parts.of? v
  return { level := ← p.defaulted 0 "level" text? "info" }

/-- Where payloads go: the kind comes first, or under its name. -/
def sink? : Toml → Option SinkConfig
  | .table entries => do
      match ← text? (← entries.lookup "type") with
      | "log" => return .log
      | "tcp" => return .tcp (← text? (← entries.lookup "address"))
      | _ => none
  | .array [.string "log"] => some .log
  | .array [.string "tcp", .string address] => some (.tcp address)
  | _ => none

/-- The publishing queue. -/
def publisher? (v : Toml) : Option PublisherConfig := do
  let p ← Parts.of? v
  return {
    queueCapacity := ← p.defaulted 0 "queue_capacity" (nat? (twoTo 64)) 64
    sink := ← p.defaulted 1 "sink" sink? .log
    suppressRepeats := ← p.defaulted 2 "suppress_repeats" flag? true }

/-- A battery. -/
def battery? (v : Toml) : Option BatteryConfig := do
  let p ← Parts.of? v
  return {
    id := ← p.required 0 "id" text?
    bleName := ← p.required 1 "ble_name" text?
    lowSocThreshold := (← p.absentable 2 "low_soc_threshold" (nat? 256)).map UInt8.ofNat
    topics := ← p.defaulted 3 "topics" (list? text?) []
    pollIntervalMs := ← p.defaulted 4 "poll_interval_ms" (nat? (twoTo 64)) 2000 }

/-- A tank sensor. -/
def tank? (v : Toml) : Option TankConfig := do
  let p ← Parts.of? v
  return {
    id := ← p.required 0 "id" text?
    macSuffix := ← p.required 1 "mac_suffix" text?
    medium := ← p.absentable 2 "medium" medium?
    heightOffsetIn := ← p.defaulted 3 "height_offset_in" number? 0
    topics := ← p.defaulted 4 "topics" (list? text?) [] }

/-- A calibration point: inches, gallons, and whatever follows. -/
def point? : Toml → Option (VolumePoint Float)
  | .array (inches :: gallons :: _) => do
      return { inches := ← number? inches, gallons := ← number? gallons }
  | _ => none

/-- Calibration points. -/
def volume? (v : Toml) : Option (List (VolumePoint Float)) := do
  let p ← Parts.of? v
  p.required 0 "points" (list? point?)

/-- The keys that may stand at the top. -/
def topKeys : List String := ["logging", "publisher", "bms", "tank", "volume"]

/-- The configuration that a table says. -/
def ofToml? (entries : List (String × Toml)) : Option Config := do
  if entries.any fun entry => !topKeys.contains entry.1 then none
  else
    let p := Parts.named entries
    return {
      logging := ← p.defaulted 0 "logging" logging? {}
      publisher := ← p.defaulted 1 "publisher" publisher? {}
      batteries := ← p.defaulted 2 "bms" (list? battery?) []
      tanks := ← p.defaulted 3 "tank" (list? tank?) []
      volume := ← p.absentable 4 "volume" volume? }

/-- The configuration written in a text, if it is accepted. -/
def parse (text : String) : Except Error Config :=
  match (Toml.parse? text).bind ofToml? with
  | none => .error .config
  | some c =>
      match c.validate with
      | .ok () => .ok c
      | .error fault => .error (.invalid fault)

/-- The configuration in the bytes of a file. -/
def ofBytes (bytes : Bytes) : Except Error Config :=
  match Utf8.decode? bytes with
  | none => .error (.io .notText)
  | some cs => parse (.ofList cs)

end SensorGateway.Config
