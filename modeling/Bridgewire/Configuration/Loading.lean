import Bridgewire.Configuration
import Bridgewire.Number

/-!
# Loading the configuration

`load_configuration` on a document as `tomllib` reads it. A TOML integer is of
any size, a TOML float may be `nan` or infinite, and `float()` of an integer
out of its range raises an `OverflowError`.
-/

namespace Bridgewire

/-- A TOML value, as far as the loader can tell values apart. -/
inductive Toml
  | string (value : String)
  | integer (value : Int)
  | float (value : Number)
  | boolean (value : Bool)
  | dateTime
  | array (items : List Toml)
  | table (entries : List (String × Toml))

namespace Loading

abbrev Table : Type := List (String × Toml)

def Table.get (table : Table) (name : String) : Option Toml := table.lookup name

/-- The exceptions that can arise, by what the `except` clauses tell apart. -/
inductive LoadingError
  | configurationError (message : String)
  /-- Any other `ValueError`, `TOMLDecodeError` and `UnicodeDecodeError` included. -/
  | valueError (message : String)
  | osError (message : String)
  | overflowError (message : String)
  /-- Any other exception: a `RecursionError` of `tomllib` on a document that nests too deeply. -/
  | otherError (message : String)
  deriving DecidableEq, Repr

abbrev Loads (α : Type) : Type := Except LoadingError α

-- ---------------------------------------------------------------------------
-- Typed readings
-- ---------------------------------------------------------------------------

/-- From here on the nearest double would be `2 ** 1024`. -/
def floatBound : Nat := 2 ^ 1024 - 2 ^ 970

/-- `float(value)` of an integer. -/
def float (value : Int) : Loads Number :=
  if floatBound ≤ value.natAbs then .error (.overflowError "int too large to convert to float")
  else .ok (.finite value)

def invalidType (name : String) : LoadingError := .configurationError (name ++ " has invalid type")

def table (parent : Table) (name : String) : Loads Table :=
  match parent.get name with
  | some (.table entries) => .ok entries
  | _ => .error (.configurationError (name ++ " must be a table"))

/-- A section that may be left out. -/
def tableOr (parent : Table) (name : String) (default : Table) : Loads Table :=
  match parent.get name with
  | none => .ok default
  | some (.table entries) => .ok entries
  | some _ => .error (.configurationError (name ++ " must be a table"))

def integer (table : Table) (name : String) : Loads Int :=
  match table.get name with
  | some (.integer value) => .ok value
  | _ => .error (invalidType name)

def number (table : Table) (name : String) : Loads Number :=
  match table.get name with
  | some (.integer value) => float value
  | some (.float value) => .ok value
  | _ => .error (invalidType name)

def string (table : Table) (name : String) : Loads String :=
  match table.get name with
  | some (.string value) => .ok value
  | _ => .error (invalidType name)

def boolean (table : Table) (name : String) : Loads Bool :=
  match table.get name with
  | some (.boolean value) => .ok value
  | _ => .error (invalidType name)

def optionalInteger (table : Table) (name : String) : Loads (Option Int) :=
  match table.get name with
  | none => .ok none
  | some (.integer value) => .ok (some value)
  | some _ => .error (invalidType name)

def optionalString (table : Table) (name : String) : Loads (Option String) :=
  match table.get name with
  | none => .ok none
  | some (.string value) => .ok (some value)
  | some _ => .error (invalidType name)

/-- `read(table, name) if name in table else default`. -/
def orDefault {α : Type} (read : Table → String → Loads α) (table : Table) (name : String) (default : α) :
    Loads α :=
  if (table.get name).isSome then read table name else .ok default

/-- `str.isspace` of one character. -/
def isSpace (c : Char) : Bool :=
  ('\t' ≤ c && c ≤ '\r') || ('\x1c' ≤ c && c ≤ ' ') || c == '\u0085' || c == '\u00a0' ||
    c == '\u1680' || ('\u2000' ≤ c && c ≤ '\u200a') || c == '\u2028' || c == '\u2029' ||
    c == '\u202f' || c == '\u205f' || c == '\u3000'

/-- `str.strip()`. -/
def strip (text : String) : String :=
  String.ofList (((text.toList.dropWhile isSpace).reverse.dropWhile isSpace).reverse)

-- ---------------------------------------------------------------------------
-- The sections
-- ---------------------------------------------------------------------------

structure SerialConfiguration where
  baudRate : Int
  dataBits : Int
  parity : String
  stopBits : Int
  timeoutSeconds : Number
  maximumRecordBytes : Int
  deriving DecidableEq

structure GpioConfiguration where
  numbering : String
  channel : Int
  normalHigh : Bool
  releaseHigh : Bool
  releaseSeconds : Number
  deriving DecidableEq

/-- Bounds that the constructor accepts. -/
structure BackoffPolicy where
  minimum : Number
  maximum : Number
  jitter : Number
  bounds : ¬(minimum ≤ 0 ∨ maximum < minimum)
  jitter_range : 0 ≤ jitter ∧ jitter ≤ 1

/-- Thresholds and windows that the constructor accepts. -/
structure EscalationPolicy where
  warningCount : Int
  warningWindow : Number
  criticalCount : Int
  criticalWindow : Number
  resetAfter : Number
  thresholds : ¬(warningCount ≤ 0 ∨ criticalCount ≤ warningCount)
  windows : ¬(warningWindow ≤ 0 ∨ criticalWindow < warningWindow ∨ resetAfter ≤ 0)

structure ApiConfiguration where
  enabled : Bool := false
  host : String := "127.0.0.1"
  port : Int := 8080
  maxEventPageSize : Int := 100
  operationalSnapshotStaleAfterSeconds : Number := 10
  deriving DecidableEq

/-- A `SystemConfiguration` whose numbers are any that TOML can write. -/
structure Configuration where
  readerIdentity : ReaderIdentity
  serial : SerialConfiguration
  gpio : GpioConfiguration
  backoff : BackoffPolicy
  escalation : EscalationPolicy
  relay : RelayConfiguration
  api : ApiConfiguration

def ReaderIdentity.construct (byIdPath : Option String) (vid pid : Option Int)
    (serialNumber manufacturer product : Option String) : Loads ReaderIdentity :=
  if h : byIdPath = none ∧ (vid = none ∨ pid = none) then
    .error (.valueError "reader identity requires by-id path or VID/PID")
  else .ok ⟨byIdPath, vid, pid, serialNumber, manufacturer, product, h⟩

def BackoffPolicy.construct (minimum maximum jitter : Number) : Loads BackoffPolicy :=
  if hbounds : minimum ≤ 0 ∨ maximum < minimum then .error (.valueError "invalid backoff bounds")
  else if hjitter : ¬(0 ≤ jitter ∧ jitter ≤ 1) then
    .error (.valueError "jitter must be between zero and one")
  else .ok ⟨minimum, maximum, jitter, hbounds, not_not.mp hjitter⟩

def EscalationPolicy.construct (warningCount : Int) (warningWindow : Number) (criticalCount : Int)
    (criticalWindow resetAfter : Number) : Loads EscalationPolicy :=
  if hthresholds : warningCount ≤ 0 ∨ criticalCount ≤ warningCount then
    .error (.valueError "escalation thresholds must be positive and increasing")
  else if hwindows : warningWindow ≤ 0 ∨ criticalWindow < warningWindow ∨ resetAfter ≤ 0 then
    .error (.valueError "escalation windows must be positive and ordered")
  else .ok ⟨warningCount, warningWindow, criticalCount, criticalWindow, resetAfter, hthresholds, hwindows⟩

def readIdentity (reader : Table) : Loads ReaderIdentity := do
  let byIdPath ← optionalString reader "by_id_path"
  let vid ← optionalInteger reader "vid"
  let pid ← optionalInteger reader "pid"
  let serialNumber ← optionalString reader "serial_number"
  let manufacturer ← optionalString reader "manufacturer"
  let product ← optionalString reader "product"
  -- An empty path is none.
  ReaderIdentity.construct (byIdPath.filter (· ≠ "")) vid pid serialNumber manufacturer product

def readSerial (serial : Table) : Loads SerialConfiguration := do
  let baudRate ← integer serial "baud_rate"
  let dataBits ← integer serial "data_bits"
  let parity ← string serial "parity"
  let stopBits ← integer serial "stop_bits"
  let timeoutSeconds ← number serial "timeout_seconds"
  let maximumRecordBytes ← integer serial "maximum_record_bytes"
  return { baudRate, dataBits, parity, stopBits, timeoutSeconds, maximumRecordBytes }

def readGpio (gpio : Table) : Loads GpioConfiguration := do
  let numbering ← string gpio "numbering"
  let channel ← integer gpio "channel"
  let normalHigh ← boolean gpio "normal_high"
  let releaseHigh ← boolean gpio "release_high"
  let releaseSeconds ← number gpio "release_seconds"
  return { numbering, channel, normalHigh, releaseHigh, releaseSeconds }

def readBackoff (reconnect : Table) : Loads BackoffPolicy := do
  let minimum ← number reconnect "minimum_seconds"
  let maximum ← number reconnect "maximum_seconds"
  let jitter ← number reconnect "jitter"
  BackoffPolicy.construct minimum maximum jitter

def readEscalation (escalation : Table) : Loads EscalationPolicy := do
  let warningCount ← integer escalation "warning_count"
  let warningWindow ← number escalation "warning_window_seconds"
  let criticalCount ← integer escalation "critical_count"
  let criticalWindow ← number escalation "critical_window_seconds"
  let resetAfter ← number escalation "reset_after_seconds"
  EscalationPolicy.construct warningCount warningWindow criticalCount criticalWindow resetAfter

def readApi (api : Table) : Loads ApiConfiguration := do
  let defaults : ApiConfiguration := {}
  let enabled ← orDefault boolean api "enabled" defaults.enabled
  let host ← orDefault (fun table name => strip <$> string table name) api "host" defaults.host
  let port ← orDefault integer api "port" defaults.port
  let maxEventPageSize ← orDefault integer api "max_event_page_size" defaults.maxEventPageSize
  let operationalSnapshotStaleAfterSeconds ←
    orDefault number api "operational_snapshot_stale_after_seconds"
      defaults.operationalSnapshotStaleAfterSeconds
  return { enabled, host, port, maxEventPageSize, operationalSnapshotStaleAfterSeconds }

/-- The body of the `try`. -/
def parse (raw : Table) : Loads Configuration := do
  let reader ← table raw "reader"
  let serial ← table raw "serial"
  let gpio ← table raw "gpio"
  let reconnect ← table raw "reconnect"
  let escalation ← table raw "escalation"
  let relay ← tableOr raw "relay" [("backend", .string "simulated")]
  let api ← tableOr raw "api" []
  let readerIdentity ← readIdentity reader
  let serial ← readSerial serial
  let gpio ← readGpio gpio
  let backoff ← readBackoff reconnect
  let escalation ← readEscalation escalation
  let backend ← string relay "backend"
  let api ← readApi api
  return { readerIdentity, serial, gpio, backoff, escalation, relay := ⟨backend⟩, api }

-- ---------------------------------------------------------------------------
-- The contracts, and the whole
-- ---------------------------------------------------------------------------

def approvedSerial : SerialConfiguration := ⟨9600, 8, "none", 1, 1, 16⟩

def approvedGpio : GpioConfiguration := ⟨"BCM", 23, false, true, 3⟩

/-- `if refused: raise ConfigurationError(message)`. -/
def refuse (refused : Prop) [Decidable refused] (message : String) : Loads Unit :=
  if refused then .error (.configurationError message) else .ok ()

/-- What comes after the `try`. -/
def approve (config : Configuration) : Loads Configuration := do
  refuse (config.serial ≠ approvedSerial) "serial configuration violates the approved reader contract"
  refuse (config.gpio ≠ approvedGpio) "GPIO configuration violates the approved GPIO contract"
  refuse (config.relay.backend ∉ ["simulated", "raspberry_pi"])
    "relay backend must be simulated or raspberry_pi"
  refuse (config.api.host = "") "api host must not be empty"
  refuse (¬(1 ≤ config.api.port ∧ config.api.port ≤ 65535)) "api port must be between 1 and 65535"
  refuse (¬(1 ≤ config.api.maxEventPageSize ∧ config.api.maxEventPageSize ≤ 1000))
    "api maximum event page size must be between 1 and 1000"
  refuse (config.api.operationalSnapshotStaleAfterSeconds ≤ 0)
    "api snapshot freshness threshold must be positive"
  return config

/-- The `except` clause. -/
def convert {α : Type} : Loads α → Loads α
  | .error (.valueError message) | .error (.osError message) => .error (.configurationError message)
  | outcome => outcome

/-- `document` is what `tomllib.loads(path.read_text(encoding="utf-8"))` gives or raises. -/
def loadConfiguration (document : Loads Table) : Loads Configuration := do
  let config ← convert (document >>= parse)
  approve config

end Loading

end Bridgewire
