import Bridgewire.Interfaces
import Bridgewire.Reader.Stream
import Mathlib.Algebra.Order.Ring.Unbundled.Rat

/-!
# The reader supervisor

`ReaderSupervisor` as a part of a larger program: it has its own state and
the world in that program's state, and calls back into the program to emit
events and to wait. What it gets from and does to the sessions goes into the
program's trace by `note`.
-/

namespace Bridgewire

-- ---------------------------------------------------------------------------
-- Discovery
-- ---------------------------------------------------------------------------

structure ReaderIdentity where
  byIdPath : Option String
  vid : Option Int
  pid : Option Int
  serialNumber : Option String
  manufacturer : Option String
  product : Option String
  constrained : ¬(byIdPath = none ∧ (vid = none ∨ pid = none))

/-- An identity by its link under `/dev/serial/by-id`, and nothing else. -/
def ReaderIdentity.byId (path : String) : ReaderIdentity := ⟨some path, none, none, none, none, none, by simp⟩

structure SerialDevice where
  path : String
  byIdPath : Option String
  vid : Option Int
  pid : Option Int
  serialNumber : Option String
  manufacturer : Option String
  product : Option String
  deriving DecidableEq, Repr

inductive DiscoveryStatus
  | found
  | notFound
  | ambiguous
  deriving DecidableEq, Repr

structure DiscoveryResult where
  status : DiscoveryStatus
  device : Option SerialDevice
  unrelatedCount : Nat
  deriving DecidableEq, Repr

/-- `expected is None or expected == actual`. -/
def agrees (expected actual : Option String) : Bool := expected.isNone || expected == actual

def SerialDevice.matchesIdentity (device : SerialDevice) (identity : ReaderIdentity) : Bool :=
  let pathMatches := identity.byIdPath.isSome && device.byIdPath == identity.byIdPath
  if identity.vid = none ∨ identity.pid = none then pathMatches
  else if device.vid ≠ identity.vid ∨ device.pid ≠ identity.pid then false
  else
    agrees identity.serialNumber device.serialNumber &&
      agrees identity.manufacturer device.manufacturer && agrees identity.product device.product

def discoverReader (devices : List SerialDevice) (identity : ReaderIdentity) : DiscoveryResult :=
  match devices.filter (·.matchesIdentity identity) with
  | [] => ⟨.notFound, none, devices.length⟩
  | [device] => ⟨.found, some device, devices.length - 1⟩
  | found => ⟨.ambiguous, none, devices.length - found.length⟩

-- ---------------------------------------------------------------------------
-- Events, backoff, sessions
-- ---------------------------------------------------------------------------

inductive ReaderEventType
  | readerConnecting
  | readerConnected
  | readerNotFound
  | readerIdentityAmbiguous
  | readerOpenFailed
  | readerReadFailed
  | readerDisconnected
  | reconnectScheduled
  | reconnectRepeatedlyFailed
  | readerRecovered
  | readerRecordReceived
  | readerRecordMalformed
  deriving DecidableEq, Repr

inductive ReaderHealthState
  | connecting
  | ready
  | degraded
  | stopped
  deriving DecidableEq, Repr

def ReaderHealthState.value : ReaderHealthState → String
  | .connecting => "connecting"
  | .ready => "ready"
  | .degraded => "degraded"
  | .stopped => "stopped"

structure ReaderEvent where
  eventType : ReaderEventType
  attempt : Nat
  backoffSeconds : Option ℚ
  unrelatedCount : Nat
  deriving DecidableEq, Repr

/-- `ReaderEvent(event_type, attempt)` with its defaults. -/
def ReaderEvent.of (eventType : ReaderEventType) (attempt : Nat) : ReaderEvent :=
  ⟨eventType, attempt, none, 0⟩

structure BackoffPolicy where
  minimum : ℚ
  maximum : ℚ
  jitter : ℚ
  minimum_pos : 0 < minimum
  minimum_le : minimum ≤ maximum
  jitter_unit : 0 ≤ jitter ∧ jitter ≤ 1

/-- From one second to thirty, without jitter. -/
def BackoffPolicy.unjittered : BackoffPolicy := ⟨1, 30, 0, by decide, by decide, by decide⟩

/-- `BackoffPolicy.delay` in exact arithmetic. -/
def BackoffPolicy.exactDelay (policy : BackoffPolicy) (attempt : Nat) (randomUnit : ℚ) : ℚ :=
  let base := min policy.maximum (policy.minimum * 2 ^ (attempt - 1))
  let spread := base * policy.jitter
  base - spread + 2 * spread * randomUnit

/-- The product of a float and an int of `2 ** 1024` or more raises. -/
def BackoffPolicy.delay (policy : BackoffPolicy) (attempt : Nat) (randomUnit : ℚ) : Except Exn ℚ :=
  if 1024 ≤ attempt - 1 then .error (.overflowError "int too large to convert to float")
  else .ok (policy.exactDelay attempt randomUnit)

/-- A session is a handle; the calls of its methods are ports. -/
structure ReaderSession where
  handle : Nat
  deriving DecidableEq, Repr

structure ReaderSnapshot where
  connected : Bool
  healthState : ReaderHealthState
  lastRecordAgeSeconds : Option ℚ
  deriving DecidableEq, Repr

/-- What the supervisor gets from and does to its sessions. -/
inductive ReaderOccurrence
  | opened (device : SerialDevice)
  | received (data : List UInt8)
  | closed (answer : Except Exn Unit)

structure ReaderSupervisor where
  session : Option ReaderSession
  attempt : Nat
  hadConnection : Bool
  repeatedFailureEmitted : Bool
  lastRecordAt : Option ℚ
  healthState : ReaderHealthState
  deriving DecidableEq, Repr

namespace ReaderSupervisor

/-- The constructor's arguments but the callbacks. An opener answers `none`
with what is no usable session; `delay` is `backoff.delay`, in the arithmetic
of floats unless another is given. -/
structure Settings (W : Type) where
  identity : ReaderIdentity
  enumerateDevices : Port W (List SerialDevice)
  openReader (path : String) : Port W (Option ReaderSession)
  read (session : ReaderSession) : Port W (List UInt8)
  closeSession (session : ReaderSession) : Port W Unit
  backoff : BackoffPolicy
  repeatedFailureThreshold : Nat
  randomUnit : Port W ℚ
  monotonic : Option (W → ℚ × W)
  threshold_pos : 0 < repeatedFailureThreshold
  delay : Nat → ℚ → Except Exn ℚ := backoff.delay

/-- The constructor's default is allowed. -/
theorem defaultThreshold_pos : 0 < 3 := by decide

/-- The program around a supervisor. -/
structure Host (S W : Type) where
  own : Component S (ReaderSupervisor)
  world : Component S W
  emit (event : ReaderEvent) : Effect Exn S Unit
  wait (seconds : ℚ) : Effect Exn S Bool
  note (o : ReaderOccurrence) : S → S

/-- A supervisor just constructed. -/
def fresh : ReaderSupervisor :=
  { session := none, attempt := 0, hadConnection := false, repeatedFailureEmitted := false,
    lastRecordAt := none, healthState := .degraded }

def connected (reader : ReaderSupervisor) : Bool := reader.session.isSome

section
variable {S W α : Type}

section
variable (own : Component S (ReaderSupervisor)) (world : Component S W) (settings : Settings W)

def lastRecordAge : Effect Exn S (Option ℚ) := do
  match (own.get (← get)).lastRecordAt, settings.monotonic with
  | some time, some monotonic => do
    let reading ← Effect.zoom world (Effect.reading monotonic)
    pure (some (reading - time))
  | _, _ => pure none

def snapshot : Effect Exn S ReaderSnapshot := do
  let reader := own.get (← get)
  let lastRecordAgeSeconds ← lastRecordAge own world settings
  pure ⟨reader.connected, reader.healthState, lastRecordAgeSeconds⟩

end

variable (host : Host S W)

def assign (change : ReaderSupervisor → ReaderSupervisor) : Effect Exn S Unit :=
  modify fun s => host.own.set (change (host.own.get s)) s

def ask (port : Port W α) : Effect Exn S α := Effect.zoom host.world port

def note (o : ReaderOccurrence) : Effect Exn S Unit := modify (host.note o)

variable (settings : Settings W)

/-- The `try` of `connect_until_ready`. -/
def openSession (device : SerialDevice) : Effect Exn S Unit := do
  match ← ask host (settings.openReader device.path) with
  | none => throw (.osError "reader opener returned an unusable session")
  | some session =>
    assign host fun reader => { reader with session := some session }
    note host (.opened device)

/-- An attempt to connect: why it failed, if it did. -/
def connect (discovery : DiscoveryResult) : Effect Exn S (Option ReaderEventType) := do
  match discovery.status with
  | .notFound => pure (some .readerNotFound)
  | .ambiguous => pure (some .readerIdentityAmbiguous)
  | .found =>
    match discovery.device with
    | none => throw (.assertionError "")
    | some device =>
      match ← Effect.attempt Exn.isOSError (openSession host settings device) with
      | .ok () => pure none
      | .error _ => pure (some .readerOpenFailed)

/-- After a session is open. -/
def becomeReady (discovery : DiscoveryResult) : Effect Exn S Unit := do
  let reader := host.own.get (← get)
  let eventType := if reader.hadConnection then .readerRecovered else .readerConnected
  host.emit ⟨eventType, reader.attempt, none, discovery.unrelatedCount⟩
  assign host fun reader =>
    { reader with hadConnection := true, repeatedFailureEmitted := false, healthState := .ready,
                  attempt := 0 }

/-- The wait before the next attempt. -/
def scheduleReconnect : Effect Exn S Bool := do
  let attempt := (host.own.get (← get)).attempt
  let randomUnit ← ask host settings.randomUnit
  match settings.delay attempt randomUnit with
  | .error e => throw e
  | .ok delay =>
    host.emit ⟨.reconnectScheduled, attempt, some delay, 0⟩
    host.wait delay

/-- After a failed attempt: its events and the wait before the next one. -/
def becomeDegraded (discovery : DiscoveryResult) (failure : ReaderEventType) :
    Effect Exn S Bool := do
  assign host fun reader => { reader with healthState := .degraded }
  host.emit ⟨failure, (host.own.get (← get)).attempt, none, discovery.unrelatedCount⟩
  let reader := host.own.get (← get)
  if settings.repeatedFailureThreshold ≤ reader.attempt ∧ reader.repeatedFailureEmitted = false then
    host.emit (.of .reconnectRepeatedlyFailed reader.attempt)
    assign host fun reader => { reader with repeatedFailureEmitted := true }
  scheduleReconnect host settings

def connectUntilReady : Nat → Effect Exn S Bool
  | 0 => pure false
  | maximumAttempts + 1 => do
    assign host fun reader => { reader with attempt := reader.attempt + 1, healthState := .connecting }
    host.emit (.of .readerConnecting (host.own.get (← get)).attempt)
    let devices ← ask host settings.enumerateDevices
    let discovery := discoverReader devices settings.identity
    match ← connect host settings discovery with
    | none =>
      becomeReady host discovery
      pure true
    | some failure =>
      if ← becomeDegraded host settings discovery failure then connectUntilReady maximumAttempts
      else pure false

def disconnect : Effect Exn S Unit := do
  match (host.own.get (← get)).session with
  | none => pure ()
  | some session =>
    match ← Effect.attempt (fun _ => true) (ask host (settings.closeSession session)) with
    | .error e =>
      note host (.closed (.error e))
      throw e
    | .ok () =>
      note host (.closed (.ok ()))
      assign host fun reader => { reader with session := none, healthState := .degraded }

/-- After a read of some data. -/
def acknowledge : Effect Exn S Unit := do
  match settings.monotonic with
  | none => pure ()
  | some monotonic =>
    let reading ← ask host (Effect.reading monotonic)
    assign host fun reader => { reader with lastRecordAt := some reading }
  host.emit (.of .readerRecordReceived 0)

def readOnce : Effect Exn S (Option (List UInt8)) := do
  match (host.own.get (← get)).session with
  | none => pure none
  | some session =>
    match ← Effect.attempt Exn.isOSError (ask host (settings.read session)) with
    | .error e =>
      if e.cls = .readerDisconnectedError then host.emit (.of .readerDisconnected 0)
      else host.emit (.of .readerReadFailed 0)
      disconnect host settings
      pure none
    | .ok data =>
      note host (.received data)
      if data ≠ [] then acknowledge host settings
      pure (some data)

def isMalformed : RecordResult → Bool
  | .malformed _ => true
  | .parsed _ => false

def readRecordsOnce (stream : Component S ReaderRecordStream) : Effect Exn S (List RecordResult) := do
  match ← readOnce host settings with
  | none => pure []
  | some data =>
    if data = [] then pure []
    else
      let fed := (stream.get (← get)).feed data
      modify (stream.set fed.2)
      if fed.1.any isMalformed then host.emit (.of .readerRecordMalformed 0)
      pure fed.1

def osDisconnected : Effect Exn S Unit := do
  if (host.own.get (← get)).connected then
    host.emit (.of .readerDisconnected 0)
    disconnect host settings

def close : Effect Exn S Unit := do
  disconnect host settings
  assign host fun reader => { reader with healthState := .stopped }

end

end ReaderSupervisor

end Bridgewire
