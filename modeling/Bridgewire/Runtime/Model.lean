import Bridgewire.Controller.Model
import Bridgewire.Reader.Supervisor

/-!
# The runtime

`BridgewireRuntime` over the access service, the reader supervisor and their
collaborators. A run of the runtime is one program on one state; its `log`
has a line for what it gets from the sessions, each record it submits and
each health report.
-/

namespace Bridgewire

-- ---------------------------------------------------------------------------
-- The access service
-- ---------------------------------------------------------------------------

inductive CredentialSource
  | physicalReader
  | simulator
  | test
  | apiInjectedReaderEvent
  deriving DecidableEq, Repr

structure AccessServiceResult where
  authorized : Bool
  authorization : Option AuthorizationOutcome
  malformed : Bool
  controllerState : ControllerState
  physicalRelease : PhysicalReleaseStatus
  relayActuationRequested : Bool
  relayActuationSucceeded : Bool
  source : CredentialSource
  deriving DecidableEq, Repr

/-- `AccessService._map`. -/
def AccessServiceResult.of (result : AccessResult) (source : CredentialSource) (malformed : Bool)
    (controllerState : ControllerState) : AccessServiceResult where
  authorized := result.authorization = some .authorized
  authorization := result.authorization
  malformed := malformed
  controllerState := controllerState
  physicalRelease := result.physicalRelease
  relayActuationRequested :=
    result.physicalRelease = .asserted ∨ result.physicalRelease = .actuationFailed
  relayActuationSucceeded := result.physicalRelease = .asserted
  source := source

namespace AccessService

variable {W : Type} (c : AccessController.Wiring W)

def submitRecord (record : RecordResult) (source : CredentialSource) :
    AccessController.Program W AccessServiceResult := do
  match ← AccessController.call c (.process record) with
  | none => throw (.assertionError "")
  | some result =>
    pure (.of result source (ReaderSupervisor.isMalformed record) (← get).controller.state)

/-- What `submit_credential` submits. -/
def credentialRecord (credential : String) : RecordResult :=
  match parseCredentialIdentifier credential with
  | .ok record => .parsed record
  | .error error => .malformed ⟨error.reason⟩

end AccessService

-- ---------------------------------------------------------------------------
-- The operational snapshot
-- ---------------------------------------------------------------------------

structure OperationalSnapshot where
  controller : ControllerSnapshot
  reader : ReaderSnapshot
  publishedAt : DateTime
  lastReaderRecordAt : Option DateTime
  deriving DecidableEq

/-- What `OperationalSnapshotStore.publish` stores. -/
def OperationalSnapshot.of (controller : ControllerSnapshot) (reader : ReaderSnapshot)
    (publishedAt : DateTime) : Except Exn OperationalSnapshot :=
  match publishedAt.utcoffset with
  | none => .error (.valueError "snapshot publication timestamp must be timezone-aware")
  | some offset =>
    let normalized : DateTime := ⟨publishedAt.wall - offset, some 0⟩
    let lastReaderRecordAt := reader.lastRecordAgeSeconds.map fun age =>
      { normalized with wall := normalized.wall - timedelta age }
    .ok ⟨controller, reader, normalized, lastReaderRecordAt⟩

-- ---------------------------------------------------------------------------
-- The runtime
-- ---------------------------------------------------------------------------

namespace ReaderEventType

def toEventType : ReaderEventType → EventType
  | .readerConnecting => .readerConnecting
  | .readerConnected => .readerConnected
  | .readerNotFound => .readerNotFound
  | .readerIdentityAmbiguous => .readerIdentityAmbiguous
  | .readerOpenFailed => .readerOpenFailed
  | .readerReadFailed => .readerReadFailed
  | .readerDisconnected => .readerDisconnected
  | .reconnectScheduled => .reconnectScheduled
  | .reconnectRepeatedlyFailed => .reconnectRepeatedlyFailed
  | .readerRecovered => .readerRecovered
  | .readerRecordReceived => .readerRecordReceived
  | .readerRecordMalformed => .readerRecordMalformed

def value : ReaderEventType → String
  | .readerConnecting => "reader_connecting"
  | .readerConnected => "reader_connected"
  | .readerNotFound => "reader_not_found"
  | .readerIdentityAmbiguous => "reader_identity_ambiguous"
  | .readerOpenFailed => "reader_open_failed"
  | .readerReadFailed => "reader_read_failed"
  | .readerDisconnected => "reader_disconnected"
  | .reconnectScheduled => "reconnect_scheduled"
  | .reconnectRepeatedlyFailed => "reconnect_repeatedly_failed"
  | .readerRecovered => "reader_recovered"
  | .readerRecordReceived => "reader_record_received"
  | .readerRecordMalformed => "reader_record_malformed"

/-- The events that `record_reader_event` reports as degraded health. -/
def degrades : ReaderEventType → Bool
  | .readerNotFound | .readerIdentityAmbiguous | .readerOpenFailed | .readerReadFailed
  | .readerDisconnected | .reconnectRepeatedlyFailed => true
  | _ => false

def severity : ReaderEventType → Severity
  | .readerConnected | .readerRecovered | .readerRecordReceived => .info
  | _ => .warning

end ReaderEventType

/-- A line of the log. -/
inductive RuntimeOccurrence
  | reader (o : ReaderOccurrence)
  | submitted (record : RecordResult)
  | reported (report : HealthReport) (answer : Except Exn Unit)

structure BridgewireRuntime (W : Type) where
  system : AccessController.System W
  reader : ReaderSupervisor
  stream : ReaderRecordStream
  shutdownComplete : Bool
  snapshot : Option OperationalSnapshot
  log : List RuntimeOccurrence

namespace BridgewireRuntime

/-- What a runtime is built from. Without a store nothing is published. -/
structure Wiring (W : Type) where
  access : AccessController.Wiring W
  reader : ReaderSupervisor.Settings W
  health : HealthReporter W
  audit : AuditSink W
  clock : Clock W
  uuid4 : W → String × W
  maximumRecordBytes : Int
  waiter : Waiter W
  hasStore : Bool

abbrev Program (W α : Type) : Type := Effect Exn (BridgewireRuntime W) α

def systemPart (W : Type) : Component (BridgewireRuntime W) (AccessController.System W) where
  get s := s.system
  set system s := { s with system }
  get_set _ _ := rfl
  set_get _ := rfl
  set_set _ _ _ := rfl

def worldPart (W : Type) : Component (BridgewireRuntime W) W where
  get s := s.system.world
  set world s := { s with system := { s.system with world } }
  get_set _ _ := rfl
  set_get _ := rfl
  set_set _ _ _ := rfl

def readerPart (W : Type) : Component (BridgewireRuntime W) (ReaderSupervisor) where
  get s := s.reader
  set reader s := { s with reader }
  get_set _ _ := rfl
  set_get _ := rfl
  set_set _ _ _ := rfl

def streamPart (W : Type) : Component (BridgewireRuntime W) ReaderRecordStream where
  get s := s.stream
  set stream s := { s with stream }
  get_set _ _ := rfl
  set_get _ := rfl
  set_set _ _ _ := rfl

section
variable {W : Type}

def note (o : RuntimeOccurrence) : Program W Unit :=
  modify fun s => { s with log := s.log ++ [o] }

variable (c : Wiring W)

/-- A call of the access service that passes to the controller. -/
def access (operation : AccessController.Operation) : Program W Unit :=
  (fun _ => ()) <$> Effect.zoom (systemPart W) (AccessController.call c.access operation)

def reportHealth (status : String) (details : List (String × HealthValue)) : Program W Unit := do
  match ← Effect.attempt (fun _ => true) (Effect.zoom (worldPart W) (c.health.report ⟨status, details⟩)) with
  | .ok () => note (.reported ⟨status, details⟩ (.ok ()))
  | .error e =>
    note (.reported ⟨status, details⟩ (.error e))
    throw e

/-- The event of the audit that `_record_reader_event` appends. -/
def auditReaderEvent (event : ReaderEvent) : Program W Unit := do
  let timestamp ← Effect.zoom (worldPart W) (Effect.reading c.clock.now)
  let s ← get
  let eventId ← Effect.zoom (worldPart W) (Effect.reading c.uuid4)
  match AuditFields.construct
    { eventType := event.eventType.toEventType
      severity := event.eventType.severity
      timestamp := timestamp
      correlation := if event.attempt = 0 then [] else [("attempt", .integer event.attempt)]
      readerState := some s.reader.healthState.value
      controllerState := some s.system.controller.state.value
      deliveryStatus := none
      eventId := eventId } with
  | .ok event => Effect.zoom (worldPart W) (c.audit.append event)
  | .error e => throw e

def recordReaderEvent (event : ReaderEvent) : Program W Unit := do
  if event.eventType.degrades then
    reportHealth c "degraded" [("reason", .text event.eventType.value)]
  auditReaderEvent c event

/-- The loop of a waiter: so many intervals, then how the wait ends. -/
def waitOut (onInterval : Program W Unit) (outcome : Except Exn Bool) : Nat → Program W Bool
  | 0 => Effect.of fun s => (outcome, s)
  | intervals + 1 => do
    onInterval
    waitOut onInterval outcome intervals

def publishSnapshot : Program W Unit := do
  if c.hasStore then
    let controller ← Effect.zoom (systemPart W) (AccessController.snapshot c.access)
    let reader ← ReaderSupervisor.snapshot (readerPart W) (worldPart W) c.reader
    let publishedAt ← Effect.zoom (worldPart W) (Effect.reading c.clock.now)
    match OperationalSnapshot.of controller reader publishedAt with
    | .ok snapshot => modify fun s => { s with snapshot := some snapshot }
    | .error e => throw e

def tickAndPublish : Program W Unit := do
  access c .tick
  publishSnapshot c

def cooperativeWait (seconds : ℚ) : Program W Bool := do
  let plan ← Effect.zoom (worldPart W) (Effect.reading (c.waiter.wait seconds))
  waitOut (tickAndPublish c) plan.outcome plan.intervals

/-- The reader's callbacks as the host binds them. -/
def host : ReaderSupervisor.Host (BridgewireRuntime W) W where
  own := readerPart W
  world := worldPart W
  emit event := recordReaderEvent c event
  wait seconds := cooperativeWait c seconds
  note o s := { s with log := s.log ++ [RuntimeOccurrence.reader o] }

def start : Program W Unit := do
  access c .start
  reportHealth c "degraded" [("reason", .text "reader_connecting")]
  publishSnapshot c

/-- `self._access.submit_record(record, source=CredentialSource.PHYSICAL_READER)`. -/
def submit (record : RecordResult) : Program W Unit := do
  note (.submitted record)
  let _ ← Effect.zoom (systemPart W) (AccessService.submitRecord c.access record .physicalReader)

def submitAll : List RecordResult → Program W Unit
  | [] => pure ()
  | record :: records => do
    submit c record
    submitAll records

/-- The `try` of `run_once`. -/
def poll : Program W Bool := do
  if (← get).reader.connected then
    let records ← ReaderSupervisor.readRecordsOnce (host c) c.reader (streamPart W)
    submitAll c records
    access c .tick
    pure false
  else if ← ReaderSupervisor.connectUntilReady (host c) c.reader 1 then
    reportHealth c "ready" [("reader", .text "connected")]
    pure true
  else pure false

def runOnce : Program W Bool := do
  access c .tick
  Effect.ensuring (poll c) (publishSnapshot c)

def reportFault : Program W Unit := reportHealth c "faulted" []

def handleFailure : Program W Unit := do
  access c .recoverableFailure
  publishSnapshot c

/-- One turn of the loop of `shutdown`: an exception joins the failures. -/
def gather (cleanup : Program W Unit) (failures : List Exn) : Program W (List Exn) := do
  match ← Effect.attempt (fun _ => true) cleanup with
  | .ok () => pure failures
  | .error e => pure (failures ++ [e])

/-- The three cleanups, and what they raised. -/
def cleanUp : Program W (List Exn) := do
  let failures ← gather (access c .shutdown) []
  let failures ← gather (ReaderSupervisor.close (host c) c.reader) failures
  gather (reportHealth c "stopped" []) failures

def shutdown : Program W Unit := do
  if (← get).shutdownComplete then pure ()
  else
    let failures ← cleanUp c
    if failures.isEmpty then
      modify fun s => { s with shutdownComplete := true }
      publishSnapshot c
    else
      publishSnapshot c
      throw (.group "runtime shutdown failed" failures)

/-- The loop of `run` in the program around the runtime: `rounds` is how often
it goes round before the stop event is set. -/
def run {S : Type} (own : Component S (BridgewireRuntime W)) (onReady onIteration : Effect Exn S Unit) :
    Nat → Effect Exn S Unit
  | 0 => pure ()
  | rounds + 1 => do
    if ← Effect.zoom own (runOnce c) then onReady
    onIteration
    run own onReady onIteration rounds

/-- What can be asked of a runtime, and of the access service it shares. -/
inductive Operation
  | start
  | runOnce
  | cooperativeWait (seconds : ℚ)
  | recordReaderEvent (event : ReaderEvent)
  | submit (record : RecordResult)
  | reportFault
  | handleFailure
  | shutdown

def perform : Operation → Program W Unit
  | .start => start c
  | .runOnce => (fun _ => ()) <$> runOnce c
  | .cooperativeWait seconds => (fun _ => ()) <$> cooperativeWait c seconds
  | .recordReaderEvent event => recordReaderEvent c event
  | .submit record => submit c record
  | .reportFault => reportFault c
  | .handleFailure => handleFailure c
  | .shutdown => shutdown c

/-- The state after any operations, whether they returned or raised. -/
def after (operations : List Operation) (s : BridgewireRuntime W) : BridgewireRuntime W :=
  operations.foldl (fun s operation => ((perform c operation).run s).2) s

/-- A runtime just constructed. -/
def fresh (escalation : EscalationTracker) (outside : W) : BridgewireRuntime W where
  system := AccessController.System.initial escalation outside
  reader := ReaderSupervisor.fresh
  stream := ReaderRecordStream.fresh (c.maximumRecordBytes * 4)
  shutdownComplete := false
  snapshot := none
  log := []

end

end BridgewireRuntime

end Bridgewire
