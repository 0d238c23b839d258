import Bridgewire.Api.Server
import Bridgewire.Configuration
import Bridgewire.Gpio
import Bridgewire.Runtime.Model

/-!
# The hardware service

`run_hardware_service` over everything it opens and builds. Its `try`, its
`except` and the two halves of its `finally` are programs of their own: the
first half secures the relay, the second closes the rest.
-/

namespace Bridgewire

namespace ApiServerState

/-- The `failure_state` of `observe_api`. -/
def isFailure : ApiServerState → Bool
  | .startFailed | .startTimedOut | .failed | .stopTimedOut => true
  | _ => false

def isStopped : ApiServerState → Bool
  | .stopping | .stopped => true
  | _ => false

end ApiServerState

structure ApiServerSnapshot where
  state : ApiServerState
  failures : List Exn

structure ApiServer (W : Type) where
  start : Port W Unit
  stop : Port W Unit
  snapshot : Port W ApiServerSnapshot

/-- What the host is run in: the files, the devices and the libraries, as far
as they are called. -/
structure Environment (W : Type) where
  loadConfiguration : Port W SystemConfiguration
  clock : Clock W
  uuid4 : W → String × W
  /-- The constructor of `SQLiteAuditSink`, its `append` and its `close`. -/
  openAudit : Port W Unit
  audit : AuditSink W
  closeAudit : Port W Unit
  loadSchema : Port W Unit
  reload : Port W Unit
  authorization : AuthorizationSource W
  importGpio : Port W Unit
  gpio : Gpio W
  openNotifications : Port W Unit
  notifications : NotificationQueue W
  enumerateDevices : Port W (List SerialDevice)
  openReader (path : String) : Port W (Option ReaderSession)
  read (session : ReaderSession) : Port W (List UInt8)
  closeSession (session : ReaderSession) : Port W Unit
  health : HealthReporter W
  waiter : Waiter W
  /-- `None` when no signals are to be installed. -/
  installSignal : Option (Port W Unit)
  /-- From `SQLiteAuditReader` to the server that the factory returns. -/
  buildApi : Port W Unit
  api : ApiServer W
  printReady : Port W Unit

/-- The local variables of `run_hardware_service`. The runtime and what it
shares with the others is there once `wiring` is. -/
structure HardwareService (W : Type) where
  runtime : BridgewireRuntime (Pins W)
  wiring : Option (BridgewireRuntime.Wiring (Pins W))
  hasAudit : Bool
  hasRelay : Bool
  hasApi : Bool
  failures : List Exn
  observedApiFailures : List (Option Nat)
  apiState : ApiServerState

namespace HardwareService

abbrev Program (W α : Type) : Type := Effect Exn (HardwareService W) α

def runtimePart (W : Type) : Component (HardwareService W) (BridgewireRuntime (Pins W)) where
  get s := s.runtime
  set runtime s := { s with runtime }
  get_set _ _ := rfl
  set_get _ := rfl
  set_set _ _ _ := rfl

def pinsPart (W : Type) : Component (HardwareService W) (Pins W) :=
  (runtimePart W).comp (BridgewireRuntime.worldPart (Pins W))

section
variable {W α : Type}

def ask (port : Port W α) : Program W α :=
  Effect.zoom (pinsPart W) (Effect.zoom (Pins.outer W) port)

/-- `failures.append(exc)`. -/
def fail (e : Exn) : Program W Unit := modify fun s => { s with failures := s.failures ++ [e] }

/-- `try: action() except BaseException as exc: failures.append(exc)`. -/
def keepGoing (action : Program W Unit) : Program W Unit := do
  match ← Effect.attempt (fun _ => true) action with
  | .ok () => pure ()
  | .error e => fail e

-- ---------------------------------------------------------------------------
-- Wiring
-- ---------------------------------------------------------------------------

variable (env : Environment W)

def outside (port : Port W α) : Port (Pins W) α := Effect.zoom (Pins.outer W) port

def outsideReading (read : W → α × W) (s : Pins W) : α × Pins W :=
  ((read s.outside).1, { s with outside := (read s.outside).2 })

def clock : Clock (Pins W) := ⟨outsideReading env.clock.monotonic, outsideReading env.clock.now⟩

def accessPorts : AccessController.Ports (Pins W) where
  authorization := ⟨fun credential => outside (env.authorization.classify credential)⟩
  relay := RaspberryPiRelay.relay env.gpio
  audit := ⟨fun event => outside (env.audit.append event)⟩
  notifications := ⟨fun event => outside (env.notifications.enqueue event)⟩
  clock := clock env
  uuid4 := outsideReading env.uuid4

/-- `repeated_failure_threshold` and `random_unit` are left at their defaults. -/
def readerSettings (config : SystemConfiguration) : ReaderSupervisor.Settings (Pins W) where
  identity := config.readerIdentity
  enumerateDevices := outside env.enumerateDevices
  openReader path := outside (env.openReader path)
  read session := outside (env.read session)
  closeSession session := outside (env.closeSession session)
  backoff := config.backoff
  repeatedFailureThreshold := 3
  randomUnit := pure (1 / 2)
  monotonic := some (clock env).monotonic
  threshold_pos := ReaderSupervisor.defaultThreshold_pos

def wire (config : SystemConfiguration) (access : AccessController.Wiring (Pins W)) :
    BridgewireRuntime.Wiring (Pins W) where
  access := access
  reader := readerSettings env config
  health := ⟨fun report => outside (env.health.report report)⟩
  audit := ⟨fun event => outside (env.audit.append event)⟩
  clock := clock env
  uuid4 := outsideReading env.uuid4
  maximumRecordBytes := config.serial.maximumRecordBytes
  waiter := ⟨fun seconds => outsideReading (env.waiter.wait seconds)⟩
  hasStore := true

-- ---------------------------------------------------------------------------
-- The API as the host sees it
-- ---------------------------------------------------------------------------

variable (config : SystemConfiguration) (c : BridgewireRuntime.Wiring (Pins W))

def onRuntime (m : BridgewireRuntime.Program (Pins W) α) : Program W α := Effect.zoom (runtimePart W) m

def reportApiState (state : ApiServerState) (failure : Bool) : Program W Unit := do
  modify fun s => { s with apiState := state }
  let status :=
    if failure then "degraded" else if state = .running then "ready"
    else if state.isStopped then "stopped" else "degraded"
  let accessControl := if state.isStopped then "stopped" else "operational"
  match ← Effect.attempt (fun _ => true) (onRuntime (BridgewireRuntime.reportHealth c status
      [("access_control", .text accessControl), ("api", .api config.api.enabled state.value)])) with
  | .ok () => pure ()
  | .error e =>
    if (← get).observedApiFailures.contains e.identity then pure ()
    else
      modify fun s => { s with observedApiFailures := e.identity :: s.observedApiFailures }
      fail e

def retainApiFailure (e : Exn) (state : ApiServerState) : Program W Unit := do
  if (← get).observedApiFailures.contains e.identity then pure ()
  else
    modify fun s => { s with observedApiFailures := e.identity :: s.observedApiFailures }
    fail e
    reportApiState config c state true

def retainAll (state : ApiServerState) : List Exn → Program W Unit
  | [] => pure ()
  | e :: failures => do
    retainApiFailure config c e state
    retainAll state failures

def observeApi : Program W Unit := do
  if (← get).hasApi then
    let snapshot ← ask env.api.snapshot
    if snapshot.state ≠ (← get).apiState ∧ (snapshot.state.isFailure = false ∨ snapshot.failures = []) then
      reportApiState config c snapshot.state snapshot.state.isFailure
    retainAll config c snapshot.state snapshot.failures

-- ---------------------------------------------------------------------------
-- `try`
-- ---------------------------------------------------------------------------

/-- Up to the installation of the signal handlers. -/
def assemble : Program W (BridgewireRuntime.Wiring (Pins W)) := do
  ask env.openAudit
  modify fun s => { s with hasAudit := true }
  ask env.loadSchema
  ask env.reload
  ask env.importGpio
  modify fun s => { s with hasRelay := true }
  ask env.openNotifications
  match AccessController.init (accessPorts env) { policy := config.escalation }
      config.gpio.releaseSeconds config.gpio.channel with
  | .error e => throw e
  | .ok (access, _) =>
    let c := wire env config access
    modify fun s =>
      { s with wiring := some c
               runtime := .fresh c { policy := config.escalation } s.runtime.system.world }
    match env.installSignal with
    | none => pure ()
    | some install =>
      ask install
      ask install
    pure c

/-- The `try` around the API. -/
def openApi : Program W Unit := do
  ask env.buildApi
  modify fun s => { s with hasApi := true }
  reportApiState config c .starting false
  ask env.api.start
  observeApi env config c

def startApi : Program W Unit := do
  match ← Effect.attempt Exn.isException (openApi env config c) with
  | .ok () => pure ()
  | .error e =>
    if (← get).hasApi then
      let snapshot ← ask env.api.snapshot
      retainApiFailure config c e snapshot.state
    else retainApiFailure config c e .startFailed

/-- `ready`. -/
def announce : Program W Unit := do
  ask env.printReady
  if config.api.enabled then reportApiState config c (← get).apiState false
  else onRuntime (BridgewireRuntime.reportHealth c "ready"
    [("reader", .text "connected"), ("api", .api false "disabled")])

/-- From `runtime.start()` on. -/
def operate (rounds : Nat) : Program W Unit := do
  onRuntime (BridgewireRuntime.start c)
  if config.api.enabled then startApi env config c
  else onRuntime (BridgewireRuntime.reportHealth c "degraded"
    [("reason", .text "reader_connecting"), ("api", .api false "disabled")])
  BridgewireRuntime.run c (runtimePart W) (announce env config c)
    (if config.api.enabled then observeApi env config c else pure ()) rounds

def body (rounds : Nat) : Program W Unit := do
  let c ← assemble env config
  operate env config c rounds

-- ---------------------------------------------------------------------------
-- `except` and `finally`
-- ---------------------------------------------------------------------------

def handle (e : Exn) : Program W Unit := do
  fail e
  match (← get).wiring with
  | none => pure ()
  | some c =>
    keepGoing (onRuntime (BridgewireRuntime.reportFault c))
    keepGoing (onRuntime (BridgewireRuntime.handleFailure c))

/-- The half of `finally` that is about the relay. -/
def secure : Program W Unit := do
  match (← get).wiring with
  | none => pure ()
  | some c => keepGoing (onRuntime (BridgewireRuntime.shutdown c))
  if (← get).hasRelay then
    keepGoing (Effect.zoom (pinsPart W) (RaspberryPiRelay.cleanup env.gpio))

def stopApi : Program W Unit := do
  match ← Effect.attempt (fun _ => true) (ask env.api.stop) with
  | .ok () => pure ()
  | .error e =>
    let snapshot ← ask env.api.snapshot
    retainApiFailure config c e snapshot.state
  observeApi env config c

def close : Program W Unit := do
  let s ← get
  match s.wiring with
  | some c => if s.hasApi then stopApi env config c
  | none => pure ()
  if (← get).hasAudit then keepGoing (ask env.closeAudit)

/-- All of `try`, `except` and the first half of `finally`. -/
def serve (rounds : Nat) : Program W Unit := do
  match ← Effect.attempt (fun _ => true) (body env config rounds) with
  | .ok () => pure ()
  | .error e => handle e
  secure env

/-- The end of `run_hardware_service`. -/
def result : Program W Int := do
  match (← get).failures with
  | [] => pure 0
  | [e] => throw e
  | failures => throw (.group "hardware service failed" failures)

/-- Before the `try`: nothing is built yet. The wiring of this runtime is not
used by anything. -/
def fresh (outside : W) : HardwareService W where
  runtime :=
    { system := ⟨AccessController.fresh { policy := .standard }, Pins.fresh outside, []⟩
      reader := ReaderSupervisor.fresh
      stream := ReaderRecordStream.fresh 0
      shutdownComplete := false
      snapshot := none
      log := [] }
  wiring := none
  hasAudit := false
  hasRelay := false
  hasApi := false
  failures := []
  observedApiFailures := []
  apiState := .new

/-- What comes before the `try`. -/
def enter : Program W SystemConfiguration := do
  let config ← ask env.loadConfiguration
  if config.relay.backend ≠ "raspberry_pi" then
    throw (.valueError "hardware service requires relay.backend = raspberry_pi")
  let _ ← ask (Effect.reading env.clock.now)
  modify fun s => { s with apiState := if config.api.enabled then .new else .stopped }
  pure config

/-- `rounds` is how often the loop of the runtime goes round before the stop
event is set. -/
def runHardwareService (rounds : Nat) : Program W Int := do
  let config ← enter env
  serve env config rounds
  close env config
  result

end

end HardwareService

end Bridgewire
