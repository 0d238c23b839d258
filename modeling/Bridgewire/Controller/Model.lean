import Bridgewire.Escalation
import Bridgewire.Interfaces
import Bridgewire.Reader.Record

/-!
# The access controller

`AccessController` over collaborators that may raise at every call. Each
call and its answer, and each assignment of the controller's state, goes
into the `trace`, which no operation reads.
-/

namespace Bridgewire

inductive ControllerState
  | initializing
  | ready
  | released
  | faulted
  | shuttingDown
  | stopped
  deriving DecidableEq, Repr

def ControllerState.value : ControllerState → String
  | .initializing => "initializing"
  | .ready => "ready"
  | .released => "released"
  | .faulted => "faulted"
  | .shuttingDown => "shutting_down"
  | .stopped => "stopped"

inductive PhysicalReleaseStatus
  | notRequested
  | asserted
  | alreadyReleased
  | actuationFailed
  deriving DecidableEq, Repr

inductive RelayCommand
  | released
  | secured
  deriving DecidableEq, Repr

structure AccessResult where
  authorization : Option AuthorizationOutcome
  physicalRelease : PhysicalReleaseStatus
  deriving DecidableEq, Repr

structure ControllerSnapshot where
  state : ControllerState
  releaseActive : Bool
  releaseDeadlineMonotonic : Option ℚ
  releaseRemainingSeconds : Option ℚ
  configuredReleaseSeconds : ℚ
  lastRelayCommand : Option RelayCommand
  lastCredentialProcessedAt : Option DateTime
  deriving DecidableEq

structure AccessController where
  state : ControllerState
  releaseDeadline : Option ℚ
  lastRelayCommandHigh : Option Bool
  lastCredentialProcessedAt : Option DateTime
  escalation : EscalationTracker

namespace AccessController

structure Ports (W : Type) where
  authorization : AuthorizationSource W
  relay : Relay W
  audit : AuditSink W
  notifications : NotificationQueue W
  clock : Clock W
  uuid4 : W → String × W

/-- What a constructor call that does not raise fixes. -/
structure Wiring (W : Type) extends Ports W where
  releaseSeconds : ℚ
  gpioChannel : Int
  releaseSeconds_pos : 0 < releaseSeconds

theorem threeSeconds_pos : (0 : ℚ) < 3 := by decide

theorem fiveSeconds_pos : (0 : ℚ) < 5 := by decide

/-- The state of a controller just constructed. -/
def fresh (escalation : EscalationTracker) : AccessController :=
  { state := .initializing, releaseDeadline := none, lastRelayCommandHigh := none,
    lastCredentialProcessedAt := none, escalation }

/-- The constructor. -/
def init {W : Type} (ports : Ports W) (escalation : EscalationTracker) (releaseSeconds : ℚ)
    (gpioChannel : Int) : Except Exn (Wiring W × AccessController) :=
  if h : releaseSeconds ≤ 0 then .error (.valueError "release duration must be positive")
  else .ok (⟨ports, releaseSeconds, gpioChannel, not_le.mp h⟩, fresh escalation)

inductive Operation
  | start
  | process (record : RecordResult)
  | tick
  | recoverableFailure
  | shutdown

/-- One line of the trace: a call with its answer, an assignment of the
state, or the beginning of an operation. -/
inductive Occurrence
  | began (operation : Operation)
  | entered (state : ControllerState)
  | classified (credential : String) (answer : Except Exn AuthorizationOutcome)
  | setup (numbering : String) (channel : Int) (answer : Except Exn Unit)
  | command (high : Bool) (answer : Except Exn Unit)
  | cleanup (answer : Except Exn Unit)
  | appended (event : AuditEvent) (answer : Except Exn Unit)
  | enqueued (event : AuditEvent) (answer : Except Exn Unit)
  | monotonic (reading : ℚ)
  | now (reading : DateTime)

structure System (W : Type) where
  controller : AccessController
  world : W
  trace : List Occurrence

abbrev Program (W α : Type) : Type := Effect Exn (System W) α

section
variable {W α : Type}

def ask (port : Port W α) (note : Except Exn α → Occurrence) : Program W α :=
  Effect.of fun s =>
    ((port.run s.world).1,
      { s with world := (port.run s.world).2, trace := s.trace ++ [note (port.run s.world).1] })

def look (read : W → α × W) (note : α → Occurrence) : Program W α :=
  Effect.reading fun s =>
    ((read s.world).1,
      { s with world := (read s.world).2, trace := s.trace ++ [note (read s.world).1] })

/-- A reading that leaves no line. -/
def glance (read : W → α × W) : Program W α :=
  Effect.reading fun s => ((read s.world).1, { s with world := (read s.world).2 })

def assign (change : AccessController → AccessController) : Program W Unit :=
  modify fun s => { s with controller := change s.controller }

/-- `self.state = state`. -/
def enter (state : ControllerState) : Program W Unit :=
  modify fun s =>
    { s with controller := { s.controller with state }, trace := s.trace ++ [Occurrence.entered state] }

variable (c : Wiring W)

def monotonic : Program W ℚ := look c.clock.monotonic .monotonic

def now : Program W DateTime := look c.clock.now .now

def uuid4 : Program W String := glance c.uuid4

def newEvent (eventType : EventType) (severity : Severity) (correlation : Correlation) :
    Program W AuditEvent := do
  let timestamp ← now c
  let controllerState := (← get).controller.state.value
  let eventId ← uuid4 c
  match AuditFields.construct
    { eventType, severity, timestamp, correlation, readerState := none,
      controllerState := some controllerState, deliveryStatus := none, eventId } with
  | .ok event => pure event
  | .error e => throw e

def append (event : AuditEvent) : Program W Unit := ask (c.audit.append event) (.appended event)

def audit (eventType : EventType) (severity : Severity) (correlation : Correlation) :
    Program W Unit := do
  let event ← newEvent c eventType severity correlation
  append c event

/-- A relay command, and the record of it when the relay accepts it. -/
def drive (high : Bool) : Program W Unit := do
  ask (c.relay.command high) (.command high)
  assign fun controller => { controller with lastRelayCommandHigh := some high }

def attemptSafeState : Program W Bool := do
  match ← Effect.attempt Exn.isException (drive c false) with
  | .ok () => pure true
  | .error _ =>
    audit c .relayControlError .critical [("reason", .text "low_failed")]
    pure false

def recordSuspicious : Program W Unit := do
  let timestamp ← monotonic c
  let (escalation, tracker) := (← get).controller.escalation.record timestamp
  assign fun controller => { controller with escalation := tracker }
  match escalation with
  | .none => pure ()
  | .warning => audit c .escalationWarning .warning []
  | .critical =>
    let event ← newEvent c .escalationCritical .critical []
    append c event
    match ← Effect.attempt Exn.isException (ask (c.notifications.enqueue event) (.enqueued event)) with
    | .ok () => pure ()
    | .error _ =>
      audit c .notificationDeliveryFailed .error [("reason", .text "queue_unavailable")]

def start : Program W Unit := do
  let state := (← get).controller.state
  if state = .ready ∨ state = .released then pure ()
  else if state ≠ .initializing then throw (.runtimeError "controller cannot be restarted")
  else
    match ← Effect.attempt Exn.isException
        (ask (c.relay.setup "BCM" c.gpioChannel) (.setup "BCM" c.gpioChannel)) with
    | .error e =>
      enter .faulted
      audit c .relayControlError .critical [("reason", .text "setup_failed")]
      throw e
    | .ok () =>
      match ← Effect.attempt Exn.isException (drive c false) with
      | .error e =>
        enter .faulted
        audit c .relayControlError .critical [("reason", .text "low_failed")]
        throw e
      | .ok () =>
        enter .ready
        audit c .serviceStarted .info []

/-- The end of `_process_parsed` for an authorized credential: the HIGH. -/
def release : Program W AccessResult := do
  match ← Effect.attempt Exn.isException (drive c true) with
  | .error _ =>
    audit c .relayControlError .critical [("reason", .text "high_failed")]
    let _ ← attemptSafeState c
    enter .faulted
    pure ⟨some .authorized, .actuationFailed⟩
  | .ok () =>
    let reading ← monotonic c
    assign fun controller =>
      { controller with releaseDeadline := some (reading + c.releaseSeconds) }
    enter .released
    audit c .relayAsserted .info [("duration_seconds", .real c.releaseSeconds)]
    pure ⟨some .authorized, .asserted⟩

def processParsed (record : ParsedRecord) : Program W AccessResult := do
  let outcome ← ask (c.authorization.classify record.credential) (.classified record.credential)
  let processedAt ← now c
  assign fun controller => { controller with lastCredentialProcessedAt := some processedAt }
  match outcome with
  | .denied =>
    audit c .credentialDenied .warning []
    recordSuspicious c
    pure ⟨some .denied, .notRequested⟩
  | .unknown =>
    audit c .credentialUnknown .warning []
    recordSuspicious c
    pure ⟨some .unknown, .notRequested⟩
  | .authorized =>
    audit c .credentialAuthorized .info []
    if (← get).controller.state = .released then pure ⟨some .authorized, .alreadyReleased⟩
    else release c

/-- The reasons that `process` passes on as they are. -/
def safeReasons : List String :=
  ["invalid_length", "invalid_framing", "invalid_terminator", "invalid_encoding",
    "invalid_identifier", "invalid_checksum_encoding", "checksum_mismatch", "excessive_length"]

def safeReason (record : MalformedRecord) : String :=
  if record.reason ∈ safeReasons then record.reason else "malformed_record"

def process (record : RecordResult) : Program W AccessResult := do
  let state := (← get).controller.state
  if ¬(state = .ready ∨ state = .released) then
    throw (.runtimeError "controller is not accepting credentials")
  else
    match record with
    | .malformed record =>
      audit c .malformedRecord .warning [("reason", .text (safeReason record))]
      recordSuspicious c
      pure ⟨none, .notRequested⟩
    | .parsed record => processParsed c record

/-- What `tick` does once the deadline has passed. -/
def restore : Program W Unit := do
  match ← Effect.attempt Exn.isException (drive c false) with
  | .error _ =>
    enter .faulted
    audit c .relayControlError .critical [("reason", .text "low_failed")]
  | .ok () =>
    assign fun controller => { controller with releaseDeadline := none }
    enter .ready
    audit c .relayRestored .info []

def tick : Program W Unit := do
  let controller := (← get).controller
  match controller.releaseDeadline with
  | none => pure ()
  | some deadline =>
    if controller.state = .released then
      let reading ← monotonic c
      if deadline ≤ reading then restore c else pure ()
    else pure ()

def recoverableFailure : Program W Unit := do
  let _ ← attemptSafeState c
  assign fun controller => { controller with releaseDeadline := none }
  enter .faulted
  audit c .relayControlError .error []

/-- The cleanup part of `shutdown`: whether the relay accepted it. -/
def attemptCleanup : Program W Bool := do
  match ← Effect.attempt Exn.isException (ask c.relay.cleanup .cleanup) with
  | .ok () => pure true
  | .error _ =>
    audit c .relayControlError .critical [("reason", .text "cleanup_failed")]
    pure false

def shutdown : Program W Unit := do
  if (← get).controller.state = .stopped then pure ()
  else
    enter .shuttingDown
    let safe ← attemptSafeState c
    assign fun controller => { controller with releaseDeadline := none }
    let cleanupOk ← attemptCleanup c
    if safe && cleanupOk then
      enter .stopped
      audit c .serviceShutdown .info []
    else enter .faulted

def snapshot : Program W ControllerSnapshot := do
  let controller := (← get).controller
  let remaining ←
    match controller.releaseDeadline with
    | some deadline => do
      let reading ← glance c.clock.monotonic
      pure (some (max 0 (deadline - reading)))
    | none => pure none
  pure
    { state := controller.state
      releaseActive := controller.state = .released
      releaseDeadlineMonotonic := controller.releaseDeadline
      releaseRemainingSeconds := remaining
      configuredReleaseSeconds := c.releaseSeconds
      lastRelayCommand := controller.lastRelayCommandHigh.map fun high =>
        if high then .released else .secured
      lastCredentialProcessedAt := controller.lastCredentialProcessedAt }

-- ---------------------------------------------------------------------------
-- Runs
-- ---------------------------------------------------------------------------

/-- An operation of the controller. Only `process` has a result. -/
def perform : Operation → Program W (Option AccessResult)
  | .start => (fun _ => none) <$> start c
  | .process record => some <$> process c record
  | .tick => (fun _ => none) <$> tick c
  | .recoverableFailure => (fun _ => none) <$> recoverableFailure c
  | .shutdown => (fun _ => none) <$> shutdown c

def begin (operation : Operation) : Program W Unit :=
  modify fun s => { s with trace := s.trace ++ [Occurrence.began operation] }

def call (operation : Operation) : Program W (Option AccessResult) := do
  begin operation
  perform c operation

/-- The state after any calls, whether they returned or raised. -/
def run (operations : List Operation) (s : System W) : System W :=
  operations.foldl (fun s operation => ((call c operation).run s).2) s

end

/-- The system of a controller just constructed. -/
def System.initial {W : Type} (escalation : EscalationTracker) (world : W) : System W :=
  ⟨fresh escalation, world, []⟩

end AccessController

end Bridgewire
