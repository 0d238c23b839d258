import Bridgewire.Controller.Model

/-!
# The operations over an audit that accepts every event

With a clock that is aware of its offset and an audit sink that accepts every
event, one relation for each operation lists every way a call of it can end
and the whole of what it adds to the trace. What the relay, the notification
queue and the authorization source answer is left open.
-/

namespace Bridgewire.AccessController

/-- The audit sink accepts every event, and the clock's times are aware, so
that the events can be built. -/
structure Wiring.Audited {W : Type} (c : Wiring W) : Prop where
  accepts : ∀ event w, ((c.audit.append event).run w).1 = .ok ()
  aware : ∀ w, (c.clock.now w).1.isAware = true

/-- The correlations that the constructor of events accepts. -/
def Buildable (correlation : Correlation) : Prop :=
  AuditFields.checkKeys (correlation.map Prod.fst) = .ok () ∧
    AuditFields.checkReason (Correlation.get correlation "reason") = .ok ()

/-- A port answers so in some world. -/
def CanAnswer {W α : Type} (port : Port W α) (answer : Except Exn α) : Prop := ∃ w, (port.run w).1 = answer

/-- What an operation depends on and changes, but the trace. -/
structure Scene where
  state : ControllerState
  deadline : Option ℚ
  escalation : EscalationTracker

def System.scene {W : Type} (s : System W) : Scene :=
  ⟨s.controller.state, s.controller.releaseDeadline, s.controller.escalation⟩

/-- A system with this scene and this trace, whatever its world. -/
structure System.At {W : Type} (v : Scene) (trace : List Occurrence) (s : System W) : Prop where
  scene_eq : s.scene = v
  trace_eq : s.trace = trace

/-- The event of an audit call. -/
def Reports (event : AuditEvent) (eventType : EventType) (severity : Severity) (correlation : Correlation)
    (state : ControllerState) : Prop :=
  event.toAuditFields =
    { eventType, severity, timestamp := event.timestamp, correlation, readerState := none,
      controllerState := some state.value, deliveryStatus := none, eventId := event.eventId }

/-- The lines of an audit call. -/
def reported (event : AuditEvent) : List Occurrence := [.now event.timestamp, .appended event (.ok ())]

-- ---------------------------------------------------------------------------
-- The ways an operation can end
-- ---------------------------------------------------------------------------

namespace Audited

variable {W : Type} (c : Wiring W)

/-- A relay call whose rejection is reported and survived. -/
inductive Tried (port : Port W Unit) (note : Except Exn Unit → Occurrence) (reason : String)
    (state : ControllerState) : Except Exn Bool → List Occurrence → Prop
  | accepted : Tried port note reason state (.ok true) [note (.ok ())]
  | rejected {e : Exn} {event : AuditEvent} (he : e.isException = true) (hport : CanAnswer port (.error e))
    (hevent : Reports event .relayControlError .critical [("reason", .text reason)] state) :
    Tried port note reason state (.ok false) (note (.error e) :: reported event)
  | interrupted {e : Exn} (he : e.isException = false) (hport : CanAnswer port (.error e)) :
    Tried port note reason state (.error e) [note (.error e)]

abbrev TriedLow : ControllerState → Except Exn Bool → List Occurrence → Prop :=
  Tried (c.relay.command false) (.command false) "low_failed"

abbrev TriedCleanup : ControllerState → Except Exn Bool → List Occurrence → Prop :=
  Tried c.relay.cleanup .cleanup "cleanup_failed"

/-- A suspicious event: the reading that is recorded, and what its escalation does. -/
inductive Suspected (state : ControllerState) (tracker : EscalationTracker) :
    Except Exn Unit → List Occurrence → EscalationTracker → Prop
  | calm {reading : ℚ} (hlevel : (tracker.record reading).1 = .none) :
    Suspected state tracker (.ok ()) [.monotonic reading] (tracker.record reading).2
  | warned {reading : ℚ} {event : AuditEvent} (hlevel : (tracker.record reading).1 = .warning)
    (hevent : Reports event .escalationWarning .warning [] state) :
    Suspected state tracker (.ok ()) (.monotonic reading :: reported event) (tracker.record reading).2
  | delivered {reading : ℚ} {event : AuditEvent} (hlevel : (tracker.record reading).1 = .critical)
    (hevent : Reports event .escalationCritical .critical [] state) :
    Suspected state tracker (.ok ()) (.monotonic reading :: reported event ++ [Occurrence.enqueued event (.ok ())])
      (tracker.record reading).2
  | undelivered {reading : ℚ} {event event' : AuditEvent} {e : Exn}
    (hlevel : (tracker.record reading).1 = .critical)
    (hevent : Reports event .escalationCritical .critical [] state) (he : e.isException = true)
    (hport : CanAnswer (c.notifications.enqueue event) (.error e))
    (hevent' : Reports event' .notificationDeliveryFailed .error [("reason", .text "queue_unavailable")] state) :
    Suspected state tracker (.ok ())
      (.monotonic reading :: reported event ++ .enqueued event (.error e) :: reported event')
      (tracker.record reading).2
  | interrupted {reading : ℚ} {event : AuditEvent} {e : Exn} (hlevel : (tracker.record reading).1 = .critical)
    (hevent : Reports event .escalationCritical .critical [] state) (he : e.isException = false)
    (hport : CanAnswer (c.notifications.enqueue event) (.error e)) :
    Suspected state tracker (.error e) (.monotonic reading :: reported event ++ [Occurrence.enqueued event (.error e)])
      (tracker.record reading).2

inductive Started (v : Scene) : Except Exn Unit → List Occurrence → Scene → Prop
  | running (h : v.state = .ready ∨ v.state = .released) : Started v (.ok ()) [] v
  | refused (h : v.state ≠ .ready ∧ v.state ≠ .released ∧ v.state ≠ .initializing) :
    Started v (.error (.runtimeError "controller cannot be restarted")) [] v
  | setupRejected {e : Exn} {event : AuditEvent} (h : v.state = .initializing) (he : e.isException = true)
    (hevent : Reports event .relayControlError .critical [("reason", .text "setup_failed")] .faulted) :
    Started v (.error e) (.setup "BCM" c.gpioChannel (.error e) :: .entered .faulted :: reported event)
      { v with state := .faulted }
  | setupInterrupted {e : Exn} (h : v.state = .initializing) (he : e.isException = false) :
    Started v (.error e) [.setup "BCM" c.gpioChannel (.error e)] v
  | lowRejected {e : Exn} {event : AuditEvent} (h : v.state = .initializing) (he : e.isException = true)
    (hevent : Reports event .relayControlError .critical [("reason", .text "low_failed")] .faulted) :
    Started v (.error e) (.setup "BCM" c.gpioChannel (.ok ()) :: .command false (.error e) ::
      .entered .faulted :: reported event) { v with state := .faulted }
  | lowInterrupted {e : Exn} (h : v.state = .initializing) (he : e.isException = false) :
    Started v (.error e) [.setup "BCM" c.gpioChannel (.ok ()), .command false (.error e)] v
  | ready {event : AuditEvent} (h : v.state = .initializing)
    (hevent : Reports event .serviceStarted .info [] .ready) :
    Started v (.ok ()) (.setup "BCM" c.gpioChannel (.ok ()) :: .command false (.ok ()) ::
      .entered .ready :: reported event) { v with state := .ready }

/-- The event of a credential that is not let in. -/
def refusal : AuthorizationOutcome → Option EventType
  | .denied => some .credentialDenied
  | .unknown => some .credentialUnknown
  | .authorized => none

/-- What precedes every answer to an authorized credential. -/
def approved (credential : String) (t : DateTime) (event : AuditEvent) : List Occurrence :=
  .classified credential (.ok .authorized) :: .now t :: reported event

inductive Processed (v : Scene) : RecordResult → Except Exn AccessResult → List Occurrence → Scene → Prop
  | refused {record : RecordResult} (h : ¬(v.state = .ready ∨ v.state = .released)) :
    Processed v record (.error (.runtimeError "controller is not accepting credentials")) [] v
  | malformed {record : MalformedRecord} {event : AuditEvent} {outcome : Except Exn Unit}
    {tail : List Occurrence} {tracker : EscalationTracker} (h : v.state = .ready ∨ v.state = .released)
    (hevent : Reports event .malformedRecord .warning [("reason", .text (safeReason record))] v.state)
    (hsuspected : Suspected c v.state v.escalation outcome tail tracker) :
    Processed v (.malformed record) (outcome.map fun _ => ⟨none, .notRequested⟩) (reported event ++ tail)
      { v with escalation := tracker }
  | unclassified {record : ParsedRecord} {e : Exn} (h : v.state = .ready ∨ v.state = .released)
    (hport : CanAnswer (c.authorization.classify record.credential) (.error e)) :
    Processed v (.parsed record) (.error e) [.classified record.credential (.error e)] v
  | suspicious {record : ParsedRecord} {answer : AuthorizationOutcome} {eventType : EventType} {t : DateTime}
    {event : AuditEvent} {outcome : Except Exn Unit} {tail : List Occurrence} {tracker : EscalationTracker}
    (h : v.state = .ready ∨ v.state = .released) (hrefusal : refusal answer = some eventType)
    (hevent : Reports event eventType .warning [] v.state)
    (hsuspected : Suspected c v.state v.escalation outcome tail tracker) :
    Processed v (.parsed record) (outcome.map fun _ => ⟨some answer, .notRequested⟩)
      (.classified record.credential (.ok answer) :: .now t :: reported event ++ tail)
      { v with escalation := tracker }
  | alreadyReleased {record : ParsedRecord} {t : DateTime} {event : AuditEvent} (h : v.state = .released)
    (hevent : Reports event .credentialAuthorized .info [] v.state) :
    Processed v (.parsed record) (.ok ⟨some .authorized, .alreadyReleased⟩) (approved record.credential t event) v
  | asserted {record : ParsedRecord} {t : DateTime} {event event' : AuditEvent} {reading : ℚ}
    (h : v.state = .ready) (hevent : Reports event .credentialAuthorized .info [] v.state)
    (hevent' : Reports event' .relayAsserted .info [("duration_seconds", .real c.releaseSeconds)] .released) :
    Processed v (.parsed record) (.ok ⟨some .authorized, .asserted⟩)
      (approved record.credential t event ++ .command true (.ok ()) :: .monotonic reading ::
        .entered .released :: reported event')
      { v with state := .released, deadline := some (reading + c.releaseSeconds) }
  | interrupted {record : ParsedRecord} {t : DateTime} {event : AuditEvent} {e : Exn} (h : v.state = .ready)
    (hevent : Reports event .credentialAuthorized .info [] v.state) (he : e.isException = false)
    (hport : CanAnswer (c.relay.command true) (.error e)) :
    Processed v (.parsed record) (.error e)
      (approved record.credential t event ++ [Occurrence.command true (.error e)]) v
  | lowInterrupted {record : ParsedRecord} {t : DateTime} {event event' : AuditEvent} {e e' : Exn}
    {low : List Occurrence} (h : v.state = .ready)
    (hevent : Reports event .credentialAuthorized .info [] v.state) (he : e.isException = true)
    (hport : CanAnswer (c.relay.command true) (.error e))
    (hevent' : Reports event' .relayControlError .critical [("reason", .text "high_failed")] v.state)
    (hlow : TriedLow c v.state (.error e') low) :
    Processed v (.parsed record) (.error e')
      (approved record.credential t event ++ .command true (.error e) :: reported event' ++ low) v
  | failed {record : ParsedRecord} {t : DateTime} {event event' : AuditEvent} {e : Exn} {safe : Bool}
    {low : List Occurrence} (h : v.state = .ready)
    (hevent : Reports event .credentialAuthorized .info [] v.state) (he : e.isException = true)
    (hport : CanAnswer (c.relay.command true) (.error e))
    (hevent' : Reports event' .relayControlError .critical [("reason", .text "high_failed")] v.state)
    (hlow : TriedLow c v.state (.ok safe) low) :
    Processed v (.parsed record) (.ok ⟨some .authorized, .actuationFailed⟩)
      (approved record.credential t event ++ .command true (.error e) :: reported event' ++ low ++
        [Occurrence.entered .faulted]) { v with state := .faulted }

inductive Ticked (v : Scene) : Except Exn Unit → List Occurrence → Scene → Prop
  | idle (h : v.state ≠ .released ∨ v.deadline = none) : Ticked v (.ok ()) [] v
  | early {deadline reading : ℚ} (h : v.state = .released) (hdeadline : v.deadline = some deadline)
    (hreading : reading < deadline) : Ticked v (.ok ()) [.monotonic reading] v
  | restored {deadline reading : ℚ} {event : AuditEvent} (h : v.state = .released)
    (hdeadline : v.deadline = some deadline) (hreading : deadline ≤ reading)
    (hevent : Reports event .relayRestored .info [] .ready) :
    Ticked v (.ok ()) (.monotonic reading :: .command false (.ok ()) :: .entered .ready :: reported event)
      { v with state := .ready, deadline := none }
  | rejected {deadline reading : ℚ} {e : Exn} {event : AuditEvent} (h : v.state = .released)
    (hdeadline : v.deadline = some deadline) (hreading : deadline ≤ reading) (he : e.isException = true)
    (hport : CanAnswer (c.relay.command false) (.error e))
    (hevent : Reports event .relayControlError .critical [("reason", .text "low_failed")] .faulted) :
    Ticked v (.ok ()) (.monotonic reading :: .command false (.error e) :: .entered .faulted :: reported event)
      { v with state := .faulted }
  | interrupted {deadline reading : ℚ} {e : Exn} (h : v.state = .released)
    (hdeadline : v.deadline = some deadline) (hreading : deadline ≤ reading) (he : e.isException = false)
    (hport : CanAnswer (c.relay.command false) (.error e)) :
    Ticked v (.error e) [.monotonic reading, .command false (.error e)] v

inductive Recovered (v : Scene) : Except Exn Unit → List Occurrence → Scene → Prop
  | interrupted {e : Exn} {low : List Occurrence} (hlow : TriedLow c v.state (.error e) low) :
    Recovered v (.error e) low v
  | faulted {safe : Bool} {low : List Occurrence} {event : AuditEvent} (hlow : TriedLow c v.state (.ok safe) low)
    (hevent : Reports event .relayControlError .error [] .faulted) :
    Recovered v (.ok ()) (low ++ .entered .faulted :: reported event)
      { v with state := .faulted, deadline := none }

inductive ShutDown (v : Scene) : Except Exn Unit → List Occurrence → Scene → Prop
  | done (h : v.state = .stopped) : ShutDown v (.ok ()) [] v
  | lowInterrupted {e : Exn} {low : List Occurrence} (h : v.state ≠ .stopped)
    (hlow : TriedLow c .shuttingDown (.error e) low) :
    ShutDown v (.error e) (.entered .shuttingDown :: low) { v with state := .shuttingDown }
  | cleanupInterrupted {safe : Bool} {e : Exn} {low cleanup : List Occurrence} (h : v.state ≠ .stopped)
    (hlow : TriedLow c .shuttingDown (.ok safe) low)
    (hcleanup : TriedCleanup c .shuttingDown (.error e) cleanup) :
    ShutDown v (.error e) (.entered .shuttingDown :: low ++ cleanup)
      { v with state := .shuttingDown, deadline := none }
  | stopped {low cleanup : List Occurrence} {event : AuditEvent} (h : v.state ≠ .stopped)
    (hlow : TriedLow c .shuttingDown (.ok true) low)
    (hcleanup : TriedCleanup c .shuttingDown (.ok true) cleanup)
    (hevent : Reports event .serviceShutdown .info [] .stopped) :
    ShutDown v (.ok ()) (.entered .shuttingDown :: low ++ cleanup ++ .entered .stopped :: reported event)
      { v with state := .stopped, deadline := none }
  | faulted {safe cleanupOk : Bool} {low cleanup : List Occurrence} (h : v.state ≠ .stopped)
    (hlow : TriedLow c .shuttingDown (.ok safe) low)
    (hcleanup : TriedCleanup c .shuttingDown (.ok cleanupOk) cleanup) (hfailed : (safe && cleanupOk) = false) :
    ShutDown v (.ok ()) (.entered .shuttingDown :: low ++ cleanup ++ [Occurrence.entered .faulted])
      { v with state := .faulted, deadline := none }

end Audited

-- ---------------------------------------------------------------------------
-- The calls to collaborators
-- ---------------------------------------------------------------------------

theorem checkKeys_allowed {key : String}
    (hforbidden : ¬(forbiddenKeys.any fun forbidden => forbidden.toList <:+: lower key) = true)
    (hallowed : key ∈ allowedCorrelationKeys) : AuditFields.checkKeys [key] = .ok () := by
  unfold AuditFields.checkKeys
  rw [if_neg hforbidden, if_neg (not_not.mpr hallowed)]
  rfl

theorem buildable_nil : Buildable [] := ⟨rfl, rfl⟩

theorem buildable_reason {reason : String} (h : reason ∈ allowedReasons) :
    Buildable [("reason", .text reason)] := by
  have hkeys : AuditFields.checkKeys ["reason"] = .ok () := checkKeys_allowed (by decide +kernel) (by decide)
  exact ⟨hkeys, if_pos h⟩

theorem buildable_duration (seconds : ℚ) : Buildable [("duration_seconds", .real seconds)] := by
  have hkeys : AuditFields.checkKeys ["duration_seconds"] = .ok () :=
    checkKeys_allowed (by decide +kernel) (by decide)
  exact ⟨hkeys, rfl⟩

theorem safeReason_allowed (record : MalformedRecord) : safeReason record ∈ allowedReasons := by
  unfold safeReason
  split
  · rename_i h
    revert h
    generalize record.reason = reason
    simp only [safeReasons, allowedReasons, List.mem_cons, List.not_mem_nil, or_false]
    tauto
  · decide

/-- An event with a buildable correlation can be built at an aware time. -/
theorem construct_buildable (fields : AuditFields) (haware : fields.timestamp.isAware = true)
    (hbuildable : Buildable fields.correlation) : ∃ h, fields.construct = .ok ⟨fields, h⟩ := by
  have haccepted : fields.postInit = .ok () := by
    unfold AuditFields.postInit
    rw [if_neg (by simp [haware]), hbuildable.1]
    exact hbuildable.2
  exact ⟨haccepted, AuditFields.construct_accepted haccepted⟩

open Effect

section
variable {W α : Type} {c : Wiring W} {v : Scene} {trace : List Occurrence} {s : System W}

theorem ask_at (hs : s.At v trace) (port : Port W α) (note : Except Exn α → Occurrence) :
    Ends (ask port note) s (fun outcome s' => CanAnswer port outcome ∧ s'.At v (trace ++ [note outcome])) :=
  ends_iff.mpr ⟨⟨_, rfl⟩, hs.scene_eq, congrArg (· ++ _) hs.trace_eq⟩

theorem look_at (hs : s.At v trace) (read : W → α × W) (note : α → Occurrence)
    {E : Exn → System W → Prop} :
    Triple (look read note) s (fun a s' => (∃ w, a = (read w).1) ∧ s'.At v (trace ++ [note a])) E :=
  Triple.of_run rfl ⟨⟨_, rfl⟩, hs.scene_eq, congrArg (· ++ _) hs.trace_eq⟩

theorem enter_at (hs : s.At v trace) (state : ControllerState) {E : Exn → System W → Prop} :
    Triple (enter state) s (fun _ s' => s'.At { v with state } (trace ++ [Occurrence.entered state])) E :=
  Triple.of_run rfl ⟨congrArg (fun v : Scene => { v with state }) hs.scene_eq,
    congrArg (· ++ _) hs.trace_eq⟩

/-- An assignment that does `f` to the scene. -/
theorem assign_at (hs : s.At v trace) {change : AccessController → AccessController} (f : Scene → Scene)
    (h : ∀ s : System W, ({ s with controller := change s.controller } : System W).scene = f s.scene)
    {E : Exn → System W → Prop} :
    Triple (assign change) s (fun _ s' => s'.At (f v) trace) E :=
  Triple.of_run rfl ⟨(h s).trans (congrArg f hs.scene_eq), hs.trace_eq⟩

theorem newEvent_at (haware : ∀ w, (c.clock.now w).1.isAware = true) (hs : s.At v trace) (eventType : EventType) (severity : Severity)
    {correlation : Correlation} (hbuildable : Buildable correlation) {E : Exn → System W → Prop} :
    Triple (newEvent c eventType severity correlation) s (fun event s' =>
      Reports event eventType severity correlation v.state ∧
        s'.At v (trace ++ [Occurrence.now event.timestamp])) E := by
  unfold newEvent now
  refine Triple.bind (look_at hs _ _) ?_
  rintro t s₁ ⟨⟨w, rfl⟩, h₁⟩
  refine Triple.get_bind ?_
  have hstate : s₁.controller.state = v.state := congrArg Scene.state h₁.scene_eq
  rw [hstate]
  refine Triple.bind (P := fun _ s' => s'.At v (trace ++ [Occurrence.now (c.clock.now w).1]))
    (Triple.of_run rfl ⟨h₁.scene_eq, h₁.trace_eq⟩) ?_
  intro eventId s₂ h₂
  obtain ⟨haccepted, hevent⟩ := construct_buildable
    { eventType, severity, timestamp := (c.clock.now w).1, correlation, readerState := none,
      controllerState := some v.state.value, deliveryStatus := none, eventId } (haware w) hbuildable
  rw [hevent]
  exact ⟨rfl, h₂⟩

theorem append_at (haudited : c.Audited) (hs : s.At v trace) (event : AuditEvent)
    {E : Exn → System W → Prop} :
    Triple (append c event) s (fun _ s' => s'.At v (trace ++ [Occurrence.appended event (.ok ())])) E := by
  refine Triple.mono (ask_at hs (c.audit.append event) (.appended event)) (fun _ _ h => h.2) ?_
  rintro e s₁ ⟨⟨w, he⟩, -⟩
  rw [haudited.accepts] at he
  cases he

theorem audit_at (haudited : c.Audited) (hs : s.At v trace) (eventType : EventType) (severity : Severity)
    {correlation : Correlation} (hbuildable : Buildable correlation) {E : Exn → System W → Prop} :
    Triple (audit c eventType severity correlation) s (fun _ s' =>
      ∃ event, Reports event eventType severity correlation v.state ∧ s'.At v (trace ++ reported event)) E := by
  unfold audit
  refine Triple.bind (newEvent_at haudited.aware hs eventType severity hbuildable) ?_
  rintro event s₁ ⟨hevent, h₁⟩
  refine Triple.mono (append_at haudited h₁ event) ?_ fun _ _ h => h
  intro _ s₂ h₂
  exact ⟨event, hevent, by simpa [reported] using h₂⟩

theorem drive_at (hs : s.At v trace) (high : Bool) :
    Ends (drive c high) s (fun outcome s' =>
      CanAnswer (c.relay.command high) outcome ∧ s'.At v (trace ++ [Occurrence.command high outcome])) := by
  unfold drive
  refine Ends.bind (ask_at hs _ _) (fun _ _ h => h) ?_
  rintro _ s₁ ⟨hport, h₁⟩
  exact Triple.of_run rfl ⟨hport, h₁.scene_eq, h₁.trace_eq⟩

-- ---------------------------------------------------------------------------
-- The safe state and the cleanup
-- ---------------------------------------------------------------------------

section
variable {port : Port W Unit} {note : Except Exn Unit → Occurrence} {reason : String}

/-- The report of a rejected relay call that is survived. -/
theorem reject_ends (haudited : c.Audited) {e : Exn} (he : e.isException = true)
    (hport : CanAnswer port (.error e)) (hreason : reason ∈ allowedReasons)
    (hs : s.At v (trace ++ [note (.error e)])) :
    Ends (do audit c .relayControlError .critical [("reason", .text reason)]; pure false) s
      (fun outcome s' => ∃ lines, Audited.Tried port note reason v.state outcome lines ∧
        s'.At v (trace ++ lines)) := by
  refine Ends.bind (audit_at haudited hs .relayControlError .critical (buildable_reason hreason))
    (fun _ _ h => h) ?_
  rintro _ s₁ ⟨event, hevent, h₁⟩
  exact Ends.pure ⟨_, .rejected he hport hevent, by simpa using h₁⟩

theorem attemptSafeState_at (haudited : c.Audited) (hs : s.At v trace) :
    Ends (attemptSafeState c) s (fun outcome s' =>
      ∃ lines, Audited.TriedLow c v.state outcome lines ∧ s'.At v (trace ++ lines)) := by
  unfold attemptSafeState
  refine Ends.bind (Triple.attempt (drive_at hs false)) ?_ ?_
  · rintro e s₁ ⟨he, hport, h₁⟩
    exact ⟨_, .interrupted he hport, h₁⟩
  rintro (e | ⟨⟨⟩⟩) s₁ h₁
  · obtain ⟨he, hport, h₁⟩ := h₁
    exact reject_ends haudited he hport (by decide) h₁
  · exact Ends.pure ⟨_, .accepted, h₁.2⟩

theorem attemptCleanup_at (haudited : c.Audited) (hs : s.At v trace) :
    Ends (attemptCleanup c) s (fun outcome s' =>
      ∃ lines, Audited.TriedCleanup c v.state outcome lines ∧ s'.At v (trace ++ lines)) := by
  unfold attemptCleanup
  refine Ends.bind (Triple.attempt (ask_at hs _ _)) ?_ ?_
  · rintro e s₁ ⟨he, hport, h₁⟩
    exact ⟨_, .interrupted he hport, h₁⟩
  rintro (e | ⟨⟨⟩⟩) s₁ h₁
  · obtain ⟨he, hport, h₁⟩ := h₁
    exact reject_ends haudited he hport (by decide) h₁
  · exact Ends.pure ⟨_, .accepted, h₁.2⟩

end

-- ---------------------------------------------------------------------------
-- Process
-- ---------------------------------------------------------------------------

theorem recordSuspicious_at (haudited : c.Audited) (hs : s.At v trace) :
    Ends (recordSuspicious c) s (fun outcome s' =>
      ∃ lines tracker, Audited.Suspected c v.state v.escalation outcome lines tracker ∧
        s'.At { v with escalation := tracker } (trace ++ lines)) := by
  unfold recordSuspicious monotonic
  refine Ends.bind (look_at hs _ _) (fun _ _ h => h) ?_
  rintro reading s₁ ⟨-, h₁⟩
  refine Ends.get_bind ?_
  have hescalation : s₁.controller.escalation = v.escalation := congrArg Scene.escalation h₁.scene_eq
  rw [hescalation]
  dsimp only
  refine Ends.bind (assign_at h₁ (fun v' => { v' with escalation := (v.escalation.record reading).2 })
    fun _ => rfl) (fun _ _ h => h) fun _ s₂ h₂ => ?_
  split
  · rename_i hlevel
    exact Ends.pure ⟨_, _, .calm hlevel, h₂⟩
  · rename_i hlevel
    refine Triple.mono (audit_at haudited h₂ .escalationWarning .warning buildable_nil) ?_ fun _ _ h => h
    rintro _ s₃ ⟨event, hevent, h₃⟩
    exact ⟨_, _, .warned hlevel hevent, by simpa using h₃⟩
  · rename_i hlevel
    refine Ends.bind (newEvent_at haudited.aware h₂ .escalationCritical .critical buildable_nil) (fun _ _ h => h) ?_
    rintro event s₃ ⟨hevent, h₃⟩
    refine Ends.bind (append_at haudited h₃ event) (fun _ _ h => h) fun _ s₄ h₄ => ?_
    refine Ends.bind (Triple.attempt (ask_at h₄ _ _)) ?_ ?_
    · rintro e s₅ ⟨he, hport, h₅⟩
      exact ⟨_, _, .interrupted hlevel hevent he hport, by simpa [reported] using h₅⟩
    rintro (e | ⟨⟨⟩⟩) s₅ h₅
    · obtain ⟨he, hport, h₅⟩ := h₅
      refine Triple.mono (audit_at haudited h₅ .notificationDeliveryFailed .error
        (buildable_reason (by decide))) ?_ fun _ _ h => h
      rintro _ s₆ ⟨event', hevent', h₆⟩
      exact ⟨_, _, .undelivered hlevel hevent he hport hevent', by simpa [reported] using h₆⟩
    · exact Ends.pure ⟨_, _, .delivered hlevel hevent, by simpa [reported] using h₅.2⟩

theorem release_at (haudited : c.Audited) {record : ParsedRecord} {t : DateTime} {event : AuditEvent}
    (hstate : v.state = .ready) (hevent : Reports event .credentialAuthorized .info [] v.state)
    (hs : s.At v (trace ++ Audited.approved record.credential t event)) :
    Ends (release c) s (fun outcome s' => ∃ lines v', Audited.Processed c v (.parsed record) outcome lines v' ∧
      s'.At v' (trace ++ lines)) := by
  unfold release
  refine Ends.bind (Triple.attempt (drive_at hs true)) ?_ ?_
  · rintro e s₁ ⟨he, hport, h₁⟩
    exact ⟨_, _, .interrupted hstate hevent he hport, by simpa using h₁⟩
  rintro (e | ⟨⟨⟩⟩) s₁ h₁
  · obtain ⟨he, hport, h₁⟩ := h₁
    refine Ends.bind (audit_at haudited h₁ .relayControlError .critical (buildable_reason (by decide)))
      (fun _ _ h => h) ?_
    rintro _ s₂ ⟨event', hevent', h₂⟩
    refine Ends.bind (attemptSafeState_at haudited h₂) ?_ ?_
    · rintro e' s₃ ⟨low, hlow, h₃⟩
      exact ⟨_, _, .lowInterrupted hstate hevent he hport hevent' hlow, by simpa using h₃⟩
    · rintro safe s₃ ⟨low, hlow, h₃⟩
      refine Ends.bind (enter_at h₃ .faulted) (fun _ _ h => h) fun _ s₄ h₄ => ?_
      exact Ends.pure ⟨_, _, .failed hstate hevent he hport hevent' hlow, by simpa using h₄⟩
  · refine Ends.bind (look_at h₁.2 _ _) (fun _ _ h => h) ?_
    rintro reading s₂ ⟨-, h₂⟩
    refine Ends.bind (assign_at h₂ (fun v' => { v' with deadline := some (reading + c.releaseSeconds) })
      fun _ => rfl) (fun _ _ h => h) fun _ s₃ h₃ => ?_
    refine Ends.bind (enter_at h₃ .released) (fun _ _ h => h) fun _ s₄ h₄ => ?_
    refine Ends.bind (audit_at haudited h₄ .relayAsserted .info (buildable_duration _)) (fun _ _ h => h) ?_
    rintro _ s₅ ⟨event', hevent', h₅⟩
    exact Ends.pure ⟨_, _, .asserted hstate hevent hevent', by simpa using h₅⟩

theorem processParsed_at (haudited : c.Audited) (record : ParsedRecord)
    (hstate : v.state = .ready ∨ v.state = .released) (hs : s.At v trace) :
    Ends (processParsed c record) s (fun outcome s' => ∃ lines v',
      Audited.Processed c v (.parsed record) outcome lines v' ∧ s'.At v' (trace ++ lines)) := by
  -- the two refusals differ in their event only
  have hrefused : ∀ {answer : AuthorizationOutcome} {eventType : EventType} {t : DateTime} {s' : System W},
      Audited.refusal answer = some eventType →
      s'.At v (trace ++ [Occurrence.classified record.credential (.ok answer), .now t]) →
      Ends (do
          audit c eventType .warning []
          recordSuspicious c
          pure (⟨some answer, .notRequested⟩ : AccessResult)) s' (fun outcome s'' => ∃ lines v',
        Audited.Processed c v (.parsed record) outcome lines v' ∧ s''.At v' (trace ++ lines)) := by
    intro answer eventType t s' hrefusal h'
    refine Ends.bind (audit_at haudited h' eventType .warning buildable_nil) (fun _ _ h => h) ?_
    rintro _ s₁ ⟨event, hevent, h₁⟩
    refine Ends.bind (recordSuspicious_at haudited h₁) ?_ ?_
    · rintro e s₂ ⟨lines, tracker, hsuspected, h₂⟩
      exact ⟨_, _, .suspicious hstate hrefusal hevent hsuspected, by simpa using h₂⟩
    · rintro _ s₂ ⟨lines, tracker, hsuspected, h₂⟩
      exact Ends.pure ⟨_, _, .suspicious hstate hrefusal hevent hsuspected, by simpa using h₂⟩
  unfold processParsed now
  refine Ends.bind (ask_at hs _ _) ?_ ?_
  · rintro e s₁ ⟨hport, h₁⟩
    exact ⟨_, _, .unclassified hstate hport, h₁⟩
  rintro answer s₁ ⟨-, h₁⟩
  refine Ends.bind (look_at h₁ _ _) (fun _ _ h => h) ?_
  rintro t s₂ ⟨-, h₂⟩
  refine Ends.bind (assign_at h₂ id fun _ => rfl) (fun _ _ h => h) fun _ s₃ h₃ => ?_
  rw [List.append_assoc] at h₃
  cases answer with
  | denied => exact hrefused rfl h₃
  | unknown => exact hrefused rfl h₃
  | authorized =>
    refine Ends.bind (audit_at haudited h₃ .credentialAuthorized .info buildable_nil) (fun _ _ h => h) ?_
    rintro _ s₄ ⟨event, hevent, h₄⟩
    have happroved : s₄.At v (trace ++ Audited.approved record.credential t event) := by
      simpa [Audited.approved] using h₄
    refine Ends.get_bind ?_
    have hstate₄ : s₄.controller.state = v.state := congrArg Scene.state h₄.scene_eq
    rw [hstate₄]
    split
    · rename_i hreleased
      exact Ends.pure ⟨_, _, .alreadyReleased hreleased hevent, happroved⟩
    · rename_i hready
      exact release_at haudited (hstate.resolve_right hready) hevent happroved

theorem process_at (haudited : c.Audited) (record : RecordResult) (hs : s.At v trace) :
    Ends (process c record) s (fun outcome s' => ∃ lines v',
      Audited.Processed c v record outcome lines v' ∧ s'.At v' (trace ++ lines)) := by
  unfold process
  refine Ends.get_bind ?_
  have hstate : s.controller.state = v.state := congrArg Scene.state hs.scene_eq
  rw [hstate]
  dsimp only
  split
  · rename_i h
    exact Ends.throw ⟨_, _, .refused h, by simpa using hs⟩
  rename_i h
  have haccepting : v.state = .ready ∨ v.state = .released := not_not.mp h
  cases record with
  | malformed record =>
    refine Ends.bind (audit_at haudited hs .malformedRecord .warning
      (buildable_reason (safeReason_allowed record))) (fun _ _ h => h) ?_
    rintro _ s₁ ⟨event, hevent, h₁⟩
    refine Ends.bind (recordSuspicious_at haudited h₁) ?_ ?_
    · rintro e s₂ ⟨lines, tracker, hsuspected, h₂⟩
      exact ⟨_, _, .malformed haccepting hevent hsuspected, by simpa using h₂⟩
    · rintro _ s₂ ⟨lines, tracker, hsuspected, h₂⟩
      exact Ends.pure ⟨_, _, .malformed haccepting hevent hsuspected, by simpa using h₂⟩
  | parsed record => exact processParsed_at haudited record haccepting hs

-- ---------------------------------------------------------------------------
-- The other operations
-- ---------------------------------------------------------------------------

theorem tick_at (haudited : c.Audited) (hs : s.At v trace) :
    Ends (tick c) s (fun outcome s' => ∃ lines v', Audited.Ticked c v outcome lines v' ∧
      s'.At v' (trace ++ lines)) := by
  unfold tick
  refine Ends.get_bind ?_
  have hstate : s.controller.state = v.state := congrArg Scene.state hs.scene_eq
  have hsame : s.controller.releaseDeadline = v.deadline := congrArg Scene.deadline hs.scene_eq
  dsimp only
  rw [hstate, hsame]
  split
  · rename_i hdeadline
    exact Ends.pure ⟨_, _, .idle (.inr hdeadline), by simpa using hs⟩
  rename_i deadline hdeadline
  split
  · rename_i hreleased
    refine Ends.bind (look_at hs _ _) (fun _ _ h => h) ?_
    rintro reading s₁ ⟨-, h₁⟩
    split
    · rename_i hreading
      unfold restore
      refine Ends.bind (Triple.attempt (drive_at h₁ false)) ?_ ?_
      · rintro e s₂ ⟨he, hport, h₂⟩
        exact ⟨_, _, .interrupted hreleased hdeadline hreading he hport, by simpa using h₂⟩
      rintro (e | ⟨⟨⟩⟩) s₂ h₂
      · obtain ⟨he, hport, h₂⟩ := h₂
        refine Ends.bind (enter_at h₂ .faulted) (fun _ _ h => h) fun _ s₃ h₃ => ?_
        refine Triple.mono (audit_at haudited h₃ .relayControlError .critical
          (buildable_reason (by decide))) ?_ fun _ _ h => h
        rintro _ s₄ ⟨event, hevent, h₄⟩
        exact ⟨_, _, .rejected hreleased hdeadline hreading he hport hevent, by simpa using h₄⟩
      · refine Ends.bind (assign_at h₂.2 (fun v' => { v' with deadline := none }) fun _ => rfl)
          (fun _ _ h => h) fun _ s₃ h₃ => ?_
        refine Ends.bind (enter_at h₃ .ready) (fun _ _ h => h) fun _ s₄ h₄ => ?_
        refine Triple.mono (audit_at haudited h₄ .relayRestored .info buildable_nil) ?_ fun _ _ h => h
        rintro _ s₅ ⟨event, hevent, h₅⟩
        exact ⟨_, _, .restored hreleased hdeadline hreading hevent, by simpa using h₅⟩
    · rename_i hreading
      exact Ends.pure ⟨_, _, .early hreleased hdeadline (not_le.mp hreading), h₁⟩
  · rename_i hstate
    exact Ends.pure ⟨_, _, .idle (.inl hstate), by simpa using hs⟩

/-- Failing after a rejected call of `start`. -/
theorem fail_at (haudited : c.Audited) {e : Exn} {reason : String} (hreason : reason ∈ allowedReasons)
    (hs : s.At v trace) :
    Ends (do
        enter .faulted
        audit c .relayControlError .critical [("reason", .text reason)]
        throw e) s (fun (outcome : Except Exn Unit) s' => outcome = .error e ∧
      ∃ event, Reports event .relayControlError .critical [("reason", .text reason)] .faulted ∧
        s'.At { v with state := .faulted } (trace ++ .entered .faulted :: reported event)) := by
  refine Ends.bind (enter_at hs .faulted) (fun _ _ h => h) fun _ s₁ h₁ => ?_
  refine Ends.bind (audit_at haudited h₁ .relayControlError .critical (buildable_reason hreason))
    (fun _ _ h => h) ?_
  rintro _ s₂ ⟨event, hevent, h₂⟩
  exact Ends.throw ⟨rfl, event, hevent, by simpa using h₂⟩

theorem start_at (haudited : c.Audited) (hs : s.At v trace) :
    Ends (start c) s (fun outcome s' => ∃ lines v', Audited.Started c v outcome lines v' ∧
      s'.At v' (trace ++ lines)) := by
  unfold start
  refine Ends.get_bind ?_
  have hstate : s.controller.state = v.state := congrArg Scene.state hs.scene_eq
  rw [hstate]
  dsimp only
  split
  · rename_i hrunning
    exact Ends.pure ⟨_, _, .running hrunning, by simpa using hs⟩
  split
  · rename_i hrunning hinitializing
    rw [not_or] at hrunning
    exact Ends.throw ⟨_, _, .refused ⟨hrunning.1, hrunning.2, hinitializing⟩, by simpa using hs⟩
  rename_i hinitializing
  have hinit : v.state = .initializing := not_not.mp hinitializing
  refine Ends.bind (Triple.attempt (ask_at hs _ _)) ?_ ?_
  · rintro e s₁ ⟨he, -, h₁⟩
    exact ⟨_, _, .setupInterrupted hinit he, h₁⟩
  rintro (e | ⟨⟨⟩⟩) s₁ h₁
  · obtain ⟨he, -, h₁⟩ := h₁
    refine Ends.mono (fail_at haudited (by decide) h₁) ?_
    rintro _ s₂ ⟨rfl, event, hevent, h₂⟩
    exact ⟨_, _, .setupRejected hinit he hevent, by simpa using h₂⟩
  refine Ends.bind (Triple.attempt (drive_at h₁.2 false)) ?_ ?_
  · rintro e s₂ ⟨he, -, h₂⟩
    exact ⟨_, _, .lowInterrupted hinit he, by simpa using h₂⟩
  rintro (e | ⟨⟨⟩⟩) s₂ h₂
  · obtain ⟨he, -, h₂⟩ := h₂
    refine Ends.mono (fail_at haudited (by decide) h₂) ?_
    rintro _ s₃ ⟨rfl, event, hevent, h₃⟩
    exact ⟨_, _, .lowRejected hinit he hevent, by simpa using h₃⟩
  · refine Ends.bind (enter_at h₂.2 .ready) (fun _ _ h => h) fun _ s₃ h₃ => ?_
    refine Triple.mono (audit_at haudited h₃ .serviceStarted .info buildable_nil) ?_ fun _ _ h => h
    rintro _ s₄ ⟨event, hevent, h₄⟩
    exact ⟨_, _, .ready hinit hevent, by simpa using h₄⟩

theorem recoverableFailure_at (haudited : c.Audited) (hs : s.At v trace) :
    Ends (recoverableFailure c) s (fun outcome s' => ∃ lines v', Audited.Recovered c v outcome lines v' ∧
      s'.At v' (trace ++ lines)) := by
  unfold recoverableFailure
  refine Ends.bind (attemptSafeState_at haudited hs) ?_ ?_
  · rintro e s₁ ⟨low, hlow, h₁⟩
    exact ⟨_, _, .interrupted hlow, h₁⟩
  rintro safe s₁ ⟨low, hlow, h₁⟩
  refine Ends.bind (assign_at h₁ (fun v' => { v' with deadline := none }) fun _ => rfl)
    (fun _ _ h => h) fun _ s₂ h₂ => ?_
  refine Ends.bind (enter_at h₂ .faulted) (fun _ _ h => h) fun _ s₃ h₃ => ?_
  refine Triple.mono (audit_at haudited h₃ .relayControlError .error buildable_nil) ?_ fun _ _ h => h
  rintro _ s₄ ⟨event, hevent, h₄⟩
  exact ⟨_, _, .faulted hlow hevent, by simpa using h₄⟩

theorem shutdown_at (haudited : c.Audited) (hs : s.At v trace) :
    Ends (shutdown c) s (fun outcome s' => ∃ lines v', Audited.ShutDown c v outcome lines v' ∧
      s'.At v' (trace ++ lines)) := by
  unfold shutdown
  refine Ends.get_bind ?_
  have hstate : s.controller.state = v.state := congrArg Scene.state hs.scene_eq
  rw [hstate]
  split
  · rename_i hstopped
    exact Ends.pure ⟨_, _, .done hstopped, by simpa using hs⟩
  rename_i hstopped
  refine Ends.bind (enter_at hs .shuttingDown) (fun _ _ h => h) fun _ s₁ h₁ => ?_
  refine Ends.bind (attemptSafeState_at haudited h₁) ?_ ?_
  · rintro e s₂ ⟨low, hlow, h₂⟩
    exact ⟨_, _, .lowInterrupted hstopped hlow, by simpa using h₂⟩
  rintro safe s₂ ⟨low, hlow, h₂⟩
  refine Ends.bind (assign_at h₂ (fun v' => { v' with deadline := none }) fun _ => rfl)
    (fun _ _ h => h) fun _ s₃ h₃ => ?_
  refine Ends.bind (attemptCleanup_at haudited h₃) ?_ ?_
  · rintro e s₄ ⟨cleanup, hcleanup, h₄⟩
    exact ⟨_, _, .cleanupInterrupted hstopped hlow hcleanup, by simpa using h₄⟩
  rintro cleanupOk s₄ ⟨cleanup, hcleanup, h₄⟩
  split
  · rename_i hboth
    obtain ⟨rfl, rfl⟩ : safe = true ∧ cleanupOk = true := by simpa using hboth
    refine Ends.bind (enter_at h₄ .stopped) (fun _ _ h => h) fun _ s₅ h₅ => ?_
    refine Triple.mono (audit_at haudited h₅ .serviceShutdown .info buildable_nil) ?_ fun _ _ h => h
    rintro _ s₆ ⟨event, hevent, h₆⟩
    exact ⟨_, _, .stopped hstopped hlow hcleanup hevent, by simpa using h₆⟩
  · rename_i hfailed
    refine Triple.mono (enter_at h₄ .faulted) ?_ fun _ _ h => h
    intro _ s₅ h₅
    exact ⟨_, _, .faulted hstopped hlow hcleanup (by simpa using hfailed), by simpa using h₅⟩

end

-- ---------------------------------------------------------------------------
-- Calls
-- ---------------------------------------------------------------------------

namespace Audited

variable {W : Type} (c : Wiring W)

/-- The ways a call can end. -/
inductive Called (v : Scene) : Operation → Except Exn (Option AccessResult) → List Occurrence → Scene → Prop
  | start {outcome : Except Exn Unit} {lines : List Occurrence} {v' : Scene} (h : Started c v outcome lines v') :
    Called v .start (outcome.map fun _ => none) lines v'
  | process {record : RecordResult} {outcome : Except Exn AccessResult} {lines : List Occurrence} {v' : Scene}
    (h : Processed c v record outcome lines v') : Called v (.process record) (outcome.map some) lines v'
  | tick {outcome : Except Exn Unit} {lines : List Occurrence} {v' : Scene} (h : Ticked c v outcome lines v') :
    Called v .tick (outcome.map fun _ => none) lines v'
  | recoverableFailure {outcome : Except Exn Unit} {lines : List Occurrence} {v' : Scene}
    (h : Recovered c v outcome lines v') : Called v .recoverableFailure (outcome.map fun _ => none) lines v'
  | shutdown {outcome : Except Exn Unit} {lines : List Occurrence} {v' : Scene} (h : ShutDown c v outcome lines v') :
    Called v .shutdown (outcome.map fun _ => none) lines v'

end Audited

theorem call_at {W : Type} {c : Wiring W} (haudited : c.Audited) (operation : Operation) {v : Scene}
    {trace : List Occurrence} {s : System W} (hs : s.At v trace) :
    Ends (call c operation) s (fun outcome s' => ∃ lines v', Audited.Called c v operation outcome lines v' ∧
      s'.At v' (trace ++ .began operation :: lines)) := by
  have hbegun : ({ s with trace := s.trace ++ [Occurrence.began operation] } : System W).At v (trace ++ [Occurrence.began operation]) :=
    ⟨hs.scene_eq, congrArg (· ++ _) hs.trace_eq⟩
  refine Ends.modify_bind ?_
  cases operation with
  | start =>
    refine Ends.map (Ends.mono (start_at haudited hbegun) ?_)
    rintro outcome s' ⟨lines, v', h, h'⟩
    exact ⟨lines, v', .start h, by simpa using h'⟩
  | process record =>
    refine Ends.map (Ends.mono (process_at haudited record hbegun) ?_)
    rintro outcome s' ⟨lines, v', h, h'⟩
    exact ⟨lines, v', .process h, by simpa using h'⟩
  | tick =>
    refine Ends.map (Ends.mono (tick_at haudited hbegun) ?_)
    rintro outcome s' ⟨lines, v', h, h'⟩
    exact ⟨lines, v', .tick h, by simpa using h'⟩
  | recoverableFailure =>
    refine Ends.map (Ends.mono (recoverableFailure_at haudited hbegun) ?_)
    rintro outcome s' ⟨lines, v', h, h'⟩
    exact ⟨lines, v', .recoverableFailure h, by simpa using h'⟩
  | shutdown =>
    refine Ends.map (Ends.mono (shutdown_at haudited hbegun) ?_)
    rintro outcome s' ⟨lines, v', h, h'⟩
    exact ⟨lines, v', .shutdown h, by simpa using h'⟩

-- ---------------------------------------------------------------------------
-- Collaborators that always answer the same
-- ---------------------------------------------------------------------------

structure Script where
  now : DateTime := ⟨0, some 0⟩
  classified : Except Exn AuthorizationOutcome := .ok .authorized
  high : Except Exn Unit := .ok ()
  low : Except Exn Unit := .ok ()
  delivered : Except Exn Unit := .ok ()

def keyboardInterrupt : Exn := ⟨.keyboardInterrupt, "", [], none⟩

def scripted (script : Script) : Wiring Unit where
  authorization := ⟨fun _ => Effect.of fun w => (script.classified, w)⟩
  relay :=
    { setup := fun _ _ => pure ()
      command := fun high => Effect.of fun w => (if high then script.high else script.low, w)
      cleanup := pure () }
  audit := ⟨fun _ => pure ()⟩
  notifications := ⟨fun _ => Effect.of fun w => (script.delivered, w)⟩
  clock := ⟨fun w => (0, w), fun w => (script.now, w)⟩
  uuid4 w := ("", w)
  releaseSeconds := 5
  gpioChannel := 23
  releaseSeconds_pos := fiveSeconds_pos

theorem scripted_audited {script : Script} (h : script.now.isAware = true) : (scripted script).Audited where
  accepts _ _ := rfl
  aware _ := h

end Bridgewire.AccessController
