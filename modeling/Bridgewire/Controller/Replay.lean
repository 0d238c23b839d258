import Bridgewire.Controller.Audited
import Bridgewire.Controller.View
import Bridgewire.Replay

/-!
# The controller as a function of its answers

Every operation can be replayed from the answers that its collaborators gave.
The replay sees no credential, no reason that is not allow-listed and no event
id. With `heed = false` it does not see either which deliveries failed, nor
the reports of these failures.
-/

namespace Bridgewire

/-- An event without its id. -/
def AuditEvent.blind (event : AuditEvent) : AuditEvent :=
  { event with eventId := "", accepted := event.accepted }

namespace AccessController

open Effect Replay

-- ---------------------------------------------------------------------------
-- What a replay sees
-- ---------------------------------------------------------------------------

/-- A record without its credential, or with the reason that is reported for it. -/
def blindRecord : RecordResult → RecordResult
  | .parsed _ => .parsed ⟨""⟩
  | .malformed record => .malformed ⟨safeReason record⟩

def Operation.blind : Operation → Operation
  | .process record => .process (blindRecord record)
  | operation => operation

def Occurrence.see (heed : Bool) : Occurrence → Occurrence
  | .began operation => .began operation.blind
  | .classified _ answer => .classified "" answer
  | .appended event answer => .appended event.blind answer
  | .enqueued event answer => .enqueued event.blind (if heed then answer else .ok ())
  | line => line

/-- The answers of the collaborators, port by port. -/
structure Answers where
  classified : List (Except Exn AuthorizationOutcome)
  setup : List (Except Exn Unit)
  command : List (Except Exn Unit)
  cleanup : List (Except Exn Unit)
  appended : List (Except Exn Unit)
  enqueued : List (Except Exn Unit)
  monotonic : List ℚ
  now : List DateTime
  deriving DecidableEq

def Answers.none : Answers := ⟨[], [], [], [], [], [], [], []⟩

/-- The answer of a line comes before the others. -/
def Occurrence.push (heed : Bool) (line : Occurrence) (left : Answers) : Answers :=
  match line with
  | .classified _ answer => { left with classified := answer :: left.classified }
  | .setup _ _ answer => { left with setup := answer :: left.setup }
  | .command _ answer => { left with command := answer :: left.command }
  | .cleanup answer => { left with cleanup := answer :: left.cleanup }
  | .appended _ answer => { left with appended := answer :: left.appended }
  | .enqueued _ answer => if heed then { left with enqueued := answer :: left.enqueued } else left
  | .monotonic reading => { left with monotonic := reading :: left.monotonic }
  | .now reading => { left with now := reading :: left.now }
  | .began _ | .entered _ => left

/-- Collaborators that answer from a supply. -/
def Wiring.replayer {W : Type} (c : Wiring W) : Wiring Answers where
  authorization := ⟨fun _ => Effect.of fun w =>
    (w.classified.headD (.ok .unknown), { w with classified := w.classified.tail })⟩
  relay :=
    { setup := fun _ _ => Effect.of fun w => (w.setup.headD (.ok ()), { w with setup := w.setup.tail })
      command := fun _ => Effect.of fun w => (w.command.headD (.ok ()), { w with command := w.command.tail })
      cleanup := Effect.of fun w => (w.cleanup.headD (.ok ()), { w with cleanup := w.cleanup.tail }) }
  audit := ⟨fun _ => Effect.of fun w => (w.appended.headD (.ok ()), { w with appended := w.appended.tail })⟩
  notifications := ⟨fun _ => Effect.of fun w =>
    (w.enqueued.headD (.ok ()), { w with enqueued := w.enqueued.tail })⟩
  clock :=
    { monotonic := fun w => (w.monotonic.headD 0, { w with monotonic := w.monotonic.tail })
      now := fun w => (w.now.headD ⟨0, none⟩, { w with now := w.now.tail }) }
  uuid4 w := ("", w)
  releaseSeconds := c.releaseSeconds
  gpioChannel := c.gpioChannel
  releaseSeconds_pos := c.releaseSeconds_pos

/-- The report of a delivery that failed. -/
def Occurrence.IsReport : Occurrence → Prop
  | .appended event _ => event.eventType = .notificationDeliveryFailed
  | _ => False

/-- The lines that a replay repeats: all, or all but the reports of deliveries that failed. -/
inductive Kept (heed : Bool) : List Occurrence → List Occurrence → Prop
  | nil : Kept heed [] []
  | keep {line : Occurrence} {lines kept : List Occurrence} (hline : heed = true ∨ ¬line.IsReport)
    (h : Kept heed lines kept) : Kept heed (line :: lines) (line :: kept)
  | drop {t : DateTime} {event : AuditEvent} {answer : Except Exn Unit} {lines kept : List Occurrence}
    (hheed : heed = false) (hevent : event.eventType = .notificationDeliveryFailed)
    (h : Kept heed lines kept) : Kept heed (.now t :: .appended event answer :: lines) kept

theorem Kept.append {heed : Bool} {xs ys xs' ys' : List Occurrence} (hxs : Kept heed xs xs')
    (hys : Kept heed ys ys') : Kept heed (xs ++ ys) (xs' ++ ys') := by
  induction hxs with
  | nil => exact hys
  | keep hline _ ih => exact .keep hline ih
  | drop hheed hevent _ ih => exact .drop hheed hevent ih

theorem kept_line {heed : Bool} {line : Occurrence} (h : heed = true ∨ ¬line.IsReport) :
    Kept heed [line] [line] := .keep h .nil

structure Ready {W : Type} (heed : Bool) (s : System W) (left : Answers) (s' : System Answers) : Prop where
  controller_eq : s'.controller = s.controller
  world_eq : s'.world = left
  unheeded : heed = false → left.enqueued = []

def replay (W : Type) (heed : Bool) : Replay (System W) (System Answers) Occurrence Occurrence Answers where
  trace := System.trace
  trace' := System.trace
  see := Occurrence.see heed
  push := Occurrence.push heed
  Keeps := Kept heed
  keeps_nil := .nil
  keeps_append := Kept.append
  Ready := Ready heed

-- ---------------------------------------------------------------------------
-- The calls to collaborators
-- ---------------------------------------------------------------------------

section
variable {W α : Type} {c : Wiring W} {heed : Bool} {s : System W}

/-- A port of the replay that gives the answer of the line. -/
structure Repeats (heed : Bool) (note note' : Except Exn α → Occurrence) (port' : Port Answers α) : Prop where
  sees : ∀ answer, (note answer).see heed = note' answer
  answers : ∀ answer left, port'.run ((note answer).push heed left) = (answer, left)
  enqueued : ∀ answer left, heed = false → ((note answer).push heed left).enqueued = left.enqueued

theorem ask_replays {port : Port W α} {port' : Port Answers α} {note note' : Except Exn α → Occurrence}
    (h : Repeats heed note note' port') (hkept : heed = true ∨ ∀ answer, ¬(note answer).IsReport) :
    (replay W heed).Replays id (ask port note) (ask port' note') s := by
  refine ⟨[note (port.run s.world).1], [note (port.run s.world).1], rfl,
    kept_line (hkept.imp id fun h => h _), fun rest s' hready => ?_⟩
  obtain ⟨hcontroller, hworld, hunheeded⟩ := hready
  have hrun : port'.run s'.world = ((port.run s.world).1, rest) := by
    rw [hworld]
    exact h.answers _ _
  have hask : (ask port' note').run s' =
      ((port.run s.world).1, { s' with world := rest, trace := s'.trace ++ [note' (port.run s.world).1] }) := by
    show ((port'.run s'.world).1, _) = _
    rw [hrun]
  refine ⟨?_, ⟨?_, ?_, ?_⟩, ?_⟩
  · rw [hask, Except.map_id]
    rfl
  · rw [hask]
    exact hcontroller
  · rw [hask]
  · intro hheed
    rw [← h.enqueued (port.run s.world).1 rest hheed]
    exact hunheeded hheed
  · rw [hask]
    show s'.trace ++ [note' _] = s'.trace ++ [(note _).see heed]
    rw [h.sees]

theorem look_replays {read : W → α × W} {read' : Answers → α × Answers} {note : α → Occurrence}
    (hsees : ∀ a, (note a).see heed = note a)
    (hanswers : ∀ a left, read' ((note a).push heed left) = (a, left))
    (hunheeded : ∀ a left, heed = false → ((note a).push heed left).enqueued = left.enqueued)
    (hkept : ∀ a, ¬(note a).IsReport) :
    (replay W heed).Replays id (look read note) (look read' note) s := by
  refine ⟨[note (read s.world).1], [note (read s.world).1], rfl, kept_line (.inr (hkept _)),
    fun rest s' hready => ?_⟩
  obtain ⟨hcontroller, hworld, hnone⟩ := hready
  have hrun : read' s'.world = ((read s.world).1, rest) := by
    rw [hworld]
    exact hanswers _ _
  have hlook : (look read' note).run s' =
      (.ok (read s.world).1, { s' with world := rest, trace := s'.trace ++ [note (read s.world).1] }) := by
    show (Except.ok (read' s'.world).1, ({ s' with
      world := (read' s'.world).2
      trace := s'.trace ++ [note (read' s'.world).1] } : System Answers)) = _
    rw [hrun]
  refine ⟨?_, ⟨?_, ?_, ?_⟩, ?_⟩
  · rw [hlook]
    rfl
  · rw [hlook]
    exact hcontroller
  · rw [hlook]
  · intro hheed
    rw [← hunheeded (read s.world).1 rest hheed]
    exact hnone hheed
  · rw [hlook]
    show s'.trace ++ [note _] = s'.trace ++ [(note _).see heed]
    rw [hsees]

theorem monotonic_replays :
    (replay W heed).Replays id (monotonic c) (monotonic c.replayer) s :=
  look_replays (fun _ => rfl) (fun _ _ => rfl) (fun _ _ _ => rfl) fun _ => id

theorem now_replays : (replay W heed).Replays id (now c) (now c.replayer) s :=
  look_replays (fun _ => rfl) (fun _ _ => rfl) (fun _ _ _ => rfl) fun _ => id

theorem uuid4_replays : (replay W heed).Replays (fun _ => "") (uuid4 c) (uuid4 c.replayer) s :=
  replays_of_silent rfl fun _ _ hready =>
    ⟨rfl, ⟨hready.controller_eq, hready.world_eq, hready.unheeded⟩, (List.append_nil _).symm⟩

theorem assign_replays (change : AccessController → AccessController) :
    (replay W heed).Replays id (assign change) (assign change) s :=
  replays_of_silent rfl fun _ _ hready =>
    ⟨rfl, ⟨congrArg change hready.controller_eq, hready.world_eq, hready.unheeded⟩, (List.append_nil _).symm⟩

theorem enter_replays (state : ControllerState) :
    (replay W heed).Replays id (enter state) (enter state) s :=
  ⟨[.entered state], [.entered state], rfl, kept_line (.inr id), fun _ _ hready =>
    ⟨rfl, ⟨congrArg (fun controller => { controller with state }) hready.controller_eq, hready.world_eq,
      hready.unheeded⟩, rfl⟩⟩

theorem begin_replays (operation : Operation) :
    (replay W heed).Replays id (begin operation) (begin operation.blind) s :=
  ⟨[.began operation], [.began operation], rfl, kept_line (.inr id), fun _ _ hready =>
    ⟨rfl, ⟨hready.controller_eq, hready.world_eq, hready.unheeded⟩, rfl⟩⟩

/-- The code reads nothing but the controller. -/
theorem get_replays {γ : Type} {k : System W → Program W α} {k' : System Answers → Program Answers γ}
    {p : α → γ} (hk : ∀ s' : System Answers, s'.controller = s.controller → k' s' = k' ⟨s.controller, .none, []⟩)
    (h : (replay W heed).Replays p (k s) (k' ⟨s.controller, .none, []⟩) s) :
    (replay W heed).Replays p (get >>= k) (get >>= k') s :=
  Replays.get_bind _ (fun _ s' hready => hk s' (Ready.controller_eq hready)) h

-- ---------------------------------------------------------------------------
-- Events
-- ---------------------------------------------------------------------------

/-- Whether an event can be built does not depend on its id. -/
theorem construct_blind (fields : AuditFields) :
    ({ fields with eventId := "" } : AuditFields).construct = fields.construct.map AuditEvent.blind := by
  have hsame : ({ fields with eventId := "" } : AuditFields).postInit = fields.postInit := rfl
  cases h : fields.postInit with
  | ok accepted =>
    rw [AuditFields.construct_accepted h, AuditFields.construct_accepted (hsame.trans h)]
    rfl
  | error e =>
    rw [AuditFields.construct_rejected h, AuditFields.construct_rejected (hsame.trans h)]
    rfl

theorem newEvent_replays (eventType : EventType) (severity : Severity) (correlation : Correlation) :
    (replay W heed).Replays AuditEvent.blind (newEvent c eventType severity correlation)
      (newEvent c.replayer eventType severity correlation) s := by
  unfold newEvent
  refine now_replays.bind fun timestamp s₁ => ?_
  refine get_replays (fun s' h => by rw [h]) ?_
  refine uuid4_replays.bind fun eventId s₂ => ?_
  have hblind := construct_blind
    { eventType, severity, timestamp, correlation, readerState := none,
      controllerState := some s₁.controller.state.value, deliveryStatus := none, eventId }
  dsimp only at hblind ⊢
  rw [show id timestamp = timestamp from rfl, hblind]
  generalize AuditFields.construct _ = built
  cases built with
  | ok event => exact replays_pure event
  | error e => exact replays_throw e

theorem append_replays (event : AuditEvent)
    (hevent : heed = true ∨ event.eventType ≠ .notificationDeliveryFailed) :
    (replay W heed).Replays id (append c event) (append c.replayer event.blind) s :=
  ask_replays ⟨fun _ => rfl, fun _ _ => rfl, fun _ _ _ => rfl⟩ (hevent.imp id fun h _ => h)

theorem newEvent_eventType {eventType : EventType} {severity : Severity} {correlation : Correlation}
    {event : AuditEvent} {s₁ : System W}
    (h : (newEvent c eventType severity correlation).run s = (.ok event, s₁)) : event.eventType = eventType := by
  have hends := newEvent_ends (c := c) (s := s) eventType severity correlation
  rw [Triple, h] at hends
  exact hends.1

theorem audit_replays {eventType : EventType} (severity : Severity) (correlation : Correlation)
    (hevent : heed = true ∨ eventType ≠ .notificationDeliveryFailed) :
    (replay W heed).Replays id (audit c eventType severity correlation)
      (audit c.replayer eventType severity correlation) s := by
  unfold audit
  refine (newEvent_replays eventType severity correlation).bind_of fun event s₁ hrun => ?_
  refine append_replays event (hevent.imp id fun h => ?_)
  rwa [newEvent_eventType hrun]

-- ---------------------------------------------------------------------------
-- The operations
-- ---------------------------------------------------------------------------

theorem drive_replays (high : Bool) :
    (replay W heed).Replays id (drive c high) (drive c.replayer high) s := by
  unfold drive
  refine Replays.bind (p := id) (ask_replays ?_ (.inr fun _ => id)) fun _ _ => assign_replays _
  exact ⟨fun _ => rfl, fun _ _ => rfl, fun _ _ _ => rfl⟩

theorem attemptSafeState_replays :
    (replay W heed).Replays id (attemptSafeState c) (attemptSafeState c.replayer) s := by
  unfold attemptSafeState
  refine ((drive_replays false).attempt _).bind ?_
  rintro (e | ⟨⟨⟩⟩) s₁
  · exact (audit_replays _ _ (.inr (by decide))).bind fun _ _ => replays_pure false
  · exact replays_pure true

theorem attemptCleanup_replays :
    (replay W heed).Replays id (attemptCleanup c) (attemptCleanup c.replayer) s := by
  unfold attemptCleanup
  refine (Replays.attempt (p := id) (ask_replays ?_ (.inr fun _ => id)) _).bind ?_
  · exact ⟨fun _ => rfl, fun _ _ => rfl, fun _ _ _ => rfl⟩
  rintro (e | ⟨⟨⟩⟩) s₁
  · exact (audit_replays _ _ (.inr (by decide))).bind fun _ _ => replays_pure false
  · exact replays_pure true

theorem start_replays : (replay W heed).Replays id (start c) (start c.replayer) s := by
  unfold start
  refine get_replays (fun s' h => by rw [h]) ?_
  dsimp only
  split
  · exact replays_pure ()
  split
  · exact replays_throw _
  refine (Replays.attempt (p := id) (ask_replays ?_ (.inr fun _ => id)) _).bind ?_
  · exact ⟨fun _ => rfl, fun _ _ => rfl, fun _ _ _ => rfl⟩
  rintro (e | ⟨⟨⟩⟩) s₁
  · refine (enter_replays _).bind fun _ _ => ?_
    exact (audit_replays _ _ (.inr (by decide))).bind fun _ _ => replays_throw e
  refine ((drive_replays false).attempt _).bind ?_
  rintro (e | ⟨⟨⟩⟩) s₂
  · refine (enter_replays _).bind fun _ _ => ?_
    exact (audit_replays _ _ (.inr (by decide))).bind fun _ _ => replays_throw e
  · exact (enter_replays _).bind fun _ _ => audit_replays _ _ (.inr (by decide))

theorem release_replays : (replay W heed).Replays id (release c) (release c.replayer) s := by
  unfold release
  refine ((drive_replays true).attempt _).bind ?_
  rintro (e | ⟨⟨⟩⟩) s₁
  · refine (audit_replays _ _ (.inr (by decide))).bind fun _ _ => ?_
    refine attemptSafeState_replays.bind fun _ _ => ?_
    exact (enter_replays _).bind fun _ _ => replays_pure _
  · refine monotonic_replays.bind fun reading s₂ => ?_
    refine (assign_replays _).bind fun _ _ => (enter_replays _).bind fun _ _ => ?_
    exact (audit_replays _ _ (.inr (by decide))).bind fun _ _ => replays_pure _

theorem tick_replays : (replay W heed).Replays id (tick c) (tick c.replayer) s := by
  unfold tick
  refine get_replays (fun s' h => by rw [h]) ?_
  dsimp only
  split
  · exact replays_pure ()
  split
  · refine monotonic_replays.bind fun reading s₁ => ?_
    rw [show id reading = reading from rfl]
    split
    · unfold restore
      refine ((drive_replays false).attempt _).bind ?_
      rintro (e | ⟨⟨⟩⟩) s₂
      · exact (enter_replays _).bind fun _ _ => audit_replays _ _ (.inr (by decide))
      · refine (assign_replays _).bind fun _ _ => ?_
        exact (enter_replays _).bind fun _ _ => audit_replays _ _ (.inr (by decide))
    · exact replays_pure ()
  · exact replays_pure ()

theorem recoverableFailure_replays :
    (replay W heed).Replays id (recoverableFailure c) (recoverableFailure c.replayer) s := by
  unfold recoverableFailure
  refine attemptSafeState_replays.bind fun _ _ => ?_
  refine (assign_replays _).bind fun _ _ => ?_
  exact (enter_replays _).bind fun _ _ => audit_replays _ _ (.inr (by decide))

theorem shutdown_replays : (replay W heed).Replays id (shutdown c) (shutdown c.replayer) s := by
  unfold shutdown
  refine get_replays (fun s' h => by rw [h]) ?_
  dsimp only
  split
  · exact replays_pure ()
  refine (enter_replays _).bind fun _ _ => ?_
  refine attemptSafeState_replays.bind fun safe _ => ?_
  refine (assign_replays _).bind fun _ _ => ?_
  refine attemptCleanup_replays.bind fun cleanupOk _ => ?_
  dsimp only [id]
  split
  · exact (enter_replays _).bind fun _ _ => audit_replays _ _ (.inr (by decide))
  · exact enter_replays _

-- ---------------------------------------------------------------------------
-- Deliveries
-- ---------------------------------------------------------------------------

/-- The end of `_record_suspicious` for a critical event. -/
def deliver (c : Wiring W) (event : AuditEvent) : Program W Unit := do
  match ← Effect.attempt Exn.isException (ask (c.notifications.enqueue event) (.enqueued event)) with
  | .ok () => pure ()
  | .error _ => audit c .notificationDeliveryFailed .error [("reason", .text "queue_unavailable")]

/-- Every delivery that fails is survived and reported. -/
structure Wiring.Survives (c : Wiring W) : Prop where
  audited : c.Audited
  survivable : ∀ event w e, ((c.notifications.enqueue event).run w).1 = .error e → e.isException = true

/-- An event that can be built is built. -/
theorem newEvent_run (haware : ∀ w, (c.clock.now w).1.isAware = true) (eventType : EventType)
    (severity : Severity) {correlation : Correlation} (hbuildable : Buildable correlation) :
    ∃ event world, event.eventType = eventType ∧
      (newEvent c eventType severity correlation).run s =
        (.ok event, { s with world, trace := s.trace ++ [Occurrence.now event.timestamp] }) := by
  obtain ⟨haccepted, hevent⟩ := construct_buildable
    { eventType, severity, timestamp := (c.clock.now s.world).1, correlation, readerState := none,
      controllerState := some s.controller.state.value, deliveryStatus := none,
      eventId := (c.uuid4 (c.clock.now s.world).2).1 } (haware s.world) hbuildable
  refine ⟨⟨_, haccepted⟩, (c.uuid4 (c.clock.now s.world).2).2, rfl, ?_⟩
  unfold newEvent now uuid4 look glance reading
  simp only [run_bind, run_of, run_get]
  rw [hevent]
  rfl

theorem audit_run (haudited : c.Audited) (eventType : EventType) (severity : Severity)
    {correlation : Correlation} (hbuildable : Buildable correlation) :
    ∃ event world, event.eventType = eventType ∧
      (audit c eventType severity correlation).run s =
        (.ok (), { s with world, trace := s.trace ++ reported event }) := by
  obtain ⟨event, world, htype, hnew⟩ := newEvent_run (s := s) haudited.aware eventType severity hbuildable
  refine ⟨event, ((c.audit.append event).run world).2, htype, ?_⟩
  unfold audit append ask
  rw [run_bind, hnew]
  simp only [run_of, haudited.accepts]
  simp [reported]

/-- The system after the queue was asked. -/
def System.notified (c : Wiring W) (event : AuditEvent) (s : System W) : System W :=
  { s with
    world := ((c.notifications.enqueue event).run s.world).2
    trace := s.trace ++ [Occurrence.enqueued event ((c.notifications.enqueue event).run s.world).1] }

theorem deliver_run_ok {event : AuditEvent} (h : ((c.notifications.enqueue event).run s.world).1 = .ok ()) :
    (deliver c event).run s = (.ok (), s.notified c event) := by
  have hask : (ask (c.notifications.enqueue event) (.enqueued event)).run s = (.ok (), s.notified c event) :=
    congrArg (Prod.mk · _) h
  unfold deliver
  simp only [run_bind, Effect.attempt, run_of, hask]
  rfl

theorem deliver_run_error {event : AuditEvent} {e : Exn} (he : e.isException = true)
    (h : ((c.notifications.enqueue event).run s.world).1 = .error e) :
    (deliver c event).run s =
      (audit c .notificationDeliveryFailed .error [("reason", .text "queue_unavailable")]).run
        (s.notified c event) := by
  have hask : (ask (c.notifications.enqueue event) (.enqueued event)).run s = (.error e, s.notified c event) :=
    congrArg (Prod.mk · _) h
  unfold deliver
  simp only [run_bind, Effect.attempt, run_of, hask, he, if_true]

theorem deliver_replayer {event : AuditEvent} {s' : System Answers} (h : s'.world.enqueued = []) :
    (deliver c.replayer event).run s' =
      (.ok (), { s' with trace := s'.trace ++ [Occurrence.enqueued event (.ok ())] }) := by
  obtain ⟨controller, world, trace⟩ := s'
  obtain ⟨classified, setup, command, cleanup, appended, enqueued, monotonic, now⟩ := world
  subst h
  exact deliver_run_ok rfl

/-- Survived deliveries that are not heeded. -/
theorem deliver_replays_unheeded (hsurvives : c.Survives) (event : AuditEvent) :
    (replay W false).Replays id (deliver c event) (deliver c.replayer event.blind) s := by
  have hfollows : ∀ (s₁ : System W) (answer : Except Exn Unit), s₁.controller = s.controller → ∀ rest s',
      Ready false s (Occurrence.push false (.enqueued event answer) rest) s' →
        (replay W false).Follows id ((.ok (), s₁) : Except Exn Unit × System W) [.enqueued event answer] rest s'
          ((deliver c.replayer event.blind).run s') := by
    rintro s₁ answer hsame rest s' ⟨hcontroller, rfl, hunheeded⟩
    rw [deliver_replayer (hunheeded rfl)]
    exact ⟨rfl, ⟨hcontroller.trans hsame.symm, rfl, hunheeded⟩, rfl⟩
  cases hanswer : ((c.notifications.enqueue event).run s.world).1 with
  | ok =>
    refine ⟨[.enqueued event (.ok ())], [.enqueued event (.ok ())], ?_, kept_line (.inr id), ?_⟩
    · rw [deliver_run_ok hanswer]
      exact congrArg (fun answer => s.trace ++ [Occurrence.enqueued event answer]) hanswer
    · rw [deliver_run_ok hanswer]
      exact hfollows _ _ rfl
  | error e =>
    have he := hsurvives.survivable _ _ _ hanswer
    have hfields : Buildable [("reason", .text "queue_unavailable")] := buildable_reason (by decide)
    obtain ⟨report, world, htype, hrun⟩ := audit_run (s := s.notified c event) hsurvives.audited
      .notificationDeliveryFailed .error hfields
    rw [← deliver_run_error he hanswer] at hrun
    refine ⟨.enqueued event (.error e) :: reported report, [.enqueued event (.error e)], ?_,
      .keep (.inr id) (.drop rfl htype .nil), ?_⟩
    · rw [hrun]
      show s.trace ++ [Occurrence.enqueued event _] ++ reported report = s.trace ++ .enqueued event (.error e) :: reported report
      rw [hanswer, List.append_assoc]
      rfl
    · rw [hrun]
      exact hfollows _ _ rfl

theorem deliver_replays (hheed : heed = true ∨ c.Survives) (event : AuditEvent) :
    (replay W heed).Replays id (deliver c event) (deliver c.replayer event.blind) s := by
  cases heed with
  | false => exact deliver_replays_unheeded (by simpa using hheed) event
  | true =>
    unfold deliver
    refine (Replays.attempt (p := id) (ask_replays ?_ (.inr fun _ => id)) _).bind ?_
    · exact ⟨fun _ => rfl, fun _ _ => rfl, fun _ _ h => nomatch h⟩
    rintro (e | ⟨⟨⟩⟩) s₁
    · exact audit_replays _ _ (.inl rfl)
    · exact replays_pure ()

theorem recordSuspicious_replays (hheed : heed = true ∨ c.Survives) :
    (replay W heed).Replays id (recordSuspicious c) (recordSuspicious c.replayer) s := by
  unfold recordSuspicious
  refine monotonic_replays.bind fun timestamp s₁ => ?_
  refine get_replays (fun s' h => by rw [h]) ?_
  dsimp only [id]
  refine (assign_replays _).bind fun _ s₂ => ?_
  split
  · exact replays_pure ()
  · exact audit_replays _ _ (.inr (by decide))
  · refine (newEvent_replays _ _ _).bind_of fun event s₃ hrun => ?_
    refine (append_replays event (.inr ?_)).bind fun _ s₄ => deliver_replays hheed event
    rw [newEvent_eventType hrun]
    decide

theorem processParsed_replays (hheed : heed = true ∨ c.Survives) (record : ParsedRecord) :
    (replay W heed).Replays id (processParsed c record) (processParsed c.replayer ⟨""⟩) s := by
  unfold processParsed
  refine Replays.bind (p := id) (ask_replays ?_ (.inr fun _ => id)) fun outcome s₁ => ?_
  · exact ⟨fun _ => rfl, fun _ _ => rfl, fun _ _ _ => rfl⟩
  refine now_replays.bind fun processedAt s₂ => ?_
  refine (assign_replays _).bind fun _ s₃ => ?_
  dsimp only [id]
  cases outcome with
  | denied | unknown =>
    refine (audit_replays _ _ (.inr (by decide))).bind fun _ _ => ?_
    exact (recordSuspicious_replays hheed).bind fun _ _ => replays_pure _
  | authorized =>
    refine (audit_replays _ _ (.inr (by decide))).bind fun _ s₄ => ?_
    refine get_replays (fun s' h => by rw [h]) ?_
    dsimp only
    split
    · exact replays_pure _
    · exact release_replays

theorem safeReason_safeReason (record : MalformedRecord) : safeReason ⟨safeReason record⟩ = safeReason record := by
  by_cases h : record.reason ∈ safeReasons
  · rw [show safeReason record = record.reason from if_pos h]
    exact if_pos h
  · rw [show safeReason record = "malformed_record" from if_neg h]
    decide

theorem process_replays (hheed : heed = true ∨ c.Survives) (record : RecordResult) :
    (replay W heed).Replays id (process c record) (process c.replayer (blindRecord record)) s := by
  unfold process
  refine get_replays (fun s' h => by rw [h]) ?_
  dsimp only
  split
  · exact replays_throw _
  cases record with
  | malformed record =>
    simp only [blindRecord, safeReason_safeReason]
    refine (audit_replays _ _ (.inr (by decide))).bind fun _ _ => ?_
    exact (recordSuspicious_replays hheed).bind fun _ _ => replays_pure _
  | parsed record => exact processParsed_replays hheed record

theorem call_replays (hheed : heed = true ∨ c.Survives) (operation : Operation) :
    (replay W heed).Replays id (call c operation) (call c.replayer operation.blind) s := by
  unfold call
  refine (begin_replays operation).bind fun _ _ => ?_
  cases operation with
  | start => exact start_replays.map fun _ => rfl
  | process record => exact (process_replays hheed record).map fun _ => rfl
  | tick => exact tick_replays.map fun _ => rfl
  | recoverableFailure => exact recoverableFailure_replays.map fun _ => rfl
  | shutdown => exact shutdown_replays.map fun _ => rfl

end

end AccessController

end Bridgewire
