import Bridgewire.Controller.Audited
import Bridgewire.Runtime.Frame

/-!
# A runtime under watch

A wiring whose world also keeps a record of what the reader's ports, the
health reporter and the runtime's audit sink answer. Nothing reads the
record. With everything but the reader reliable, it shows what a round does:
the other collaborators leave the reader's side alone and never raise.
-/

namespace Bridgewire

/-- What a port of the reader's side answers. -/
inductive PortLine
  | enumerated (answer : Except Exn (List SerialDevice))
  | opening (path : String) (answer : Except Exn (Option ReaderSession))
  | reading (session : ReaderSession) (answer : Except Exn (List UInt8))
  | closing (session : ReaderSession) (answer : Except Exn Unit)
  | reported (report : HealthReport) (answer : Except Exn Unit)
  | appended (event : AuditEvent) (answer : Except Exn Unit)

/-- A world and what was seen in it. -/
structure Watched (W : Type) where
  world : W
  lines : List PortLine

namespace Watched

def part (W : Type) : Component (Watched W) W where
  get v := v.world
  set world v := { v with world }
  get_set _ _ := rfl
  set_get _ := rfl
  set_set _ _ _ := rfl

section
variable {W α : Type}

/-- A port whose answers are seen. -/
def watch (line : Except Exn α → PortLine) (port : Port W α) : Port (Watched W) α :=
  Effect.of fun v =>
    ((port.run v.world).1, ⟨(port.run v.world).2, v.lines ++ [line (port.run v.world).1]⟩)

/-- A port whose answers are not. -/
def pass (port : Port W α) : Port (Watched W) α := Effect.zoom (part W) port

/-- So with a reading. -/
def passReading (read : W → α × W) (v : Watched W) : α × Watched W :=
  ((read v.world).1, { v with world := (read v.world).2 })

def clock (clock : Clock W) : Clock (Watched W) where
  monotonic := passReading clock.monotonic
  now := passReading clock.now

end

end Watched

open Watched

section
variable {W : Type}

def AccessController.Wiring.watched (c : AccessController.Wiring W) :
    AccessController.Wiring (Watched W) where
  authorization := ⟨fun credential => pass (c.authorization.classify credential)⟩
  relay :=
    { setup := fun numbering channel => pass (c.relay.setup numbering channel)
      command := fun high => pass (c.relay.command high)
      cleanup := pass c.relay.cleanup }
  audit := ⟨fun event => pass (c.audit.append event)⟩
  notifications := ⟨fun event => pass (c.notifications.enqueue event)⟩
  clock := clock c.clock
  uuid4 := passReading c.uuid4
  releaseSeconds := c.releaseSeconds
  gpioChannel := c.gpioChannel
  releaseSeconds_pos := c.releaseSeconds_pos

def ReaderSupervisor.Settings.watched (settings : ReaderSupervisor.Settings W) :
    ReaderSupervisor.Settings (Watched W) where
  identity := settings.identity
  enumerateDevices := watch .enumerated settings.enumerateDevices
  openReader path := watch (.opening path) (settings.openReader path)
  read session := watch (.reading session) (settings.read session)
  closeSession session := watch (.closing session) (settings.closeSession session)
  backoff := settings.backoff
  repeatedFailureThreshold := settings.repeatedFailureThreshold
  randomUnit := pass settings.randomUnit
  monotonic := settings.monotonic.map passReading
  threshold_pos := settings.threshold_pos
  delay := settings.delay

def BridgewireRuntime.Wiring.watched (c : BridgewireRuntime.Wiring W) :
    BridgewireRuntime.Wiring (Watched W) where
  access := c.access.watched
  reader := c.reader.watched
  health := ⟨fun report => watch (.reported report) (c.health.report report)⟩
  audit := ⟨fun event => watch (.appended event) (c.audit.append event)⟩
  clock := Watched.clock c.clock
  uuid4 := passReading c.uuid4
  maximumRecordBytes := c.maximumRecordBytes
  waiter := ⟨fun seconds => passReading (c.waiter.wait seconds)⟩
  hasStore := c.hasStore

end

-- ---------------------------------------------------------------------------
-- What is reliable
-- ---------------------------------------------------------------------------

/-- The collaborators of the controller do not raise, and its clock is aware. -/
structure AccessController.Wiring.Reliable {W : Type} (c : AccessController.Wiring W) : Prop where
  audited : c.Audited
  classify : ∀ credential w, ∃ outcome, ((c.authorization.classify credential).run w).1 = .ok outcome
  setup : ∀ numbering channel w, ((c.relay.setup numbering channel).run w).1 = .ok ()
  command : ∀ high w, ((c.relay.command high).run w).1 = .ok ()
  enqueue : ∀ event w, ((c.notifications.enqueue event).run w).1 = .ok ()

/-- Only the reader's side misbehaves, and a read raises `OSError`s only. -/
structure BridgewireRuntime.Wiring.Reliable {W : Type} (c : BridgewireRuntime.Wiring W) : Prop where
  access : c.access.Reliable
  report : ∀ report w, ((c.health.report report).run w).1 = .ok ()
  append : ∀ event w, ((c.audit.append event).run w).1 = .ok ()
  aware : ∀ w, (c.clock.now w).1.isAware = true
  wait : ∀ seconds w, ∃ goOn, (c.waiter.wait seconds w).1.outcome = .ok goOn
  randomUnit : ∀ w, ∃ unit, (c.reader.randomUnit.run w).1 = .ok unit
  read : ∀ session w e, ((c.reader.read session).run w).1 = .error e → e.isOSError = true
  delay : c.reader.delay = c.reader.backoff.delay

namespace AccessController

open Effect

/-- The controller takes credentials. -/
def Scene.isOpen (v : Scene) : Prop := v.state = .ready ∨ v.state = .released

section
variable {W : Type} {c : Wiring W}

theorem Wiring.Reliable.watched (h : c.Reliable) : c.watched.Reliable where
  audited := ⟨fun event v => h.audited.accepts event v.world, fun v => h.audited.aware v.world⟩
  classify credential v := h.classify credential v.world
  setup numbering channel v := h.setup numbering channel v.world
  command high v := h.command high v.world
  enqueue event v := h.enqueue event v.world

theorem Wiring.watched_keeps (c : Wiring W) :
    c.watched.Keeps fun v v' => v'.lines = v.lines :=
  ⟨fun _ _ => rfl, fun _ _ => rfl, fun _ _ => rfl, fun _ => rfl, fun _ => rfl, fun _ => rfl⟩

variable (h : c.Reliable)
include h

theorem Wiring.Reliable.command_answers {high : Bool} {answer : Except Exn Unit}
    (hanswer : CanAnswer (c.relay.command high) answer) : answer = .ok () := by
  obtain ⟨w, rfl⟩ := hanswer
  exact h.command high w

theorem Audited.Suspected.returns {state : ControllerState} {tracker tracker' : EscalationTracker}
    {outcome : Except Exn Unit} {lines : List Occurrence}
    (hsuspected : Suspected c state tracker outcome lines tracker') : outcome = .ok () := by
  cases hsuspected with
  | calm | warned | delivered | undelivered => rfl
  | interrupted _ _ _ hport =>
    obtain ⟨w, hw⟩ := hport
    cases (h.enqueue _ w).symm.trans hw

theorem Audited.Processed.returns {v v' : Scene} {record : RecordResult} {outcome : Except Exn AccessResult}
    {lines : List Occurrence} (hprocessed : Processed c v record outcome lines v') (hopen : v.isOpen) :
    (∃ result, outcome = .ok result) ∧ v'.isOpen := by
  cases hprocessed with
  | refused hclosed => exact absurd hopen hclosed
  | malformed _ _ hsuspected | suspicious _ _ _ hsuspected =>
    rw [hsuspected.returns h]
    exact ⟨⟨_, rfl⟩, hopen⟩
  | unclassified _ hport =>
    obtain ⟨w, hw⟩ := hport
    obtain ⟨answer, hanswer⟩ := h.classify _ w
    cases hanswer.symm.trans hw
  | alreadyReleased => exact ⟨⟨_, rfl⟩, hopen⟩
  | asserted => exact ⟨⟨_, rfl⟩, .inr rfl⟩
  | interrupted _ _ _ hport | lowInterrupted _ _ _ hport | failed _ _ _ hport =>
    cases h.command_answers hport

theorem Audited.Ticked.returns {v v' : Scene} {outcome : Except Exn Unit} {lines : List Occurrence}
    (hticked : Ticked c v outcome lines v') (hopen : v.isOpen) : outcome = .ok () ∧ v'.isOpen := by
  cases hticked with
  | idle | early => exact ⟨rfl, hopen⟩
  | restored => exact ⟨rfl, .inl rfl⟩
  | rejected _ _ _ _ hport | interrupted _ _ _ _ hport => cases h.command_answers hport

/-- The calls of the main loop return and leave the controller open. -/
theorem call_returns {operation : Operation} (hroutine : BridgewireRuntime.IsRoutine operation)
    {s : System W} (hopen : s.scene.isOpen) :
    Triple (call c operation) s
      (fun result s' => (operation ≠ .tick → ∃ answer, result = some answer) ∧ s'.scene.isOpen)
      fun _ _ => False := by
  have hs : s.At s.scene s.trace := ⟨rfl, rfl⟩
  have hends := call_at h.audited operation hs
  have hcalled : ∀ (outcome : Except Exn (Option AccessResult)) (s' : System W), (∃ lines v', Audited.Called c s.scene operation outcome lines v' ∧
      s'.At v' (s.trace ++ .began operation :: lines)) → (∃ result, outcome = .ok result ∧
        (operation ≠ .tick → ∃ answer, result = some answer)) ∧ s'.scene.isOpen := by
    rintro outcome s' ⟨lines, v', hcalled, hs'⟩
    rw [hs'.scene_eq]
    cases hcalled with
    | process hprocessed =>
      obtain ⟨⟨result, rfl⟩, hopen'⟩ := hprocessed.returns h hopen
      exact ⟨⟨some result, rfl, fun _ => ⟨result, rfl⟩⟩, hopen'⟩
    | tick hticked =>
      obtain ⟨rfl, hopen'⟩ := hticked.returns h hopen
      exact ⟨⟨none, rfl, fun hne => absurd rfl hne⟩, hopen'⟩
    | start | recoverableFailure | shutdown => exact absurd hroutine id
  refine Triple.mono hends ?_ ?_
  · intro result s' hs'
    obtain ⟨⟨_, ⟨⟩, hresult⟩, hopen'⟩ := hcalled _ s' hs'
    exact ⟨hresult, hopen'⟩
  · intro e s' hs'
    obtain ⟨⟨_, herror, -⟩, -⟩ := hcalled _ s' hs'
    cases herror

theorem start_returns {s : System W} (hstate : s.controller.state = .initializing) :
    Triple (call c .start) s (fun _ s' => s'.scene.isOpen) fun _ _ => False := by
  have hbegun : ({ s with trace := s.trace ++ [.began .start] } : System W).At s.scene (s.trace ++ [.began .start]) :=
    ⟨rfl, rfl⟩
  refine Triple.modify_bind (Triple.map (Triple.get_bind ?_))
  dsimp only
  rw [hstate, if_neg (by decide), if_neg (by decide)]
  have hsetup := ask_at hbegun (c.relay.setup "BCM" c.gpioChannel) (.setup "BCM" c.gpioChannel)
  refine Triple.bind (Triple.mono (Triple.attempt hsetup) (fun _ _ h => h) ?_) ?_
  · rintro e s₁ ⟨-, ⟨w, hw⟩, -⟩
    cases (h.setup _ _ w).symm.trans hw
  rintro (e | ⟨⟨⟩⟩) s₁ h₁
  · obtain ⟨-, ⟨w, hw⟩, -⟩ := h₁
    cases (h.setup _ _ w).symm.trans hw
  refine Triple.bind (Triple.mono (Triple.attempt (drive_at h₁.2 false)) (fun _ _ h => h) ?_) ?_
  · rintro e s₂ ⟨-, hanswer, -⟩
    cases h.command_answers hanswer
  rintro (e | ⟨⟨⟩⟩) s₂ h₂
  · cases h.command_answers h₂.2.1
  refine Triple.bind (enter_at h₂.2 .ready) fun _ s₃ h₃ => ?_
  refine Triple.mono (audit_at h.audited h₃ .serviceStarted .info buildable_nil) ?_ fun _ _ h => h
  rintro _ s₄ ⟨event, -, h₄⟩
  rw [h₄.scene_eq]
  exact .inl rfl

end

end AccessController

-- ---------------------------------------------------------------------------
-- What leaves the reader's side alone
-- ---------------------------------------------------------------------------

namespace BridgewireRuntime

open Effect

/-- The runtime's supervisor and what was seen of its ports, while the
controller takes credentials. -/
structure At {W : Type} (reader : ReaderSupervisor) (lines : List PortLine)
    (s : BridgewireRuntime (Watched W)) : Prop where
  reader_eq : s.reader = reader
  lines_eq : s.system.world.lines = lines
  isOpen : s.system.scene.isOpen

/-- An event tells the health reporter, if it degrades, and the audit sink. -/
inductive Emission (event : ReaderEvent) : List PortLine → Prop
  | degrading {record : AuditEvent} (h : event.eventType.degrades = true)
    (hrecord : record.eventType = event.eventType.toEventType) :
    Emission event [.reported ⟨"degraded", [("reason", .text event.eventType.value)]⟩ (.ok ()),
      .appended record (.ok ())]
  | plain {record : AuditEvent} (h : event.eventType.degrades = false)
    (hrecord : record.eventType = event.eventType.toEventType) :
    Emission event [.appended record (.ok ())]

section
variable {W : Type} {c : Wiring W} {reader : ReaderSupervisor} {lines : List PortLine}
  {s : BridgewireRuntime (Watched W)}

/-- A call of the controller: the rest of the runtime stays as it is. -/
theorem call_at {operation : AccessController.Operation} {Q : Option AccessResult → Prop}
    (hlines : Within (AccessController.OnWorld fun v v' => v'.lines = v.lines)
      (AccessController.call c.access.watched operation))
    (hreturns : Triple (AccessController.call c.access.watched operation) s.system
      (fun result system => Q result ∧ system.scene.isOpen) fun _ _ => False)
    (hreader : s.reader = reader) (hseen : s.system.world.lines = lines) :
    Triple (zoom (systemPart (Watched W)) (AccessController.call c.access.watched operation)) s
      (fun result s' => Q result ∧ At reader lines s') fun _ _ => False := by
  obtain ⟨result, hrun, hresult, hopen⟩ := hreturns.returns
  refine Triple.of_run (congrArg (·, _) (congrArg Prod.fst hrun)) ⟨hresult, hreader, ?_, hopen⟩
  exact (hlines s.system).trans hseen

section
variable (hs : At reader lines s)
include hs

theorem watched_at {α : Type} (line : Except Exn α → PortLine) (port : Port W α) :
    Ends (zoom (worldPart (Watched W)) (watch line port)) s
      (fun outcome s' => AccessController.CanAnswer port outcome ∧ At reader (lines ++ [line outcome]) s') :=
  ends_iff.mpr ⟨⟨_, rfl⟩, hs.reader_eq, congrArg (· ++ _) hs.lines_eq, hs.isOpen⟩

theorem reading_at {α : Type} (read : W → α × W) {E : Exn → BridgewireRuntime (Watched W) → Prop} :
    Triple (zoom (worldPart (Watched W)) (reading (passReading read))) s
      (fun a s' => (∃ w, a = (read w).1) ∧ At reader lines s') E :=
  Triple.of_run rfl ⟨⟨_, rfl⟩, hs.reader_eq, hs.lines_eq, hs.isOpen⟩

variable (c) in
theorem controller_at :
    Triple (zoom (systemPart (Watched W)) (AccessController.snapshot c.access.watched)) s
      (fun _ s' => At reader lines s') fun _ _ => False := by
  have hsnapshot : Triple (AccessController.snapshot c.access.watched) s.system
      (fun _ system => ∃ v, v.lines = s.system.world.lines ∧ system = { s.system with world := v })
      fun _ _ => False := by
    refine Triple.get_bind ?_
    dsimp only
    split
    · exact ⟨(passReading c.access.clock.monotonic s.system.world).2, rfl, rfl⟩
    · exact ⟨s.system.world, rfl, rfl⟩
  refine Triple.mono (Triple.zoom_set (p := systemPart (Watched W)) hsnapshot) ?_ ?_
  · rintro _ _ ⟨_, ⟨v, hv, rfl⟩, rfl⟩
    exact ⟨hs.reader_eq, hv.trans hs.lines_eq, hs.isOpen⟩
  · rintro _ _ ⟨_, hnever, -⟩
    exact hnever

variable (c) in
theorem supervisor_at :
    Triple (ReaderSupervisor.snapshot (readerPart (Watched W)) (worldPart (Watched W)) c.reader.watched) s
      (fun _ s' => At reader lines s') fun _ _ => False := by
  refine Triple.get_bind (Triple.bind (Triple.get_bind ?_) fun _ _ h => h)
  unfold ReaderSupervisor.Settings.watched
  dsimp only
  cases c.reader.monotonic with
  | none =>
    split
    · contradiction
    · exact hs
  | some monotonic =>
    split
    · rename_i hsome
      cases Option.some.inj hsome
      exact Triple.bind (Triple.mono (reading_at hs monotonic) (fun _ _ h => h.2) fun _ _ h => h) fun _ _ h => h
    · exact hs

end

variable (h : c.Reliable) (hs : At reader lines s)
include h hs

theorem routine_at {operation : AccessController.Operation} (hroutine : IsRoutine operation) :
    Triple (zoom (systemPart (Watched W)) (AccessController.call c.access.watched operation)) s
      (fun result s' => (operation ≠ .tick → ∃ answer, result = some answer) ∧ At reader lines s')
      fun _ _ => False := by
  refine call_at ?_ (AccessController.call_returns h.access.watched hroutine hs.isOpen) hs.reader_eq hs.lines_eq
  exact AccessController.call_within c.access.watched_keeps operation (fun _ => rfl) (fun _ _ => rfl)
    (fun _ _ => rfl) (fun _ _ => rfl)

theorem tick_at : Triple (access c.watched .tick) s (fun _ s' => At reader lines s') fun _ _ => False :=
  Triple.map (Triple.mono (routine_at h hs trivial) (fun _ _ h => h.2) fun _ _ h => h)

theorem submit_at (record : RecordResult) :
    Triple (submit c.watched record) s (fun _ s' => At reader lines s') fun _ _ => False := by
  unfold submit AccessService.submitRecord
  refine Triple.modify_bind ?_
  rw [zoom_bind]
  have hnoted : At reader lines { s with log := s.log ++ [.submitted record] } := ⟨hs.1, hs.2, hs.3⟩
  have hroutine : IsRoutine (.process record) := trivial
  refine Triple.bind (Triple.bind (routine_at h hnoted hroutine) ?_) fun _ _ h => h
  rintro result s₁ ⟨hresult, h₁⟩
  obtain ⟨answer, rfl⟩ := hresult nofun
  exact Triple.of_run rfl ⟨h₁.1, h₁.2, h₁.3⟩

theorem submitAll_at (records : List RecordResult) :
    Triple (submitAll c.watched records) s (fun _ s' => At reader lines s') fun _ _ => False := by
  induction records generalizing s with
  | nil => exact hs
  | cons record records ih => exact Triple.bind (submit_at h hs record) fun _ s₁ h₁ => ih h₁

theorem publishSnapshot_at :
    Triple (publishSnapshot c.watched) s (fun _ s' => At reader lines s') fun _ _ => False := by
  unfold publishSnapshot
  split
  · refine Triple.bind (controller_at c hs) fun controller s₁ h₁ => ?_
    refine Triple.bind (supervisor_at c h₁) fun snapshot s₂ h₂ => ?_
    refine Triple.bind (reading_at h₂ c.clock.now) ?_
    rintro publishedAt s₃ ⟨⟨w, rfl⟩, h₃⟩
    obtain ⟨offset, hoffset⟩ := Option.isSome_iff_exists.mp (h.aware w)
    unfold OperationalSnapshot.of
    rw [hoffset]
    exact Triple.of_run rfl ⟨h₃.1, h₃.2, h₃.3⟩
  · exact hs

theorem reportHealth_at (status : String) (details : List (String × HealthValue)) :
    Triple (reportHealth c.watched status details) s
      (fun _ s' => At reader (lines ++ [PortLine.reported ⟨status, details⟩ (.ok ())]) s') fun _ _ => False := by
  unfold reportHealth
  have hreport := watched_at hs (.reported ⟨status, details⟩) (c.health.report ⟨status, details⟩)
  refine Triple.bind (Triple.mono (Triple.attempt hreport) (fun _ _ h => h) fun _ _ h => by simp at h) ?_
  rintro (e | ⟨⟨⟩⟩) s₁ h₁
  · obtain ⟨-, ⟨w, hw⟩, -⟩ := h₁
    cases (h.report _ w).symm.trans hw
  · exact Triple.of_run rfl ⟨h₁.2.1, h₁.2.2, h₁.2.3⟩

/-- The audit sink takes the record of a reader's event. -/
theorem record_at {event : ReaderEvent} {fields : DateTime → BridgewireRuntime (Watched W) → String → AuditFields}
    (hfields : ∀ timestamp s eventId, (fields timestamp s eventId).eventType = event.eventType.toEventType ∧
      (fields timestamp s eventId).timestamp = timestamp ∧
      AccessController.Buildable (fields timestamp s eventId).correlation) :
    Triple (do
        let timestamp ← zoom (worldPart (Watched W)) (reading (passReading c.clock.now))
        let s ← get
        let eventId ← zoom (worldPart (Watched W)) (reading (passReading c.uuid4))
        match (fields timestamp s eventId).construct with
        | .ok record => zoom (worldPart (Watched W)) (watch (.appended record) (c.audit.append record))
        | .error e => throw e) s
      (fun _ s' => ∃ record : AuditEvent, record.eventType = event.eventType.toEventType ∧
        At reader (lines ++ [PortLine.appended record (.ok ())]) s') fun _ _ => False := by
  refine Triple.bind (reading_at hs c.clock.now) ?_
  rintro timestamp s₁ ⟨⟨w, rfl⟩, h₁⟩
  refine Triple.get_bind (Triple.bind (reading_at h₁ c.uuid4) ?_)
  rintro eventId s₂ ⟨-, h₂⟩
  obtain ⟨htype, htimestamp, hbuildable⟩ := hfields (c.clock.now w).1 s₁ eventId
  have haware : (fields (c.clock.now w).1 s₁ eventId).timestamp.isAware = true := by
    rw [htimestamp]
    exact h.aware w
  obtain ⟨haccepted, hrecord⟩ := AccessController.construct_buildable _ haware hbuildable
  rw [hrecord]
  refine Triple.mono (watched_at h₂ (.appended _) (c.audit.append _)) ?_ ?_
  · rintro ⟨⟩ s₃ ⟨-, h₃⟩
    exact ⟨_, htype, h₃⟩
  · rintro e s₃ ⟨⟨w, hw⟩, -⟩
    cases (h.append _ w).symm.trans hw

theorem emit_at (event : ReaderEvent) :
    Triple ((host c.watched).emit event) s
      (fun _ s' => ∃ told, Emission event told ∧ At reader (lines ++ told) s') fun _ _ => False := by
  have hbuildable : AccessController.Buildable
      (if event.attempt = 0 then [] else [("attempt", .integer event.attempt)]) := by
    split
    · exact AccessController.buildable_nil
    · have hkeys : AuditFields.checkKeys ["attempt"] = .ok () :=
        AccessController.checkKeys_allowed (by decide +kernel) (by decide)
      exact ⟨hkeys, rfl⟩
  show Triple (recordReaderEvent c.watched event) s _ _
  unfold recordReaderEvent
  dsimp only
  split
  · rename_i hdegrades
    refine Triple.bind (reportHealth_at h hs _ _) fun _ s₁ h₁ => ?_
    refine Triple.mono (record_at h h₁ fun _ _ _ => ⟨rfl, rfl, hbuildable⟩) ?_ fun _ _ h => h
    rintro _ s₂ ⟨record, hrecord, h₂⟩
    exact ⟨_, .degrading hdegrades hrecord, by simpa using h₂⟩
  · rename_i hplain
    refine Triple.mono (record_at h hs fun _ _ _ => ⟨rfl, rfl, hbuildable⟩) ?_ fun _ _ h => h
    rintro _ s₂ ⟨record, hrecord, h₂⟩
    exact ⟨_, .plain (Bool.eq_false_iff.mpr hplain) hrecord, h₂⟩

omit h in
theorem waitOut_at {onInterval : Program (Watched W) Unit} {outcome : Except Exn Bool} {goOn : Bool}
    (hinterval : ∀ s, At reader lines s →
      Triple onInterval s (fun _ s' => At reader lines s') fun _ _ => False)
    (houtcome : outcome = .ok goOn) (intervals : Nat) :
    Triple (waitOut onInterval outcome intervals) s (fun _ s' => At reader lines s') fun _ _ => False := by
  induction intervals generalizing s with
  | zero =>
    subst houtcome
    exact hs
  | succ intervals ih => exact Triple.bind (hinterval s hs) fun _ s₁ h₁ => ih h₁

theorem wait_at (seconds : ℚ) :
    Triple ((host c.watched).wait seconds) s (fun _ s' => At reader lines s') fun _ _ => False := by
  refine Triple.bind (reading_at hs (c.waiter.wait seconds)) ?_
  rintro plan s₁ ⟨⟨w, rfl⟩, h₁⟩
  obtain ⟨goOn, hgoOn⟩ := h.wait seconds w
  refine waitOut_at h₁ (fun s₂ h₂ => ?_) hgoOn _
  exact Triple.bind (tick_at h h₂) fun _ s₃ h₃ => publishSnapshot_at h h₃

end

end BridgewireRuntime

end Bridgewire
