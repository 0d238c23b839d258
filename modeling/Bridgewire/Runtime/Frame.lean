import Bridgewire.Controller.World
import Bridgewire.Runtime.Model

/-!
# What the runtime keeps

A preorder on the states of a program that its primitive steps keep is kept
by everything the supervisor and the runtime do, however it ends.
-/

namespace Bridgewire

open Effect

namespace ReaderSupervisor

/-- The supervisor's ports keep the world within `R`. -/
structure Settings.Keeps {W : Type} (settings : Settings W) (R : W → W → Prop) : Prop where
  enumerateDevices : Within R settings.enumerateDevices
  openReader : ∀ path, Within R (settings.openReader path)
  read : ∀ session, Within R (settings.read session)
  closeSession : ∀ session, Within R (settings.closeSession session)
  randomUnit : Within R settings.randomUnit
  monotonic : ∀ monotonic ∈ settings.monotonic, ∀ w, R w (monotonic w).2

/-- The steps that a supervisor takes in its host keep `R`, as long as the
world keeps `V`. -/
structure Host.Keeps {S W : Type} (host : Host S W) (V : W → W → Prop) (R : S → S → Prop) : Prop where
  own : ∀ s reader, R s (host.own.set reader s)
  world : ∀ s w, V (host.world.get s) w → R s (host.world.set w s)
  note : ∀ s o, R s (host.note o s)
  emit : ∀ event, Within R (host.emit event)
  wait : ∀ seconds, Within R (host.wait seconds)

section
variable {S W : Type} {V : W → W → Prop} {R : S → S → Prop}

theorem snapshot_within [IsPreorder S R] {own : Component S ReaderSupervisor} {world : Component S W}
    {settings : Settings W} (hports : settings.Keeps V)
    (hworld : ∀ s w, V (world.get s) w → R s (world.set w s)) :
    Within R (snapshot own world settings) := by
  refine Within.get_bind fun s => ?_
  refine Within.bind (Within.get_bind fun s' => ?_) fun age => within_pure _
  split
  · rename_i monotonic _ hmonotonic
    refine Within.bind (Within.zoom (within_reading ?_) hworld) fun reading => within_pure _
    exact hports.monotonic _ hmonotonic
  · exact within_pure _

variable {host : Host S W} {settings : Settings W} (hhost : host.Keeps V R)
include hhost

theorem assign_within (change : ReaderSupervisor → ReaderSupervisor) :
    Within R (assign host change) :=
  fun s => hhost.own s _

theorem note_within (o : ReaderOccurrence) : Within R (note host o) := fun s => hhost.note s o

theorem ask_within {α : Type} {port : Port W α} (h : Within V port) : Within R (ask host port) :=
  Within.zoom h hhost.world

variable [IsPreorder S R] (hports : settings.Keeps V)
include hports

theorem openSession_within (device : SerialDevice) : Within R (openSession host settings device) := by
  refine Within.bind (ask_within hhost (hports.openReader _)) ?_
  rintro (_ | session)
  · exact within_throw _
  · exact Within.bind (assign_within hhost _) fun _ => note_within hhost _

theorem connect_within (discovery : DiscoveryResult) : Within R (connect host settings discovery) := by
  unfold connect
  split
  · exact within_pure _
  · exact within_pure _
  · split
    · exact within_throw _
    · refine Within.bind ((openSession_within hhost hports _).attempt _) ?_
      rintro (e | ⟨⟨⟩⟩)
      · exact within_pure _
      · exact within_pure _

omit hports in
theorem becomeReady_within (discovery : DiscoveryResult) : Within R (becomeReady host discovery) := by
  refine Within.get_bind fun s => ?_
  exact Within.bind (hhost.emit _) fun _ => assign_within hhost _

theorem scheduleReconnect_within : Within R (scheduleReconnect host settings) := by
  refine Within.get_bind fun s => ?_
  refine Within.bind (ask_within hhost hports.randomUnit) fun randomUnit => ?_
  split
  · exact within_throw _
  · exact Within.bind (hhost.emit _) fun _ => hhost.wait _

theorem becomeDegraded_within (discovery : DiscoveryResult) (failure : ReaderEventType) :
    Within R (becomeDegraded host settings discovery failure) := by
  refine Within.bind (assign_within hhost _) fun _ => Within.get_bind fun s => ?_
  refine Within.bind (hhost.emit _) fun _ => Within.get_bind fun s' => ?_
  dsimp only
  split
  · refine Within.bind (hhost.emit _) fun _ => Within.bind (assign_within hhost _) fun _ => ?_
    exact scheduleReconnect_within hhost hports
  · exact scheduleReconnect_within hhost hports

theorem connectUntilReady_within (maximumAttempts : Nat) :
    Within R (connectUntilReady host settings maximumAttempts) := by
  induction maximumAttempts with
  | zero => exact within_pure _
  | succ maximumAttempts ih =>
    refine Within.bind (assign_within hhost _) fun _ => Within.get_bind fun s => ?_
    refine Within.bind (hhost.emit _) fun _ => ?_
    refine Within.bind (ask_within hhost hports.enumerateDevices) fun devices => ?_
    refine Within.bind (connect_within hhost hports _) ?_
    rintro (_ | failure)
    · exact Within.bind (becomeReady_within hhost _) fun _ => within_pure _
    · refine Within.bind (becomeDegraded_within hhost hports _ _) fun answer => ?_
      split
      · exact ih
      · exact within_pure _

theorem disconnect_within : Within R (disconnect host settings) := by
  refine Within.get_bind fun s => ?_
  split
  · exact within_pure _
  · refine Within.bind ((ask_within hhost (hports.closeSession _)).attempt _) ?_
    rintro (e | ⟨⟨⟩⟩)
    · exact Within.bind (note_within hhost _) fun _ => within_throw _
    · exact Within.bind (note_within hhost _) fun _ => assign_within hhost _

theorem acknowledge_within : Within R (acknowledge host settings) := by
  unfold acknowledge
  split
  · exact Within.bind (within_pure _) fun _ => hhost.emit _
  · rename_i monotonic hmonotonic
    have hreading : Within V (reading monotonic : Port W ℚ) :=
      within_reading (hports.monotonic monotonic hmonotonic)
    refine Within.bind (ask_within hhost hreading) fun reading => ?_
    exact Within.bind (assign_within hhost _) fun _ => hhost.emit _

theorem readOnce_within : Within R (readOnce host settings) := by
  refine Within.get_bind fun s => ?_
  split
  · exact within_pure _
  refine Within.bind ((ask_within hhost (hports.read _)).attempt _) ?_
  rintro (e | data)
  · dsimp only
    split
    all_goals
      refine Within.bind (hhost.emit _) fun _ => ?_
      exact Within.bind (disconnect_within hhost hports) fun _ => within_pure _
  · refine Within.bind (note_within hhost _) fun _ => ?_
    split
    · exact Within.bind (acknowledge_within hhost hports) fun _ => within_pure _
    · exact within_pure _

theorem readRecordsOnce_within {stream : Component S ReaderRecordStream}
    (hstream : ∀ s t, R s (stream.set t s)) :
    Within R (readRecordsOnce host settings stream) := by
  refine Within.bind (readOnce_within hhost hports) ?_
  rintro (_ | data)
  · exact within_pure _
  · dsimp only
    split
    · exact within_pure _
    · refine Within.get_bind fun s => Within.bind (within_modify fun s => hstream s _) fun _ => ?_
      split
      · exact Within.bind (hhost.emit _) fun _ => within_pure _
      · exact within_pure _

theorem close_within : Within R (close host settings) :=
  Within.bind (disconnect_within hhost hports) fun _ => assign_within hhost _

end

end ReaderSupervisor

namespace BridgewireRuntime

/-- The runtime's ports keep the world within `V`; the relay is left out. -/
structure Wiring.Keeps {W : Type} (c : Wiring W) (V : W → W → Prop) : Prop where
  access : c.access.Keeps V
  reader : c.reader.Keeps V
  report : ∀ report, Within V (c.health.report report)
  append : ∀ event, Within V (c.audit.append event)
  now : ∀ w, V w (c.clock.now w).2
  uuid4 : ∀ w, V w (c.uuid4 w).2
  wait : ∀ seconds w, V w (c.waiter.wait seconds w).2

/-- What publishing changes keeps `R`, as long as the world keeps `V`. -/
structure Publishes {W : Type} (V : W → W → Prop)
    (R : BridgewireRuntime W → BridgewireRuntime W → Prop) : Prop where
  world : ∀ s w, V s.system.world w → R s ((worldPart W).set w s)
  snapshot : ∀ s snapshot, R s { s with snapshot }

/-- So does a health report. -/
structure Reports {W : Type} (V : W → W → Prop)
    (R : BridgewireRuntime W → BridgewireRuntime W → Prop) : Prop extends Publishes V R where
  reported : ∀ s report answer, R s { s with log := s.log ++ [RuntimeOccurrence.reported report answer] }

/-- What a health report and an audit call change, if nothing is published. -/
structure Tells {W : Type} (V : W → W → Prop)
    (R : BridgewireRuntime W → BridgewireRuntime W → Prop) : Prop where
  world : ∀ s w, V s.system.world w → R s ((worldPart W).set w s)
  reported : ∀ s report answer, R s { s with log := s.log ++ [RuntimeOccurrence.reported report answer] }

theorem Reports.tells {W : Type} {V : W → W → Prop} {R : BridgewireRuntime W → BridgewireRuntime W → Prop}
    (h : Reports V R) : Tells V R :=
  ⟨h.world, h.reported⟩

/-- So does everything else that is no call of the controller. -/
structure Frames {W : Type} (V : W → W → Prop)
    (R : BridgewireRuntime W → BridgewireRuntime W → Prop) : Prop extends Reports V R where
  reader : ∀ s reader, R s { s with reader }
  stream : ∀ s stream, R s { s with stream }
  session : ∀ s o, R s { s with log := s.log ++ [RuntimeOccurrence.reader o] }
  submitted : ∀ s record, R s { s with log := s.log ++ [RuntimeOccurrence.submitted record] }

section
variable {W : Type} {V : W → W → Prop} {R : BridgewireRuntime W → BridgewireRuntime W → Prop}

/-- `AccessController.snapshot` changes nothing but the world. -/
theorem snapshot_world [IsPreorder W V] {c : AccessController.Wiring W} (h : c.Keeps V) :
    Within (fun s s' => ∃ w, V s.world w ∧ s' = { s with world := w })
      (AccessController.snapshot c) := by
  intro s
  have hends : Ends (AccessController.snapshot c) s
      (fun _ s' => ∃ w, V s.world w ∧ s' = { s with world := w }) := by
    refine Ends.get_bind ?_
    dsimp only
    split
    · exact ⟨_, h.monotonic s.world, rfl⟩
    · exact ⟨s.world, refl_of V _, rfl⟩
  exact ends_iff.mp hends

theorem waitOut_within [IsPreorder (BridgewireRuntime W) R] {onInterval : Program W Unit} (h : Within R onInterval)
    (outcome : Except Exn Bool) (intervals : Nat) :
    Within R (waitOut onInterval outcome intervals) := by
  induction intervals with
  | zero => exact fun s => refl_of R s
  | succ intervals ih => exact Within.bind h fun _ => ih

theorem publishSnapshot_within [IsPreorder W V] [IsPreorder (BridgewireRuntime W) R] {c : Wiring W}
    (hframe : Publishes V R) (hports : c.Keeps V) : Within R (publishSnapshot c) := by
  unfold publishSnapshot
  split
  · have hcontroller : Within R (zoom (systemPart W) (AccessController.snapshot c.access)) := by
      refine Within.zoom (snapshot_world hports.access) ?_
      rintro s _ ⟨w, hw, rfl⟩
      exact hframe.world s w hw
    refine Within.bind hcontroller fun controller => ?_
    refine Within.bind (ReaderSupervisor.snapshot_within hports.reader hframe.world) fun reader => ?_
    refine Within.bind (Within.zoom (within_reading hports.now) hframe.world) fun publishedAt => ?_
    split
    · exact within_modify fun s => hframe.snapshot s _
    · exact within_throw _
  · exact within_pure _

section
variable (hframe : Tells V R)
include hframe

theorem ask_tells {α : Type} {port : Port W α} (h : Within V port) :
    Within R (zoom (worldPart W) port) :=
  Within.zoom h hframe.world

variable [IsPreorder (BridgewireRuntime W) R] {c : Wiring W} (hports : c.Keeps V)
include hports

theorem reportHealth_tells (status : String) (details : List (String × HealthValue)) :
    Within R (reportHealth c status details) := by
  refine Within.bind ((ask_tells hframe (hports.report _)).attempt _) ?_
  rintro (e | ⟨⟨⟩⟩)
  · exact Within.bind (within_modify fun s => hframe.reported s _ _) fun _ => within_throw _
  · exact within_modify fun s => hframe.reported s _ _

theorem auditReaderEvent_tells (event : ReaderEvent) : Within R (auditReaderEvent c event) := by
  refine Within.bind (ask_tells hframe (within_reading hports.now)) fun timestamp => ?_
  refine Within.get_bind fun s => ?_
  refine Within.bind (ask_tells hframe (within_reading hports.uuid4)) fun eventId => ?_
  split
  · exact ask_tells hframe (hports.append _)
  · exact within_throw _

theorem recordReaderEvent_tells (event : ReaderEvent) : Within R (recordReaderEvent c event) := by
  have haudit : Within R (auditReaderEvent c event) := auditReaderEvent_tells hframe hports event
  unfold recordReaderEvent
  dsimp only
  split
  · exact Within.bind (reportHealth_tells hframe hports _ _) fun _ => haudit
  · exact haudit

end

section
variable (hframe : Reports V R)
include hframe

theorem ask_within {α : Type} {port : Port W α} (h : Within V port) :
    Within R (zoom (worldPart W) port) :=
  ask_tells hframe.tells h

variable [IsPreorder (BridgewireRuntime W) R] {c : Wiring W} (hports : c.Keeps V)
include hports

theorem reportHealth_within (status : String) (details : List (String × HealthValue)) :
    Within R (reportHealth c status details) :=
  reportHealth_tells hframe.tells hports status details

theorem recordReaderEvent_within (event : ReaderEvent) : Within R (recordReaderEvent c event) :=
  recordReaderEvent_tells hframe.tells hports event

end

section
variable [IsPreorder W V] [IsPreorder (BridgewireRuntime W) R] {c : Wiring W}
  (htick : Within R (access c .tick))
include htick

theorem tickAndPublish_within (hframe : Publishes V R) (hports : c.Keeps V) :
    Within R (tickAndPublish c) :=
  Within.bind htick fun _ => publishSnapshot_within hframe hports

theorem cooperativeWait_within (hframe : Publishes V R) (hports : c.Keeps V) (seconds : ℚ) :
    Within R (cooperativeWait c seconds) :=
  Within.bind (Within.zoom (within_reading (hports.wait seconds)) hframe.world) fun _ =>
    waitOut_within (tickAndPublish_within htick hframe hports) _ _

theorem host_keeps (hframe : Frames V R) (hports : c.Keeps V) : (host c).Keeps V R where
  own := hframe.reader
  world := hframe.world
  note := hframe.session
  emit := recordReaderEvent_within hframe.toReports hports
  wait := cooperativeWait_within htick hframe.toPublishes hports

end

-- ---------------------------------------------------------------------------
-- The calls of the controller
-- ---------------------------------------------------------------------------

section
variable {c : Wiring W}

theorem access_run (operation : AccessController.Operation) (s : BridgewireRuntime W) :
    ((access c operation).run s).2 =
      { s with system := ((AccessController.call c.access operation).run s.system).2 } := by
  rw [access, map_eq_pure_bind, run_bind, run_zoom]
  show _ = (systemPart W).set ((AccessController.call c.access operation).run ((systemPart W).get s)).2 s
  generalize (AccessController.call c.access operation).run ((systemPart W).get s) = outcome
  obtain ⟨answer, system⟩ := outcome
  cases answer <;> rfl

theorem submitRecord_run (record : RecordResult) (source : CredentialSource) (s : AccessController.System W) :
    ((AccessService.submitRecord c.access record source).run s).2 =
      ((AccessController.call c.access (.process record)).run s).2 := by
  rw [AccessService.submitRecord, run_bind]
  generalize (AccessController.call c.access (.process record)).run s = outcome
  obtain ⟨answer, s'⟩ := outcome
  rcases answer with e | (- | result) <;> rfl

theorem submit_run (record : RecordResult) (s : BridgewireRuntime W) :
    ((submit c record).run s).2 =
      { s with system := ((AccessController.call c.access (.process record)).run s.system).2,
               log := s.log ++ [RuntimeOccurrence.submitted record] } := by
  rw [← submitRecord_run record .physicalReader]
  show (((zoom (systemPart W) (AccessService.submitRecord c.access record .physicalReader)) >>= fun _ => pure ()).run
    { s with log := s.log ++ [RuntimeOccurrence.submitted record] }).2 = _
  rw [run_bind, run_zoom]
  show _ = (systemPart W).set ((AccessService.submitRecord c.access record .physicalReader).run s.system).2
    { s with log := s.log ++ [RuntimeOccurrence.submitted record] }
  generalize houtcome : (AccessService.submitRecord c.access record .physicalReader).run s.system = outcome
  obtain ⟨answer, system⟩ := outcome
  simp only [systemPart, houtcome]
  cases answer <;> rfl

end

/-- The controller operations of the main loop. -/
def IsRoutine : AccessController.Operation → Prop
  | .process _ | .tick => True
  | _ => False

section
variable [IsPreorder (BridgewireRuntime W) R] {c : Wiring W} (haccess : ∀ operation,
  IsRoutine operation → Within R (zoom (systemPart W) (AccessController.call c.access operation)))
include haccess

theorem access_within {operation : AccessController.Operation} (h : IsRoutine operation) :
    Within R (access c operation) :=
  (haccess operation h).map _

variable (hframe : Frames V R)
include hframe

theorem submit_within (record : RecordResult) : Within R (submit c record) := by
  intro s
  rw [submit_run]
  exact trans_of R (hframe.submitted s record) (haccess (.process record) trivial _)

theorem submitAll_within (records : List RecordResult) : Within R (submitAll c records) := by
  induction records with
  | nil => exact within_pure _
  | cons record records ih => exact Within.bind (submit_within haccess hframe record) fun _ => ih

variable [IsPreorder W V] (hports : c.Keeps V)
include hports

theorem poll_within : Within R (poll c) := by
  have hhost := host_keeps (access_within haccess trivial) hframe hports
  refine Within.get_bind fun s => ?_
  split
  · refine Within.bind (ReaderSupervisor.readRecordsOnce_within hhost hports.reader hframe.stream)
      fun records => ?_
    refine Within.bind (submitAll_within haccess hframe records) fun _ => ?_
    exact Within.bind (access_within haccess trivial) fun _ => within_pure _
  · refine Within.bind (ReaderSupervisor.connectUntilReady_within hhost hports.reader 1) fun ready => ?_
    split
    · exact Within.bind (reportHealth_within hframe.toReports hports _ _) fun _ => within_pure _
    · exact within_pure _

theorem runOnce_within : Within R (runOnce c) :=
  Within.bind (access_within haccess trivial) fun _ =>
    Within.ensuring (poll_within haccess hframe hports) (publishSnapshot_within hframe.toPublishes hports)

end

end

/-- The loop keeps what its rounds and the callbacks keep. -/
theorem run_within {S W : Type} {R : S → S → Prop} [IsPreorder S R] {c : Wiring W}
    {own : Component S (BridgewireRuntime W)} {onReady onIteration : Effect Exn S Unit}
    (hround : Within R (zoom own (runOnce c))) (hready : Within R onReady)
    (hiteration : Within R onIteration) (rounds : Nat) :
    Within R (run c own onReady onIteration rounds) := by
  induction rounds with
  | zero => exact within_pure _
  | succ rounds ih =>
    refine Within.bind hround fun connected => ?_
    dsimp only
    split
    · exact Within.bind hready fun _ => Within.bind hiteration fun _ => ih
    · exact Within.bind hiteration fun _ => ih

end BridgewireRuntime

end Bridgewire
