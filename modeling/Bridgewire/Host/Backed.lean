import Bridgewire.Controller.Open
import Bridgewire.Host.Model
import Bridgewire.Runtime.Door
import Bridgewire.Runtime.Seen

/-!
# What the health file claims

A health report that says ready, or that access control is operational, is
backed by a connected reader and an open controller. Which steps keep the most
recent report backed is a matter of the step and of the state before it.
-/

namespace Bridgewire

open Effect Observation

-- ---------------------------------------------------------------------------
-- The health file
-- ---------------------------------------------------------------------------

def HealthReport.isOperational (report : HealthReport) : Prop :=
  ("access_control", HealthValue.text "operational") ∈ report.details

instance (report : HealthReport) : Decidable report.isOperational := inferInstanceAs (Decidable (_ ∈ _))

/-- What a line of the log has put into the health file. -/
def RuntimeOccurrence.accepted : RuntimeOccurrence → Option HealthReport
  | .reported report (.ok ()) => some report
  | _ => none

namespace BridgewireRuntime

section
variable {W : Type} (s : BridgewireRuntime W)

/-- The most recent report of which the file has been replaced. -/
def healthFile : Option HealthReport := History.last RuntimeOccurrence.accepted s.log

def isOpen : Prop := s.system.controller.state = .ready ∨ s.system.controller.state = .released

instance : Decidable s.isOpen := inferInstanceAs (Decidable (_ ∨ _))

/-- The report claims no more than this. -/
structure Backs (report : HealthReport) : Prop where
  ready : report.status = "ready" → s.reader.connected = true ∧ s.isOpen
  operational : report.isOperational → s.isOpen

def Delivers : Prop := ∀ report ∈ s.healthFile, s.Backs report

/-- The file says ready, or that access control is operational. -/
def Claims : Prop := ∃ report ∈ s.healthFile, report.status = "ready" ∨ report.isOperational

end

/-- The report of a step has replaced the file. -/
def isWritten {W : Type} (step : Step ServiceAction (BridgewireRuntime W)) : Bool :=
  (step.after.log.getLast?.bind RuntimeOccurrence.accepted).isSome

/-- A report of the API as running finds the reader connected, and one of an API
that is neither stopping nor stopped an open controller; so does a report of the
reader. While the file claims something, no answer of the relay or of the audit
sink to an operation of the controller closes it. -/
def Justified {W : Type} (step : Step ServiceAction (BridgewireRuntime W)) : Prop :=
  match step.action with
  | .reportApi state failure => isWritten step →
      (state = .running → failure = false → step.before.reader.connected = true) ∧
        (state.isStopped = false → step.before.isOpen)
  | .reportReady => isWritten step → step.before.isOpen
  | .control operation => step.before.Claims →
      ¬operation.Closes (step.after.system.trace.drop step.before.system.trace.length)
  | .other => True

-- ---------------------------------------------------------------------------
-- Steps
-- ---------------------------------------------------------------------------

section
variable {W : Type}

/-- As long as the steps are justified, the file is backed. -/
abbrev Keeps : Seen W → Seen W → Prop := Preserves Delivers Justified

/-- What a file claims stays backed where nothing is taken away. -/
theorem Delivers.of_same {s s' : BridgewireRuntime W} (h : s.Delivers) (hfile : s'.healthFile = s.healthFile)
    (hreader : s.reader.connected = true → s'.reader.connected = true) (hopen : s.isOpen → s'.isOpen) : s'.Delivers := by
  intro report hreport
  rw [hfile] at hreport
  have hbacks := h report hreport
  exact ⟨fun hready => (hbacks.ready hready).imp hreader hopen, fun hoperational => hopen (hbacks.operational hoperational)⟩

theorem Published.delivers {s s' : BridgewireRuntime W} (h : Published s s') (hs : s.Delivers) : s'.Delivers := by
  have hstate : s'.system.controller.state = s.system.controller.state :=
    congrArg AccessController.DoorView.state h.view
  refine hs.of_same (by rw [healthFile, healthFile, h.log]) (by rw [h.reader]; exact id) fun hopen => ?_
  rw [isOpen, hstate]
  exact hopen

/-- A reader that is connected stays so, too. -/
structure Carries (o o' : Seen W) : Prop where
  keeps : Keeps o o'
  connected : o.now.reader.connected = true → o'.now.reader.connected = true

instance : IsPreorder (Seen W) Carries where
  refl o := ⟨refl_of Keeps o, id⟩
  trans _ _ _ h h' := ⟨trans_of Keeps h.keeps h'.keeps, h'.connected ∘ h.connected⟩

theorem take_carries {α : Type} {m : Program W α}
    (h : ∀ s : BridgewireRuntime W, s.Delivers → (m.run s).2.Delivers)
    (hreader : Within (fun s s' : BridgewireRuntime W => s'.reader = s.reader) m) : Within Carries (Seen.take m) := by
  refine fun o => ⟨step_preserves fun hs => iff_of_true (h _ hs) trivial, fun hconnected => ?_⟩
  show (m.run o.now).2.reader.connected = true
  rwa [hreader o.now]

theorem published_carries {α : Type} {m : Program W α} (h : Within Published m) : Within Carries (Seen.take m) :=
  take_carries (fun s => (h s).delivers) fun s => (h s).reader

variable {c : Wiring W}

theorem healthFile_reported (s : BridgewireRuntime W) (w : W) (report : HealthReport) (answer : Except Exn Unit) :
    healthFile { s with system := { s.system with world := w }, log := s.log ++ [RuntimeOccurrence.reported report answer] } =
      match answer with
      | .ok () => some report
      | .error _ => s.healthFile := by
  unfold healthFile
  rw [History.last_concat]
  cases answer with
  | ok => rfl
  | error e => rfl

/-- A report that is written has to be backed. -/
theorem reported_delivers_iff {s : BridgewireRuntime W} (hs : s.Delivers) (w : W) (report : HealthReport)
    (answer : Except Exn Unit) :
    Delivers { s with system := { s.system with world := w }, log := s.log ++ [RuntimeOccurrence.reported report answer] } ↔
      (answer = .ok () → s.Backs report) := by
  have hfile := healthFile_reported s w report answer
  unfold Delivers
  rw [hfile]
  cases answer with
  | ok =>
    simp only [Option.mem_some_iff, forall_eq', forall_const]
    exact ⟨fun h => ⟨h.1, h.2⟩, fun h => ⟨h.1, h.2⟩⟩
  | error e =>
    simp only [reduceCtorEq, false_imp_iff, iff_true]
    exact fun report' hreport => ⟨(hs report' hreport).1, (hs report' hreport).2⟩

theorem isWritten_reported (action : ServiceAction) (s s' : BridgewireRuntime W) (log : List RuntimeOccurrence)
    (report : HealthReport) (answer : Except Exn Unit) (h : s'.log = log ++ [RuntimeOccurrence.reported report answer]) :
    isWritten ⟨action, s, s'⟩ = true ↔ answer = .ok () := by
  unfold isWritten
  simp only [h, List.getLast?_concat, Option.bind_some]
  cases answer with
  | ok => simp [RuntimeOccurrence.accepted]
  | error e => simp [RuntimeOccurrence.accepted]

/-- A report that claims nothing. -/
theorem reportHealth_reader (status : String) (details : List (String × HealthValue)) :
    Within (fun s s' : BridgewireRuntime W => s'.reader = s.reader) (reportHealth c status details) := by
  intro s
  rw [reportHealth_run]

theorem reportHealth_carries {status : String} {details : List (String × HealthValue)} (hstatus : status ≠ "ready")
    (hdetails : ("access_control", HealthValue.text "operational") ∉ details) :
    Within Carries (Seen.take (reportHealth c status details)) := by
  refine take_carries (fun s hs => ?_) (reportHealth_reader status details)
  rw [reportHealth_run]
  exact (reported_delivers_iff hs _ _ _).mpr fun _ =>
    ⟨fun hready => absurd hready hstatus, fun hoperational => absurd hoperational hdetails⟩

-- ---------------------------------------------------------------------------
-- The controller
-- ---------------------------------------------------------------------------

/-- A claim stays backed exactly as long as the controller stays open. -/
theorem called_delivers_iff {s s' : BridgewireRuntime W} (hs : s.Delivers) (hfile : s'.healthFile = s.healthFile)
    (hreader : s'.reader = s.reader) {reading : ℚ} {operation : AccessController.Operation}
    {outcome : Except Exn (Option AccessResult)}
    (hcalled : AccessController.Called c.access reading s.system.view operation outcome s'.system.view) :
    s'.Delivers ↔ (s.Claims → ¬operation.Closes (s'.system.trace.drop s.system.trace.length)) := by
  have hopens (hclaims : s.Claims) : s.isOpen := by
    obtain ⟨report, hreport, hready | hoperational⟩ := hclaims
    · exact ((hs report hreport).ready hready).2
    · exact (hs report hreport).operational hoperational
  have hopen (hclaims : s.Claims) := hcalled.open_iff (hopens hclaims)
  constructor
  · rintro hs' ⟨report, hreport, hclaim⟩
    refine (hopen ⟨report, hreport, hclaim⟩).mp ?_
    have hbacks := hs' report (by rwa [hfile])
    rcases hclaim with hready | hoperational
    · exact (hbacks.ready hready).2
    · exact hbacks.operational hoperational
  · intro hlines report hreport
    rw [hfile] at hreport
    refine ⟨fun hready => ?_, fun hoperational => ?_⟩
    · have hclaims : s.Claims := ⟨report, hreport, .inl hready⟩
      rw [hreader]
      exact ⟨((hs report hreport).ready hready).1, (hopen hclaims).mpr (hlines hclaims)⟩
    · have hclaims : s.Claims := ⟨report, hreport, .inr hoperational⟩
      exact (hopen hclaims).mpr (hlines hclaims)

theorem access_carries (operation : AccessController.Operation) : Within Carries (Seen.access c operation) := by
  intro o
  refine ⟨step_preserves fun hs => ?_, ?_⟩
  · rw [access_run]
    have hcalled := AccessController.call_called c.access operation o.now.system
    exact called_delivers_iff hs (by exact rfl) (by exact rfl) hcalled
  · rw [Seen.access, run_step, access_run]
    exact id

theorem submit_carries (record : RecordResult) : Within Carries (Seen.submit c record) := by
  intro o
  refine ⟨step_preserves fun hs => ?_, ?_⟩
  · rw [submit_run]
    have hcalled := AccessController.call_called c.access (.process record) o.now.system
    exact called_delivers_iff hs (by simp [healthFile, RuntimeOccurrence.accepted]) (by exact rfl) hcalled
  · rw [Seen.submit, run_step, submit_run]
    exact id

theorem submitAll_carries (records : List RecordResult) : Within Carries (Seen.submitAll c records) := by
  induction records with
  | nil => exact within_pure _
  | cons record records ih => exact Within.bind (submit_carries record) fun _ => ih

theorem publishSnapshot_carries : Within Carries (Seen.publishSnapshot c) := published_carries (publishSnapshot_published c)

theorem tickAndPublish_carries : Within Carries (Seen.tickAndPublish c) :=
  Within.bind (access_carries _) fun _ => publishSnapshot_carries

theorem waitOut_carries (outcome : Except Exn Bool) (intervals : Nat) :
    Within Carries (Seen.waitOut (Seen.tickAndPublish c) outcome intervals) := by
  induction intervals with
  | zero => exact take_carries (fun _ => id) fun _ => rfl
  | succ intervals ih => exact Within.bind tickAndPublish_carries fun _ => ih

/-- A port outside the controller that is asked. -/
theorem asked_published {α : Type} (port : Port W α) : Within Published (zoom (worldPart W) port) :=
  fun _ => ⟨rfl, rfl, rfl, rfl, rfl⟩

theorem cooperativeWait_carries (seconds : ℚ) : Within Carries (Seen.cooperativeWait c seconds) :=
  Within.bind (published_carries (asked_published _)) fun _ => waitOut_carries _ _

-- ---------------------------------------------------------------------------
-- The reader
-- ---------------------------------------------------------------------------

theorem delivers_of_not_claims {s : BridgewireRuntime W} (h : ¬s.Claims) : s.Delivers := fun report hreport =>
  ⟨fun hready => absurd ⟨report, hreport, .inl hready⟩ h,
    fun hoperational => absurd ⟨report, hreport, .inr hoperational⟩ h⟩

/-- An event that degrades leaves nothing claimed, unless it raises. -/
theorem recordReaderEvent_ends (event : ReaderEvent) (s : BridgewireRuntime W) :
    Triple (recordReaderEvent c event) s
      (fun _ s' => (s.Delivers → s'.Delivers) ∧ (event.eventType.degrades = true → ¬s'.Claims) ∧
        (event.eventType.degrades = false → Published s s'))
      (fun _ s' => s.Delivers → s'.Delivers) := by
  have haudit : Within Published (auditReaderEvent c event) := by
    refine Within.bind (asked_published _) fun timestamp => Within.get_bind fun s => ?_
    refine Within.bind (asked_published _) fun eventId => ?_
    split
    · exact asked_published _
    · exact within_throw _
  unfold recordReaderEvent
  dsimp only
  cases hdegrades : event.eventType.degrades with
  | false =>
    refine Triple.mono (haudit.ends s) (fun _ s' h => ⟨h.delivers, fun h => (by cases h), fun _ => h⟩) fun _ s' h => h.delivers
  | true =>
    have hrun := reportHealth_run (c := c) "degraded" [("reason", .text event.eventType.value)] s
    generalize (c.health.report ⟨"degraded", [("reason", .text event.eventType.value)]⟩).run s.system.world = report at hrun
    obtain ⟨answer, w⟩ := report
    have hfile := healthFile_reported s w ⟨"degraded", [("reason", .text event.eventType.value)]⟩ answer
    rw [if_pos rfl, Triple, run_bind, hrun]
    cases answer with
    | error e =>
      intro hs
      exact (reported_delivers_iff hs w _ (.error e)).mpr fun h => by cases h
    | ok =>
      have hquiet (s' : BridgewireRuntime W) (h : Published { s with system := { s.system with world := w }, log := s.log ++
          [RuntimeOccurrence.reported ⟨"degraded", [("reason", .text event.eventType.value)]⟩ (.ok ())] } s') : ¬s'.Claims := by
        rintro ⟨report, hreport, hclaim⟩
        rw [healthFile, h.log, ← healthFile, hfile] at hreport
        obtain rfl := Option.mem_some_iff.mp hreport
        simp [HealthReport.isOperational] at hclaim
      exact Triple.mono (haudit.ends _) (fun _ s' h => ⟨fun _ => delivers_of_not_claims (hquiet s' h), fun _ => hquiet s' h, fun h => by cases h⟩)
        fun _ s' h _ => delivers_of_not_claims (hquiet s' h)

theorem emit_carries (event : ReaderEvent) : Within Carries ((Seen.host c).emit event) := by
  refine take_carries (fun s hs => ?_) ?_
  · have hends := recordReaderEvent_ends (c := c) event s
    unfold Triple at hends
    split at hends
    · rename_i h
      rw [h]
      exact hends.1 hs
    · rename_i h
      rw [h]
      exact hends hs
  · have : IsPreorder (BridgewireRuntime W) (fun s s' => s'.reader = s.reader) :=
      { refl := fun _ => rfl, trans := fun _ _ _ h h' => h'.trans h }
    exact recordReaderEvent_within (V := Anywhere) ⟨⟨fun _ _ _ => rfl, fun _ _ => rfl⟩, fun _ _ _ => rfl⟩
      c.keeps_anywhere event

/-- After an event that degrades, a session can be given up. -/
theorem emit_degrades {event : ReaderEvent} (h : event.eventType.degrades = true) (o : Seen W) :
    Triple ((Seen.host c).emit event) o (fun _ o' => ¬o'.now.Claims) (fun _ _ => True) := by
  have hends := recordReaderEvent_ends (c := c) event o.now
  show Triple (Seen.take (recordReaderEvent c event)) o _ _
  rw [Triple, Seen.take, run_step]
  unfold Triple at hends
  generalize (recordReaderEvent c event).run o.now = outcome at hends
  obtain ⟨answer, s⟩ := outcome
  cases answer with
  | ok => exact hends.2.1 h
  | error e => trivial

theorem ask_carries {α : Type} (port : Port W α) : Within Carries (ReaderSupervisor.ask (Seen.host c) port) :=
  fun _ => ⟨now_preserves fun hs => hs.of_same rfl id id, id⟩

theorem assign_carries {change : ReaderSupervisor → ReaderSupervisor}
    (h : ∀ reader : ReaderSupervisor, reader.connected = true → (change reader).connected = true) :
    Within Carries (ReaderSupervisor.assign (Seen.host c) change) :=
  fun o => ⟨now_preserves fun hs => hs.of_same rfl (h o.now.reader) id, h o.now.reader⟩

theorem note_carries (line : ReaderOccurrence) : Within Carries (ReaderSupervisor.note (Seen.host c) line) := by
  have htake : Within Carries (Seen.take (modify fun s : BridgewireRuntime W =>
      { s with log := s.log ++ [RuntimeOccurrence.reader line] } : Program W PUnit)) := by
    refine take_carries (fun s hs => hs.of_same ?_ id id) fun _ => rfl
    simp [healthFile, RuntimeOccurrence.accepted]
  exact htake

theorem openSession_carries (device : SerialDevice) (o : Seen W) :
    Triple (ReaderSupervisor.openSession (Seen.host c) c.reader device) o
      (fun _ o' => Carries o o' ∧ o'.now.reader.connected = true) (fun _ o' => Carries o o') := by
  refine (ask_carries _).then (fun _ _ h => h) ?_
  rintro (_ | session) o₁ h₁
  · exact h₁
  · have hassign : Within Carries (ReaderSupervisor.assign (Seen.host c) fun reader =>
        { reader with session := some session }) := assign_carries fun _ _ => rfl
    have hboth := trans_of Carries h₁ (trans_of Carries (hassign o₁) (note_carries (c := c) (.opened device) _))
    exact Triple.modify_bind (Triple.of_run rfl ⟨hboth, rfl⟩)

theorem connect_carries (discovery : DiscoveryResult) (o : Seen W) :
    Triple (ReaderSupervisor.connect (Seen.host c) c.reader discovery) o
      (fun failure o' => Carries o o' ∧ (failure = none → o'.now.reader.connected = true))
      (fun _ o' => Carries o o') := by
  unfold ReaderSupervisor.connect
  split
  · exact ⟨refl_of Carries o, nofun⟩
  · exact ⟨refl_of Carries o, nofun⟩
  split
  · exact refl_of Carries o
  · refine Triple.bind (Triple.mono (Triple.attempt (openSession_carries _ o)) (fun _ _ h => h) ?_) ?_
    · rintro _ _ ⟨_, h⟩
      exact h
    · rintro (e | ⟨⟨⟩⟩) o₁ h₁
      · exact ⟨h₁.2, nofun⟩
      · exact ⟨h₁.1, fun _ => h₁.2⟩

theorem becomeReady_carries (discovery : DiscoveryResult) :
    Within Carries (ReaderSupervisor.becomeReady (Seen.host c) discovery) :=
  Within.get_bind fun _ => Within.bind (emit_carries _) fun _ => assign_carries fun _ => id

theorem scheduleReconnect_carries : Within Carries (ReaderSupervisor.scheduleReconnect (Seen.host c) c.reader) := by
  refine Within.get_bind fun o => Within.bind (ask_carries _) fun randomUnit => ?_
  split
  · exact within_throw _
  · exact Within.bind (emit_carries _) fun _ => cooperativeWait_carries _

theorem becomeDegraded_carries (discovery : DiscoveryResult) (failure : ReaderEventType) :
    Within Carries (ReaderSupervisor.becomeDegraded (Seen.host c) c.reader discovery failure) := by
  refine Within.bind (assign_carries fun _ => id) fun _ => Within.get_bind fun o => ?_
  refine Within.bind (emit_carries _) fun _ => Within.get_bind fun o' => ?_
  dsimp only
  split
  · refine Within.bind (emit_carries _) fun _ => ?_
    exact Within.bind (assign_carries fun _ => id) fun _ => scheduleReconnect_carries
  · exact scheduleReconnect_carries

theorem connectUntilReady_carries (maximumAttempts : Nat) (o : Seen W) :
    Triple (ReaderSupervisor.connectUntilReady (Seen.host c) c.reader maximumAttempts) o
      (fun answer o' => Carries o o' ∧ (answer = true → o'.now.reader.connected = true))
      (fun _ o' => Carries o o') := by
  induction maximumAttempts generalizing o with
  | zero => exact ⟨refl_of Carries o, nofun⟩
  | succ maximumAttempts ih =>
    unfold ReaderSupervisor.connectUntilReady
    refine (assign_carries (by exact fun _ => id)).then (fun _ _ h => h) fun _ o₁ h₁ => Triple.get_bind ?_
    refine (emit_carries _).then (fun _ _ h => trans_of Carries h₁ h) fun _ o₂ h₂ => ?_
    have h₂ := trans_of Carries h₁ h₂
    refine (ask_carries _).then (fun _ _ h => trans_of Carries h₂ h) fun _ o₃ h₃ => ?_
    have h₃ := trans_of Carries h₂ h₃
    refine Triple.bind (Triple.mono (connect_carries _ o₃) (fun _ _ h => h) fun _ _ h => trans_of Carries h₃ h) ?_
    rintro (_ | failure) o₄ ⟨h₄, hconnected⟩
    · have h₄ := trans_of Carries h₃ h₄
      refine (becomeReady_carries _).then (fun _ _ h => trans_of Carries h₄ h) fun _ o₅ h₅ => ?_
      exact ⟨trans_of Carries h₄ h₅, fun _ => h₅.connected (hconnected rfl)⟩
    · have h₄ := trans_of Carries h₃ h₄
      refine (becomeDegraded_carries _ _).then (fun _ _ h => trans_of Carries h₄ h) fun again o₅ h₅ => ?_
      have h₅ := trans_of Carries h₄ h₅
      split
      · exact Triple.mono (ih o₅) (fun _ _ h => ⟨trans_of Carries h₅ h.1, h.2⟩) fun _ _ h => trans_of Carries h₅ h
      · exact ⟨h₅, nofun⟩

/-- Nothing is claimed of an open controller. -/
def Idle (s : BridgewireRuntime W) : Prop := s.Claims → ¬s.isOpen

theorem Idle.not_claims {s : BridgewireRuntime W} (h : s.Idle) (hs : s.Delivers) : ¬s.Claims := by
  rintro ⟨report, hreport, hclaim⟩
  refine h ⟨report, hreport, hclaim⟩ ?_
  have hbacks := hs report hreport
  rcases hclaim with hready | hoperational
  · exact (hbacks.ready hready).2
  · exact hbacks.operational hoperational

/-- Another line of the log that is no report. -/
theorem healthFile_logged (s : BridgewireRuntime W) {line : RuntimeOccurrence} (h : line.accepted = none) :
    healthFile { s with log := s.log ++ [line] } = s.healthFile := by
  simp [healthFile, h]

theorem Idle.logged {s : BridgewireRuntime W} (h : s.Idle) {line : RuntimeOccurrence} (hline : line.accepted = none) :
    Idle { s with log := s.log ++ [line] } := by
  unfold Idle Claims
  rw [healthFile_logged s hline]
  exact h

/-- The steps of a disconnection: where nothing is claimed of an open
controller, a session can be given up. -/
def Releases (o o' : Seen W) : Prop := o.now.Idle → Keeps o o' ∧ o'.now.Idle

instance : IsPreorder (Seen W) Releases where
  refl o h := ⟨refl_of Keeps o, h⟩
  trans _ _ _ h h' hidle :=
    have hfirst := h hidle
    have hsecond := h' hfirst.2
    ⟨trans_of Keeps hfirst.1 hsecond.1, hsecond.2⟩

theorem ask_releases {α : Type} (port : Port W α) : Within Releases (ReaderSupervisor.ask (Seen.host c) port) :=
  fun o hidle => ⟨(ask_carries (c := c) port o).keeps, hidle⟩

theorem note_releases (line : ReaderOccurrence) : Within Releases (ReaderSupervisor.note (Seen.host c) line) := by
  intro o hidle
  exact ⟨(note_carries (c := c) line o).keeps, hidle.logged rfl⟩

theorem assign_releases (change : ReaderSupervisor → ReaderSupervisor) :
    Within Releases (ReaderSupervisor.assign (Seen.host c) change) :=
  fun _ hidle => ⟨now_preserves fun hs => delivers_of_not_claims fun hclaims => hidle.not_claims hs hclaims, hidle⟩

theorem disconnect_releases : Within Releases (ReaderSupervisor.disconnect (Seen.host c) c.reader) := by
  refine Within.get_bind fun o => ?_
  split
  · exact within_pure _
  · refine Within.bind ((ask_releases _).attempt _) ?_
    rintro (e | ⟨⟨⟩⟩)
    · exact Within.bind (note_releases _) fun _ => within_throw _
    · exact Within.bind (note_releases _) fun _ => assign_releases _

theorem close_releases : Within Releases (ReaderSupervisor.close (Seen.host c) c.reader) :=
  Within.bind disconnect_releases fun _ => assign_releases _

theorem acknowledge_carries : Within Carries (ReaderSupervisor.acknowledge (Seen.host c) c.reader) := by
  unfold ReaderSupervisor.acknowledge
  split
  · exact emit_carries _
  · refine Within.bind (ask_carries _) fun reading => ?_
    exact Within.bind (assign_carries fun _ => id) fun _ => emit_carries _

/-- What an `emit` of degraded health comes before, a disconnection among it. -/
theorem emit_disconnect {event : ReaderEvent} (h : event.eventType.degrades = true) (o : Seen W) :
    Ends (do
      (Seen.host c).emit event
      ReaderSupervisor.disconnect (Seen.host c) c.reader
      pure none : Seen.Program W (Option (List UInt8))) o fun _ o' => Keeps o o' := by
  refine Triple.bind (Triple.mono ((emit_carries event).and (emit_degrades (c := c) h o)) (fun _ _ h => h)
    fun _ _ h => h.1.keeps) ?_
  rintro ⟨⟩ o₁ ⟨h₁, hclaims⟩
  refine disconnect_releases.then (fun _ _ h₂ => ?_) fun _ o₂ h₂ => ?_
  · exact trans_of Keeps h₁.keeps (h₂ fun hclaim => absurd hclaim hclaims).1
  · exact trans_of Keeps h₁.keeps (h₂ fun hclaim => absurd hclaim hclaims).1

theorem readOnce_keeps : Within Keeps (ReaderSupervisor.readOnce (Seen.host c) c.reader) := by
  refine Within.get_bind fun o => ?_
  split
  · exact within_pure _
  refine Within.bind (((ask_carries _).mono fun _ _ h => h.keeps).attempt _) ?_
  rintro (e | data)
  · dsimp only
    intro o₁
    split
    · exact ends_iff.mp (emit_disconnect (c := c) rfl o₁)
    · exact ends_iff.mp (emit_disconnect (c := c) rfl o₁)
  · refine Within.bind ((note_carries _).mono fun _ _ h => h.keeps) fun _ => ?_
    split
    · exact Within.bind (acknowledge_carries.mono fun _ _ h => h.keeps) fun _ => within_pure _
    · exact within_pure _

theorem readRecordsOnce_keeps :
    Within Keeps (ReaderSupervisor.readRecordsOnce (Seen.host c) c.reader
      ((nowPart ServiceAction (BridgewireRuntime W)).comp (streamPart W))) := by
  refine Within.bind readOnce_keeps ?_
  rintro (_ | data)
  · exact within_pure _
  · dsimp only
    split
    · exact within_pure _
    · refine Within.get_bind fun o => ?_
      refine Within.bind (within_modify fun o => now_preserves fun hs => hs.of_same rfl id id) fun _ => ?_
      split
      · exact Within.bind ((emit_carries _).mono fun _ _ h => h.keeps) fun _ => within_pure _
      · exact within_pure _

-- ---------------------------------------------------------------------------
-- The runtime
-- ---------------------------------------------------------------------------

theorem start_keeps : Within Keeps (Seen.start c) := by
  refine Within.bind ((access_carries _).mono fun _ _ h => h.keeps) fun _ => ?_
  refine Within.bind ((reportHealth_carries (by decide) (by decide)).mono fun _ _ h => h.keeps) fun _ => ?_
  exact publishSnapshot_carries.mono fun _ _ h => h.keeps

/-- The report that the reader is ready is justified by an open controller. -/
theorem reportReady_keeps {details : List (String × HealthValue)}
    (hdetails : ("access_control", HealthValue.text "operational") ∉ details) {o : Seen W}
    (hconnected : o.now.reader.connected = true) :
    Keeps o ((step .reportReady (reportHealth c "ready" details)).run o).2 := by
  refine step_preserves fun hs => ?_
  rw [reportHealth_run]
  refine (reported_delivers_iff hs _ _ _).trans ?_
  refine Iff.trans ?_ (imp_congr (isWritten_reported _ _ _ o.now.log _ _ rfl) Iff.rfl).symm
  exact imp_congr Iff.rfl ⟨fun h => (h.ready rfl).2,
    fun hopen => ⟨fun _ => ⟨hconnected, hopen⟩, fun hoperational => absurd hoperational hdetails⟩⟩

theorem poll_keeps (o : Seen W) :
    Triple (Seen.poll c) o (fun ready o' => Keeps o o' ∧ (ready = true → o'.now.reader.connected = true))
      (fun _ o' => Keeps o o') := by
  refine Triple.get_bind ?_
  split
  · refine readRecordsOnce_keeps.then (fun _ _ h => h) fun records o₁ h₁ => ?_
    refine (submitAll_carries records).then (fun _ _ h => trans_of Keeps h₁ h.keeps) fun _ o₂ h₂ => ?_
    have h₂ := trans_of Keeps h₁ h₂.keeps
    refine (access_carries _).then (fun _ _ h => trans_of Keeps h₂ h.keeps) fun _ o₃ h₃ => ?_
    exact ⟨trans_of Keeps h₂ h₃.keeps, nofun⟩
  · refine Triple.bind (Triple.mono (connectUntilReady_carries 1 o) (fun _ _ h => h) fun _ _ h => h.keeps) ?_
    rintro answer o₁ ⟨h₁, hconnected⟩
    split
    · rename_i hanswer
      have hready := @reportReady_keeps _ c [("reader", .text "connected")] (by decide) o₁ (hconnected hanswer)
      have hreader := reportHealth_reader (c := c) "ready" [("reader", .text "connected")] o₁.now
      have hends : Ends (step .reportReady (reportHealth c "ready" [("reader", .text "connected")])) o₁
          fun _ o' => Keeps o o' ∧ o'.now.reader.connected = true := by
        refine ends_iff.mpr ⟨trans_of Keeps h₁.keeps hready, ?_⟩
        rw [run_step]
        show (ReaderSupervisor.connected _) = true
        rw [hreader]
        exact hconnected hanswer
      exact Triple.bind (Triple.mono hends (fun _ _ h => h) fun _ _ h => h.1) fun _ _ h => ⟨h.1, fun _ => h.2⟩
    · exact ⟨h₁.keeps, nofun⟩

theorem runOnce_keeps (o : Seen W) :
    Triple (Seen.runOnce c) o (fun ready o' => Keeps o o' ∧ (ready = true → o'.now.reader.connected = true))
      (fun _ o' => Keeps o o') := by
  refine (access_carries _).then (fun _ _ h => h.keeps) fun _ o₁ h₁ => ?_
  refine Triple.ensuring (poll_keeps o₁) (fun ready o₂ h₂ => ?_) fun e o₂ h₂ => ?_
  · refine Triple.mono (publishSnapshot_carries.ends o₂) (fun _ o₃ h₃ => ?_) fun _ o₃ h₃ => ?_
    · exact ⟨trans_of Keeps h₁.keeps (trans_of Keeps h₂.1 h₃.keeps), fun hready => h₃.connected (h₂.2 hready)⟩
    · exact trans_of Keeps h₁.keeps (trans_of Keeps h₂.1 h₃.keeps)
  · have hall (o₃ : Seen W) (h₃ : Carries o₂ o₃) : Keeps o o₃ :=
      trans_of Keeps h₁.keeps (trans_of Keeps h₂ h₃.keeps)
    exact Triple.mono (publishSnapshot_carries.ends o₂) (fun _ => hall) fun _ => hall

theorem handleFailure_keeps : Within Keeps (Seen.handleFailure c) :=
  Within.bind ((access_carries _).mono fun _ _ h => h.keeps) fun _ => publishSnapshot_carries.mono fun _ _ h => h.keeps

/-- A cleanup is gathered however it ends. -/
theorem gathered_ends {cleanup : Seen.Program W Unit} {o : Seen W} {R : Seen W → Prop}
    (h : Ends cleanup o fun _ o' => R o') (failures : List Exn) :
    Triple (Seen.gather cleanup failures) o (fun _ o' => R o') (fun _ _ => False) := by
  unfold Seen.gather
  rw [Triple, run_bind, run_attempt_all]
  have hr := ends_iff.mp h
  generalize cleanup.run o = outcome at hr ⊢
  obtain ⟨answer, o'⟩ := outcome
  cases answer <;> exact hr

/-- The controller's shutdown closes it, so the session can be given up. -/
theorem cleanUp_keeps (o : Seen W) : Triple (Seen.cleanUp c) o (fun _ o' => Keeps o o') (fun _ _ => False) := by
  have hshutdown : Ends (Seen.access c .shutdown) o fun _ o' => Keeps o o' ∧ o'.now.Idle := by
    refine ends_iff.mpr ⟨(access_carries (c := c) .shutdown o).keeps, fun _ => ?_⟩
    have hcalled := AccessController.call_called c.access .shutdown o.now.system
    rw [Seen.access, run_step, access_run]
    exact hcalled.shutdown_closes
  refine Triple.bind (gathered_ends hshutdown []) fun failures o₁ h₁ => ?_
  have hclose : Ends (ReaderSupervisor.close (Seen.host c) c.reader) o₁ fun _ o' => Keeps o o' :=
    ends_iff.mpr (trans_of Keeps h₁.1 (close_releases (c := c) o₁ h₁.2).1)
  refine Triple.bind (gathered_ends hclose failures) fun failures' o₂ h₂ => ?_
  have hreport := (@reportHealth_carries _ c "stopped" [] (by decide) (by decide) o₂).keeps
  exact gathered_ends (ends_iff.mpr (trans_of Keeps h₂ hreport)) failures'

theorem shutdown_keeps : Within Keeps (Seen.shutdown c) := by
  refine Within.get_bind fun o => ?_
  split
  · exact within_pure _
  · have hcleanUp : Within Keeps (Seen.cleanUp c) := by
      intro o₁
      have hends : Ends (Seen.cleanUp c) o₁ fun _ o' => Keeps o₁ o' :=
        Triple.mono (cleanUp_keeps o₁) (fun _ _ h => h) fun _ _ => False.elim
      exact ends_iff.mp hends
    have hpublish : Within Keeps (Seen.publishSnapshot c) := publishSnapshot_carries.mono fun _ _ h => h.keeps
    refine Within.bind hcleanUp fun failures => ?_
    split
    · have hcomplete : Within Carries (Seen.take (modify fun s : BridgewireRuntime W =>
          { s with shutdownComplete := true } : Program W PUnit)) := take_carries (fun _ hs => hs.of_same rfl id id) fun _ => rfl
      exact Within.bind (hcomplete.mono fun _ _ h => h.keeps) fun _ => hpublish
    · exact Within.bind hpublish fun _ => within_throw _

end

end BridgewireRuntime

end Bridgewire
