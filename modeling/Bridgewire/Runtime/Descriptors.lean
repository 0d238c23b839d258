import Bridgewire.Reader.Descriptors
import Bridgewire.Runtime.Faults
import Bridgewire.Runtime.Over
import Bridgewire.Runtime.Parts
import Bridgewire.Runtime.Shutdown

/-!
# The descriptors of a runtime

A runtime that reads a serial port. Whatever it is asked and whatever fails,
its calls on file descriptors keep their order, and the one that is open is
that of the reader's session.
-/

namespace Bridgewire.BridgewireRuntime

open Effect Descriptors
open PosixSerialSession (HeldBy Untouched fd)
open ReaderSupervisor (Holding Passes SerialSettings)

variable {W : Type}

def portsPart (W : Type) : Component (SerialPorts (Journalled W)) (Journalled W) where
  get ports := ports.world
  set world ports := { ports with world }
  get_set _ _ := rfl
  set_get _ := rfl
  set_set _ _ _ := rfl

/-- The rest of the world of a runtime that reads a serial port. -/
def besidePorts (W : Type) : Component (SerialPorts (Journalled W)) W := (portsPart W).comp (Journalled.inner W)

/-- The same runtime with serial sessions, and with their calls on descriptors
written down. -/
def Wiring.overSerial (c : Wiring W) (serial : SerialSettings W) : Wiring (SerialPorts (Journalled W)) :=
  { c.over (besidePorts W) with reader := serial.journalled.settings }

theorem untouched_beside {ports ports' : SerialPorts (Journalled W)} (h : BesidePart (besidePorts W) ports ports') :
    Untouched ports ports' := by
  obtain ⟨w, rfl⟩ := h
  exact ⟨rfl, rfl⟩

section
variable {c : Wiring W} {serial : SerialSettings W}

/-- Everything but the reader passes the session by. -/
abbrev PassesBy (c : Wiring W) (serial : SerialSettings W) :=
  Passes (host (c.overSerial serial)) Untouched

theorem world_passesBy (s : BridgewireRuntime (SerialPorts (Journalled W))) (ports : SerialPorts (Journalled W))
    (h : Untouched s.system.world ports) : PassesBy c serial s ((worldPart _).set ports s) :=
  ⟨h, rfl⟩

theorem call_passesBy (operation : AccessController.Operation) :
    Within (PassesBy c serial)
      (zoom (systemPart _) (AccessController.call (c.overSerial serial).access operation)) :=
  Within.zoom (over_call c (besidePorts W) operation) fun _ _ h => ⟨untouched_beside h, rfl⟩

theorem tells_passesBy : Tells Untouched (PassesBy c serial) where
  world := world_passesBy
  reported s _ _ := ⟨refl_of Untouched s.system.world, rfl⟩

/-- The wiring with a reader that opens and reads nothing: what does not ask the
reader is the same. -/
def readerless (c : Wiring W) (serial : SerialSettings W) : Wiring (SerialPorts (Journalled W)) :=
  { c.overSerial serial with
    reader := { serial.journalled.settings with
      enumerateDevices := pure []
      openReader := fun _ => pure none
      read := fun _ => pure []
      closeSession := fun _ => pure ()
      randomUnit := pure 0 } }

theorem readerless_keeps (hopen : serial.os.Opens) : (readerless c serial).Keeps Untouched :=
  { (c.over_keeps (besidePorts W)).mono fun _ _ => untouched_beside with
    reader := ⟨within_pure _, fun _ => within_pure _, fun _ => within_pure _, fun _ => within_pure _, within_pure _,
      (ReaderSupervisor.journalled_holds serial hopen).monotonic⟩ }

theorem reportHealth_passesBy (hopen : serial.os.Opens) (status : String) (details : List (String × HealthValue)) :
    Within (PassesBy c serial) (reportHealth (c.overSerial serial) status details) := by
  show Within _ (reportHealth (readerless c serial) status details)
  exact reportHealth_tells tells_passesBy (readerless_keeps hopen) status details

theorem auditReaderEvent_passesBy (hopen : serial.os.Opens) (event : ReaderEvent) :
    Within (PassesBy c serial) (auditReaderEvent (c.overSerial serial) event) := by
  show Within _ (auditReaderEvent (readerless c serial) event)
  exact auditReaderEvent_tells tells_passesBy (readerless_keeps hopen) event

theorem publishSnapshot_passesBy (hopen : serial.os.Opens) :
    Within (PassesBy c serial) (publishSnapshot (c.overSerial serial)) := by
  show Within _ (publishSnapshot (readerless c serial))
  exact publishSnapshot_within ⟨world_passesBy, fun s _ => ⟨refl_of Untouched s.system.world, rfl⟩⟩
    (readerless_keeps hopen)

theorem shell_passesBy (hopen : serial.os.Opens) : Shell (c.overSerial serial) (PassesBy c serial) where
  submitted s _ := ⟨refl_of Untouched s.system.world, rfl⟩
  completed s := ⟨refl_of Untouched s.system.world, rfl⟩
  call := call_passesBy
  reports := reportHealth_passesBy hopen
  audits := auditReaderEvent_passesBy hopen
  publishes := publishSnapshot_passesBy hopen

theorem cooperativeWait_passesBy (hopen : serial.os.Opens) (seconds : ℚ) :
    Within (PassesBy c serial) (cooperativeWait (c.overSerial serial) seconds) :=
  Within.bind (Within.zoom (within_reading ((readerless_keeps (c := c) hopen).wait seconds)) world_passesBy) fun _ =>
    waitOut_within (shell_passesBy hopen).ticks _ _

theorem host_apart (hopen : serial.os.Opens) : (host (c.overSerial serial)).Apart Untouched where
  world_own _ _ := rfl
  own_world _ _ := rfl
  note s _ := ⟨refl_of Untouched s.system.world, rfl⟩
  emit := (shell_passesBy hopen).emits
  wait := cooperativeWait_passesBy hopen

-- ---------------------------------------------------------------------------
-- Every operation
-- ---------------------------------------------------------------------------

/-- The descriptor that is open is that of the session. -/
def Sound (s : BridgewireRuntime (SerialPorts (Journalled W))) : Prop := HeldBy s.reader.session s.system.world

def KeepsSound (s s' : BridgewireRuntime (SerialPorts (Journalled W))) : Prop := Sound s → Sound s'

instance : IsPreorder (BridgewireRuntime (SerialPorts (Journalled W))) KeepsSound where
  refl _ h := h
  trans _ _ _ h h' hs := h' (h hs)

theorem PassesBy.sound (hopen : serial.os.Opens) {s s' : BridgewireRuntime (SerialPorts (Journalled W))}
    (h : PassesBy c serial s s') : KeepsSound s s' :=
  fun hs => Passes.holding (ReaderSupervisor.journalled_holds serial hopen) h hs

theorem poll_sound (hopen : serial.os.Opens) : Within KeepsSound (poll (c.overSerial serial)) := by
  have hshell := shell_passesBy (c := c) hopen
  have hapart := host_apart (c := c) hopen
  have hports := ReaderSupervisor.journalled_holds serial hopen
  have hrest : ∀ {α : Type} {m : Program (SerialPorts (Journalled W)) α} {s : BridgewireRuntime _},
      Within (PassesBy c serial) m → Sound s → Ends m s fun _ => Sound :=
    fun hm hs => (hm.ends _).mono fun _ _ h => PassesBy.sound hopen h hs
  have hstream : ∀ s stream, PassesBy c serial s ((streamPart _).set stream s) :=
    fun s _ => ⟨refl_of Untouched s.system.world, rfl⟩
  intro s hs
  have hends : Ends (poll (c.overSerial serial)) s fun _ => Sound := by
    unfold poll
    refine Ends.get_bind ?_
    split
    · refine Ends.bind (ReaderSupervisor.readRecordsOnce_holds hapart hports hstream hs) (fun _ _ h => h)
        fun records s₁ hs₁ => ?_
      refine Ends.bind (hrest (hshell.submitAll records) hs₁) (fun _ _ h => h) fun _ s₂ hs₂ => ?_
      exact Ends.bind (hrest (hshell.accesses .tick) hs₂) (fun _ _ h => h) fun _ _ hs₃ => Ends.pure hs₃
    · rename_i hclosed
      have hnone : s.reader.session = none := by simpa [ReaderSupervisor.connected] using hclosed
      refine Ends.bind (ReaderSupervisor.connectUntilReady_holds hapart hports 1 hs hnone) (fun _ _ h => h)
        fun ready s₁ hs₁ => ?_
      split
      · exact Ends.bind (hrest (hshell.reports _ _) hs₁) (fun _ _ h => h) fun _ _ hs₂ => Ends.pure hs₂
      · exact Ends.pure hs₁
  exact ends_iff.mp hends

theorem acts_sound (hopen : serial.os.Opens) : Acts (c.overSerial serial) KeepsSound where
  submitted _ _ h := h
  completed _ h := h
  call operation :=
    have hcalled : Within (PassesBy c serial) _ := call_passesBy operation
    hcalled.mono fun _ _ => PassesBy.sound hopen
  reports status details := (reportHealth_passesBy hopen status details).mono fun _ _ => PassesBy.sound hopen
  audits event := (auditReaderEvent_passesBy hopen event).mono fun _ _ => PassesBy.sound hopen
  publishes := (publishSnapshot_passesBy hopen).mono fun _ _ => PassesBy.sound hopen
  awaits seconds := (cooperativeWait_passesBy hopen seconds).mono fun _ _ => PassesBy.sound hopen
  polls := poll_sound hopen
  closes := by
    intro s hs
    have hclose : Ends (ReaderSupervisor.close (host (c.overSerial serial)) (c.overSerial serial).reader) s
        fun _ => Sound :=
      Triple.mono (ReaderSupervisor.close_holds (host_apart hopen) (ReaderSupervisor.journalled_holds serial hopen) hs)
        (fun _ _ h => h.1) fun _ _ h => h
    exact ends_iff.mp hclose

/-- A first shutdown that returns has closed the session. -/
theorem shutdown_closes (hopen : serial.os.Opens) {s : BridgewireRuntime (SerialPorts (Journalled W))} (hs : Sound s)
    (hfresh : s.shutdownComplete = false) :
    Triple (shutdown (c.overSerial serial)) s (fun _ s' => s'.reader.session = none) fun _ _ => True := by
  have hshell := shell_passesBy (c := c) hopen
  have hclean : Ends (cleanUp (c.overSerial serial)) s fun outcome s' => ∃ failures, outcome = .ok failures ∧
      (failures = [] → s'.reader.session = none) := by
    have hsecure : Ends (access (c.overSerial serial) .shutdown) s fun _ => Sound :=
      ((hshell.accesses _).ends _).mono fun _ _ h => PassesBy.sound hopen h hs
    have hclose : ∀ {s : BridgewireRuntime (SerialPorts (Journalled W))}, Sound s →
        Ends (ReaderSupervisor.close (host (c.overSerial serial)) (c.overSerial serial).reader) s
          fun outcome s' => outcome = .ok () → s'.reader.session = none := by
      intro s hs
      refine Triple.mono (ReaderSupervisor.close_holds (host_apart (c := c) hopen)
        (ReaderSupervisor.journalled_holds serial hopen) hs) (fun _ _ h _ => h.2) ?_
      rintro _ _ _ ⟨⟩
    unfold cleanUp
    refine Ends.bind (gather_ends hsecure) ?_ ?_
    · rintro e s₁ ⟨-, -, -, ⟨⟩, -⟩
    rintro failures₁ s₁ ⟨-, _, hs₁, ⟨⟩, -⟩
    refine Ends.bind (gather_ends (hclose hs₁)) ?_ ?_
    · rintro e s₂ ⟨-, -, -, ⟨⟩, -⟩
    rintro failures₂ s₂ ⟨answer₂, _, hsession₂, ⟨⟩, hfailures₂⟩
    refine (gather_ends ((hshell.reports "stopped" []).ends s₂)).mono ?_
    rintro _ s₃ ⟨answer₃, failures₃, hpasses, rfl, hfailures₃⟩
    refine ⟨failures₃, rfl, fun hnone => ?_⟩
    exact hpasses.session.trans (hsession₂ (hfailures₂.mp (hfailures₃.mp hnone).1).2)
  unfold shutdown
  refine Triple.get_bind ?_
  rw [hfresh]
  refine Triple.bind (Triple.mono hclean (fun _ _ h => h) fun _ _ _ => trivial) ?_
  rintro failures s₁ ⟨_, ⟨⟩, hnone⟩
  split
  · rename_i hempty
    refine Triple.modify_bind (Triple.mono (hshell.publishes.ends _) (fun _ _ h => ?_) fun _ _ _ => trivial)
    exact h.session.trans (hnone (by simpa using hempty))
  · exact Triple.bind (Triple.mono (hshell.publishes.ends _) (fun _ _ h => h) fun _ _ _ => trivial) fun _ _ _ => trivial

-- ---------------------------------------------------------------------------
-- Every run
-- ---------------------------------------------------------------------------

/-- The calls up to here. -/
def descriptorCalls (s : BridgewireRuntime (SerialPorts (Journalled W))) : List DescriptorCall :=
  s.system.world.world.calls

/-- Nothing is open without a session. -/
def phase (s : BridgewireRuntime (SerialPorts (Journalled W))) : Phase :=
  match s.reader.session with
  | none => .idle
  | some session => .held (fd session s.system.world)

/-- The calls have kept their order, and what they opened was closed once, is
open or is lost; it is lost only by an interruption or a close that raised. -/
def Accounted (calls : List DescriptorCall) (phase : Phase) : Prop :=
  ∃ lost, Runs calls lost phase ∧ (opened calls).Perm (closed calls ++ lost ++ phase.open?) ∧
    ∀ fd ∈ lost, (∃ e, e.isException = false ∧ .configured fd (.error e) ∈ calls) ∨
      ∃ e, .closed fd (.error e) ∈ calls

theorem Sound.accounted {s : BridgewireRuntime (SerialPorts (Journalled W))} (h : Sound s) :
    Accounted s.descriptorCalls s.phase := by
  have hruns : ∃ lost, Runs s.descriptorCalls lost s.phase := by
    unfold Sound at h
    unfold phase
    cases hsession : s.reader.session with
    | none => rwa [hsession] at h
    | some session =>
      rw [hsession] at h
      exact h.2
  obtain ⟨lost, hruns⟩ := hruns
  exact ⟨lost, hruns, hruns.balance, hruns.of_lost⟩

/-- **No descriptor leaks.** In every run of a runtime that reads a serial
port the calls on descriptors are accounted for, what is open is the session's,
and nothing is once a first shutdown has returned. -/
theorem descriptors_accounted (c : Wiring W) (serial : SerialSettings W) (hopen : serial.os.Opens)
    (escalation : EscalationTracker) (outside : W) (operations : List Operation) :
    let s := after (c.overSerial serial) operations (fresh (c.overSerial serial) escalation ⟨⟨outside, []⟩, []⟩)
    Accounted s.descriptorCalls s.phase ∧
      (s.shutdownComplete = false → ∀ s', (shutdown (c.overSerial serial)).run s = (.ok (), s') →
        Accounted s'.descriptorCalls .idle) := by
  intro s
  have hacts := acts_sound (c := c) hopen
  have hs : Sound s := hacts.after operations _ ⟨[], .nil⟩
  refine ⟨hs.accounted, fun hfresh s' hrun => ?_⟩
  have hsound' : Sound s' := by
    have hkeeps := hacts.shutdown s hs
    rwa [hrun] at hkeeps
  have hclosed := shutdown_closes (c := c) hopen hs hfresh
  unfold Triple at hclosed
  rw [hrun] at hclosed
  have hphase : s'.phase = .idle := by
    unfold phase
    rw [show s'.reader.session = none from hclosed]
  exact hphase ▸ hsound'.accounted

def hungUpRun : BridgewireRuntime (SerialPorts (Journalled Unit)) :=
  after (present.overSerial ReaderSupervisor.hungUp) [.start, .runOnce, .runOnce]
    (fresh (present.overSerial ReaderSupervisor.hungUp) { policy := .standard } ⟨⟨(), []⟩, []⟩)

theorem descriptors_accounted_hungUp :
    Accounted hungUpRun.descriptorCalls (.held 3) ∧
      Accounted ((shutdown (present.overSerial ReaderSupervisor.hungUp)).run hungUpRun).2.descriptorCalls .idle := by
  have hphase : hungUpRun.phase = .held 3 := by decide +kernel
  have hreturned : ((shutdown (present.overSerial ReaderSupervisor.hungUp)).run hungUpRun).1 = .ok () := by
    decide +kernel
  have hopen : ReaderSupervisor.hungUp.os.Opens := by
    rintro path w _ ⟨⟩
    decide
  obtain ⟨haccounted, hshutdown⟩ := descriptors_accounted present ReaderSupervisor.hungUp hopen
    { policy := .standard } () [.start, .runOnce, .runOnce]
  refine ⟨hphase ▸ haccounted, hshutdown (by decide +kernel) _ (Prod.ext hreturned rfl)⟩

end

end Bridgewire.BridgewireRuntime
