import Bridgewire.Host.Frame
import Bridgewire.Runtime.Shutdown

/-!
# How the hardware service leaves the relay

Whatever raises and wherever it does, a relay that was set up is commanded
LOW and cleaned up before the API and the audit sink are closed.
-/

namespace Bridgewire

open Effect
open RaspberryPiRelay (Steps Tidy)

-- ---------------------------------------------------------------------------
-- What the runtime does to the pins
-- ---------------------------------------------------------------------------

namespace BridgewireRuntime

section
variable {W : Type} {V : W → W → Prop} {R : BridgewireRuntime W → BridgewireRuntime W → Prop}
  [IsPreorder W V] [IsPreorder (BridgewireRuntime W) R] {c : Wiring W}

theorem start_within (hframe : Reports V R) (hports : c.Keeps V) (haccess : Within R (access c .start)) :
    Within R (start c) :=
  Within.bind haccess fun _ => Within.bind (reportHealth_within hframe hports _ _) fun _ =>
    publishSnapshot_within hframe.toPublishes hports

theorem handleFailure_within (hframe : Publishes V R) (hports : c.Keeps V)
    (haccess : Within R (access c .recoverableFailure)) : Within R (handleFailure c) :=
  Within.bind haccess fun _ => publishSnapshot_within hframe hports

theorem shutdown_within (hframe : Frames V R) (hports : c.Keeps V)
    (htick : Within R (access c .tick)) (hshutdown : Within R (access c .shutdown))
    (hcomplete : ∀ s, R s { s with shutdownComplete := true }) : Within R (shutdown c) := by
  have hhost := host_keeps htick hframe hports
  have hgather : ∀ (cleanup : Program W Unit) (failures : List Exn), Within R cleanup →
      Within R (gather cleanup failures) := by
    intro cleanup failures h
    refine Within.bind (h.attempt _) ?_
    rintro (e | ⟨⟨⟩⟩)
    · exact within_pure _
    · exact within_pure _
  have hcleanUp : Within R (cleanUp c) := by
    refine Within.bind (hgather _ _ hshutdown) fun failures => Within.bind (hgather _ _ ?_) fun failures => ?_
    · exact ReaderSupervisor.close_within hhost hports.reader
    · exact hgather _ _ (reportHealth_within hframe.toReports hports _ _)
  have hpublish := publishSnapshot_within hframe.toPublishes hports
  refine Within.get_bind fun s => ?_
  split
  · exact within_pure _
  refine Within.bind hcleanUp fun failures => ?_
  split
  · exact Within.bind (within_modify hcomplete) fun _ => hpublish
  · exact Within.bind hpublish fun _ => within_throw _

end

/-- What happens to the pins of a runtime. -/
def OnPins {W : Type} (allowed : GpioCall → Prop) (s s' : BridgewireRuntime (Pins W)) : Prop :=
  Steps allowed s.system.world s'.system.world

/-- No shutdown is completed meanwhile. -/
structure Attends {W : Type} (allowed : GpioCall → Prop) (s s' : BridgewireRuntime (Pins W)) : Prop where
  pins : OnPins allowed s s'
  complete : s'.shutdownComplete = s.shutdownComplete

section
variable {W : Type} (allowed : GpioCall → Prop)

instance : IsPreorder (BridgewireRuntime (Pins W)) (OnPins allowed) where
  refl s := refl_of (Steps allowed) s.system.world
  trans _ _ _ := trans_of (Steps allowed)

instance : IsPreorder (BridgewireRuntime (Pins W)) (Attends allowed) where
  refl s := ⟨refl_of (OnPins allowed) s, rfl⟩
  trans _ _ _ h h' := ⟨trans_of (OnPins allowed) h.pins h'.pins, h'.complete.trans h.complete⟩

theorem frames_onPins : Frames (Steps allowed) (OnPins (W := W) allowed) where
  world _ _ h := h
  snapshot s _ := refl_of (OnPins allowed) s
  reported s _ _ := refl_of (OnPins allowed) s
  reader s _ := refl_of (OnPins allowed) s
  stream s _ := refl_of (OnPins allowed) s
  session s _ := refl_of (OnPins allowed) s
  submitted s _ := refl_of (OnPins allowed) s

theorem frames_attends : Frames (Steps allowed) (Attends (W := W) allowed) where
  world _ _ h := ⟨h, rfl⟩
  snapshot s _ := ⟨refl_of (OnPins allowed) s, rfl⟩
  reported s _ _ := ⟨refl_of (OnPins allowed) s, rfl⟩
  reader s _ := ⟨refl_of (OnPins allowed) s, rfl⟩
  stream s _ := ⟨refl_of (OnPins allowed) s, rfl⟩
  session s _ := ⟨refl_of (OnPins allowed) s, rfl⟩
  submitted s _ := ⟨refl_of (OnPins allowed) s, rfl⟩

end

end BridgewireRuntime

namespace HardwareService

open BridgewireRuntime (CleansUp OnPins Attends frames_onPins frames_attends)

/-- A wiring of the host: the relay is its own, everything else is outside. -/
structure Wired {W : Type} (env : Environment W) (c : BridgewireRuntime.Wiring (Pins W)) : Prop where
  relay : c.access.relay = RaspberryPiRelay.relay env.gpio
  keeps : ∀ allowed : GpioCall → Prop, c.Keeps (Steps allowed)

section
variable {W : Type} {env : Environment W}

theorem outside_steps {α : Type} {allowed : GpioCall → Prop} (port : Port W α) :
    Within (Steps allowed) (outside port) :=
  RaspberryPiRelay.outer_steps port

theorem reading_steps {α : Type} {allowed : GpioCall → Prop} (read : W → α × W) (s : Pins W) :
    Steps allowed s (outsideReading read s).2 :=
  RaspberryPiRelay.outer_steps (reading read) s

theorem wired {config : SystemConfiguration} {access : AccessController.Wiring (Pins W)}
    (h : access.toPorts = accessPorts env) : Wired env (wire env config access) where
  relay := by
    show access.toPorts.relay = _
    rw [h]
    rfl
  keeps allowed := by
    refine ⟨?_, ⟨outside_steps _, fun _ => outside_steps _, fun _ => outside_steps _,
      fun _ => outside_steps _, within_pure _, ?_⟩, fun _ => outside_steps _, fun _ => outside_steps _,
      reading_steps _, reading_steps _, fun _ => reading_steps _⟩
    · show access.toPorts.Keeps (Steps allowed)
      rw [h]
      exact ⟨fun _ => outside_steps _, fun _ => outside_steps _, fun _ => outside_steps _,
        reading_steps _, reading_steps _, reading_steps _⟩
    · rintro monotonic ⟨⟩
      exact reading_steps _

variable {c : BridgewireRuntime.Wiring (Pins W)} (hc : Wired env c) {allowed : GpioCall → Prop}
include hc

/-- A call of the controller makes the calls it may make of the relay. -/
theorem Wired.call_onPins (operation : AccessController.Operation)
    (hlow : ∀ channel answer, allowed (.output channel false answer))
    (hhigh : (∃ record, operation = .process record) → ∀ channel answer, allowed (.output channel true answer))
    (hsetup : operation = .start → (∀ answer, allowed (.setwarnings answer)) ∧
      (∀ answer, allowed (.setmode answer)) ∧ ∀ channel answer, allowed (.setup channel answer))
    (hclean : operation = .shutdown → ∀ channel answer, allowed (.cleanup channel answer)) :
    Within (OnPins allowed)
      (zoom (BridgewireRuntime.systemPart (Pins W)) (AccessController.call c.access operation)) := by
  refine Within.zoom (S := AccessController.OnWorld (Steps allowed)) ?_ fun _ _ h => h
  have hrelay := hc.relay
  refine AccessController.call_within (hc.keeps allowed).access operation ?_ ?_ ?_ ?_
  · rw [hrelay]
    exact RaspberryPiRelay.command_steps env.gpio false hlow
  · rw [hrelay]
    exact fun h => RaspberryPiRelay.command_steps env.gpio true (hhigh h)
  · rw [hrelay]
    intro h
    obtain ⟨hwarnings, hmode, hset⟩ := hsetup h
    exact RaspberryPiRelay.setup_steps env.gpio _ _ hwarnings hmode hset
  · rw [hrelay]
    exact fun h => RaspberryPiRelay.cleanup_steps env.gpio hlow (hclean h)

omit hc in
theorem call_attends (operation : AccessController.Operation)
    (h : Within (OnPins allowed)
      (zoom (BridgewireRuntime.systemPart (Pins W)) (AccessController.call c.access operation))) :
    Within (Attends allowed)
      (zoom (BridgewireRuntime.systemPart (Pins W)) (AccessController.call c.access operation)) :=
  fun s => ⟨h s, rfl⟩

end

-- ---------------------------------------------------------------------------
-- What the host does to the pins
-- ---------------------------------------------------------------------------

/-- While the service is built and runs: the pins step, and failures are kept. -/
structure Serves {W : Type} (allowed : GpioCall → Prop) (s s' : HardwareService W) : Prop where
  runtime : Attends allowed s.runtime s'.runtime
  wiring : s'.wiring = s.wiring
  hasRelay : s'.hasRelay = s.hasRelay
  failures : s.failures <+: s'.failures

section
variable {W : Type} {allowed : GpioCall → Prop}

instance : IsPreorder (HardwareService W) (Serves allowed) where
  refl s := ⟨refl_of (Attends allowed) s.runtime, rfl, rfl, List.prefix_rfl⟩
  trans _ _ _ h h' := ⟨trans_of (Attends allowed) h.runtime h'.runtime, h'.wiring.trans h.wiring,
    h'.hasRelay.trans h.hasRelay, h.failures.trans h'.failures⟩

theorem onRuntime_serves {α : Type} {m : BridgewireRuntime.Program (Pins W) α}
    (h : Within (Attends allowed) m) : Within (Serves allowed) (onRuntime m) :=
  Within.zoom h fun _ _ hs => ⟨hs, rfl, rfl, List.prefix_rfl⟩

theorem frames_serves : Frames (Serves (W := W) allowed) where
  outside s w := ⟨⟨outside_steps (modify fun _ => w) s.runtime.system.world, rfl⟩, rfl, rfl, List.prefix_rfl⟩
  fail s _ := ⟨refl_of (Attends allowed) s.runtime, rfl, rfl, List.prefix_append _ _⟩
  api s _ _ _ := ⟨refl_of (Attends allowed) s.runtime, rfl, rfl, List.prefix_rfl⟩

/-- What a caught exception adds to the failures. -/
def raisedIn : Except Exn Unit → List Exn
  | .ok () => []
  | .error e => [e]

theorem keepGoing_ends {action : Program W Unit} {s : HardwareService W}
    {R : Except Exn Unit → HardwareService W → Prop} (h : Ends action s R) :
    Triple (keepGoing action) s
      (fun _ s' => ∃ answer s₁, R answer s₁ ∧ s' = { s₁ with failures := s₁.failures ++ raisedIn answer })
      (fun _ _ => False) := by
  unfold keepGoing
  refine Triple.bind (Triple.mono (Triple.attempt h) (fun _ _ h => h) ?_) ?_
  · rintro _ _ ⟨⟨⟩, -⟩
  · rintro (e | ⟨⟨⟩⟩) s₁ h₁
    · exact ⟨.error e, s₁, h₁.2, rfl⟩
    · exact ⟨.ok (), s₁, h₁, by simp [raisedIn]⟩

variable {env : Environment W} {c : BridgewireRuntime.Wiring (Pins W)} (hc : Wired env c)
  (config : SystemConfiguration)
include hc

theorem reportHealth_serves (status : String) (details : List (String × HealthValue)) :
    Within (Serves allowed) (onRuntime (BridgewireRuntime.reportHealth c status details)) :=
  onRuntime_serves (BridgewireRuntime.reportHealth_within (frames_attends allowed).toReports
    (hc.keeps allowed) status details)

/-- The `except` commands no HIGH and raises nothing. -/
theorem handle_ends (hlow : ∀ channel answer, allowed (.output channel false answer))
    (e : Exn) {s : HardwareService W} (hs : s.wiring = some c) :
    Triple (handle e) s (fun _ s' => Serves allowed s s' ∧ s'.failures ≠ []) (fun _ _ => False) := by
  have hkeep : ∀ {action : Program W Unit} (s : HardwareService W), Within (Serves allowed) action →
      Triple (keepGoing action) s (fun _ s' => Serves allowed s s') (fun _ _ => False) := by
    intro action s h
    have hany : Ends action s fun _ _ => True := ends_iff.mpr trivial
    exact Triple.mono ((keepGoing_within frames_serves h).and (keepGoing_ends hany)) (fun _ _ h => h.1) fun _ _ h => h.2
  have hfault : Within (Serves allowed) (onRuntime (BridgewireRuntime.reportFault c)) :=
    reportHealth_serves hc _ _
  have hfailure : Within (Serves allowed) (onRuntime (BridgewireRuntime.handleFailure c)) := by
    refine onRuntime_serves (BridgewireRuntime.handleFailure_within
      (frames_attends allowed).toPublishes (hc.keeps allowed) ?_)
    refine (call_attends _ (hc.call_onPins .recoverableFailure hlow ?_ ?_ ?_)).map _
    · rintro ⟨record, ⟨⟩⟩
    · rintro ⟨⟩
    · rintro ⟨⟩
  refine Triple.modify_bind (Triple.get_bind ?_)
  split
  · rename_i hnone
    rw [show s.wiring = none from hnone] at hs
    cases hs
  rename_i c' hsome
  obtain rfl : c = c' := Option.some.inj (hs.symm.trans hsome)
  refine Triple.bind (hkeep _ hfault) fun _ s₁ h₁ => Triple.mono (hkeep _ hfailure) ?_ fun _ _ => id
  intro _ s₂ h₂
  have hserves := trans_of (Serves allowed) (frames_serves.fail s e) (trans_of (Serves allowed) h₁ h₂)
  refine ⟨hserves, fun hnone => ?_⟩
  have hkept := (trans_of (Serves allowed) h₁ h₂).failures
  rw [hnone] at hkept
  simp at hkept

end

-- ---------------------------------------------------------------------------
-- `try`
-- ---------------------------------------------------------------------------

/-- Any call of the relay. -/
abbrev AnyCall : GpioCall → Prop := fun _ => True

section
variable {W : Type} {env : Environment W}

/-- A setup that returns has set its channel. -/
theorem setup_sets (gpio : Gpio W) (numbering : String) (channel : Int) (s : Pins W) :
    Triple (RaspberryPiRelay.setup gpio numbering channel) s (fun _ s' => s'.relay.channel.isSome)
      (fun _ _ => True) := by
  unfold RaspberryPiRelay.setup
  refine Triple.get_bind ?_
  split
  · assumption
  split
  · trivial
  have hany : ∀ {m : Port (Pins W) Unit} {s : Pins W}, Triple m s (fun _ _ => True) (fun _ _ => True) :=
    fun {m s} => ends_iff (R := fun _ _ => True).mpr trivial
  refine Triple.bind hany fun _ _ _ => Triple.bind hany fun _ _ _ => Triple.bind hany fun _ _ _ => ?_
  rfl

variable {c : BridgewireRuntime.Wiring (Pins W)} (hc : Wired env c) (config : SystemConfiguration)
include hc

theorem anyCall_attends (operation : AccessController.Operation) :
    Within (Attends AnyCall)
      (zoom (BridgewireRuntime.systemPart (Pins W)) (AccessController.call c.access operation)) := by
  refine call_attends operation (hc.call_onPins operation ?_ ?_ ?_ ?_)
  · exact fun _ _ => trivial
  · exact fun _ _ _ => trivial
  · exact fun _ => ⟨fun _ => trivial, fun _ => trivial, fun _ _ => trivial⟩
  · exact fun _ _ _ => trivial

/-- A controller that starts for the first time has set the relay up. -/
theorem start_sets {s : BridgewireRuntime (Pins W)} (hinit : s.system.controller.state = .initializing) :
    Triple (BridgewireRuntime.start c) s (fun _ s' => s'.system.world.relay.channel.isSome)
      (fun _ _ => True) := by
  have hports : c.Keeps (Steps AnyCall) := hc.keeps AnyCall
  have hlow : Within (Steps AnyCall) (c.access.relay.command false) := by
    rw [hc.relay]
    exact RaspberryPiRelay.command_steps env.gpio false fun _ _ => trivial
  have hcontroller : ∀ {s : AccessController.System (Pins W)}, s.controller.state = .initializing →
      Triple (AccessController.start c.access) s (fun _ s' => s'.world.relay.channel.isSome)
        (fun _ _ => True) := by
    intro s hinit
    have hraises : ∀ {α β : Type} (m : AccessController.Program (Pins W) α)
        {f : α → AccessController.Program (Pins W) β} {s : AccessController.System (Pins W)}
        {Q : β → AccessController.System (Pins W) → Prop},
        (∀ a s', Triple (f a) s' Q fun _ _ => True) → Triple (m >>= f) s Q fun _ _ => True := by
      intro α β m f s Q hf
      exact Within.then (R := fun _ _ => True) (fun _ => trivial) (fun _ _ _ => trivial) fun a s' _ => hf a s'
    unfold AccessController.start
    refine Triple.get_bind ?_
    rw [hinit]
    have hask : Triple (AccessController.ask (c.access.relay.setup "BCM" c.access.gpioChannel)
        (.setup "BCM" c.access.gpioChannel)) s (fun _ s' => s'.world.relay.channel.isSome)
        (fun _ _ => True) := by
      have hset := setup_sets env.gpio "BCM" c.access.gpioChannel s.world
      rw [hc.relay]
      change Triple ((RaspberryPiRelay.relay env.gpio).setup "BCM" c.access.gpioChannel) s.world
        (fun _ s' => s'.relay.channel.isSome) (fun _ _ => True) at hset
      unfold Triple at hset
      unfold Triple AccessController.ask
      rw [run_of]
      generalize ((RaspberryPiRelay.relay env.gpio).setup "BCM" c.access.gpioChannel).run s.world = result at hset ⊢
      obtain ⟨answer | ⟨⟨⟩⟩, w⟩ := result
      · trivial
      · exact hset
    refine Triple.bind (Triple.mono (Triple.attempt hask) (fun _ _ h => h) fun _ _ _ => trivial) ?_
    rintro (e | ⟨⟨⟩⟩) s₁ h₁
    · exact hraises _ fun _ _ => hraises _ fun _ _ => trivial
    · have hset : s₁.world.relay.channel.isSome := h₁
      refine ((AccessController.drive_within hlow).attempt _).then (fun _ _ _ => trivial) ?_
      rintro (e | ⟨⟨⟩⟩) s₂ h₂
      · exact hraises _ fun _ _ => hraises _ fun _ _ => trivial
      · have hlast : Within (AccessController.OnWorld (Steps AnyCall)) (do
            AccessController.enter .ready
            AccessController.audit c.access .serviceStarted .info []) :=
          Within.bind (AccessController.enter_within _) fun _ =>
            AccessController.audit_within hports.access _ _ _
        exact Triple.mono (hlast.ends s₂) (fun _ _ h => h.channel (h₂.channel hset)) fun _ _ _ => trivial
  have hcall : Triple (AccessController.call c.access .start) s.system
      (fun _ t => t.world.relay.channel.isSome) (fun _ _ => True) :=
    Triple.modify_bind (Triple.map (hcontroller hinit))
  have haccess : Triple (BridgewireRuntime.access c .start) s
      (fun _ s' => s'.system.world.relay.channel.isSome) (fun _ _ => True) :=
    Triple.map (Triple.zoom (p := BridgewireRuntime.systemPart (Pins W)) hcall)
  refine Triple.bind haccess fun _ s₁ h₁ => ?_
  have hframe := frames_attends (W := W) AnyCall
  have hlast : Within (Attends AnyCall) (do
      BridgewireRuntime.reportHealth c "degraded" [("reason", .text "reader_connecting")]
      BridgewireRuntime.publishSnapshot c) :=
    Within.bind (BridgewireRuntime.reportHealth_within hframe.toReports hports _ _) fun _ =>
      BridgewireRuntime.publishSnapshot_within hframe.toPublishes hports
  exact Triple.mono (hlast.ends s₁) (fun _ _ h => h.pins.channel h₁) fun _ _ _ => trivial

/-- From the start on the relay is set up. -/
theorem operate_ends (rounds : Nat) {s : HardwareService W}
    (hinit : s.runtime.system.controller.state = .initializing) :
    Triple (operate env config c rounds) s
      (fun _ s' => Serves AnyCall s s' ∧ s'.runtime.system.world.relay.channel.isSome)
      (fun _ s' => Serves AnyCall s s') := by
  have hframe := frames_attends (W := W) AnyCall
  have hports : c.Keeps (Steps AnyCall) := hc.keeps AnyCall
  have hstart := BridgewireRuntime.start_within hframe.toReports hports
    ((anyCall_attends hc .start).map fun _ => ())
  have hround := BridgewireRuntime.runOnce_within (fun operation _ => anyCall_attends hc operation)
    hframe hports
  have hrun : ∀ onIteration : Program W Unit, Within (Serves AnyCall) onIteration →
      Within (Serves AnyCall) (BridgewireRuntime.run c (runtimePart W) (announce env config c) onIteration rounds) :=
    fun _ h => BridgewireRuntime.run_within (onRuntime_serves hround) (announce_within frames_serves (reportHealth_serves hc)) h rounds
  have hlater : Within (Serves AnyCall) (do
      if config.api.enabled then startApi env config c
      else onRuntime (BridgewireRuntime.reportHealth c "degraded"
        [("reason", .text "reader_connecting"), ("api", .api false "disabled")])
      BridgewireRuntime.run c (runtimePart W) (announce env config c)
        (if config.api.enabled then observeApi env config c else pure ()) rounds) := by
    split
    · exact Within.bind (startApi_within frames_serves (reportHealth_serves hc)) fun _ => hrun _ (observeApi_within frames_serves (reportHealth_serves hc))
    · exact Within.bind (reportHealth_serves hc _ _) fun _ => hrun _ (within_pure _)
  have hset : Triple (onRuntime (BridgewireRuntime.start c)) s
      (fun _ s' => s'.runtime.system.world.relay.channel.isSome) (fun _ _ => True) :=
    Triple.zoom (p := runtimePart W) (start_sets hc hinit)
  refine Triple.bind (Triple.mono ((onRuntime_serves hstart).and hset) (fun _ _ h => h)
    fun _ _ h => h.1) fun _ s₁ h₁ => ?_
  refine Triple.mono (hlater.ends s₁) ?_ ?_
  · intro _ s₂ h₂
    exact ⟨trans_of (Serves AnyCall) h₁.1 h₂, h₂.runtime.pins.channel h₁.2⟩
  · intro _ s₂ h₂
    exact trans_of (Serves AnyCall) h₁.1 h₂

end

/-- Before a wiring there is a relay that is not set up; then there is one
that no shutdown has been completed with. -/
structure Unwired {W : Type} (s : HardwareService W) : Prop where
  wiring : s.wiring = none
  relay : s.runtime.system.world.relay.channel = none
  tidy : Tidy s.runtime.system.world

structure Operates {W : Type} (env : Environment W) (c : BridgewireRuntime.Wiring (Pins W))
    (s : HardwareService W) : Prop where
  wiring : s.wiring = some c
  wired : Wired env c
  hasRelay : s.hasRelay = true
  tidy : Tidy s.runtime.system.world
  complete : s.runtime.shutdownComplete = false

theorem Operates.serves {W : Type} {env : Environment W} {c : BridgewireRuntime.Wiring (Pins W)}
    {allowed : GpioCall → Prop} {s s' : HardwareService W} (h : Operates env c s)
    (hs : Serves allowed s s') : Operates env c s' :=
  ⟨hs.wiring.trans h.wiring, h.wired, hs.hasRelay.trans h.hasRelay, hs.runtime.pins.tidy h.tidy,
    hs.runtime.complete.trans h.complete⟩

section
variable {W : Type} (env : Environment W) (config : SystemConfiguration)

theorem Unwired.ask {α : Type} {s : HardwareService W} (h : Unwired s) (port : Port W α) :
    Ends (ask port) s fun _ s' => Unwired s' ∧ s'.hasRelay = s.hasRelay :=
  ends_iff.mpr ⟨⟨h.wiring, h.relay, ⟨h.tidy.channel, h.tidy.closed⟩⟩, rfl⟩

/-- What `assemble` leaves when it returns. -/
structure Assembled (env : Environment W) (c : BridgewireRuntime.Wiring (Pins W))
    (s : HardwareService W) : Prop extends Operates env c s where
  state : s.runtime.system.controller.state = .initializing

theorem Assembled.ask {α : Type} {c : BridgewireRuntime.Wiring (Pins W)} {s : HardwareService W}
    (h : Assembled env c s) (port : Port W α) :
    Ends (HardwareService.ask port) s fun _ s' => Assembled env c s' :=
  ends_iff.mpr ⟨⟨h.wiring, h.wired, h.hasRelay, ⟨h.tidy.channel, h.tidy.closed⟩, h.complete⟩, h.state⟩

theorem assemble_ends {s : HardwareService W} (hs : Unwired s) :
    Triple (assemble env config) s (fun c s' => Assembled env c s')
      (fun _ s' => Unwired s' ∨ ∃ c, Operates env c s') := by
  have hask : ∀ {α β : Type} (port : Port W α) {f : α → Program W β} {s : HardwareService W}
      {Q : β → HardwareService W → Prop}, Unwired s →
      (∀ a s', Unwired s' → s'.hasRelay = s.hasRelay →
        Triple (f a) s' Q fun _ s' => Unwired s' ∨ ∃ c, Operates env c s') →
      Triple (HardwareService.ask port >>= f) s Q fun _ s' => Unwired s' ∨ ∃ c, Operates env c s' := by
    intro α β port f s Q hs hf
    refine Triple.bind (Triple.mono (hs.ask port) (fun _ _ h => h) fun _ _ h => .inl h.1) ?_
    exact fun a s' h => hf a s' h.1 h.2
  unfold assemble
  refine hask _ hs fun _ s₁ h₁ _ => Triple.modify_bind ?_
  refine hask _ ⟨h₁.wiring, h₁.relay, h₁.tidy⟩ fun _ s₂ h₂ _ => ?_
  refine hask _ h₂ fun _ s₃ h₃ _ => hask _ h₃ fun _ s₄ h₄ _ => Triple.modify_bind ?_
  refine hask _ ⟨h₄.wiring, h₄.relay, h₄.tidy⟩ fun _ s₅ h₅ hrelay => ?_
  split
  · exact .inl h₅
  rename_i access controller hinit
  have hports : access.toPorts = accessPorts env := by
    unfold AccessController.init at hinit
    split at hinit
    · cases hinit
    · cases hinit
      rfl
  refine Triple.modify_bind ?_
  have hassembled : Assembled env (wire env config access)
      { s₅ with
        wiring := some (wire env config access)
        runtime := .fresh (wire env config access) { policy := config.escalation } s₅.runtime.system.world } :=
    ⟨⟨rfl, wired hports, hrelay, h₅.tidy, rfl⟩, rfl⟩
  split
  · exact hassembled
  · refine Triple.bind (Triple.mono (hassembled.ask env _) (fun _ _ h => h)
      fun _ _ h => .inr ⟨_, h.toOperates⟩) fun _ s₆ h₆ => ?_
    refine Triple.bind (Triple.mono (h₆.ask env _) (fun _ _ h => h)
      fun _ _ h => .inr ⟨_, h.toOperates⟩) fun _ s₇ h₇ => ?_
    exact h₇

/-- The whole `try`: when it returns, the relay is set up. -/
theorem body_ends (rounds : Nat) {s : HardwareService W} (hs : Unwired s) :
    Triple (body env config rounds) s
      (fun _ s' => s'.runtime.system.world.relay.channel.isSome ∧ ∃ c, Operates env c s')
      (fun _ s' => Unwired s' ∨ ∃ c, Operates env c s') := by
  refine Triple.bind (assemble_ends env config hs) fun c s₁ h₁ => ?_
  refine Triple.mono (operate_ends h₁.wired config rounds h₁.state) ?_ ?_
  · rintro _ s₂ ⟨hserves, hset⟩
    exact ⟨hset, c, h₁.toOperates.serves hserves⟩
  · intro _ s₂ hserves
    exact .inr ⟨c, h₁.toOperates.serves hserves⟩

end

-- ---------------------------------------------------------------------------
-- `finally`
-- ---------------------------------------------------------------------------

abbrev NoHigh (call : GpioCall) : Prop := ¬call.IsHigh

/-- The last two calls are a LOW and a cleanup. -/
def LastCalls (calls : List GpioCall) (low clean : Except Exn Unit) : Prop :=
  ∃ front, calls = front ++ [GpioCall.output 23 false low, .cleanup 23 clean]

section
variable {W : Type} {env : Environment W}

/-- The cleanup of the host, whatever the shutdown left. -/
theorem cleanup_lastCalls (gpio : Gpio W) {s : Pins W} (htidy : Tidy s) (hset : s.relay.channel.isSome) :
    ∃ low clean, LastCalls ((RaspberryPiRelay.cleanup gpio).run s).2.calls low clean ∧
      (((RaspberryPiRelay.cleanup gpio).run s).1 = .ok () → clean = .ok ()) := by
  rcases RaspberryPiRelay.open_or_closed s with ⟨channel, hopen⟩ | hclosed
  · obtain ⟨low, clean, hcalls, -, hreturned⟩ := RaspberryPiRelay.cleanup_open gpio hopen
    obtain rfl := htidy.channel channel (by rw [hopen])
    exact ⟨low, clean, ⟨s.calls, hcalls⟩, fun h => (hreturned h).2⟩
  · rw [RaspberryPiRelay.cleanup_closed gpio hclosed]
    rcases hclosed with hnone | hclosed
    · rw [hnone] at hset
      cases hset
    · obtain ⟨-, front, low, hcalls⟩ := htidy.closed hclosed
      exact ⟨low, .ok (), ⟨front, hcalls⟩, fun _ => rfl⟩

variable {c : BridgewireRuntime.Wiring (Pins W)}

theorem shutdown_onPins (hc : Wired env c) : Within (OnPins NoHigh) (BridgewireRuntime.shutdown c) := by
  refine BridgewireRuntime.shutdown_within (frames_onPins NoHigh) (hc.keeps NoHigh) ?_ ?_
    fun s => refl_of (OnPins NoHigh) s
  · refine (hc.call_onPins .tick (fun _ _ => id) ?_ ?_ ?_).map _
    · rintro ⟨record, ⟨⟩⟩
    · rintro ⟨⟩
    · rintro ⟨⟩
  · refine (hc.call_onPins .shutdown (fun _ _ => id) ?_ ?_ fun _ _ _ => id).map _
    · rintro ⟨record, ⟨⟩⟩
    · rintro ⟨⟩

/-- What the first half of `finally` does. -/
structure Secures (c : BridgewireRuntime.Wiring (Pins W)) (s s' : HardwareService W) : Prop where
  pins : Steps NoHigh s.runtime.system.world s'.runtime.system.world
  wiring : s'.wiring = s.wiring
  cleansUp : CleansUp c s.runtime s'.runtime
  failures : s.failures <+: s'.failures
  lastCalls : ∃ low clean, LastCalls s'.runtime.system.world.calls low clean ∧
    (s'.failures = [] → clean = .ok ())

theorem secure_ends {s : HardwareService W} (h : Operates env c s)
    (hset : s.runtime.system.world.relay.channel.isSome) :
    Triple (secure env) s (fun _ s' => Secures c s s') (fun _ _ => False) := by
  unfold secure
  refine Triple.get_bind ?_
  rw [h.wiring]
  have hshutdown : Ends (onRuntime (BridgewireRuntime.shutdown c)) s fun _ s' =>
      OnPins NoHigh s.runtime s'.runtime ∧ CleansUp c s.runtime s'.runtime ∧
        s' = { s with runtime := s'.runtime } := by
    obtain ⟨-, hcleans, -⟩ := ends_iff.mp (BridgewireRuntime.shutdown_ends (c := c) h.complete)
    exact ends_iff.mpr ⟨shutdown_onPins h.wired s.runtime, hcleans, rfl⟩
  refine Triple.bind (keepGoing_ends hshutdown) ?_
  rintro ⟨⟩ _ ⟨answer, s₁, ⟨hpins, hcleans, hsame⟩, rfl⟩
  refine Triple.get_bind ?_
  have hrelay : s₁.hasRelay = true := by
    rw [hsame]
    exact h.hasRelay
  have hfailures : s₁.failures = s.failures := by rw [hsame]
  dsimp only
  rw [if_pos hrelay]
  obtain ⟨low, clean, hlast, hreturned⟩ :=
    cleanup_lastCalls env.gpio (hpins.tidy h.tidy) (hpins.channel hset)
  have hsteps : Steps NoHigh s₁.runtime.system.world _ :=
    RaspberryPiRelay.cleanup_steps env.gpio (fun _ _ => id) (fun _ _ => id) s₁.runtime.system.world
  have hclean : Ends (zoom (pinsPart W) (RaspberryPiRelay.cleanup env.gpio))
      { s₁ with failures := s₁.failures ++ raisedIn answer } (fun outcome s₂ =>
        outcome = ((RaspberryPiRelay.cleanup env.gpio).run s₁.runtime.system.world).1 ∧
        s₂.runtime.system.world = ((RaspberryPiRelay.cleanup env.gpio).run s₁.runtime.system.world).2 ∧
        s₂.wiring = s₁.wiring ∧ CleansUp c s.runtime s₂.runtime ∧
        s₂.failures = s₁.failures ++ raisedIn answer) :=
    ends_iff.mpr ⟨rfl, rfl, rfl, hcleans.of_same rfl rfl rfl, rfl⟩
  refine Triple.mono (keepGoing_ends hclean) ?_ fun _ _ => id
  rintro ⟨⟩ _ ⟨last, s₂, ⟨hlast', hpins₂, hwiring₂, hcleans₂, hfailures₂⟩, rfl⟩
  refine ⟨?_, ?_, hcleans₂.of_same rfl rfl rfl, ?_, low, clean, ?_, ?_⟩
  · exact trans_of (Steps NoHigh) hpins (hpins₂ ▸ hsteps)
  · rw [hsame] at hwiring₂
    exact hwiring₂
  · exact ⟨raisedIn answer ++ raisedIn last, by simp [hfailures₂, hfailures]⟩
  · exact hpins₂ ▸ hlast
  · intro hnone
    refine hreturned ?_
    rw [← hlast']
    cases last with
    | ok => rfl
    | error e => simp [raisedIn] at hnone

-- ---------------------------------------------------------------------------
-- Runs of the host
-- ---------------------------------------------------------------------------

theorem enter_unwired {outside : W} {config : SystemConfiguration} {s : HardwareService W}
    (h : (enter env).run (fresh outside) = (.ok config, s)) : Unwired s := by
  have hfresh : Unwired (fresh outside) := by
    refine ⟨rfl, rfl, ?_, ?_⟩
    · rintro _ ⟨⟩
    · rintro ⟨⟩
  have hends : Triple (enter env) (fresh outside) (fun _ s' => Unwired s') (fun _ _ => True) := by
    unfold enter
    refine Triple.bind (Triple.mono (hfresh.ask _) (fun _ _ h => h.1) fun _ _ _ => trivial) fun config s₁ h₁ => ?_
    dsimp only
    split
    · trivial
    · refine Triple.bind (Triple.mono (h₁.ask _) (fun _ _ h => h.1) fun _ _ _ => trivial) fun _ s₂ h₂ => ?_
      exact ⟨h₂.wiring, h₂.relay, h₂.tidy⟩
  rw [Triple, h] at hends
  exact hends

/-- The `except`: nothing if the `try` returned. -/
def except (answer : Except Exn Unit) : Program W Unit :=
  match answer with
  | .ok () => pure ()
  | .error e => handle e

/-- What the `try` and the `except` leave to the `finally`. -/
def handled (env : Environment W) (config : SystemConfiguration) (rounds : Nat) (s : HardwareService W) :
    HardwareService W :=
  let tried := (body env config rounds).run s
  ((except tried.1).run tried.2).2

/-- After the `try` comes the `except`, if it raised, and the `finally`. -/
theorem serve_run (env : Environment W) (config : SystemConfiguration) (rounds : Nat)
    (s : HardwareService W) :
    let tried := (body env config rounds).run s
    (serve env config rounds).run s = (except tried.1 >>= fun _ => secure env).run tried.2 := by
  intro tried
  unfold serve
  rw [run_bind, run_attempt_all]
  show _ = (except ((body env config rounds).run s).1 >>= fun _ => secure env).run ((body env config rounds).run s).2
  cases ((body env config rounds).run s).1 <;> rfl

section
variable (config : SystemConfiguration) (rounds : Nat) {s : HardwareService W} (h : Unwired s)
include h

/-- A relay that is set up has its runtime. -/
theorem body_operates (hset : ((body env config rounds).run s).2.runtime.system.world.relay.channel.isSome) :
    ∃ c, Operates env c ((body env config rounds).run s).2 := by
  have hends : Ends (body env config rounds) s fun _ s' => Unwired s' ∨ ∃ c, Operates env c s' :=
    Triple.mono (body_ends env config rounds h) (fun _ _ h => .inr h.2) fun _ _ h => h
  rcases ends_iff.mp hends with hunwired | hoperates
  · rw [hunwired.relay] at hset
    cases hset
  · exact hoperates

/-- From the end of the `try` on. -/
theorem serve_ends (hset : ((body env config rounds).run s).2.runtime.system.world.relay.channel.isSome) :
    let tried := (body env config rounds).run s
    let s₁ := handled env config rounds s
    ∃ c, s₁.wiring = some c ∧ Wired env c ∧ Serves NoHigh tried.2 s₁ ∧ (tried.1 = .ok () ∨ s₁.failures ≠ []) ∧
      Triple (serve env config rounds) s (fun _ s' => Secures c s₁ s') (fun _ _ => False) := by
  intro tried s₁
  obtain ⟨c, hoperates⟩ := body_operates config rounds h hset
  have hexcept : Triple (except tried.1) tried.2
      (fun _ s' => Serves NoHigh tried.2 s' ∧ (tried.1 = .ok () ∨ s'.failures ≠ [])) (fun _ _ => False) := by
    cases tried.1 with
    | error e =>
      exact Triple.mono (handle_ends hoperates.wired (fun _ _ => id) e hoperates.wiring)
        (fun _ _ h => ⟨h.1, .inr h.2⟩) fun _ _ => id
    | ok => exact ⟨refl_of (Serves NoHigh) tried.2, .inl rfl⟩
  obtain ⟨_, hrun, hserves, hfailed⟩ := hexcept.returns
  have hserve : (serve env config rounds).run s = (secure env).run s₁ := by
    rw [serve_run, run_bind, hrun]
    rfl
  refine ⟨c, hserves.wiring.trans hoperates.wiring, hoperates.wired, hserves, hfailed, ?_⟩
  rw [Triple, hserve]
  exact secure_ends (hoperates.serves hserves) (hserves.runtime.pins.channel hset)

end

/-- What a run does once its `try` has begun. -/
theorem run_of_entered {outside : W} {rounds : Nat} {config : SystemConfiguration}
    {before : HardwareService W} (hentered : (enter env).run (fresh outside) = (.ok config, before)) :
    (runHardwareService env rounds).run (fresh outside) =
      (do serve env config rounds; close env config; result : Program W Int).run before := by
  rw [runHardwareService, run_bind, hentered]

theorem result_ends {R : HardwareService W → Prop} {s : HardwareService W} (h : R s) :
    Ends result s fun outcome final => R final ∧ (outcome = .ok 0 → final.failures = []) := by
  unfold result
  refine Triple.get_bind ?_
  split
  · rename_i hnone
    exact ⟨h, fun _ => hnone⟩
  · exact ⟨h, fun hok => nomatch hok⟩
  · exact ⟨h, fun hok => nomatch hok⟩

/-- The end of a run, from the state that the first half of `finally` leaves. -/
theorem final_serves {c : BridgewireRuntime.Wiring (Pins W)} (hc : Wired env c) {outside : W}
    {rounds : Nat} {config : SystemConfiguration} {before secured : HardwareService W}
    (hentered : (enter env).run (fresh outside) = (.ok config, before))
    (hserved : (serve env config rounds).run before = (.ok (), secured))
    (hwiring : secured.wiring = some c) :
    Ends (runHardwareService env rounds) (fresh outside) (fun outcome final =>
      Serves (fun _ => False) secured final ∧ (outcome = .ok 0 → final.failures = [])) := by
  have hclose : Ends (close env config) secured fun _ final => Serves (fun _ => False) secured final := by
    refine close_ends frames_serves fun c' hc' => ?_
    obtain rfl : c = c' := Option.some.inj (hwiring.symm.trans hc')
    exact reportHealth_serves hc
  have hlast : Ends (do close env config; result : Program W Int) secured (fun outcome final =>
      Serves (fun _ => False) secured final ∧ (outcome = .ok 0 → final.failures = [])) := by
    refine Triple.bind (Triple.mono hclose (fun _ _ h => h) ?_) ?_
    · exact fun _ _ h => ⟨h, fun hok => nomatch hok⟩
    · exact fun _ s₁ h₁ => result_ends h₁
  rw [ends_iff, run_of_entered hentered, run_bind, hserved]
  exact ends_iff.mp hlast

/-- A relay that was set up is secured: after the `try` no HIGH is commanded,
the last calls are a LOW and a cleanup, and the controller's shutdown, the close
of the reader and the report are attempted in this order. What is closed later
calls no relay. -/
theorem exits_secured (env : Environment W) (rounds : Nat) {outside : W} {config : SystemConfiguration}
    {before : HardwareService W} (hentered : (enter env).run (fresh outside) = (.ok config, before))
    (hset : ((body env config rounds).run before).2.runtime.system.world.relay.channel.isSome) :
    let tried := ((body env config rounds).run before).2.runtime
    let secured := ((serve env config rounds).run before).2.runtime
    let final := ((runHardwareService env rounds).run (fresh outside)).2.runtime
    (∃ seen, secured.system.world.calls = tried.system.world.calls ++ seen ∧ ∀ call ∈ seen, ¬call.IsHigh) ∧
      (∃ front low clean,
        secured.system.world.calls = front ++ [.output 23 false low, .cleanup 23 clean]) ∧
      (∃ c, (handled env config rounds before).wiring = some c ∧
        CleansUp c (handled env config rounds before).runtime secured) ∧
      final.system.world.calls = secured.system.world.calls := by
  intro tried secured final
  have hbefore := enter_unwired hentered
  obtain ⟨c, hwiring, hwired, hserves, -, hends⟩ := serve_ends config rounds hbefore hset
  obtain ⟨_, hserved, hsecures⟩ := hends.returns
  have hfinal := ends_iff.mp (final_serves hwired hentered hserved (hsecures.wiring.trans hwiring))
  obtain ⟨seen, hseen, hcalls⟩ := (trans_of (Steps NoHigh) hserves.runtime.pins hsecures.pins).grows
  obtain ⟨low, clean, ⟨front, hlast⟩, -⟩ := hsecures.lastCalls
  refine ⟨⟨seen, hcalls, hseen⟩, ⟨front, low, clean, hlast⟩, ⟨c, hwiring, hsecures.cleansUp⟩, ?_⟩
  obtain ⟨added, hadded, hsame⟩ := hfinal.1.runtime.pins.grows
  obtain rfl : added = [] := List.eq_nil_iff_forall_not_mem.mpr hadded
  rw [hsame, List.append_nil]

end

-- ---------------------------------------------------------------------------
-- A bench
-- ---------------------------------------------------------------------------

def benchConfiguration : SystemConfiguration where
  readerIdentity := .byId "/dev/serial/by-id/reader"
  serial := ⟨9600, 8, "N", 1, 1, 16⟩
  gpio := ⟨"BCM", 23, false, true, 3⟩
  backoff := .unjittered
  escalation := .standard
  relay := ⟨"raspberry_pi"⟩
  api := {}

/-- The world counts the outputs; the pin rejects some of them, and nothing
else fails. -/
def bench (rejects : Nat → Bool) : Environment Nat where
  loadConfiguration := pure benchConfiguration
  clock := ⟨fun w => (0, w), fun w => (⟨0, some 0⟩, w)⟩
  uuid4 := fun w => ("", w)
  openAudit := pure ()
  audit := ⟨fun _ => pure ()⟩
  closeAudit := pure ()
  loadSchema := pure ()
  reload := pure ()
  authorization := ⟨fun _ => pure .authorized⟩
  importGpio := pure ()
  gpio :=
    { setwarnings := fun _ => pure ()
      setmode := pure ()
      setup := fun _ => pure ()
      output := fun _ _ => Effect.of fun w =>
        (if rejects w then .error (.runtimeError "injected output failure") else .ok (), w + 1)
      cleanup := fun _ => pure () }
  openNotifications := pure ()
  notifications := ⟨fun _ => pure ()⟩
  enumerateDevices := pure []
  openReader := fun _ => pure none
  read := fun _ => pure []
  closeSession := fun _ => pure ()
  health := ⟨fun _ => pure ()⟩
  waiter := ⟨fun _ w => (⟨0, .ok false⟩, w)⟩
  installSignal := none
  buildApi := pure ()
  api := ⟨pure (), pure (), pure ⟨.running, []⟩⟩
  printReady := pure ()

/-- The host on a bench, before its `try`. -/
def benchBefore : HardwareService Nat := { fresh 0 with apiState := .stopped }

/-- There is a reader, whose session cannot be closed. -/
def benchReader (rejects : Nat → Bool) : Environment Nat :=
  { bench rejects with
    enumerateDevices := pure [⟨"/dev/ttyUSB0", some "/dev/serial/by-id/reader", none, none, none, none, none⟩]
    openReader := fun _ => pure (some ⟨3⟩)
    closeSession := fun _ => throw (.osError "injected close failure") }

/-- The LOW of the controller's shutdown is rejected, and the close of the
session that is open raises; the report and the host's own cleanup come after
them. -/
theorem exits_secured_bench :
    let s := handled (benchReader (· == 1)) benchConfiguration 2 benchBefore
    let secured := ((serve (benchReader (· == 1)) benchConfiguration 2).run benchBefore).2.runtime
    s.runtime.reader.session = some ⟨3⟩ ∧ secured.reader.session = some ⟨3⟩ ∧ secured.shutdownComplete = false ∧
      (∃ front low clean, secured.system.world.calls = front ++ [.output 23 false low, .cleanup 23 clean]) ∧
      ∃ c, s.wiring = some c ∧ CleansUp c s.runtime secured := by
  obtain ⟨-, hcalls, hcleans, -⟩ := exits_secured (benchReader (· == 1)) 2
    (show (enter (benchReader (· == 1))).run (fresh 0) = (.ok benchConfiguration, benchBefore) from rfl)
    (by decide +kernel)
  exact ⟨by decide +kernel, by decide +kernel, by decide +kernel, hcalls, hcleans⟩

end HardwareService

end Bridgewire
