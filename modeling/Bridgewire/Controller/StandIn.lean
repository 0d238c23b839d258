import Bridgewire.Controller.Alarms
import Bridgewire.Controller.Replay
import Bridgewire.Controller.World
import Bridgewire.Gpio.Simulated

/-!
# A controller over each of the two relays

The same collaborators, the same operations, and one controller over
`RaspberryPiRelay` beside one over `SimulatedRelay`: while no call of the GPIO
library raises the two go through the same states, up to a cleanup of the
relay that no shutdown precedes.
-/

namespace Bridgewire

/-- What a controller stands in: its relay, its source of ids, and the rest. -/
structure Site (R I W : Type) where
  relay : R
  ids : I
  outside : W

namespace Site

variable (R I W : Type)

def relayPart : Component (Site R I W) R where
  get s := s.relay
  set relay s := { s with relay }
  get_set _ _ := rfl
  set_get _ := rfl
  set_set _ _ _ := rfl

def outer : Component (Site R I W) W where
  get s := s.outside
  set outside s := { s with outside }
  get_set _ _ := rfl
  set_get _ := rfl
  set_set _ _ _ := rfl

end Site

namespace AccessController

open Effect

/-- The collaborators that the two controllers share. -/
structure Collaborators (W : Type) where
  authorization : AuthorizationSource W
  audit : AuditSink W
  notifications : NotificationQueue W
  clock : Clock W

section
variable {R I W : Type}

/-- A controller over a relay on channel 23. Ids come from a source of its
own, and what becomes of an event does not depend on its id. -/
def Collaborators.wired (o : Collaborators W) (relay : Relay R) (uuid4 : I → String × I)
    (releaseSeconds : ℚ) (releaseSeconds_pos : 0 < releaseSeconds) : Wiring (Site R I W) where
  authorization := ⟨fun credential => zoom (Site.outer R I W) (o.authorization.classify credential)⟩
  relay :=
    { setup numbering channel := zoom (Site.relayPart R I W) (relay.setup numbering channel)
      command high := zoom (Site.relayPart R I W) (relay.command high)
      cleanup := zoom (Site.relayPart R I W) relay.cleanup }
  audit := ⟨fun event => zoom (Site.outer R I W) (o.audit.append event.blind)⟩
  notifications := ⟨fun event => zoom (Site.outer R I W) (o.notifications.enqueue event.blind)⟩
  clock :=
    { monotonic w := ((o.clock.monotonic w.outside).1,
        { w with outside := (o.clock.monotonic w.outside).2 })
      now w := ((o.clock.now w.outside).1, { w with outside := (o.clock.now w.outside).2 }) }
  uuid4 w := ((uuid4 w.ids).1, { w with ids := (uuid4 w.ids).2 })
  releaseSeconds
  gpioChannel := 23
  releaseSeconds_pos

/-- A line without the id of its event. -/
def Occurrence.unnamed : Occurrence → Occurrence
  | .appended event answer => .appended event.blind answer
  | .enqueued event answer => .enqueued event.blind answer
  | line => line

end

/-- The two controllers to be compared. -/
structure Comparison (G I K J W : Type) where
  collaborators : Collaborators W
  gpio : Gpio G
  uuid4 : I → String × I
  /-- The clock of the simulated relay. -/
  relayClock : Clock K
  simulatedUuid4 : J → String × J
  releaseSeconds : ℚ
  releaseSeconds_pos : 0 < releaseSeconds

namespace Comparison

variable {G I K J W : Type}

def physical (d : Comparison G I K J W) : Wiring (Site (Pins G) I W) :=
  d.collaborators.wired (RaspberryPiRelay.relay d.gpio) d.uuid4 d.releaseSeconds d.releaseSeconds_pos

def simulated (d : Comparison G I K J W) : Wiring (Site (Bench K) J W) :=
  d.collaborators.wired (SimulatedRelay.relay d.relayClock) d.simulatedUuid4 d.releaseSeconds
    d.releaseSeconds_pos

end Comparison

-- ---------------------------------------------------------------------------
-- Two systems that mirror each other
-- ---------------------------------------------------------------------------

section
variable {G I K J W : Type}

/-- The same controller, the same surroundings, the same trace but for ids;
and `P` of the state and the two relays. -/
structure Mirrors (P : ControllerState → Pins G → Bench K → Prop)
    (s : System (Site (Pins G) I W)) (t : System (Site (Bench K) J W)) : Prop where
  controller : s.controller = t.controller
  outside : s.world.outside = t.world.outside
  trace : s.trace.map Occurrence.unnamed = t.trace.map Occurrence.unnamed
  relay : P s.controller.state s.world.relay t.world.relay

theorem Mirrors.mono {P Q : ControllerState → Pins G → Bench K → Prop}
    {s : System (Site (Pins G) I W)} {t : System (Site (Bench K) J W)} (h : Mirrors P s t)
    (hpq : ∀ state p b, P state p b → Q state p b) : Mirrors Q s t :=
  ⟨h.controller, h.outside, h.trace, hpq _ _ _ h.relay⟩

/-- A call of the GPIO library has raised. -/
def GpioFailed (s : System (Site (Pins G) I W)) : Prop := s.world.relay.Failed

variable {P Q E : ControllerState → Pins G → Bench K → Prop}

theorem ask_relay {port : Port (Pins G) Unit} {port' : Port (Bench K) Unit}
    (note : Except Exn Unit → Occurrence)
    (h : ∀ state, Pairs Pins.Failed (P state) port port' (Same (Q state)) (E state)) :
    Pairs GpioFailed (Mirrors P) (ask (zoom (Site.relayPart (Pins G) I W) port) note)
      (ask (zoom (Site.relayPart (Bench K) J W) port') note) (Same (Mirrors Q)) (Mirrors E) := by
  refine ⟨fun s hlost => (h s.controller.state).stays _ hlost, fun s t hrel => ?_⟩
  obtain ⟨hcontroller, houtside, htrace, hrelay⟩ := hrel
  have hboth := (h s.controller.state).both _ _ hrelay
  unfold Both at hboth ⊢
  simp only [ask, run_of, run_zoom, Site.relayPart, GpioFailed]
  generalize port.run s.world.relay = outcome at hboth ⊢
  generalize port'.run t.world.relay = outcome' at hboth ⊢
  obtain ⟨answer, p⟩ := outcome
  obtain ⟨answer', b⟩ := outcome'
  refine hboth.imp id fun hmatch => ?_
  cases answer with
  | ok =>
    cases answer' with
    | ok => exact ⟨rfl, hcontroller, houtside, by simp [htrace], hmatch.2⟩
    | error => exact hmatch.elim
  | error =>
    cases answer' with
    | ok => exact hmatch.elim
    | error => exact ⟨hmatch.1, hcontroller, houtside, by simp [htrace, hmatch.1], hmatch.2⟩

theorem ask_outside {α : Type} (port : Port W α) {note note' : Except Exn α → Occurrence}
    (hnote : ∀ answer, (note answer).unnamed = (note' answer).unnamed) :
    Pairs GpioFailed (Mirrors P) (ask (zoom (Site.outer (Pins G) I W) port) note)
      (ask (zoom (Site.outer (Bench K) J W) port) note') (Same (Mirrors P)) (Mirrors P) := by
  refine ⟨fun s hlost => hlost, fun s t hrel => .inr ?_⟩
  obtain ⟨hcontroller, houtside, htrace, hrelay⟩ := hrel
  simp only [ask, run_of, run_zoom, Site.outer, houtside]
  generalize port.run t.world.outside = outcome
  obtain ⟨answer, w⟩ := outcome
  cases answer with
  | ok => exact ⟨rfl, hcontroller, rfl, by simp [htrace, hnote], hrelay⟩
  | error => exact ⟨rfl, hcontroller, rfl, by simp [htrace, hnote], hrelay⟩

/-- A reading of the clock that the two share. -/
theorem look_clock {α : Type} {S : System (Site (Pins G) I W) → System (Site (Bench K) J W) → Prop}
    (read : W → α × W) (note : α → Occurrence) :
    Pairs GpioFailed (Mirrors P)
      (look (fun w : Site (Pins G) I W => ((read w.outside).1, { w with outside := (read w.outside).2 })) note)
      (look (fun w : Site (Bench K) J W => ((read w.outside).1, { w with outside := (read w.outside).2 })) note)
      (Same (Mirrors P)) S := by
  refine pairs_reading (fun s hlost => hlost) fun s t hrel => ?_
  obtain ⟨hcontroller, houtside, htrace, hrelay⟩ := hrel
  simp only [houtside]
  exact ⟨rfl, hcontroller, rfl, by simp [htrace], hrelay⟩

theorem assign_pairs {S : System (Site (Pins G) I W) → System (Site (Bench K) J W) → Prop}
    {change : AccessController → AccessController} (hstate : ∀ a, (change a).state = a.state) :
    Pairs GpioFailed (Mirrors P) (assign change : Program (Site (Pins G) I W) Unit)
      (assign change : Program (Site (Bench K) J W) Unit) (Same (Mirrors P)) S := by
  refine pairs_modify (fun s hlost => hlost) fun s t hrel => ?_
  obtain ⟨hcontroller, houtside, htrace, hrelay⟩ := hrel
  exact ⟨rfl, by rw [hcontroller], houtside, htrace, by rw [hstate]; exact hrelay⟩

theorem enter_pairs {S : System (Site (Pins G) I W) → System (Site (Bench K) J W) → Prop}
    (state : ControllerState) (h : ∀ before p b, P before p b → Q state p b) :
    Pairs GpioFailed (Mirrors P) (enter state : Program (Site (Pins G) I W) Unit)
      (enter state : Program (Site (Bench K) J W) Unit) (Same (Mirrors Q)) S := by
  refine pairs_modify (fun s hlost => hlost) fun s t hrel => ?_
  obtain ⟨hcontroller, houtside, htrace, hrelay⟩ := hrel
  exact ⟨rfl, by rw [hcontroller], houtside, by simp [htrace], h _ _ _ hrelay⟩

end

-- ---------------------------------------------------------------------------
-- Operation by operation
-- ---------------------------------------------------------------------------

section
variable {G I K J W : Type}

/-- What a running controller and its relay have to do with each other. -/
structure Live (state : ControllerState) (p : Pins G) (b : Bench K) : Prop extends StandsOpen p b where
  running : state ≠ .stopped
  released : b.relay.isHigh = true ↔ state = .released

/-- The door is secured, and the relay not cleaned up. -/
structure Dark (state : ControllerState) (p : Pins G) (b : Bench K) : Prop extends StandsOpen p b where
  low : b.relay.isHigh = false
  running : state ≠ .stopped
  unreleased : state ≠ .released

theorem Dark.live {state : ControllerState} {p : Pins G} {b : Bench K} (h : Dark state p b) :
    Live state p b :=
  ⟨h.toStandsOpen, h.running, by simp [h.low, h.unreleased]⟩

theorem Live.dark {state : ControllerState} {p : Pins G} {b : Bench K} (h : Live state p b)
    (hstate : state ≠ .released) : Dark state p b :=
  ⟨h.toStandsOpen, by simpa [hstate] using h.released, h.running, hstate⟩

variable (d : Comparison G I K J W)

/-- The GPIO calls go on record, whatever the operation. -/
def OnPins (w w' : Site (Pins G) I W) : Prop := RaspberryPiRelay.Steps (fun _ => True) w.relay w'.relay

instance : IsPreorder (Site (Pins G) I W) OnPins where
  refl w := refl_of (RaspberryPiRelay.Steps fun _ => True) w.relay
  trans _ _ _ := trans_of (RaspberryPiRelay.Steps fun _ => True)

theorem stays_of_onPins {α : Type} {m : Program (Site (Pins G) I W) α} (h : Within (OnWorld OnPins) m) :
    Within (fun s s' => GpioFailed s → GpioFailed s') m := by
  rintro s ⟨call, hcall, hanswer⟩
  obtain ⟨seen, -, hcalls⟩ := (h s).grows
  exact ⟨call, by rw [hcalls]; exact List.mem_append_left seen hcall, hanswer⟩

theorem outer_onPins {α : Type} (port : Port W α) :
    Within OnPins (zoom (Site.outer (Pins G) I W) port) :=
  fun w => refl_of (RaspberryPiRelay.Steps fun _ => True) w.relay

theorem physical_keeps : d.physical.Keeps OnPins where
  classify credential := outer_onPins (d.collaborators.authorization.classify credential)
  append event := outer_onPins (d.collaborators.audit.append event.blind)
  enqueue event := outer_onPins (d.collaborators.notifications.enqueue event.blind)
  monotonic w := refl_of (RaspberryPiRelay.Steps fun _ => True) w.relay
  now w := refl_of (RaspberryPiRelay.Steps fun _ => True) w.relay
  uuid4 w := refl_of (RaspberryPiRelay.Steps fun _ => True) w.relay

theorem command_onPins (high : Bool) : Within OnPins (d.physical.relay.command high) :=
  fun w => RaspberryPiRelay.command_steps d.gpio high (fun _ _ => trivial) w.relay

theorem setup_onPins : Within OnPins (d.physical.relay.setup "BCM" d.physical.gpioChannel) :=
  fun w => RaspberryPiRelay.setup_steps d.gpio "BCM" 23 (fun _ => trivial) (fun _ => trivial)
    (fun _ _ => trivial) w.relay

theorem cleanup_onPins : Within OnPins d.physical.relay.cleanup :=
  fun w => RaspberryPiRelay.cleanup_steps d.gpio (fun _ _ => trivial) (fun _ _ => trivial) w.relay

variable {P Q : ControllerState → Pins G → Bench K → Prop}

/-- Fields that differ in the id make events that differ in the id. -/
theorem construct_unnamed (fields : AuditFields) (eventId : String) :
    ({ fields with eventId } : AuditFields).construct.map AuditEvent.blind =
      fields.construct.map AuditEvent.blind := by
  rw [← construct_blind, ← construct_blind]

theorem newEvent_pairs (eventType : EventType) (severity : Severity) (correlation : Correlation) :
    Pairs GpioFailed (Mirrors P) (newEvent d.physical eventType severity correlation)
      (newEvent d.simulated eventType severity correlation)
      (fun event event' s t => event.blind = event'.blind ∧ Mirrors P s t) (Mirrors P) := by
  refine Pairs.bind_same (look_clock d.collaborators.clock.now .now) fun timestamp => ?_
  refine Pairs.get_bind (stays_of_onPins (Within.get_bind fun s => ?_)) fun s t hrel => ?_
  · refine Within.bind (glance_within (physical_keeps d).uuid4) fun eventId => ?_
    split
    · exact within_pure _
    · exact within_throw _
  rw [← hrel.controller]
  refine Pairs.bind_rel (V := fun _ _ => True) (S := Mirrors P)
    (pairs_reading (fun s hlost => hlost) ?_) (fun _ => ⟨"", trivial⟩) fun eventId eventId' _ => ?_
  · rintro _ _ ⟨rfl, rfl⟩
    exact ⟨trivial, hrel.controller, hrel.outside, hrel.trace, hrel.relay⟩
  have hsame := construct_unnamed
    { eventType, severity, timestamp, correlation, readerState := none,
      controllerState := some s.controller.state.value, deliveryStatus := none, eventId } eventId'
  split
  · rename_i event hevent
    rw [hevent] at hsame
    split
    · rename_i event' hevent'
      rw [hevent'] at hsame
      exact pairs_pure fun s t h => ⟨(Except.ok.inj hsame).symm, h⟩
    · rename_i e hevent'
      rw [hevent'] at hsame
      cases hsame
  · rename_i e hevent
    rw [hevent] at hsame
    split
    · rename_i event' hevent'
      rw [hevent'] at hsame
      cases hsame
    · rename_i e' hevent'
      rw [hevent'] at hsame
      cases hsame
      exact pairs_throw fun s t h => h

theorem append_pairs {event event' : AuditEvent} (hevent : event.blind = event'.blind) :
    Pairs GpioFailed (Mirrors P) (append d.physical event) (append d.simulated event')
      (Same (Mirrors P)) (Mirrors P) := by
  have hport : d.simulated.audit.append event' =
      zoom (Site.outer (Bench K) J W) (d.collaborators.audit.append event.blind) := by rw [hevent]; rfl
  unfold append
  rw [hport]
  exact ask_outside _ fun answer => congrArg (Occurrence.appended · answer) hevent

theorem enqueue_pairs {event event' : AuditEvent} (hevent : event.blind = event'.blind) :
    Pairs GpioFailed (Mirrors P) (ask (d.physical.notifications.enqueue event) (.enqueued event))
      (ask (d.simulated.notifications.enqueue event') (.enqueued event')) (Same (Mirrors P)) (Mirrors P) := by
  have hport : d.simulated.notifications.enqueue event' =
      zoom (Site.outer (Bench K) J W) (d.collaborators.notifications.enqueue event.blind) := by
    rw [hevent]; rfl
  rw [hport]
  exact ask_outside _ fun answer => congrArg (Occurrence.enqueued · answer) hevent

theorem audit_pairs (eventType : EventType) (severity : Severity) (correlation : Correlation) :
    Pairs GpioFailed (Mirrors P) (audit d.physical eventType severity correlation)
      (audit d.simulated eventType severity correlation) (Same (Mirrors P)) (Mirrors P) :=
  Pairs.bind_rel (newEvent_pairs d eventType severity correlation) (fun event => ⟨event, rfl⟩)
    fun _ _ hevent => append_pairs d hevent

theorem recordSuspicious_pairs :
    Pairs GpioFailed (Mirrors P) (recordSuspicious d.physical) (recordSuspicious d.simulated)
      (Same (Mirrors P)) (Mirrors P) := by
  refine Pairs.bind_same (look_clock d.collaborators.clock.monotonic .monotonic) fun timestamp => ?_
  refine Pairs.get_bind (stays_of_onPins (Within.get_bind fun s => ?_)) fun s t hrel => ?_
  · refine Within.bind (assign_within _) fun _ => ?_
    split
    · exact within_pure _
    · exact audit_within (physical_keeps d) _ _ _
    · refine Within.bind (newEvent_within (physical_keeps d) _ _ _) fun event => ?_
      refine Within.bind (ask_within ((physical_keeps d).append event) _) fun _ => ?_
      refine Within.bind ((ask_within ((physical_keeps d).enqueue event) _).attempt _) ?_
      rintro (e | ⟨⟨⟩⟩)
      · exact audit_within (physical_keeps d) _ _ _
      · exact within_pure _
  rw [← hrel.controller]
  generalize s.controller.escalation.record timestamp = recorded
  refine Pairs.pre (R := Mirrors P) ?_ (by rintro _ _ ⟨rfl, rfl⟩; exact hrel)
  refine Pairs.bind_same (assign_pairs fun a => rfl) fun _ => ?_
  split
  · exact pairs_pure fun s t h => ⟨rfl, h⟩
  · exact audit_pairs d _ _ _
  · refine Pairs.bind_rel (newEvent_pairs d _ _ _) (fun event => ⟨event, rfl⟩) fun event event' hevent => ?_
    refine Pairs.bind_same (append_pairs d hevent) fun _ => ?_
    refine Pairs.attempt_bind (enqueue_pairs d hevent) (fun s t h => h) (fun _ => ?_) fun e => ?_
    · exact pairs_pure fun s t h => ⟨rfl, h⟩
    · exact audit_pairs d _ _ _

/-- What a command leaves: its level on both pins, or nothing changed if
neither relay has been set up. -/
theorem drive_pairs (high : Bool) {S : ControllerState → Prop}
    (hp : ∀ state p b, P state p b → S state ∧ StandsOpen p b) :
    Pairs GpioFailed (Mirrors P) (drive d.physical high) (drive d.simulated high)
      (Same (Mirrors fun state p b => S state ∧ StandsOpen p b ∧ p.relay.channel = some 23 ∧
        b.relay.isHigh = high))
      (Mirrors fun state p b => P state p b ∧ p.relay.channel = none) := by
  refine Pairs.bind_same (ask_relay (.command high) fun state => ?_) fun _ => assign_pairs fun a => rfl
  have hcommand := StandsIn.command_pairs d.gpio d.relayClock high fun p b h => (hp state p b h).2
  refine ⟨hcommand.stays, fun p b hrel => (hcommand.both p b hrel).mono ?_ fun p b h => h⟩
  rintro _ _ p' b' ⟨rfl, hopen, hset, hhigh⟩
  exact ⟨rfl, (hp state p b hrel).1, hopen, hset, hhigh⟩

/-- After an attempt to secure the door, which reports whether a relay was there. -/
def SafeOrUnset (S : ControllerState → Prop) (safe : Bool) (state : ControllerState) (p : Pins G)
    (b : Bench K) : Prop :=
  S state ∧ StandsOpen p b ∧ p.relay.channel.isSome = safe ∧ b.relay.isHigh = false

theorem attemptSafeState_pairs {S : ControllerState → Prop}
    (hp : ∀ state p b, P state p b → S state ∧ StandsOpen p b) :
    Pairs GpioFailed (Mirrors P) (attemptSafeState d.physical) (attemptSafeState d.simulated)
      (fun safe safe' s t => safe = safe' ∧ Mirrors (SafeOrUnset S safe) s t)
      (Mirrors fun state p b => P state p b ∧ p.relay.channel = none) := by
  refine Pairs.attempt_bind (drive_pairs d false hp) (fun s t h => h) (fun _ => ?_) fun e => ?_
  · refine pairs_pure fun s t h => ⟨rfl, h.mono fun state p b hmirrors => ?_⟩
    obtain ⟨hstate, hopen, hset, hlow⟩ := hmirrors
    exact ⟨hstate, hopen, by simp [hset], hlow⟩
  · refine Pairs.bind_same (audit_pairs d _ _ _) fun _ => ?_
    refine pairs_pure fun s t h => ⟨rfl, h.mono fun state p b hmirrors => ?_⟩
    obtain ⟨hstate, hopen⟩ := hp state p b hmirrors.1
    exact ⟨hstate, hopen, by simp [hmirrors.2], hopen.unset hmirrors.2⟩

/-- A secured door, in a state that does not say otherwise. -/
theorem enter_dark {S : System (Site (Pins G) I W) → System (Site (Bench K) J W) → Prop}
    (state : ControllerState) (hstate : state ≠ .stopped ∧ state ≠ .released)
    (hp : ∀ state p b, P state p b → StandsOpen p b ∧ b.relay.isHigh = false) :
    Pairs GpioFailed (Mirrors P) (enter state : Program (Site (Pins G) I W) Unit)
      (enter state : Program (Site (Bench K) J W) Unit) (Same (Mirrors Dark)) S := by
  refine enter_pairs state fun before p b h => ?_
  obtain ⟨hopen, hlow⟩ := hp before p b h
  exact ⟨hopen, hlow, hstate.1, hstate.2⟩

theorem audit_dark (eventType : EventType) (severity : Severity) (correlation : Correlation) :
    Pairs GpioFailed (Mirrors Dark) (audit d.physical eventType severity correlation)
      (audit d.simulated eventType severity correlation) (Same (Mirrors Dark)) (Mirrors Live) :=
  (audit_pairs d _ _ _).mono (fun _ _ h => h) (fun _ _ _ _ h => h) fun _ _ h => h.mono fun _ _ _ => Dark.live

theorem same_live {α : Type} {a b : α} {s : System (Site (Pins G) I W)} {t : System (Site (Bench K) J W)}
    (h : Same (Mirrors Dark) a b s t) : Same (Mirrors Live) a b s t :=
  ⟨h.1, h.2.mono fun _ _ _ => Dark.live⟩

theorem start_pairs :
    Pairs GpioFailed (Mirrors Live) (start d.physical) (start d.simulated) (Same (Mirrors Live))
      (Mirrors Live) := by
  refine Pairs.get_bind (stays_of_onPins (start_within (physical_keeps d) (command_onPins d false)
    (setup_onPins d))) fun s t hrel => ?_
  rw [← hrel.controller]
  dsimp only
  split
  · exact pairs_pure fun _ _ h => by rw [h.1, h.2]; exact ⟨rfl, hrel⟩
  split
  · exact pairs_throw fun _ _ h => by rw [h.1, h.2]; exact hrel
  rename_i hactive hinitial
  have hdark : Mirrors Dark s t :=
    ⟨hrel.controller, hrel.outside, hrel.trace, hrel.relay.dark fun h => hactive (.inr h)⟩
  refine Pairs.pre (R := Mirrors Dark) ?_ (by rintro _ _ ⟨rfl, rfl⟩; exact hdark)
  have hsetup : ∀ state, Pairs Pins.Failed (Dark (G := G) (K := K) state)
      (RaspberryPiRelay.setup d.gpio "BCM" 23) (SimulatedRelay.setup d.relayClock "BCM" 23)
      (Same (Dark state)) (fun _ _ => False) := by
    intro state
    have h := StandsIn.setup_pairs d.gpio d.relayClock (P := Dark state) fun p b h =>
      ⟨h.toStandsOpen, h.low⟩
    refine ⟨h.stays, fun p b hdark => (h.both p b hdark).mono ?_ fun _ _ h => h⟩
    rintro _ _ p' b' ⟨rfl, hopen, hlow⟩
    exact ⟨rfl, hopen, hlow, hdark.running, hdark.unreleased⟩
  refine Pairs.attempt_bind (ask_relay (.setup "BCM" 23) hsetup) (fun s t h => h.relay.elim) (fun _ => ?_) fun e => ?_
  · refine Pairs.attempt_bind (drive_pairs d false (S := fun state => state ≠ .stopped ∧ state ≠ .released)
      fun state p b h => ⟨⟨h.running, h.unreleased⟩, h.toStandsOpen⟩)
      (fun s t h => h.mono fun _ _ _ hdark => hdark.1.live) (fun _ => ?_) fun e => ?_
    · refine Pairs.bind_same (enter_dark .ready (by decide) fun _ _ _ h => ⟨h.2.1, h.2.2.2⟩) fun _ => ?_
      exact (audit_dark d _ _ _).mono (fun _ _ h => h) (fun _ _ _ _ => same_live) fun _ _ h => h
    · refine Pairs.bind_same (enter_dark .faulted (by decide) fun _ _ _ h => ⟨h.1.toStandsOpen, h.1.low⟩) fun _ => ?_
      exact Pairs.bind_same (audit_dark d _ _ _) fun _ =>
        pairs_throw fun _ _ h => h.mono fun _ _ _ => Dark.live
  · refine Pairs.bind_same (enter_dark .faulted (by decide) fun _ _ _ h => h.elim) fun _ => ?_
    exact Pairs.bind_same (audit_dark d _ _ _) fun _ =>
      pairs_throw fun _ _ h => h.mono fun _ _ _ => Dark.live

theorem release_pairs :
    Pairs GpioFailed (Mirrors Dark) (release d.physical) (release d.simulated) (Same (Mirrors Live))
      (Mirrors Live) := by
  refine Pairs.attempt_bind (drive_pairs d true (S := fun state => state ≠ .stopped)
    fun state p b h => ⟨h.running, h.toStandsOpen⟩)
    (fun s t h => h.mono fun _ _ _ hdark => hdark.1.live) (fun _ => ?_) fun e => ?_
  · refine Pairs.bind_same (look_clock d.collaborators.clock.monotonic .monotonic) fun reading => ?_
    refine Pairs.bind_same (assign_pairs fun a => rfl) fun _ => ?_
    refine Pairs.bind_same (enter_pairs (Q := Live) .released ?_) fun _ => ?_
    · rintro before p b ⟨-, hopen, -, hhigh⟩
      exact ⟨hopen, by decide, by simp [hhigh]⟩
    refine Pairs.bind_same (audit_pairs d _ _ _) fun _ => ?_
    exact pairs_pure fun s t h => ⟨rfl, h⟩
  · refine Pairs.pre (R := Mirrors Dark) ?_ fun s t h => h.mono fun _ _ _ hdark => hdark.1
    refine Pairs.bind_same (audit_dark d _ _ _) fun _ => ?_
    refine Pairs.bind_same ((attemptSafeState_pairs d (S := fun state => state ≠ .stopped)
      fun state p b h => ⟨h.running, h.toStandsOpen⟩).mono (fun _ _ h => h) (fun _ _ _ _ h => h)
      fun s t h => h.mono fun _ _ _ hdark => hdark.1.live) fun safe => ?_
    refine Pairs.bind_same (enter_dark .faulted (by decide) fun _ _ _ h => ⟨h.2.1, h.2.2.2⟩) fun _ => ?_
    exact pairs_pure fun s t h => ⟨rfl, h.mono fun _ _ _ => Dark.live⟩

theorem processParsed_pairs (record : ParsedRecord) :
    Pairs GpioFailed (Mirrors Live) (processParsed d.physical record) (processParsed d.simulated record)
      (Same (Mirrors Live)) (Mirrors Live) := by
  refine Pairs.bind_same (ask_outside (d.collaborators.authorization.classify record.credential)
    fun _ => rfl) fun outcome => ?_
  refine Pairs.bind_same (look_clock d.collaborators.clock.now .now) fun processedAt => ?_
  refine Pairs.bind_same (assign_pairs fun a => rfl) fun _ => ?_
  cases outcome with
  | denied | unknown =>
    refine Pairs.bind_same (audit_pairs d _ _ _) fun _ => ?_
    refine Pairs.bind_same (recordSuspicious_pairs d) fun _ => ?_
    exact pairs_pure fun s t h => ⟨rfl, h⟩
  | authorized =>
    refine Pairs.bind_same (audit_pairs d _ _ _) fun _ => ?_
    refine Pairs.get_bind (stays_of_onPins (Within.get_bind fun s => ?_)) fun s t hrel => ?_
    · split
      · exact within_pure _
      · exact release_within (physical_keeps d) (command_onPins d)
    rw [← hrel.controller]
    split
    · exact pairs_pure fun _ _ h => by rw [h.1, h.2]; exact ⟨rfl, hrel⟩
    · rename_i hstate
      refine (release_pairs d).pre ?_
      rintro _ _ ⟨rfl, rfl⟩
      exact ⟨hrel.controller, hrel.outside, hrel.trace, hrel.relay.dark hstate⟩

theorem process_pairs (record : RecordResult) :
    Pairs GpioFailed (Mirrors Live) (process d.physical record) (process d.simulated record)
      (Same (Mirrors Live)) (Mirrors Live) := by
  refine Pairs.get_bind (stays_of_onPins (process_within (physical_keeps d) (command_onPins d) record))
    fun s t hrel => ?_
  rw [← hrel.controller]
  dsimp only
  refine Pairs.pre (R := Mirrors Live) ?_ (by rintro _ _ ⟨rfl, rfl⟩; exact hrel)
  split
  · exact pairs_throw fun _ _ h => h
  cases record with
  | malformed record =>
    refine Pairs.bind_same (audit_pairs d _ _ _) fun _ => ?_
    refine Pairs.bind_same (recordSuspicious_pairs d) fun _ => ?_
    exact pairs_pure fun s t h => ⟨rfl, h⟩
  | parsed record => exact processParsed_pairs d record

/-- The door of a released controller is open on both relays, so that both are set up. -/
theorem restore_pairs :
    Pairs GpioFailed (Mirrors fun state p b => Live state p b ∧ state = .released)
      (restore d.physical) (restore d.simulated) (Same (Mirrors Live)) (Mirrors Live) := by
  refine Pairs.attempt_bind (drive_pairs d false (S := fun state => state = .released)
    fun state p b h => ⟨h.2, h.1.toStandsOpen⟩)
    (fun s t h => h.mono fun _ _ _ hlive => hlive.1.1) (fun _ => ?_) fun e => ?_
  · refine Pairs.bind_same (assign_pairs fun a => rfl) fun _ => ?_
    refine Pairs.bind_same (enter_dark .ready (by decide) fun _ _ _ h => ⟨h.2.1, h.2.2.2⟩) fun _ => ?_
    exact (audit_dark d _ _ _).mono (fun _ _ h => h) (fun _ _ _ _ => same_live) fun _ _ h => h
  · refine Pairs.bind_same (enter_dark .faulted (by decide) fun _ _ _ h => ?_) fun _ => ?_
    · exact ⟨h.1.1.toStandsOpen, h.1.1.unset h.2⟩
    · exact (audit_dark d _ _ _).mono (fun _ _ h => h) (fun _ _ _ _ => same_live) fun _ _ h => h

theorem tick_pairs :
    Pairs GpioFailed (Mirrors Live) (tick d.physical) (tick d.simulated) (Same (Mirrors Live))
      (Mirrors Live) := by
  refine Pairs.get_bind (stays_of_onPins (tick_within (physical_keeps d) (command_onPins d false)))
    fun s t hrel => ?_
  rw [← hrel.controller]
  dsimp only
  split
  · exact pairs_pure fun _ _ h => by rw [h.1, h.2]; exact ⟨rfl, hrel⟩
  split
  · rename_i hstate
    refine Pairs.bind_same (S := fun _ => Mirrors fun state p b => Live state p b ∧ state = .released)
      ((look_clock d.collaborators.clock.monotonic .monotonic).pre ?_) fun reading => ?_
    · rintro _ _ ⟨rfl, rfl⟩
      exact ⟨hrel.controller, hrel.outside, hrel.trace, hrel.relay, hstate⟩
    split
    · exact restore_pairs d
    · exact pairs_pure fun s t h => ⟨rfl, h.mono fun _ _ _ => And.left⟩
  · exact pairs_pure fun _ _ h => by rw [h.1, h.2]; exact ⟨rfl, hrel⟩

theorem recoverableFailure_pairs :
    Pairs GpioFailed (Mirrors Live) (recoverableFailure d.physical) (recoverableFailure d.simulated)
      (Same (Mirrors Live)) (Mirrors Live) := by
  refine Pairs.bind_same ((attemptSafeState_pairs d (S := fun state => state ≠ .stopped)
    fun state p b h => ⟨h.running, h.toStandsOpen⟩).mono (fun _ _ h => h) (fun _ _ _ _ h => h)
    fun s t h => h.mono fun _ _ _ => And.left) fun safe => ?_
  refine Pairs.bind_same (assign_pairs fun a => rfl) fun _ => ?_
  refine Pairs.bind_same (enter_dark .faulted (by decide) fun _ _ _ h => ⟨h.2.1, h.2.2.2⟩) fun _ => ?_
  exact (audit_dark d _ _ _).mono (fun _ _ h => h) (fun _ _ _ _ => same_live) fun _ _ h => h

/-- The shutdown of a controller: the relay cleaned up, unless there was none. -/
def Ended (state : ControllerState) (p : Pins G) (b : Bench K) : Prop :=
  (Dark state p b ∧ p.relay.channel = none) ∨ (StandsIn p b ∧ b.relay.isHigh = false ∧ state = .stopped)

theorem attemptCleanup_pairs {T : RaspberryPiRelay → Prop}
    (hp : ∀ state p b, P state p b → StandsIn p b ∧ b.relay.isHigh = false ∧ T p.relay)
    (hclose : T ⟨some 23, false⟩ → T ⟨some 23, true⟩)
    {E : System (Site (Pins G) I W) → System (Site (Bench K) J W) → Prop} :
    Pairs GpioFailed (Mirrors P) (attemptCleanup d.physical) (attemptCleanup d.simulated)
      (fun ok ok' s t => ok = ok' ∧
        Mirrors (fun _ p b => ok = true ∧ StandsIn p b ∧ b.relay.isHigh = false ∧ T p.relay) s t) E := by
  have hcleanup : ∀ state, Pairs Pins.Failed (P state) (RaspberryPiRelay.cleanup d.gpio)
      (SimulatedRelay.cleanup d.relayClock)
      (Same fun p b => StandsIn p b ∧ b.relay.isHigh = false ∧ T p.relay) (fun _ _ => False) :=
    fun state => StandsIn.cleanup_pairs d.gpio d.relayClock (hp state) hclose
  refine Pairs.attempt_bind (ask_relay .cleanup hcleanup) (fun s t h => h.relay.elim) (fun _ => ?_) fun e => ?_
  · exact pairs_pure fun s t h => ⟨rfl, h.mono fun _ _ _ hclean => ⟨rfl, hclean⟩⟩
  · refine Pairs.bind_same ((audit_pairs d _ _ _).mono (fun _ _ h => h) (fun _ _ _ _ h => h)
      fun s t h => h.relay.elim) fun _ => ?_
    exact pairs_pure fun s t h => h.relay.elim

theorem shutdown_pairs :
    Pairs GpioFailed (Mirrors fun state p b => Live state p b ∨ Ended state p b)
      (shutdown d.physical) (shutdown d.simulated) (Same (Mirrors Ended)) (Mirrors Ended) := by
  refine Pairs.get_bind (stays_of_onPins (shutdown_within (physical_keeps d) (command_onPins d false)
    (cleanup_onPins d))) fun s t hrel => ?_
  rw [← hrel.controller]
  split
  · rename_i hstopped
    refine pairs_pure ?_
    rintro _ _ ⟨rfl, rfl⟩
    refine ⟨rfl, hrel.controller, hrel.outside, hrel.trace, ?_⟩
    rcases hrel.relay with hlive | hended
    · exact absurd hstopped hlive.running
    · exact hended
  rename_i hstate
  have hopen : Mirrors (fun _ p b => StandsOpen p b) s t := by
    refine ⟨hrel.controller, hrel.outside, hrel.trace, ?_⟩
    rcases hrel.relay with hlive | hdark | hdone
    · exact hlive.toStandsOpen
    · exact hdark.1.toStandsOpen
    · exact absurd hdone.2.2 hstate
  refine Pairs.pre (R := Mirrors fun _ p b => StandsOpen p b) ?_ (by rintro _ _ ⟨rfl, rfl⟩; exact hopen)
  refine Pairs.bind_same (enter_pairs (Q := fun state p b => state = .shuttingDown ∧ StandsOpen p b)
    .shuttingDown fun _ _ _ h => ⟨rfl, h⟩) fun _ => ?_
  refine Pairs.bind_same ((attemptSafeState_pairs d (S := fun state => state = .shuttingDown)
    fun state p b h => h).mono (fun _ _ h => h) (fun _ _ _ _ h => h) ?_) fun safe => ?_
  · refine fun s t h => h.mono fun state p b hunset => .inl ⟨?_, hunset.2⟩
    obtain ⟨⟨rfl, hopen⟩, hunset⟩ := hunset
    exact ⟨hopen, hopen.unset hunset, by decide, by decide⟩
  refine Pairs.bind_same (assign_pairs fun a => rfl) fun _ => ?_
  refine Pairs.bind_same (attemptCleanup_pairs d
    (T := fun relay => safe = false → relay.channel = none ∧ relay.closed = false) ?_ ?_) fun cleanupOk => ?_
  · rintro state p b ⟨-, hopen, hsafe, hlow⟩
    refine ⟨hopen.toStandsIn, hlow, ?_⟩
    rintro rfl
    exact ⟨by simpa using hsafe, hopen.closed⟩
  · exact fun h hsafe => absurd (h hsafe).1 (by simp)
  split
  · refine Pairs.bind_same (enter_pairs (Q := Ended) .stopped ?_) fun _ => audit_pairs d _ _ _
    rintro before p b ⟨-, hstands, hlow, -⟩
    exact .inr ⟨hstands, hlow, rfl⟩
  · rename_i hunsafe
    refine enter_pairs .faulted ?_
    rintro before p b ⟨rfl, hstands, hlow, hset⟩
    obtain ⟨hnone, hclosed⟩ := hset (by simpa using hunsafe)
    exact .inl ⟨⟨⟨hstands, hclosed⟩, hlow, by decide, by decide⟩, hnone⟩

theorem begin_pairs (operation : Operation) {S : System (Site (Pins G) I W) → System (Site (Bench K) J W) → Prop} :
    Pairs GpioFailed (Mirrors P) (begin operation : Program (Site (Pins G) I W) Unit)
      (begin operation : Program (Site (Bench K) J W) Unit) (Same (Mirrors P)) S :=
  pairs_modify (fun s hlost => hlost) fun s t h =>
    ⟨rfl, h.controller, h.outside, by simp [h.trace], h.relay⟩

/-- Before the shutdown. -/
theorem call_pairs {operation : Operation} (hoperation : operation ≠ .shutdown) :
    Pairs GpioFailed (Mirrors Live) (call d.physical operation) (call d.simulated operation)
      (Same (Mirrors Live)) (Mirrors Live) := by
  refine Pairs.bind_same (begin_pairs operation) fun _ => ?_
  cases operation with
  | start => exact (start_pairs d).map_same _
  | process record => exact (process_pairs d record).map_same _
  | tick => exact (tick_pairs d).map_same _
  | recoverableFailure => exact (recoverableFailure_pairs d).map_same _
  | shutdown => exact absurd rfl hoperation

theorem call_shutdown_pairs :
    Pairs GpioFailed (Mirrors fun state p b => Live state p b ∨ Ended state p b)
      (call d.physical .shutdown) (call d.simulated .shutdown) (Same (Mirrors Ended)) (Mirrors Ended) := by
  refine Pairs.bind_same (begin_pairs .shutdown) fun _ => ?_
  exact (shutdown_pairs d).map_same _

end

-- ---------------------------------------------------------------------------
-- Whole runs
-- ---------------------------------------------------------------------------

/-- The calls that the runtime and the host make: of the controller, and at
the end of its relay. -/
inductive HostCall
  | controller (operation : Operation)
  | relayCleanup

def System.worldPart (W : Type) : Component (System W) W where
  get s := s.world
  set world s := { s with world }
  get_set _ _ := rfl
  set_get _ := rfl
  set_set _ _ _ := rfl

def HostCall.perform {W : Type} (c : Wiring W) : HostCall → Program W (Option AccessResult)
  | .controller operation => call c operation
  | .relayCleanup => (fun _ => none) <$> zoom (System.worldPart W) c.relay.cleanup

/-- A run up to the shutdown, the calls of `shutdown`, and the final cleanup of the relay. -/
def hostCalls (front : List Operation) (shutdowns : Nat) : List HostCall :=
  front.map .controller ++ List.replicate shutdowns (.controller .shutdown) ++ [.relayCleanup]

section
variable {G I K J W : Type}

/-- Two systems that a caller cannot tell apart, with one level on both pins. -/
structure Alike (s : System (Site (Pins G) I W)) (t : System (Site (Bench K) J W)) : Prop where
  controller : s.controller = t.controller
  /-- The states entered and the calls of the collaborators. -/
  trace : s.trace.map Occurrence.unnamed = t.trace.map Occurrence.unnamed
  events : (auditEvents s.trace).map AuditEvent.blind = (auditEvents t.trace).map AuditEvent.blind
  level : s.world.relay.isHigh = t.world.relay.relay.isHigh

theorem auditEvents_unnamed (lines : List Occurrence) :
    auditEvents (lines.map Occurrence.unnamed) = (auditEvents lines).map AuditEvent.blind := by
  unfold auditEvents
  rw [List.filterMap_map, List.map_filterMap]
  congr 1
  funext line
  cases line with
  | appended event answer => cases answer <;> rfl
  | _ => rfl

theorem Mirrors.alike {P : ControllerState → Pins G → Bench K → Prop}
    {s : System (Site (Pins G) I W)} {t : System (Site (Bench K) J W)} (h : Mirrors P s t)
    (hp : ∀ state p b, P state p b → StandsIn p b) : Alike s t where
  controller := h.controller
  trace := h.trace
  events := by rw [← auditEvents_unnamed, ← auditEvents_unnamed, h.trace]
  level := (hp _ _ _ h.relay).level_eq

variable (d : Comparison G I K J W)

theorem perform_stays (x : HostCall) :
    Within (fun s s' => GpioFailed s → GpioFailed s') (x.perform d.physical) := by
  cases x with
  | controller operation =>
    exact stays_of_onPins (call_within (physical_keeps d) operation (command_onPins d false)
      (fun _ => command_onPins d true) (fun _ => setup_onPins d) fun _ => cleanup_onPins d)
  | relayCleanup =>
    refine stays_of_onPins (Within.map (fun s => ?_) _)
    exact cleanup_onPins d s.world

/-- The final cleanup, of a door that is secured. -/
theorem relayCleanup_pairs {P : ControllerState → Pins G → Bench K → Prop}
    (hp : ∀ state p b, P state p b → StandsIn p b ∧ b.relay.isHigh = false) :
    Pairs GpioFailed (Mirrors P) (HostCall.relayCleanup.perform d.physical)
      (HostCall.relayCleanup.perform d.simulated)
      (Same (Mirrors fun _ p b => StandsIn p b)) (Mirrors fun _ p b => StandsIn p b) := by
  have hcleanup := StandsIn.cleanup_pairs d.gpio d.relayClock (T := fun _ => True)
    (P := fun p b => StandsIn p b ∧ b.relay.isHigh = false) (fun p b h => ⟨h.1, h.2, trivial⟩) id
  refine Pairs.map_same (m := zoom (System.worldPart _) d.physical.relay.cleanup)
    (n := zoom (System.worldPart _) d.simulated.relay.cleanup)
    ⟨fun s hlost => hcleanup.stays s.world.relay hlost, fun s t hrel => ?_⟩ _
  obtain ⟨hcontroller, houtside, htrace, hrelay⟩ := hrel
  have hboth := hcleanup.both _ _ (hp _ _ _ hrelay)
  unfold Both at hboth ⊢
  simp only [run_zoom, System.worldPart, Comparison.physical, Comparison.simulated,
    Collaborators.wired, Site.relayPart, RaspberryPiRelay.relay, SimulatedRelay.relay]
  generalize (RaspberryPiRelay.cleanup d.gpio).run s.world.relay = outcome at hboth ⊢
  generalize (SimulatedRelay.cleanup d.relayClock).run t.world.relay = outcome' at hboth ⊢
  obtain ⟨answer, p⟩ := outcome
  obtain ⟨answer', b⟩ := outcome'
  refine hboth.imp id fun hmatch => ?_
  cases answer with
  | ok =>
    cases answer' with
    | ok => exact ⟨rfl, hcontroller, houtside, htrace, hmatch.2.1⟩
    | error => exact hmatch.elim
  | error =>
    cases answer' with
    | ok => exact hmatch.elim
    | error => exact hmatch.2.elim

theorem state_map {W α β : Type} (m : Program W α) (f : α → β) (s : System W) :
    ((f <$> m).run s).2 = (m.run s).2 := by
  rw [map_eq_pure_bind, run_bind]
  generalize m.run s = outcome
  obtain ⟨answer, s'⟩ := outcome
  cases answer <;> rfl

/-- A cleanup of a door that is released leaves the two pins apart. -/
theorem relayCleanup_apart {s : System (Site (Pins G) I W)} {t : System (Site (Bench K) J W)}
    (h : Mirrors Live s t) (hreleased : s.controller.state = .released)
    (hfound : ¬GpioFailed ((HostCall.relayCleanup.perform d.physical).run s).2) :
    ¬Alike ((HostCall.relayCleanup.perform d.physical).run s).2
      ((HostCall.relayCleanup.perform d.simulated).run t).2 := by
  intro halike
  have hhigh : t.world.relay.relay.isHigh = true := h.relay.released.mpr hreleased
  have hset : s.world.relay.relay.channel = some 23 := h.relay.channel.resolve_left fun hunset => by
    simp [h.relay.unset hunset] at hhigh
  have hopen : s.world.relay.relay = ⟨some 23, false⟩ := by rw [← hset, ← h.relay.closed]
  have hphysical : ((HostCall.relayCleanup.perform d.physical).run s).2.world.relay =
      ((RaspberryPiRelay.cleanup d.gpio).run s.world.relay).2 :=
    congrArg (fun s => s.world.relay) (state_map _ _ s)
  have hsimulated : ((HostCall.relayCleanup.perform d.simulated).run t).2.world.relay =
      ((SimulatedRelay.cleanup d.relayClock).run t.world.relay).2 :=
    congrArg (fun t => t.world.relay) (state_map _ _ t)
  obtain ⟨b', hrun, hsame, -⟩ := StandsIn.simulated_cleanup d.relayClock h.relay.sound
  have hlevel := halike.level
  rw [hphysical, hsimulated, hrun] at hlevel
  unfold GpioFailed at hfound
  rw [hphysical] at hfound
  obtain ⟨g, hlow⟩ := (StandsIn.cleanup_or_failed d.gpio hopen).resolve_left hfound
  rw [hlow, hsame, hhigh] at hlevel
  simp [Pins.isHigh, Pins.written] at hlevel

/-- The two systems of a run, before it. -/
def Comparison.physicalSystem (escalation : EscalationTracker) (g : G) (i : I) (w : W) :
    System (Site (Pins G) I W) :=
  System.initial escalation ⟨Pins.fresh g, i, w⟩

def Comparison.simulatedSystem (escalation : EscalationTracker) (k : K) (j : J) (w : W) :
    System (Site (Bench K) J W) :=
  System.initial escalation ⟨⟨SimulatedRelay.fresh, k⟩, j, w⟩

theorem initial_live (escalation : EscalationTracker) (g : G) (i : I) (k : K) (j : J) (w : W) :
    Mirrors Live (Comparison.physicalSystem escalation g i w) (Comparison.simulatedSystem escalation k j w) where
  controller := rfl
  outside := rfl
  trace := rfl
  relay :=
    { channel_eq := rfl, channel := .inl rfl, level_eq := rfl, unset := fun _ => rfl,
      sound := ⟨rfl, rfl, rfl, rfl⟩, closed := rfl, running := nofun, released := ⟨nofun, nofun⟩ }

open Replay (steps runs)

/-- The calls of `shutdown`: one of them is enough to secure the door. -/
theorem shutdowns_end {shutdowns : Nat} {s : System (Site (Pins G) I W)} {t : System (Site (Bench K) J W)}
    (h : Mirrors Live s t) (hsecured : 0 < shutdowns ∨ s.controller.state ≠ .released)
    (hfound : ¬GpioFailed (runs (HostCall.perform d.physical)
      (List.replicate shutdowns (.controller .shutdown)) s)) :
    List.Forall₂ (fun a b => a.1 = b.1 ∧ Alike a.2 b.2)
        (steps (HostCall.perform d.physical) (List.replicate shutdowns (.controller .shutdown)) s)
        (steps (HostCall.perform d.simulated) (List.replicate shutdowns (.controller .shutdown)) t) ∧
      Mirrors (fun _ p b => StandsIn p b ∧ b.relay.isHigh = false)
        (runs (HostCall.perform d.physical) (List.replicate shutdowns (.controller .shutdown)) s)
        (runs (HostCall.perform d.simulated) (List.replicate shutdowns (.controller .shutdown)) t) := by
  have hended : ∀ state (p : Pins G) (b : Bench K), Ended state p b → StandsIn p b ∧ b.relay.isHigh = false := by
    rintro state p b (⟨hdark, -⟩ | ⟨hstands, hlow, -⟩)
    · exact ⟨hdark.toStandsIn, hdark.low⟩
    · exact ⟨hstands, hlow⟩
  cases shutdowns with
  | zero =>
    have hdark := h.relay.dark (hsecured.resolve_left (by decide))
    exact ⟨.nil, h.controller, h.outside, h.trace, hdark.toStandsIn, hdark.low⟩
  | succ n =>
    have hfirst : ¬GpioFailed (((HostCall.controller .shutdown).perform d.physical).run s).2 :=
      fun hlost => hfound (stays_runs (perform_stays d) (List.replicate n _) hlost)
    obtain ⟨houtcome, hnext⟩ := (call_shutdown_pairs d).ended (h.mono fun _ _ _ => .inl) hfirst
    have hagain : ∀ x ∈ List.replicate n (HostCall.controller .shutdown), Pairs GpioFailed (Mirrors Ended)
        (x.perform d.physical) (x.perform d.simulated) (Same (Mirrors Ended)) (Mirrors Ended) := by
      intro x hx
      rw [List.eq_of_mem_replicate hx]
      exact (call_shutdown_pairs d).pre fun s t h => h.mono fun _ _ _ => .inr
    obtain ⟨hsteps, hlast⟩ := Pairs.runs hagain (perform_stays d) hnext hfound
    refine ⟨.cons ⟨houtcome, hnext.alike fun state p b h => (hended state p b h).1⟩ ?_, hlast.mono hended⟩
    exact hsteps.imp fun a b hstep => ⟨hstep.1, hstep.2.alike fun state p b h => (hended state p b h).1⟩

/-- The two systems stay alike call by call, unless the final cleanup of the
relay comes with no shutdown before it while the door is released. -/
theorem stands_in_iff (escalation : EscalationTracker) (g : G) (i : I) (k : K) (j : J) (w : W)
    (front : List Operation) (hfront : .shutdown ∉ front) (shutdowns : Nat)
    (hfound : ¬(runs (HostCall.perform d.physical) (hostCalls front shutdowns)
      (Comparison.physicalSystem escalation g i w)).world.relay.Failed) :
    List.Forall₂ (fun a b => a.1 = b.1 ∧ Alike a.2 b.2)
        (steps (HostCall.perform d.physical) (hostCalls front shutdowns)
          (Comparison.physicalSystem escalation g i w))
        (steps (HostCall.perform d.simulated) (hostCalls front shutdowns)
          (Comparison.simulatedSystem escalation k j w)) ↔
      0 < shutdowns ∨
        (runs (call d.physical) front (Comparison.physicalSystem escalation g i w)).controller.state ≠ .released := by
  set s := Comparison.physicalSystem escalation g i w
  set t := Comparison.simulatedSystem escalation k j w
  have hcalls : runs (HostCall.perform d.physical) (front.map .controller) s = runs (call d.physical) front s :=
    List.foldl_map
  unfold hostCalls at hfound ⊢
  rw [runs_append, runs_append] at hfound
  have hshut : ¬GpioFailed (runs (HostCall.perform d.physical) (List.replicate shutdowns (.controller .shutdown))
      (runs (HostCall.perform d.physical) (front.map .controller) s)) :=
    fun hlost => hfound (stays_runs (perform_stays d) _ hlost)
  have hfronted : ¬GpioFailed (runs (HostCall.perform d.physical) (front.map .controller) s) :=
    fun hlost => hshut (stays_runs (perform_stays d) _ hlost)
  have hbefore : ∀ x ∈ front.map HostCall.controller, Pairs GpioFailed (Mirrors Live)
      (x.perform d.physical) (x.perform d.simulated) (Same (Mirrors Live)) (Mirrors Live) := by
    intro x hx
    obtain ⟨operation, hoperation, rfl⟩ := List.mem_map.mp hx
    exact call_pairs d fun h => hfront (h ▸ hoperation)
  obtain ⟨hsteps, hlive⟩ := Pairs.runs hbefore (perform_stays d) (initial_live escalation g i k j w) hfronted
  constructor
  · intro hall
    by_contra hcondition
    obtain ⟨hnone, hreleased⟩ := not_or.mp hcondition
    obtain rfl : shutdowns = 0 := by omega
    have hlast := (last_step hall).2
    rw [runs_append, runs_append] at hlast
    refine relayCleanup_apart d hlive ?_ hfound hlast
    rw [hcalls]
    exact not_not.mp hreleased
  · intro hcondition
    rw [← hcalls] at hcondition
    obtain ⟨hshutdowns, hsecured⟩ := shutdowns_end d hlive hcondition hshut
    obtain ⟨houtcome, hclean⟩ := (relayCleanup_pairs d fun _ _ _ h => h).ended hsecured hfound
    rw [steps_append, steps_append, steps_append, steps_append, runs_append, runs_append]
    refine List.rel_append (List.rel_append ?_ hshutdowns) (.cons ⟨houtcome, hclean.alike fun _ _ _ h => h⟩ .nil)
    exact hsteps.imp fun a b hstep => ⟨hstep.1, hstep.2.alike fun _ _ _ h => h.toStandsIn⟩

/-- Collaborators that authorize everybody, on a quiet board. -/
def Comparison.quiet : Comparison Unit Unit Unit Unit Unit where
  collaborators :=
    { authorization := ⟨fun _ => pure .authorized⟩
      audit := ⟨fun _ => pure ()⟩
      notifications := ⟨fun _ => pure ()⟩
      clock := { monotonic := fun w => (0, w), now := fun w => (⟨0, some 0⟩, w) } }
  gpio :=
    { setwarnings := fun _ => pure (), setmode := pure (), setup := fun _ => pure ()
      output := fun _ _ => pure (), cleanup := fun _ => pure () }
  uuid4 w := ("physical", w)
  relayClock := { monotonic := fun k => (0, k), now := fun k => (⟨0, some 0⟩, k) }
  simulatedUuid4 w := ("simulated", w)
  releaseSeconds := 5
  releaseSeconds_pos := fiveSeconds_pos

/-- A door released and then shut down. -/
theorem stands_in_iff_shutdown :
    List.Forall₂ (fun a b => a.1 = b.1 ∧ Alike a.2 b.2)
      (steps (HostCall.perform Comparison.quiet.physical) (hostCalls [.start, .process (.parsed ⟨""⟩)] 1)
        (Comparison.physicalSystem { policy := {} } () () ()))
      (steps (HostCall.perform Comparison.quiet.simulated) (hostCalls [.start, .process (.parsed ⟨""⟩)] 1)
        (Comparison.simulatedSystem { policy := {} } () () ())) :=
  (stands_in_iff Comparison.quiet { policy := {} } () () () () () [.start, .process (.parsed ⟨""⟩)] (by simp) 1
    (by decide +kernel)).mpr (.inl (by decide))

/-- The simulated pin stays HIGH where the physical one is LOW again. -/
theorem stays_high_without_shutdown :
    ¬∀ (front : List Operation) (shutdowns : Nat), .shutdown ∉ front →
      ¬(runs (HostCall.perform Comparison.quiet.physical) (hostCalls front shutdowns)
        (Comparison.physicalSystem { policy := {} } () () ())).world.relay.Failed →
      List.Forall₂ (fun a b => a.1 = b.1 ∧ Alike a.2 b.2)
        (steps (HostCall.perform Comparison.quiet.physical) (hostCalls front shutdowns)
          (Comparison.physicalSystem { policy := {} } () () ()))
        (steps (HostCall.perform Comparison.quiet.simulated) (hostCalls front shutdowns)
          (Comparison.simulatedSystem { policy := {} } () () ())) := by
  intro hall
  have hlevel := (last_step (hall [.start, .process (.parsed ⟨""⟩)] 0 (by simp) (by decide +kernel))).2.level
  revert hlevel
  decide +kernel

end

end AccessController

end Bridgewire
