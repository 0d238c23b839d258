import Bridgewire.Controller.Parts

/-!
# What the operations do to the world

An operation changes the world only through its collaborators. If their
calls keep the world within a preorder, so does every operation; and only
`process` commands HIGH, only `start` sets the relay up.
-/

namespace Bridgewire.AccessController

open Effect

def OnWorld {W : Type} (R : W → W → Prop) (s s' : System W) : Prop := R s.world s'.world

instance {W : Type} {R : W → W → Prop} [IsPreorder W R] : IsPreorder (System W) (OnWorld R) where
  refl s := refl_of R s.world
  trans _ _ _ := trans_of R

/-- The calls of every collaborator but the relay keep the world within `R`. -/
structure Ports.Keeps {W : Type} (ports : Ports W) (R : W → W → Prop) : Prop where
  classify : ∀ credential, Within R (ports.authorization.classify credential)
  append : ∀ event, Within R (ports.audit.append event)
  enqueue : ∀ event, Within R (ports.notifications.enqueue event)
  monotonic : ∀ w, R w (ports.clock.monotonic w).2
  now : ∀ w, R w (ports.clock.now w).2
  uuid4 : ∀ w, R w (ports.uuid4 w).2

section
variable {W α : Type} {R : W → W → Prop}

theorem ask_within {port : Port W α} (h : Within R port) (note : Except Exn α → Occurrence) :
    Within (OnWorld R) (ask port note) :=
  fun s => h s.world

theorem look_within {read : W → α × W} (h : ∀ w, R w (read w).2) (note : α → Occurrence) :
    Within (OnWorld R) (look read note) :=
  fun s => h s.world

theorem glance_within {read : W → α × W} (h : ∀ w, R w (read w).2) :
    Within (OnWorld R) (glance read) :=
  fun s => h s.world

variable [IsPreorder W R]

theorem assign_within (change : AccessController → AccessController) :
    Within (OnWorld R) (assign change) :=
  fun s => refl_of R s.world

theorem enter_within (state : ControllerState) : Within (OnWorld R) (enter state) :=
  fun s => refl_of R s.world

variable {c : Wiring W}

theorem drive_within {high : Bool} (hcommand : Within R (c.relay.command high)) :
    Within (OnWorld R) (drive c high) :=
  Within.bind (ask_within hcommand _) fun _ => assign_within _

variable (h : c.Keeps R)
include h

/-- What is kept of the world is kept by every part. -/
theorem parts_within : Parts c c (Congruence.within (OnWorld R)) (fun _ => True) where
  assigns change := (assign_within change).keeps
  enters state := (enter_within state).keeps
  begins operation := (show Within (OnWorld R) (begin operation) from fun s => refl_of R s.world).keeps
  classifies credential := (ask_within (h.classify credential) _).keeps
  makes := makes_any (look_within h.now _).keeps (glance_within h.uuid4).keeps
  appends event _ := (ask_within (h.append event) _).keeps
  enqueues event := (ask_within (h.enqueue event) _).keeps
  reads := (look_within h.monotonic _).keeps
  looks := (look_within h.now _).keeps
  glances := (glance_within h.monotonic).keeps
  channel := rfl
  seconds := rfl

theorem newEvent_within (eventType : EventType) (severity : Severity) (correlation : Correlation) :
    Within (OnWorld R) (newEvent c eventType severity correlation) :=
  Congruence.Keeps.within ((parts_within h).makes eventType severity correlation)

theorem audit_within (eventType : EventType) (severity : Severity) (correlation : Correlation) :
    Within (OnWorld R) (audit c eventType severity correlation) :=
  ((parts_within h).audit _ _ _).within

theorem start_within (hlow : Within R (c.relay.command false))
    (hsetup : Within R (c.relay.setup "BCM" c.gpioChannel)) : Within (OnWorld R) (start c) :=
  ((parts_within h).start (ask_within hlow _).keeps (ask_within hsetup _).keeps).within

theorem release_within (hcommand : ∀ high, Within R (c.relay.command high)) :
    Within (OnWorld R) (release c) :=
  ((parts_within h).release fun high => (ask_within (hcommand high) _).keeps).within

theorem process_within (hcommand : ∀ high, Within R (c.relay.command high)) (record : RecordResult) :
    Within (OnWorld R) (process c record) :=
  ((parts_within h).process (fun high => (ask_within (hcommand high) _).keeps) record).within

theorem tick_within (hlow : Within R (c.relay.command false)) : Within (OnWorld R) (tick c) :=
  ((parts_within h).tick (ask_within hlow _).keeps).within

theorem shutdown_within (hlow : Within R (c.relay.command false))
    (hclean : Within R c.relay.cleanup) : Within (OnWorld R) (shutdown c) :=
  ((parts_within h).shutdown (ask_within hlow _).keeps (ask_within hclean _).keeps).within

theorem snapshot_within : Within (OnWorld R) (snapshot c) := (parts_within h).snapshot.within

theorem call_within (operation : Operation) (hlow : Within R (c.relay.command false))
    (hhigh : (∃ record, operation = .process record) → Within R (c.relay.command true))
    (hsetup : operation = .start → Within R (c.relay.setup "BCM" c.gpioChannel))
    (hclean : operation = .shutdown → Within R c.relay.cleanup) :
    Within (OnWorld R) (call c operation) :=
  ((parts_within h).call operation (ask_within hlow _).keeps (fun hprocess => (ask_within (hhigh hprocess) _).keeps)
    (fun hstart => (ask_within (hsetup hstart) _).keeps) fun hshutdown => (ask_within (hclean hshutdown) _).keeps).within

end

end Bridgewire.AccessController
