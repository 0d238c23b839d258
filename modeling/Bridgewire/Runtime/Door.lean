import Bridgewire.Controller.Release
import Bridgewire.Runtime.Frame
import Mathlib.Logic.Relation

/-!
# The door of a runtime

Whatever a runtime does to the door, it does by calls of the controller.
Only `shutdown` and `handle_failure` make other calls than `start`, `process`
and `tick`.
-/

namespace Bridgewire.BridgewireRuntime

open Effect
open AccessController (Called DoorView)

/-- Anything may happen to the world. -/
def Anywhere {W : Type} (_ _ : W) : Prop := True

instance {W : Type} : IsPreorder W Anywhere where
  refl _ := trivial
  trans _ _ _ _ _ := trivial

section
variable {W : Type} (c : Wiring W)

theorem anywhere {α : Type} (port : Port W α) : Within Anywhere port := fun _ => trivial

theorem Wiring.keeps_anywhere : c.Keeps Anywhere where
  access := ⟨fun _ => anywhere _, fun _ => anywhere _, fun _ => anywhere _, fun _ => trivial,
    fun _ => trivial, fun _ => trivial⟩
  reader := ⟨anywhere _, fun _ => anywhere _, fun _ => anywhere _, fun _ => anywhere _, anywhere _,
    fun _ _ _ => trivial⟩
  report _ := anywhere _
  append _ := anywhere _
  now _ := trivial
  uuid4 _ := trivial
  wait _ _ := trivial

/-- The operations of the controller that take a door from `v` to `v'`. -/
def Moves (allowed : AccessController.Operation → Prop) : DoorView → DoorView → Prop :=
  Relation.ReflTransGen fun v v' =>
    ∃ reading operation outcome, allowed operation ∧ Called c.access reading v operation outcome v'

/-- The door is moved by allowed operations and no shutdown is completed. -/
structure Works (allowed : AccessController.Operation → Prop) (s s' : BridgewireRuntime W) : Prop where
  door : Moves c allowed s.system.view s'.system.view
  complete : s'.shutdownComplete = s.shutdownComplete

instance (allowed : AccessController.Operation → Prop) :
    IsPreorder (BridgewireRuntime W) (Works c allowed) where
  refl _ := ⟨.refl, rfl⟩
  trans _ _ _ h h' := ⟨h.door.trans h'.door, h'.complete.trans h.complete⟩

/-- What is published: a snapshot, at some cost to the world. -/
structure Published (s s' : BridgewireRuntime W) : Prop where
  view : s'.system.view = s.system.view
  complete : s'.shutdownComplete = s.shutdownComplete
  reader : s'.reader = s.reader
  stream : s'.stream = s.stream
  log : s'.log = s.log

instance : IsPreorder (BridgewireRuntime W) Published where
  refl _ := ⟨rfl, rfl, rfl, rfl, rfl⟩
  trans _ _ _ h h' := ⟨h'.view.trans h.view, h'.complete.trans h.complete, h'.reader.trans h.reader,
    h'.stream.trans h.stream, h'.log.trans h.log⟩

theorem publishSnapshot_published : Within Published (publishSnapshot c) :=
  publishSnapshot_within ⟨fun _ _ _ => ⟨rfl, rfl, rfl, rfl, rfl⟩, fun _ _ => ⟨rfl, rfl, rfl, rfl, rfl⟩⟩
    c.keeps_anywhere

variable {c}

/-- One call of the controller, and nothing else. -/
theorem access_ends (operation : AccessController.Operation) (s : BridgewireRuntime W) :
    Ends (access c operation) s (fun outcome s' => ∃ answer,
      Called c.access (c.access.clock.monotonic s.system.world).1 s.system.view operation answer
        s'.system.view ∧ (outcome = .ok () ↔ ∃ result, answer = .ok result) ∧
          s' = { s with system := s'.system }) := by
  unfold access
  refine Ends.map (ends_iff.mpr ?_)
  refine ⟨_, AccessController.call_called c.access operation s.system, ?_, rfl⟩
  show Except.map (fun _ => ()) ((AccessController.call c.access operation).run s.system).1 = .ok () ↔ _
  cases ((AccessController.call c.access operation).run s.system).1 with
  | ok result => exact ⟨fun _ => ⟨result, rfl⟩, fun _ => rfl⟩
  | error e => simp [Except.map]

/-- A report is written or not, in the world that it finds. -/
theorem reportHealth_run (status : String) (details : List (String × HealthValue)) (s : BridgewireRuntime W) :
    (reportHealth c status details).run s =
      (((c.health.report ⟨status, details⟩).run s.system.world).1,
        { s with system := { s.system with world := ((c.health.report ⟨status, details⟩).run s.system.world).2 },
                 log := s.log ++ [RuntimeOccurrence.reported ⟨status, details⟩
                   ((c.health.report ⟨status, details⟩).run s.system.world).1] }) := by
  have hworld : (worldPart W).get s = s.system.world := rfl
  unfold reportHealth
  rw [run_bind, run_attempt_all, run_zoom, hworld]
  generalize (c.health.report ⟨status, details⟩).run s.system.world = report
  obtain ⟨answer, w⟩ := report
  cases answer <;> rfl

variable (c) (allowed : AccessController.Operation → Prop)

theorem frames_works : Frames Anywhere (Works c allowed) where
  world _ _ _ := ⟨.refl, rfl⟩
  reader _ _ := ⟨.refl, rfl⟩
  stream _ _ := ⟨.refl, rfl⟩
  snapshot _ _ := ⟨.refl, rfl⟩
  reported _ _ _ := ⟨.refl, rfl⟩
  session _ _ := ⟨.refl, rfl⟩
  submitted _ _ := ⟨.refl, rfl⟩

theorem call_works {operation : AccessController.Operation} (h : allowed operation) :
    Within (Works c allowed) (zoom (systemPart W) (AccessController.call c.access operation)) :=
  fun s => ⟨.single ⟨_, operation, _, h, AccessController.call_called c.access operation s.system⟩, rfl⟩

end

/-- What asks the controller for nothing but `start`, `process` and `tick`. -/
def Operation.IsOrdinary : Operation → Prop
  | .handleFailure | .shutdown => False
  | _ => True

theorem perform_works {W : Type} (c : Wiring W) {operation : Operation} (h : operation.IsOrdinary) :
    Within (Works c AccessController.Operation.IsOrdinary) (perform c operation) := by
  have hframe := frames_works c AccessController.Operation.IsOrdinary
  have hports := c.keeps_anywhere
  have hstart : Within (Works c AccessController.Operation.IsOrdinary) (access c .start) :=
    (call_works c _ trivial).map _
  have haccess : ∀ operation, IsRoutine operation → Within (Works c AccessController.Operation.IsOrdinary)
      (zoom (systemPart W) (AccessController.call c.access operation)) := by
    intro operation hroutine
    refine call_works c _ ?_
    cases operation with
    | process record => trivial
    | tick => trivial
    | start | recoverableFailure | shutdown => exact absurd hroutine id
  cases operation with
  | start =>
    refine Within.bind hstart fun _ => ?_
    refine Within.bind (reportHealth_within hframe.toReports hports _ _) fun _ => ?_
    exact publishSnapshot_within hframe.toPublishes hports
  | runOnce => exact (runOnce_within haccess hframe hports).map _
  | cooperativeWait seconds => exact (cooperativeWait_within (access_within haccess trivial) hframe.toPublishes hports seconds).map _
  | recordReaderEvent event => exact recordReaderEvent_within hframe.toReports hports event
  | submit record => exact submit_within haccess hframe record
  | reportFault => exact reportHealth_within hframe.toReports hports _ _
  | handleFailure | shutdown => exact absurd h id

end Bridgewire.BridgewireRuntime
