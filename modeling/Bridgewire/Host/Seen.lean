import Bridgewire.Host.Model
import Bridgewire.Runtime.Seen

/-!
# The steps of the host

`run_hardware_service` once more, over a runtime whose steps are seen. What the
host does besides its runtime is no step.
-/

namespace Bridgewire

open Observation

namespace HardwareService

/-- A host and the steps that its runtime has taken. -/
structure Seen (W : Type) where
  host : HardwareService W
  steps : List (Step ServiceAction (BridgewireRuntime (Pins W)))

namespace Seen

abbrev Program (W α : Type) : Type := Effect Exn (Seen W) α

def hostPart (W : Type) : Component (Seen W) (HardwareService W) where
  get s := s.host
  set host s := { s with host }
  get_set _ _ := rfl
  set_get _ := rfl
  set_set _ _ _ := rfl

def runtimePart (W : Type) : Component (Seen W) (BridgewireRuntime.Seen (Pins W)) where
  get s := ⟨s.host.runtime, s.steps⟩
  set seen s := ⟨{ s.host with runtime := seen.now }, seen.steps⟩
  get_set _ _ := rfl
  set_get _ := rfl
  set_set _ _ _ := rfl

variable {W α : Type}

def quietly (m : HardwareService.Program W α) : Program W α := Effect.zoom (hostPart W) m

def onRuntime (m : BridgewireRuntime.Seen.Program (Pins W) α) : Program W α := Effect.zoom (runtimePart W) m

def keepGoing (action : Program W Unit) : Program W Unit := do
  match ← Effect.attempt (fun _ => true) action with
  | .ok () => pure ()
  | .error e => quietly (fail e)

variable (env : Environment W) (config : SystemConfiguration) (c : BridgewireRuntime.Wiring (Pins W))

def reportApiState (state : ApiServerState) (failure : Bool) : Program W Unit := do
  quietly (modify fun s => { s with apiState := state })
  let status :=
    if failure then "degraded" else if state = .running then "ready"
    else if state.isStopped then "stopped" else "degraded"
  let accessControl := if state.isStopped then "stopped" else "operational"
  match ← Effect.attempt (fun _ => true) (onRuntime (step (.reportApi state failure)
      (BridgewireRuntime.reportHealth c status
        [("access_control", .text accessControl), ("api", .api config.api.enabled state.value)]))) with
  | .ok () => pure ()
  | .error e =>
    if (← get).host.observedApiFailures.contains e.identity then pure ()
    else
      quietly (modify fun s => { s with observedApiFailures := e.identity :: s.observedApiFailures })
      quietly (fail e)

def retainApiFailure (e : Exn) (state : ApiServerState) : Program W Unit := do
  if (← get).host.observedApiFailures.contains e.identity then pure ()
  else
    quietly (modify fun s => { s with observedApiFailures := e.identity :: s.observedApiFailures })
    quietly (fail e)
    reportApiState config c state true

def retainAll (state : ApiServerState) : List Exn → Program W Unit
  | [] => pure ()
  | e :: failures => do
    retainApiFailure config c e state
    retainAll state failures

def observeApi : Program W Unit := do
  if (← get).host.hasApi then
    let snapshot ← quietly (ask env.api.snapshot)
    if snapshot.state ≠ (← get).host.apiState ∧ (snapshot.state.isFailure = false ∨ snapshot.failures = []) then
      reportApiState config c snapshot.state snapshot.state.isFailure
    retainAll config c snapshot.state snapshot.failures

def openApi : Program W Unit := do
  quietly (ask env.buildApi)
  quietly (modify fun s => { s with hasApi := true })
  reportApiState config c .starting false
  quietly (ask env.api.start)
  observeApi env config c

def startApi : Program W Unit := do
  match ← Effect.attempt Exn.isException (openApi env config c) with
  | .ok () => pure ()
  | .error e =>
    if (← get).host.hasApi then
      let snapshot ← quietly (ask env.api.snapshot)
      retainApiFailure config c e snapshot.state
    else retainApiFailure config c e .startFailed

def announce : Program W Unit := do
  quietly (ask env.printReady)
  if config.api.enabled then reportApiState config c (← get).host.apiState false
  else onRuntime (step .reportReady (BridgewireRuntime.reportHealth c "ready"
    [("reader", .text "connected"), ("api", .api false "disabled")]))

def run (onReady onIteration : Program W Unit) : Nat → Program W Unit
  | 0 => pure ()
  | rounds + 1 => do
    if ← onRuntime (BridgewireRuntime.Seen.runOnce c) then onReady
    onIteration
    run onReady onIteration rounds

def operate (rounds : Nat) : Program W Unit := do
  onRuntime (BridgewireRuntime.Seen.start c)
  if config.api.enabled then startApi env config c
  else onRuntime (BridgewireRuntime.Seen.take (BridgewireRuntime.reportHealth c "degraded"
    [("reason", .text "reader_connecting"), ("api", .api false "disabled")]))
  run c (announce env config c) (if config.api.enabled then observeApi env config c else pure ()) rounds

def body (rounds : Nat) : Program W Unit := do
  let c ← quietly (assemble env config)
  operate env config c rounds

def handle (e : Exn) : Program W Unit := do
  quietly (fail e)
  match (← get).host.wiring with
  | none => pure ()
  | some c =>
    keepGoing (onRuntime (BridgewireRuntime.Seen.reportFault c))
    keepGoing (onRuntime (BridgewireRuntime.Seen.handleFailure c))

def secure : Program W Unit := do
  match (← get).host.wiring with
  | none => pure ()
  | some c => keepGoing (onRuntime (BridgewireRuntime.Seen.shutdown c))
  if (← get).host.hasRelay then
    keepGoing (quietly (Effect.zoom (pinsPart W) (RaspberryPiRelay.cleanup env.gpio)))

def stopApi : Program W Unit := do
  match ← Effect.attempt (fun _ => true) (quietly (ask env.api.stop)) with
  | .ok () => pure ()
  | .error e =>
    let snapshot ← quietly (ask env.api.snapshot)
    retainApiFailure config c e snapshot.state
  observeApi env config c

def close : Program W Unit := do
  let s := (← get).host
  match s.wiring with
  | some c => if s.hasApi then stopApi env config c
  | none => pure ()
  if (← get).host.hasAudit then keepGoing (quietly (ask env.closeAudit))

def serve (rounds : Nat) : Program W Unit := do
  match ← Effect.attempt (fun _ => true) (body env config rounds) with
  | .ok () => pure ()
  | .error e => handle e
  secure env

def runHardwareService (rounds : Nat) : Program W Int := do
  let config ← quietly (enter env)
  serve env config rounds
  close env config
  quietly result

-- ---------------------------------------------------------------------------
-- What it shows
-- ---------------------------------------------------------------------------

theorem quietly_shows (m : HardwareService.Program W α) : Shows Seen.host (quietly m) m := fun _ => ⟨rfl, rfl⟩

theorem onRuntime_shows {m' : BridgewireRuntime.Seen.Program (Pins W) α} {m : BridgewireRuntime.Program (Pins W) α}
    (h : Shows Observed.now m' m) : Shows Seen.host (onRuntime m') (HardwareService.onRuntime m) := by
  intro o
  obtain ⟨hanswer, hstate⟩ := h ⟨o.host.runtime, o.steps⟩
  exact ⟨hanswer, congrArg (fun runtime => { o.host with runtime }) hstate⟩

theorem keepGoing_shows {action' : Program W Unit} {action : HardwareService.Program W Unit}
    (h : Shows Seen.host action' action) : Shows Seen.host (keepGoing action') (HardwareService.keepGoing action) := by
  refine (h.attempt _).bind ?_
  rintro (e | ⟨⟨⟩⟩)
  · exact quietly_shows _
  · exact shows_pure _

variable {env config c}

theorem reportApiState_shows (state : ApiServerState) (failure : Bool) :
    Shows Seen.host (reportApiState config c state failure) (HardwareService.reportApiState config c state failure) := by
  refine (quietly_shows _).bind fun _ => ((onRuntime_shows (shows_step _ _)).attempt _).bind ?_
  rintro (e | ⟨⟨⟩⟩)
  · refine Shows.get_bind fun o => ?_
    split
    · exact shows_pure _
    · exact (quietly_shows _).bind fun _ => quietly_shows _
  · exact shows_pure _

theorem retainApiFailure_shows (e : Exn) (state : ApiServerState) :
    Shows Seen.host (retainApiFailure config c e state) (HardwareService.retainApiFailure config c e state) := by
  refine Shows.get_bind fun o => ?_
  split
  · exact shows_pure _
  · exact (quietly_shows _).bind fun _ => (quietly_shows _).bind fun _ => reportApiState_shows _ _

theorem retainAll_shows (state : ApiServerState) (failures : List Exn) :
    Shows Seen.host (retainAll config c state failures) (HardwareService.retainAll config c state failures) := by
  induction failures with
  | nil => exact shows_pure _
  | cons e failures ih => exact (retainApiFailure_shows e state).bind fun _ => ih

theorem observeApi_shows : Shows Seen.host (observeApi env config c) (HardwareService.observeApi env config c) := by
  refine Shows.get_bind fun o => ?_
  split
  · refine (quietly_shows _).bind fun snapshot => Shows.get_bind fun o => ?_
    dsimp only
    split
    · exact (reportApiState_shows _ _).bind fun _ => retainAll_shows _ _
    · exact retainAll_shows _ _
  · exact shows_pure _

theorem openApi_shows : Shows Seen.host (openApi env config c) (HardwareService.openApi env config c) :=
  (quietly_shows _).bind fun _ => (quietly_shows _).bind fun _ => (reportApiState_shows _ _).bind fun _ =>
    (quietly_shows _).bind fun _ => observeApi_shows

theorem startApi_shows : Shows Seen.host (startApi env config c) (HardwareService.startApi env config c) := by
  refine (openApi_shows.attempt _).bind ?_
  rintro (e | ⟨⟨⟩⟩)
  · refine Shows.get_bind fun o => ?_
    split
    · exact (quietly_shows _).bind fun snapshot => retainApiFailure_shows _ _
    · exact retainApiFailure_shows _ _
  · exact shows_pure _

theorem announce_shows : Shows Seen.host (announce env config c) (HardwareService.announce env config c) := by
  refine (quietly_shows _).bind fun _ => ?_
  split
  · exact Shows.get_bind fun o => reportApiState_shows _ _
  · exact onRuntime_shows (shows_step _ _)

theorem run_shows {onReady' onIteration' : Program W Unit} {onReady onIteration : HardwareService.Program W Unit}
    (hready : Shows Seen.host onReady' onReady) (hiteration : Shows Seen.host onIteration' onIteration) (rounds : Nat) :
    Shows Seen.host (run c onReady' onIteration' rounds)
      (BridgewireRuntime.run c (HardwareService.runtimePart W) onReady onIteration rounds) := by
  induction rounds with
  | zero => exact shows_pure _
  | succ rounds ih =>
    refine (onRuntime_shows BridgewireRuntime.Seen.runOnce_shows).bind fun ready => ?_
    dsimp only
    split
    · exact hready.bind fun _ => hiteration.bind fun _ => ih
    · exact hiteration.bind fun _ => ih

theorem operate_shows (rounds : Nat) :
    Shows Seen.host (operate env config c rounds) (HardwareService.operate env config c rounds) := by
  refine (onRuntime_shows BridgewireRuntime.Seen.start_shows).bind fun _ => ?_
  dsimp only
  split
  · exact startApi_shows.bind fun _ => run_shows announce_shows observeApi_shows rounds
  · exact (onRuntime_shows (shows_step _ _)).bind fun _ => run_shows announce_shows (shows_pure _) rounds

theorem body_shows (rounds : Nat) : Shows Seen.host (body env config rounds) (HardwareService.body env config rounds) :=
  (quietly_shows _).bind fun _ => operate_shows rounds

theorem handle_shows (e : Exn) : Shows Seen.host (handle e : Program W Unit) (HardwareService.handle e) := by
  refine (quietly_shows _).bind fun _ => Shows.get_bind fun o => ?_
  cases o.host.wiring with
  | none => exact shows_pure _
  | some c =>
    exact (keepGoing_shows (onRuntime_shows (shows_step _ _))).bind fun _ =>
      keepGoing_shows (onRuntime_shows BridgewireRuntime.Seen.handleFailure_shows)

theorem secure_shows : Shows Seen.host (secure env) (HardwareService.secure env) := by
  have hcleanup : Shows Seen.host (do
      if (← get).host.hasRelay then
        keepGoing (quietly (Effect.zoom (pinsPart W) (RaspberryPiRelay.cleanup env.gpio))) : Program W Unit)
      (do
        if (← get).hasRelay then
          HardwareService.keepGoing (Effect.zoom (pinsPart W) (RaspberryPiRelay.cleanup env.gpio))) := by
    refine Shows.get_bind fun o => ?_
    split
    · exact keepGoing_shows (quietly_shows _)
    · exact shows_pure _
  refine Shows.get_bind fun o => ?_
  cases o.host.wiring with
  | none => exact hcleanup
  | some c => exact (keepGoing_shows (onRuntime_shows BridgewireRuntime.Seen.shutdown_shows)).bind fun _ => hcleanup

theorem stopApi_shows : Shows Seen.host (stopApi env config c) (HardwareService.stopApi env config c) := by
  refine ((quietly_shows _).attempt _).bind ?_
  rintro (e | ⟨⟨⟩⟩)
  · exact (quietly_shows _).bind fun snapshot => (retainApiFailure_shows _ _).bind fun _ => observeApi_shows
  · exact observeApi_shows

theorem close_shows : Shows Seen.host (close env config) (HardwareService.close env config) := by
  have haudit : Shows Seen.host (do
      if (← get).host.hasAudit then keepGoing (quietly (ask env.closeAudit)) : Program W Unit)
      (do if (← get).hasAudit then HardwareService.keepGoing (ask env.closeAudit)) := by
    refine Shows.get_bind fun o => ?_
    split
    · exact keepGoing_shows (quietly_shows _)
    · exact shows_pure _
  refine Shows.get_bind fun o => ?_
  dsimp only
  cases o.host.wiring with
  | none => exact haudit
  | some c =>
    dsimp only
    split
    · exact stopApi_shows.bind fun _ => haudit
    · exact haudit

theorem serve_shows (rounds : Nat) :
    Shows Seen.host (serve env config rounds) (HardwareService.serve env config rounds) := by
  refine ((body_shows rounds).attempt _).bind ?_
  rintro (e | ⟨⟨⟩⟩)
  · exact (handle_shows e).bind fun _ => secure_shows
  · exact secure_shows

/-- The observed host returns what the host returns, and ends as it ends. -/
theorem runHardwareService_shows (rounds : Nat) :
    Shows Seen.host (runHardwareService env rounds) (HardwareService.runHardwareService env rounds) :=
  (quietly_shows _).bind fun _ => (serve_shows rounds).bind fun _ => close_shows.bind fun _ => quietly_shows _

end Seen

end HardwareService

end Bridgewire
