import Bridgewire.Api.Server
import Bridgewire.Observation
import Bridgewire.Runtime.Model

/-!
# The steps of the runtime

The programs of `BridgewireRuntime` once more, taking their steps one by one: a
call of the controller, a health report, a port that is asked. Each shows the
program it is named after.
-/

namespace Bridgewire

open Observation

inductive ServiceAction
  /-- A report of the API's state, which may be one of its failure. -/
  | reportApi (state : ApiServerState) (failure : Bool)
  | reportReady
  | control (operation : AccessController.Operation)
  | other

namespace BridgewireRuntime

/-- A runtime and the steps it has taken. -/
abbrev Seen (W : Type) : Type := Observed ServiceAction (BridgewireRuntime W)

namespace Seen

abbrev Program (W α : Type) : Type := Effect Exn (Seen W) α

variable {W α : Type} (c : Wiring W)

def take (m : BridgewireRuntime.Program W α) : Program W α := step .other m

def access (operation : AccessController.Operation) : Program W Unit :=
  step (.control operation) (BridgewireRuntime.access c operation)

def publishSnapshot : Program W Unit := take (BridgewireRuntime.publishSnapshot c)

def tickAndPublish : Program W Unit := do
  access c .tick
  publishSnapshot c

def waitOut (onInterval : Program W Unit) (outcome : Except Exn Bool) : Nat → Program W Bool
  | 0 => take (Effect.of fun s => (outcome, s))
  | intervals + 1 => do
    onInterval
    waitOut onInterval outcome intervals

def cooperativeWait (seconds : ℚ) : Program W Bool := do
  let plan ← take (Effect.zoom (worldPart W) (Effect.reading (c.waiter.wait seconds)))
  waitOut (tickAndPublish c) plan.outcome plan.intervals

def host : ReaderSupervisor.Host (Seen W) W where
  own := (nowPart ServiceAction (BridgewireRuntime W)).comp (readerPart W)
  world := (nowPart ServiceAction (BridgewireRuntime W)).comp (worldPart W)
  emit event := take (BridgewireRuntime.recordReaderEvent c event)
  wait seconds := cooperativeWait c seconds
  note o s :=
    let now : BridgewireRuntime W := { s.now with log := s.now.log ++ [RuntimeOccurrence.reader o] }
    ⟨now, s.steps ++ [⟨.other, s.now, now⟩]⟩

def start : Program W Unit := do
  access c .start
  take (reportHealth c "degraded" [("reason", .text "reader_connecting")])
  publishSnapshot c

def submit (record : RecordResult) : Program W Unit :=
  step (.control (.process record)) (BridgewireRuntime.submit c record)

def submitAll : List RecordResult → Program W Unit
  | [] => pure ()
  | record :: records => do
    submit c record
    submitAll records

def poll : Program W Bool := do
  if (← get).now.reader.connected then
    let records ← ReaderSupervisor.readRecordsOnce (host c) c.reader
      ((nowPart ServiceAction (BridgewireRuntime W)).comp (streamPart W))
    submitAll c records
    access c .tick
    pure false
  else if ← ReaderSupervisor.connectUntilReady (host c) c.reader 1 then
    step .reportReady (reportHealth c "ready" [("reader", .text "connected")])
    pure true
  else pure false

def runOnce : Program W Bool := do
  access c .tick
  Effect.ensuring (poll c) (publishSnapshot c)

def reportFault : Program W Unit := take (BridgewireRuntime.reportFault c)

def handleFailure : Program W Unit := do
  access c .recoverableFailure
  publishSnapshot c

def gather (cleanup : Program W Unit) (failures : List Exn) : Program W (List Exn) := do
  match ← Effect.attempt (fun _ => true) cleanup with
  | .ok () => pure failures
  | .error e => pure (failures ++ [e])

def cleanUp : Program W (List Exn) := do
  let failures ← gather (access c .shutdown) []
  let failures ← gather (ReaderSupervisor.close (host c) c.reader) failures
  gather (take (reportHealth c "stopped" [])) failures

def shutdown : Program W Unit := do
  if (← get).now.shutdownComplete then pure ()
  else
    let failures ← cleanUp c
    if failures.isEmpty then
      take (modify fun s => { s with shutdownComplete := true })
      publishSnapshot c
    else
      publishSnapshot c
      throw (.group "runtime shutdown failed" failures)

end Seen

end BridgewireRuntime

-- ---------------------------------------------------------------------------
-- What the supervisor shows
-- ---------------------------------------------------------------------------

namespace ReaderSupervisor

/-- A host that shows another one. -/
structure Host.Shows {S' S W : Type} (view : S' → S) (host' : Host S' W) (host : Host S W) : Prop where
  own_get : ∀ o, host'.own.get o = host.own.get (view o)
  own_set : ∀ reader o, view (host'.own.set reader o) = host.own.set reader (view o)
  world_get : ∀ o, host'.world.get o = host.world.get (view o)
  world_set : ∀ w o, view (host'.world.set w o) = host.world.set w (view o)
  emit : ∀ event, Observation.Shows view (host'.emit event) (host.emit event)
  wait : ∀ seconds, Observation.Shows view (host'.wait seconds) (host.wait seconds)
  note : ∀ line o, view (host'.note line o) = host.note line (view o)

section
variable {S' S W : Type} {view : S' → S} {host' : Host S' W} {host : Host S W} (h : host'.Shows view host)
  {settings : Settings W}
include h

theorem assign_shows (change : ReaderSupervisor → ReaderSupervisor) :
    Shows view (assign host' change) (assign host change) :=
  shows_modify fun o => by rw [h.own_set, h.own_get]

theorem ask_shows {α : Type} (port : Port W α) : Shows view (ask host' port) (ask host port) :=
  shows_zoom h.world_get h.world_set port

theorem note_shows (line : ReaderOccurrence) : Shows view (note host' line) (note host line) :=
  shows_modify (h.note line)

theorem openSession_shows (device : SerialDevice) :
    Shows view (openSession host' settings device) (openSession host settings device) := by
  refine (ask_shows h _).bind ?_
  rintro (_ | session)
  · exact shows_throw _
  · exact (assign_shows h _).bind fun _ => note_shows h _

theorem connect_shows (discovery : DiscoveryResult) :
    Shows view (connect host' settings discovery) (connect host settings discovery) := by
  unfold connect
  split
  · exact shows_pure _
  · exact shows_pure _
  · split
    · exact shows_throw _
    · refine ((openSession_shows h _).attempt _).bind ?_
      rintro (e | ⟨⟨⟩⟩)
      · exact shows_pure _
      · exact shows_pure _

theorem becomeReady_shows (discovery : DiscoveryResult) :
    Shows view (becomeReady host' discovery) (becomeReady host discovery) := by
  refine Shows.get_bind fun o => ?_
  rw [h.own_get]
  exact (h.emit _).bind fun _ => assign_shows h _

theorem scheduleReconnect_shows :
    Shows view (scheduleReconnect host' settings) (scheduleReconnect host settings) := by
  refine Shows.get_bind fun o => ?_
  rw [h.own_get]
  refine (ask_shows h _).bind fun randomUnit => ?_
  split
  · exact shows_throw _
  · exact (h.emit _).bind fun _ => h.wait _

theorem becomeDegraded_shows (discovery : DiscoveryResult) (failure : ReaderEventType) :
    Shows view (becomeDegraded host' settings discovery failure) (becomeDegraded host settings discovery failure) := by
  refine (assign_shows h _).bind fun _ => Shows.get_bind fun o => ?_
  rw [h.own_get]
  refine (h.emit _).bind fun _ => Shows.get_bind fun o => ?_
  rw [h.own_get]
  dsimp only
  split
  · exact (h.emit _).bind fun _ => (assign_shows h _).bind fun _ => scheduleReconnect_shows h
  · exact scheduleReconnect_shows h

theorem connectUntilReady_shows (maximumAttempts : Nat) :
    Shows view (connectUntilReady host' settings maximumAttempts) (connectUntilReady host settings maximumAttempts) := by
  induction maximumAttempts with
  | zero => exact shows_pure _
  | succ maximumAttempts ih =>
    refine (assign_shows h _).bind fun _ => Shows.get_bind fun o => ?_
    rw [h.own_get]
    refine (h.emit _).bind fun _ => (ask_shows h _).bind fun devices => (connect_shows h _).bind ?_
    rintro (_ | failure)
    · exact (becomeReady_shows h _).bind fun _ => shows_pure _
    · refine (becomeDegraded_shows h _ _).bind fun answer => ?_
      split
      · exact ih
      · exact shows_pure _

theorem disconnect_shows : Shows view (disconnect host' settings) (disconnect host settings) := by
  refine Shows.get_bind fun o => ?_
  rw [h.own_get]
  split
  · exact shows_pure _
  · refine ((ask_shows h _).attempt _).bind ?_
    rintro (e | ⟨⟨⟩⟩)
    · exact (note_shows h _).bind fun _ => shows_throw _
    · exact (note_shows h _).bind fun _ => assign_shows h _

theorem acknowledge_shows : Shows view (acknowledge host' settings) (acknowledge host settings) := by
  unfold acknowledge
  split
  · exact (shows_pure _).bind fun _ => h.emit _
  · exact (ask_shows h _).bind fun reading => (assign_shows h _).bind fun _ => h.emit _

theorem readOnce_shows : Shows view (readOnce host' settings) (readOnce host settings) := by
  refine Shows.get_bind fun o => ?_
  rw [h.own_get]
  split
  · exact shows_pure _
  refine ((ask_shows h _).attempt _).bind ?_
  rintro (e | data)
  · dsimp only
    split
    all_goals exact (h.emit _).bind fun _ => (disconnect_shows h).bind fun _ => shows_pure _
  · refine (note_shows h _).bind fun _ => ?_
    split
    · exact (acknowledge_shows h).bind fun _ => shows_pure _
    · exact shows_pure _

theorem readRecordsOnce_shows {stream' : Component S' ReaderRecordStream} {stream : Component S ReaderRecordStream}
    (hget : ∀ o, stream'.get o = stream.get (view o)) (hset : ∀ t o, view (stream'.set t o) = stream.set t (view o)) :
    Shows view (readRecordsOnce host' settings stream') (readRecordsOnce host settings stream) := by
  refine (readOnce_shows h).bind ?_
  rintro (_ | data)
  · exact shows_pure _
  · dsimp only
    split
    · exact shows_pure _
    · refine Shows.get_bind fun o => ?_
      rw [hget]
      refine (shows_modify fun o => hset _ o).bind fun _ => ?_
      split
      · exact (h.emit _).bind fun _ => shows_pure _
      · exact shows_pure _

theorem close_shows : Shows view (close host' settings) (close host settings) :=
  (disconnect_shows h).bind fun _ => assign_shows h _

end

end ReaderSupervisor

-- ---------------------------------------------------------------------------
-- What the runtime shows
-- ---------------------------------------------------------------------------

namespace BridgewireRuntime.Seen

variable {W : Type} {c : Wiring W}

theorem take_shows {α : Type} (m : BridgewireRuntime.Program W α) : Shows Observed.now (take m) m := shows_step _ m

theorem tickAndPublish_shows : Shows Observed.now (tickAndPublish c) (BridgewireRuntime.tickAndPublish c) :=
  (shows_step _ _).bind fun _ => take_shows _

theorem waitOut_shows {onInterval' : Program W Unit} {onInterval : BridgewireRuntime.Program W Unit}
    (h : Shows Observed.now onInterval' onInterval) (outcome : Except Exn Bool) (intervals : Nat) :
    Shows Observed.now (waitOut onInterval' outcome intervals)
      (BridgewireRuntime.waitOut onInterval outcome intervals) := by
  induction intervals with
  | zero => exact take_shows _
  | succ intervals ih => exact h.bind fun _ => ih

theorem cooperativeWait_shows (seconds : ℚ) :
    Shows Observed.now (cooperativeWait c seconds) (BridgewireRuntime.cooperativeWait c seconds) :=
  (take_shows _).bind fun _ => waitOut_shows tickAndPublish_shows _ _

theorem host_shows : (host c).Shows Observed.now (BridgewireRuntime.host c) where
  own_get _ := rfl
  own_set _ _ := rfl
  world_get _ := rfl
  world_set _ _ := rfl
  emit _ := take_shows _
  wait := cooperativeWait_shows
  note _ _ := rfl

theorem start_shows : Shows Observed.now (start c) (BridgewireRuntime.start c) :=
  (shows_step _ _).bind fun _ => (take_shows _).bind fun _ => take_shows _

theorem submitAll_shows (records : List RecordResult) :
    Shows Observed.now (submitAll c records) (BridgewireRuntime.submitAll c records) := by
  induction records with
  | nil => exact shows_pure _
  | cons record records ih => exact (shows_step _ _).bind fun _ => ih

theorem poll_shows : Shows Observed.now (poll c) (BridgewireRuntime.poll c) := by
  refine Shows.get_bind fun o => ?_
  split
  · refine (ReaderSupervisor.readRecordsOnce_shows host_shows (fun _ => rfl) fun _ _ => rfl).bind fun records => ?_
    exact (submitAll_shows records).bind fun _ => (shows_step _ _).bind fun _ => shows_pure _
  · refine (ReaderSupervisor.connectUntilReady_shows host_shows 1).bind fun answer => ?_
    split
    · exact (shows_step _ _).bind fun _ => shows_pure _
    · exact shows_pure _

theorem runOnce_shows : Shows Observed.now (runOnce c) (BridgewireRuntime.runOnce c) :=
  (shows_step _ _).bind fun _ => poll_shows.ensuring (take_shows _)

theorem handleFailure_shows : Shows Observed.now (handleFailure c) (BridgewireRuntime.handleFailure c) :=
  (shows_step _ _).bind fun _ => take_shows _

theorem gather_shows {cleanup' : Program W Unit} {cleanup : BridgewireRuntime.Program W Unit}
    (h : Shows Observed.now cleanup' cleanup) (failures : List Exn) :
    Shows Observed.now (gather cleanup' failures) (BridgewireRuntime.gather cleanup failures) := by
  refine (h.attempt _).bind ?_
  rintro (e | ⟨⟨⟩⟩)
  · exact shows_pure _
  · exact shows_pure _

theorem cleanUp_shows : Shows Observed.now (cleanUp c) (BridgewireRuntime.cleanUp c) := by
  refine (gather_shows (shows_step _ _) _).bind fun failures => ?_
  refine (gather_shows (ReaderSupervisor.close_shows host_shows) _).bind fun failures => ?_
  exact gather_shows (take_shows _) _

theorem shutdown_shows : Shows Observed.now (shutdown c) (BridgewireRuntime.shutdown c) := by
  refine Shows.get_bind fun o => ?_
  split
  · exact shows_pure _
  · refine cleanUp_shows.bind fun failures => ?_
    split
    · exact (take_shows _).bind fun _ => take_shows _
    · exact (take_shows _).bind fun _ => shows_throw _

end BridgewireRuntime.Seen

end Bridgewire
