import Bridgewire.Runtime.Door

/-!
# What every operation keeps

The operations of a runtime are made of a few parts. What all of these keep
is kept by every operation, whether it returns or raises.
-/

namespace Bridgewire.BridgewireRuntime

open Effect

/-- The parts that are not about the reader keep `R`. -/
structure Shell {W : Type} (c : Wiring W) (R : BridgewireRuntime W → BridgewireRuntime W → Prop) : Prop where
  submitted : ∀ s record, R s { s with log := s.log ++ [RuntimeOccurrence.submitted record] }
  completed : ∀ s, R s { s with shutdownComplete := true }
  call : ∀ operation, Within R (zoom (systemPart W) (AccessController.call c.access operation))
  reports : ∀ status details, Within R (reportHealth c status details)
  audits : ∀ event, Within R (auditReaderEvent c event)
  publishes : Within R (publishSnapshot c)

/-- And so does what is asked of the reader. -/
structure Acts {W : Type} (c : Wiring W) (R : BridgewireRuntime W → BridgewireRuntime W → Prop) : Prop
    extends Shell c R where
  awaits : ∀ seconds, Within R (cooperativeWait c seconds)
  polls : Within R (poll c)
  closes : Within R (ReaderSupervisor.close (host c) c.reader)

/-- The parts of the operations keep `R`, as long as the world keeps `V`. -/
structure Parts {W : Type} (c : Wiring W) (V : W → W → Prop)
    (R : BridgewireRuntime W → BridgewireRuntime W → Prop) : Prop extends Shell c R where
  reads : c.reader.Keeps V
  waits : ∀ seconds w, V w (c.waiter.wait seconds w).2
  world : ∀ s w, V s.system.world w → R s ((worldPart W).set w s)
  reader : ∀ s reader, R s { s with reader }
  stream : ∀ s stream, R s { s with stream }
  session : ∀ s o, R s { s with log := s.log ++ [RuntimeOccurrence.reader o] }

section
variable {W : Type} {c : Wiring W} {V : W → W → Prop} {R : BridgewireRuntime W → BridgewireRuntime W → Prop}
  [IsPreorder (BridgewireRuntime W) R]

namespace Shell

variable (h : Shell c R)
include h

theorem accesses (operation : AccessController.Operation) : Within R (access c operation) :=
  (h.call operation).map _

theorem emits (event : ReaderEvent) : Within R (recordReaderEvent c event) := by
  unfold recordReaderEvent
  dsimp only
  split
  · exact Within.bind (h.reports _ _) fun _ => h.audits event
  · exact h.audits event

theorem ticks : Within R (tickAndPublish c) := Within.bind (h.accesses .tick) fun _ => h.publishes

theorem submit (record : RecordResult) : Within R (submit c record) := by
  intro s
  rw [submit_run]
  exact trans_of R (h.submitted s record) (h.call (.process record) _)

theorem submitAll (records : List RecordResult) : Within R (submitAll c records) := by
  induction records with
  | nil => exact within_pure _
  | cons record records ih => exact Within.bind (h.submit record) fun _ => ih

omit h in
theorem gather {cleanup : Program W Unit} (hcleanup : Within R cleanup) (failures : List Exn) :
    Within R (gather cleanup failures) := by
  refine Within.bind (hcleanup.attempt _) ?_
  rintro (e | ⟨⟨⟩⟩)
  · exact within_pure _
  · exact within_pure _

end Shell

namespace Acts

variable (h : Acts c R)
include h

theorem runOnce : Within R (runOnce c) :=
  Within.bind (h.accesses .tick) fun _ => Within.ensuring h.polls h.publishes

theorem cleanUp : Within R (cleanUp c) := by
  refine Within.bind (Shell.gather (h.accesses .shutdown) _) fun failures => ?_
  refine Within.bind (Shell.gather h.closes _) fun failures => ?_
  exact Shell.gather (h.reports _ _) _

theorem shutdown : Within R (shutdown c) := by
  refine Within.get_bind fun s => ?_
  split
  · exact within_pure _
  refine Within.bind h.cleanUp fun failures => ?_
  split
  · exact Within.bind (within_modify h.completed) fun _ => h.publishes
  · exact Within.bind h.publishes fun _ => within_throw _

theorem perform (operation : Operation) : Within R (perform c operation) := by
  cases operation with
  | start => exact Within.bind (h.accesses .start) fun _ => Within.bind (h.reports _ _) fun _ => h.publishes
  | runOnce => exact h.runOnce.map _
  | cooperativeWait seconds => exact (h.awaits seconds).map _
  | recordReaderEvent event => exact h.emits event
  | submit record => exact h.submit record
  | reportFault => exact h.reports _ _
  | handleFailure => exact Within.bind (h.accesses _) fun _ => h.publishes
  | shutdown => exact h.shutdown

theorem after (operations : List Operation) (s : BridgewireRuntime W) : R s (after c operations s) := by
  induction operations generalizing s with
  | nil => exact refl_of R s
  | cons operation operations ih => exact trans_of R (h.perform operation s) (ih _)

end Acts

namespace Parts

variable (h : Parts c V R)
include h

theorem awaits (seconds : ℚ) : Within R (cooperativeWait c seconds) :=
  Within.bind (Within.zoom (within_reading (h.waits seconds)) h.world) fun _ => waitOut_within h.ticks _ _

theorem hosts : (host c).Keeps V R where
  own := h.reader
  world := h.world
  note := h.session
  emit := h.emits
  wait := h.awaits

theorem polls : Within R (poll c) := by
  refine Within.get_bind fun s => ?_
  split
  · refine Within.bind (ReaderSupervisor.readRecordsOnce_within h.hosts h.reads h.stream) fun records => ?_
    exact Within.bind (h.submitAll records) fun _ => Within.bind (h.accesses .tick) fun _ => within_pure _
  · refine Within.bind (ReaderSupervisor.connectUntilReady_within h.hosts h.reads 1) fun ready => ?_
    split
    · exact Within.bind (h.reports _ _) fun _ => within_pure _
    · exact within_pure _

theorem acts : Acts c R where
  toShell := h.toShell
  awaits := h.awaits
  polls := h.polls
  closes := ReaderSupervisor.close_within h.hosts h.reads

theorem after (operations : List Operation) (s : BridgewireRuntime W) : R s (after c operations s) :=
  h.acts.after operations s

end Parts

end

-- ---------------------------------------------------------------------------
-- What is about the controller alone
-- ---------------------------------------------------------------------------

section
variable {W : Type} {R : AccessController.System W → AccessController.System W → Prop}
  [IsPreorder (AccessController.System W) R]

/-- The controllers of the two states are in `R`. -/
def OnSystem (R : AccessController.System W → AccessController.System W → Prop) (s s' : BridgewireRuntime W) : Prop :=
  R s.system s'.system

instance : IsPreorder (BridgewireRuntime W) (OnSystem R) where
  refl s := refl_of R s.system
  trans _ _ _ := trans_of R

theorem tells_system (hworld : ∀ s w, R s { s with world := w }) : Tells Anywhere (OnSystem R) where
  world s w _ := hworld s.system w
  reported s _ _ := refl_of R s.system

/-- What its calls keep, every operation keeps. -/
theorem parts_system {c : Wiring W} (hworld : ∀ s w, R s { s with world := w })
    (hcall : ∀ operation, Within R (AccessController.call c.access operation)) : Parts c Anywhere (OnSystem R) where
  reads := c.keeps_anywhere.reader
  waits := c.keeps_anywhere.wait
  world := (tells_system hworld).world
  reader s _ := refl_of R s.system
  stream s _ := refl_of R s.system
  session s _ := refl_of R s.system
  submitted s _ := refl_of R s.system
  completed s := refl_of R s.system
  call operation := Within.zoom (hcall operation) fun _ _ h => h
  reports := reportHealth_tells (tells_system hworld) c.keeps_anywhere
  audits := auditReaderEvent_tells (tells_system hworld) c.keeps_anywhere
  publishes := publishSnapshot_within ⟨fun s w _ => hworld s.system w, fun s _ => refl_of R s.system⟩ c.keeps_anywhere

end

end Bridgewire.BridgewireRuntime
