import Bridgewire.Runtime.Parts
import Bridgewire.Runtime.Shutdown
import Bridgewire.Runtime.Status

/-!
# The health endpoint

`ReadOnlyQueryService.health` over the operational store of a runtime: what it
answers after an iteration, and that it never calls a door healthy that has
been shut down.
-/

namespace Bridgewire

open Effect

structure HealthSnapshot where
  status : String
  controllerState : Option ControllerState
  readerHealth : Option ReaderHealthState
  operationalSnapshotStale : Bool
  deriving DecidableEq, Repr

def HealthSnapshot.healthy (health : HealthSnapshot) : Bool := health.status = "healthy"

/-- What `health` asks of a status. -/
def StatusSnapshot.isHealthy (snapshot : StatusSnapshot) (staleAfter : ℚ) : Bool :=
  snapshot.snapshotAgeSeconds < staleAfter ∧
    (snapshot.controllerState = .ready ∨ snapshot.controllerState = .released) ∧
    snapshot.readerHealth = .ready ∧ snapshot.authorizationLoaded = true

namespace ReadOnlyQueryService

/-- `health`, with what the operational store holds: it catches what only an
empty store raises. -/
def health {V : Type} (status : StatusService V) (staleAfter : ℚ) : Option OperationalSnapshot → Port V HealthSnapshot
  | none => pure ⟨"unavailable", none, none, true⟩
  | some operational => do
    let snapshot ← status.snapshot (some operational)
    let stale : Bool := staleAfter ≤ snapshot.snapshotAgeSeconds
    pure
      { status := if snapshot.isHealthy staleAfter then "healthy" else "degraded"
        controllerState := snapshot.controllerState
        readerHealth := snapshot.readerHealth
        operationalSnapshotStale := stale }

end ReadOnlyQueryService

/-- Microseconds between two times, in seconds, and no less than none. -/
def ageAt (now time : DateTime) : ℚ := max 0 (((now.instant - time.instant : Int) : ℚ) / 1000000)

/-- What an answer is made of. -/
theorem StatusService.snapshot_told {V : Type} (service : StatusService V) {operational : OperationalSnapshot}
    (haware : operational.publishedAt.isAware = true) (v : V) :
    Triple (service.snapshot (some operational)) v
      (fun status _ => status.controllerState = operational.controller.state ∧
        status.readerHealth = operational.reader.healthState ∧
        (∃ authorization, (service.authorization.run v).1 = .ok authorization ∧
          status.authorizationLoaded = authorization.loaded) ∧
        status.snapshotAgeSeconds = ageAt (service.queriedAt v) operational.publishedAt) (fun _ _ => True) := by
  refine Triple.bind (Triple.mono (triple_run service.authorization v) (fun _ _ hrun => hrun) fun _ _ _ => trivial)
    fun authorization w hrun => ?_
  obtain rfl : (service.authorization.run v).2 = w := congrArg Prod.snd hrun
  refine Triple.bind (P := fun now _ => now = service.queriedAt v) rfl fun now w hnow => ?_
  subst hnow
  refine Triple.bind (Triple.mono (secondsSince_ends haware) (fun _ _ h => h) fun _ _ h => h) ?_
  rintro _ w rfl
  refine Triple.bind (triple_any _ _) fun recordAge w _ => ?_
  refine Triple.bind (triple_any _ _) fun latestEventTime w _ => ?_
  refine Triple.bind (triple_any _ _) fun pendingCount w _ => ?_
  exact ⟨rfl, rfl, ⟨authorization, congrArg Prod.fst hrun, rfl⟩, rfl⟩

namespace ReadOnlyQueryService

variable {V : Type} {service : StatusService V} {staleAfter : ℚ} {operational : OperationalSnapshot} {v : V}
  {health : HealthSnapshot}

/-- When the answer is healthy. -/
theorem healthy_iff (haware : operational.publishedAt.isAware = true)
    (h : ((ReadOnlyQueryService.health service staleAfter (some operational)).run v).1 = .ok health) :
    health.healthy = true ↔
      (operational.controller.state = .ready ∨ operational.controller.state = .released) ∧
        operational.reader.healthState = .ready ∧
        (∃ authorization, (service.authorization.run v).1 = .ok authorization ∧ authorization.loaded = true) ∧
        ageAt (service.queriedAt v) operational.publishedAt < staleAfter := by
  have htold : Triple (ReadOnlyQueryService.health service staleAfter (some operational)) v
      (fun health _ => health.healthy = true ↔
        (operational.controller.state = .ready ∨ operational.controller.state = .released) ∧
          operational.reader.healthState = .ready ∧
          (∃ authorization, (service.authorization.run v).1 = .ok authorization ∧ authorization.loaded = true) ∧
          ageAt (service.queriedAt v) operational.publishedAt < staleAfter) (fun _ _ => True) := by
    refine Triple.bind (service.snapshot_told haware v) ?_
    rintro status w ⟨hstate, hreader, ⟨authorization, hauthorization, hloaded⟩, hage⟩
    have hsame : status.isHealthy staleAfter = true ↔
        (operational.controller.state = .ready ∨ operational.controller.state = .released) ∧
          operational.reader.healthState = .ready ∧
          (∃ authorization, (service.authorization.run v).1 = .ok authorization ∧ authorization.loaded = true) ∧
          ageAt (service.queriedAt v) operational.publishedAt < staleAfter := by
      unfold StatusSnapshot.isHealthy
      rw [hstate, hreader, hloaded, hage, decide_eq_true_iff]
      constructor
      · rintro ⟨hfresh, hopen, hready, hload⟩
        exact ⟨hopen, hready, ⟨authorization, hauthorization, hload⟩, hfresh⟩
      · rintro ⟨hopen, hready, ⟨authorization', hauthorization', hload⟩, hfresh⟩
        obtain rfl : authorization = authorization' := Except.ok.inj (hauthorization.symm.trans hauthorization')
        exact ⟨hfresh, hopen, hready, hload⟩
    refine Iff.trans ?_ hsame
    unfold HealthSnapshot.healthy
    cases status.isHealthy staleAfter <;> simp
  exact htold.returned h

end ReadOnlyQueryService

namespace AccessController

section
variable {v v' : DoorView}

/-- No call opens a controller again. -/
theorem Called.stays_closed {W : Type} {c : Wiring W} {reading : ℚ} {operation : Operation}
    {outcome : Except Exn (Option AccessResult)} (h : Called c reading v operation outcome v')
    (hv : v.state.IsClosed) : v'.state.IsClosed := by
  have hready : v.state ≠ .ready := fun h => by simp [h] at hv
  have hreleased : v.state ≠ .released := fun h => by simp [h] at hv
  have hinitializing : v.state ≠ .initializing := fun h => by simp [h] at hv
  cases h with
  | start h =>
    cases h with
    | running | refused => exact hv
    | setupRejected hinit | setupInterrupted hinit | lowRejected hinit | lowInterrupted hinit | ready hinit =>
      exact absurd hinit hinitializing
  | process h =>
    cases h with
    | refused => exact hv
    | settled h => exact (h.elim hready hreleased).elim
    | alreadyReleased h => exact absurd h hreleased
    | asserted h | interrupted h | unlogged h | lowRaised h | failed h => exact absurd h hready
  | tick h =>
    cases h with
    | idle => exact hv
    | early h | restored h | rejected h | interrupted h => exact absurd h hreleased
  | recoverableFailure h =>
    cases h with
    | lowRaised hlow =>
      rw [TriedLow.state_eq hlow]
      exact hv
    | faulted => trivial
  | shutdown h => exact h.closes

end

end AccessController

namespace BridgewireRuntime

open AccessController (DoorView)

variable {W : Type}

/-- There is a store, and the times are aware: what is published is stored. -/
structure Wiring.Publishing (c : Wiring W) : Prop where
  hasStore : c.hasStore = true
  aware : ∀ w, (c.clock.now w).1.isAware = true

/-- The store holds the state of the controller and of the reader. -/
def UpToDate (s : BridgewireRuntime W) : Prop :=
  ∃ published, s.snapshot = some published ∧ published.publishedAt.isAware = true ∧
    published.controller.state = s.system.controller.state ∧ published.reader.healthState = s.reader.healthState

variable {c : Wiring W}

theorem of_aware (controller : ControllerSnapshot) (reader : ReaderSnapshot) {time : DateTime}
    (h : time.isAware = true) : ∃ published, OperationalSnapshot.of controller reader time = .ok published := by
  obtain ⟨offset, hoffset⟩ := Option.isSome_iff_exists.mp h
  unfold OperationalSnapshot.of
  rw [hoffset]
  exact ⟨_, rfl⟩

theorem controllerSnapshot_tells (s : BridgewireRuntime W) {E : Exn → BridgewireRuntime W → Prop} :
    Triple (zoom (systemPart W) (AccessController.snapshot c.access)) s
      (fun controller s' => controller.state = s.system.controller.state ∧
        s'.system.controller = s.system.controller ∧ s'.reader = s.reader) E := by
  obtain ⟨⟨⟨state, deadline, high, last, escalation⟩, world, trace⟩, reader, stream, complete, snapshot, log⟩ := s
  cases deadline <;> exact ⟨rfl, rfl, rfl⟩

theorem readerSnapshot_tells (s : BridgewireRuntime W) {E : Exn → BridgewireRuntime W → Prop} :
    Triple (ReaderSupervisor.snapshot (readerPart W) (worldPart W) c.reader) s
      (fun reader s' => reader.healthState = s.reader.healthState ∧
        s'.system.controller = s.system.controller ∧ s'.reader = s.reader) E := by
  obtain ⟨access, ⟨identity, enumerate, opener, read, closer, backoff, threshold, random, monotonic, hpos, delay⟩, health,
    audit, clock, uuid4, maximum, waiter, hasStore⟩ := c
  obtain ⟨system, ⟨session, attempt, had, repeated, lastRecordAt, health'⟩, stream, complete, snapshot, log⟩ := s
  cases lastRecordAt <;> cases monotonic <;> exact ⟨rfl, rfl, rfl⟩

/-- Only a naive time keeps a publication from the store. -/
theorem publishSnapshot_stores (hstore : c.hasStore = true) (s : BridgewireRuntime W) :
    Triple (publishSnapshot c) s
      (fun _ s' => UpToDate s' ∧ s'.system.controller = s.system.controller ∧ s'.reader = s.reader)
      (fun _ _ => ∃ w, (c.clock.now w).1.isAware = false) := by
  unfold publishSnapshot
  rw [if_pos hstore]
  refine Triple.bind (controllerSnapshot_tells s) ?_
  rintro controller s₁ ⟨hstate, hcontroller₁, hreader₁⟩
  refine Triple.bind (readerSnapshot_tells s₁) ?_
  rintro reader s₂ ⟨hhealth, hcontroller₂, hreader₂⟩
  refine Triple.bind (P := fun time s₃ => (∃ w, (c.clock.now w).1 = time) ∧
    s₃.system.controller = s₂.system.controller ∧ s₃.reader = s₂.reader) ⟨⟨_, rfl⟩, rfl, rfl⟩ ?_
  rintro time s₃ ⟨⟨w, rfl⟩, hcontroller₃, hreader₃⟩
  have hcontroller := hcontroller₃.trans (hcontroller₂.trans hcontroller₁)
  have hreader := hreader₃.trans (hreader₂.trans hreader₁)
  split
  · rename_i published hof
    obtain ⟨rfl, rfl, hat, -⟩ := of_ok hof
    refine ⟨⟨published, rfl, by rw [hat]; rfl, ?_, ?_⟩, hcontroller, hreader⟩
    · exact hstate.trans (congrArg AccessController.state hcontroller.symm)
    · exact hhealth.trans (congrArg ReaderSupervisor.healthState (hreader₃.trans hreader₂).symm)
  · rename_i e hof
    refine ⟨w, Bool.eq_false_iff.mpr fun haware => ?_⟩
    obtain ⟨published, hof'⟩ := of_aware controller reader haware
    cases hof.symm.trans hof'

theorem publishSnapshot_publishes (h : c.Publishing) (s : BridgewireRuntime W) :
    Triple (publishSnapshot c) s
      (fun _ s' => UpToDate s' ∧ s'.system.controller = s.system.controller ∧ s'.reader = s.reader)
      (fun _ _ => False) := by
  refine Triple.mono (publishSnapshot_stores h.hasStore s) (fun _ _ hs => hs) ?_
  rintro e s' ⟨w, hnaive⟩
  cases hnaive.symm.trans (h.aware w)

-- ---------------------------------------------------------------------------
-- The answer is up to date
-- ---------------------------------------------------------------------------

/-- What publishes at its end. -/
def Operation.IsPublished : Operation → Prop
  | .start | .runOnce | .handleFailure => True
  | _ => False

theorem perform_upToDate (hstore : c.hasStore = true) {operation : Operation} (hpublished : operation.IsPublished)
    (s : BridgewireRuntime W) :
    Triple (perform c operation) s (fun _ s' => UpToDate s') (fun _ _ => True) := by
  have hpublish : ∀ s : BridgewireRuntime W, Triple (publishSnapshot c) s (fun _ s' => UpToDate s') fun _ _ => True :=
    fun s => Triple.mono (publishSnapshot_stores hstore s) (fun _ _ hs => hs.1) fun _ _ _ => trivial
  cases operation with
  | start =>
    refine Triple.bind (triple_any _ _) fun _ _ _ => Triple.bind (triple_any _ _) fun _ s₂ _ => ?_
    exact hpublish s₂
  | runOnce =>
    refine Triple.map (Triple.bind (triple_any _ _) fun _ s₁ _ => ?_)
    exact Triple.ensuring (triple_any _ s₁) (fun _ s₂ _ => hpublish s₂) fun _ s₂ _ =>
      Triple.mono (hpublish s₂) (fun _ _ _ => trivial) fun _ _ _ => trivial
  | handleFailure => exact Triple.bind (triple_any _ _) fun _ s₁ _ => hpublish s₁
  | cooperativeWait | recordReaderEvent | submit | reportFault | shutdown => exact hpublished.elim

/-- **Health is up to date.** Asked when an iteration has returned, the answer
is healthy exactly if the door takes credentials, the reader is ready, an
authorization is loaded and the publication is not too old. -/
theorem healthy_after_round_iff {V : Type} (c : Wiring W) (hstore : c.hasStore = true) (escalation : EscalationTracker)
    (outside : W) (earlier : List Operation) {operation : Operation} (hoperation : operation.IsPublished)
    {s : BridgewireRuntime W}
    (hreturned : (perform c operation).run (after c earlier (fresh c escalation outside)) = (.ok (), s))
    (service : StatusService V) (staleAfter : ℚ) (v : V) {health : HealthSnapshot}
    (hhealth : ((ReadOnlyQueryService.health service staleAfter s.snapshot).run v).1 = .ok health) :
    ∃ published, s.snapshot = some published ∧
      (health.healthy = true ↔
        (s.system.controller.state = .ready ∨ s.system.controller.state = .released) ∧
          s.reader.healthState = .ready ∧
          (∃ authorization, (service.authorization.run v).1 = .ok authorization ∧ authorization.loaded = true) ∧
          ageAt (service.queriedAt v) published.publishedAt < staleAfter) := by
  have hends := (perform_upToDate hstore hoperation
    (after c earlier (fresh c escalation outside))).returned (congrArg Prod.fst hreturned)
  rw [hreturned] at hends
  obtain ⟨published, hstored, haware, hstate, hreader⟩ := hends
  refine ⟨published, hstored, ?_⟩
  rw [hstored] at hhealth
  rw [← hstate, ← hreader]
  exact ReadOnlyQueryService.healthy_iff haware hhealth

theorem present_publishing : present.Publishing := ⟨rfl, fun _ => rfl⟩

theorem healthy_after_round_iff_connected :
    (after present [.start, .runOnce] (fresh present { policy := .standard } ())).reader.healthState = .ready := by
  have hhealth : ((ReadOnlyQueryService.health (askedAt 0) 10
      (after present [.start, .runOnce] (fresh present { policy := .standard } ())).snapshot).run ()).1 =
        .ok ⟨"healthy", some .ready, some .ready, false⟩ := by
    decide +kernel
  have hpublished : Operation.IsPublished .runOnce := trivial
  obtain ⟨published, -, hiff⟩ := healthy_after_round_iff present rfl { policy := .standard } () [.start]
    hpublished (Prod.ext (by decide +kernel) rfl) (askedAt 0) 10 () hhealth
  exact (hiff.mp rfl).2.1

-- ---------------------------------------------------------------------------
-- After a shutdown
-- ---------------------------------------------------------------------------

/-- The controller takes no credentials any more, and the store says so. -/
structure Shut (s : BridgewireRuntime W) : Prop where
  closed : s.system.controller.state.IsClosed
  told : ∀ published, s.snapshot = some published →
    published.publishedAt.isAware = true ∧ published.controller.state.IsClosed

def StaysShut (s s' : BridgewireRuntime W) : Prop := Shut s → Shut s'

instance : IsPreorder (BridgewireRuntime W) StaysShut where
  refl _ h := h
  trans _ _ _ h h' hs := h' (h hs)

theorem tells_shut : Tells (W := W) Anywhere StaysShut where
  world _ _ _ h := ⟨h.closed, h.told⟩
  reported _ _ _ h := ⟨h.closed, h.told⟩

theorem call_shut (operation : AccessController.Operation) :
    Within StaysShut (zoom (systemPart W) (AccessController.call c.access operation)) :=
  fun s h => ⟨(AccessController.call_called c.access operation s.system).stays_closed h.closed, h.told⟩

theorem UpToDate.shut {s : BridgewireRuntime W} (h : UpToDate s) (hclosed : s.system.controller.state.IsClosed) :
    Shut s := by
  obtain ⟨published, hstored, haware, hstate, -⟩ := h
  refine ⟨hclosed, fun published' hstored' => ?_⟩
  obtain rfl := Option.some.inj (hstored.symm.trans hstored')
  exact ⟨haware, hstate ▸ hclosed⟩

section
variable (h : c.Publishing)
include h

theorem publishSnapshot_shut : Within StaysShut (publishSnapshot c) := by
  intro s hs
  have hends : Ends (publishSnapshot c) s fun _ s' => Shut s' := by
    refine Triple.mono (publishSnapshot_publishes h s) ?_ fun _ _ hs => hs.elim
    rintro _ s' ⟨hdate, hcontroller, -⟩
    exact hdate.shut (by rw [hcontroller]; exact hs.closed)
  exact ends_iff.mp hends

theorem parts_shut : Parts c Anywhere StaysShut where
  reads := c.keeps_anywhere.reader
  waits := c.keeps_anywhere.wait
  world := tells_shut.world
  reader _ _ hs := ⟨hs.closed, hs.told⟩
  stream _ _ hs := ⟨hs.closed, hs.told⟩
  session _ _ hs := ⟨hs.closed, hs.told⟩
  submitted _ _ hs := ⟨hs.closed, hs.told⟩
  completed _ hs := ⟨hs.closed, hs.told⟩
  call := call_shut
  reports := reportHealth_tells tells_shut c.keeps_anywhere
  audits := auditReaderEvent_tells tells_shut c.keeps_anywhere
  publishes := publishSnapshot_shut h

/-- The controller is closed first, and what is published last says so. -/
theorem shutdown_shuts {s : BridgewireRuntime W} (hs : s.shutdownComplete = true → Shut s) :
    Ends (shutdown c) s (fun _ s' => Shut s') := by
  refine Ends.get_bind ?_
  cases hcomplete : s.shutdownComplete with
  | true => exact Ends.pure (hs hcomplete)
  | false =>
    refine Ends.bind (cleanUp_ends s) ?_ ?_
    · rintro e s₁ ⟨-, -, ⟨⟩, -⟩
    rintro failures s₁ ⟨_, answer, ⟨⟩, -, hcalled, -⟩
    have hclosed : s₁.system.controller.state.IsClosed := by
      cases hcalled with
      | shutdown hshut => exact hshut.closes
    have hpublish : ∀ {s₂ : BridgewireRuntime W}, s₂.system.controller = s₁.system.controller →
        Triple (publishSnapshot c) s₂ (fun _ s' => Shut s') fun _ _ => False := by
      intro s₂ hsame
      refine Triple.mono (publishSnapshot_publishes h s₂) ?_ fun _ _ hs => hs
      rintro _ s₃ ⟨hdate, hcontroller, -⟩
      exact hdate.shut (by rw [hcontroller, hsame]; exact hclosed)
    split
    · exact Ends.modify_bind (Triple.mono (hpublish rfl) (fun _ _ hs => hs) fun _ _ hs => hs.elim)
    · exact Ends.bind (hpublish rfl) (fun _ _ hs => hs.elim) fun _ _ hs => Ends.throw hs

omit h in
/-- Nothing but a shutdown completes one. -/
theorem perform_complete {operation : Operation} (hother : operation ≠ .shutdown) (s : BridgewireRuntime W) :
    ((perform c operation).run s).2.shutdownComplete = s.shutdownComplete := by
  by_cases hordinary : operation.IsOrdinary
  · exact (perform_works c hordinary s).complete
  cases operation with
  | handleFailure =>
    have hwithin : Within (Works c fun _ => True) (perform c .handleFailure) := by
      refine Within.bind ((call_works c _ trivial).map _) fun _ => ?_
      exact publishSnapshot_within (frames_works c _).toPublishes c.keeps_anywhere
    exact (hwithin s).complete
  | shutdown => exact absurd rfl hother
  | start | runOnce | cooperativeWait | recordReaderEvent | submit | reportFault => exact absurd trivial hordinary

theorem after_complete (operations : List Operation) {s : BridgewireRuntime W}
    (hs : s.shutdownComplete = true → Shut s) :
    (after c operations s).shutdownComplete = true → Shut (after c operations s) := by
  induction operations generalizing s with
  | nil => exact hs
  | cons operation operations ih =>
    refine ih fun hcomplete => ?_
    by_cases hshutdown : operation = .shutdown
    · subst hshutdown
      exact ends_iff.mp (shutdown_shuts h hs)
    · rw [perform_complete hshutdown] at hcomplete
      exact (parts_shut h).acts.perform operation s (hs hcomplete)

end

/-- **A door that was shut down is not healthy.** Once a shutdown has been
made, returned or raised, no answer is healthy again, whatever is asked of
the runtime later and whenever the question comes. -/
theorem never_healthy_after_shutdown {V : Type} (c : Wiring W) (hpublishing : c.Publishing)
    (escalation : EscalationTracker) (outside : W) (earlier later : List Operation) (service : StatusService V)
    (staleAfter : ℚ) (v : V) {health : HealthSnapshot}
    (hhealth : ((ReadOnlyQueryService.health service staleAfter
      (after c (earlier ++ .shutdown :: later) (fresh c escalation outside)).snapshot).run v).1 = .ok health) :
    health.healthy = false := by
  have hshut : Shut (after c (earlier ++ .shutdown :: later) (fresh c escalation outside)) := by
    unfold after
    rw [List.foldl_append, List.foldl_cons]
    refine (parts_shut hpublishing).after later _ (ends_iff.mp (shutdown_shuts hpublishing ?_))
    exact after_complete hpublishing earlier fun hfalse => by cases hfalse
  cases hstored : (after c (earlier ++ .shutdown :: later) (fresh c escalation outside)).snapshot with
  | none =>
    rw [hstored] at hhealth
    obtain rfl := Except.ok.inj hhealth
    decide
  | some published =>
    obtain ⟨haware, hclosed⟩ := hshut.told published hstored
    rw [hstored] at hhealth
    refine Bool.eq_false_iff.mpr fun hhealthy => ?_
    obtain ⟨hstate, -⟩ := (ReadOnlyQueryService.healthy_iff haware hhealth).mp hhealthy
    rcases hstate with hstate | hstate
    · exact absurd hclosed (by simp [hstate])
    · exact absurd hclosed (by simp [hstate])

theorem never_healthy_after_shutdown_restarted :
    HealthSnapshot.healthy ⟨"degraded", some .stopped, some .stopped, false⟩ = false :=
  never_healthy_after_shutdown present present_publishing { policy := .standard } () [.start, .runOnce] [.start]
    (askedAt 0) 10 () (by decide +kernel)

end BridgewireRuntime

end Bridgewire
