import Bridgewire.Authorization.Reload
import Bridgewire.Runtime.Faults
import Mathlib.Algebra.Order.Group.MinMax
import Mathlib.Tactic.Linarith
import Mathlib.Tactic.Ring

/-!
# The status

`StatusService` over what the operational store holds, and how its answers
age between two publications.
-/

namespace Bridgewire

open Effect

namespace DateTime

/-- `now - time`, in microseconds. -/
def sub (now time : DateTime) : Except Exn Int :=
  match now.utcoffset, time.utcoffset with
  | some offset, some offset' => .ok ((now.wall - offset) - (time.wall - offset'))
  | none, none => .ok (now.wall - time.wall)
  | _, _ => .error ⟨.otherException, "can't subtract offset-naive and offset-aware datetimes", [], none⟩

/-- `time + timedelta(seconds=seconds)` -/
def addSeconds (time : DateTime) (seconds : ℚ) : DateTime :=
  { time with wall := time.wall + timedelta seconds }

end DateTime

structure StatusSnapshot where
  controllerState : ControllerState
  readerConnected : Bool
  readerHealth : ReaderHealthState
  snapshotPublishedAt : DateTime
  snapshotAgeSeconds : ℚ
  lastCredentialProcessedAt : Option DateTime
  lastReaderRecordAgeSeconds : Option ℚ
  releaseActive : Bool
  releaseDeadlineAt : Option DateTime
  releaseRemainingSeconds : Option ℚ
  configuredReleaseSeconds : ℚ
  lastRelayCommand : Option RelayCommand
  authorizationLoaded : Bool
  authorizationRecordCount : Nat
  authorizationSourceRevision : Option String
  authorizationSourceModifiedAt : Option DateTime
  lastAuditEventAt : Option DateTime
  pendingNotificationCount : Nat
  applicationStartedAt : DateTime
  softwareVersion : String
  deriving DecidableEq

/-- What the constructor takes, but for the operational store. -/
structure StatusService (V : Type) where
  authorization : Port V AuthorizationSnapshot
  latestEventTime : Port V (Option DateTime)
  pendingCount : Port V Nat
  clock : Clock V
  softwareVersion : String
  applicationStartedAt : DateTime
  startedAt_aware : applicationStartedAt.isAware = true

namespace StatusService

variable {V : Type} (service : StatusService V)

/-- `max(0.0, (now - time).total_seconds())` -/
def secondsSince (now time : DateTime) : Port V ℚ :=
  match now.sub time with
  | .ok microseconds => pure (max 0 (microseconds / 1000000))
  | .error e => throw e

def recordAge (now : DateTime) : Option DateTime → Port V (Option ℚ)
  | some lastReaderRecordAt => some <$> secondsSince now lastReaderRecordAt
  | none => pure none

/-- `snapshot`, with what the operational store holds. -/
def snapshot : Option OperationalSnapshot → Port V StatusSnapshot
  | none => throw (.runtimeError "operational snapshot unavailable")
  | some operational => do
    let authorization ← service.authorization
    let now ← Effect.reading service.clock.now
    let snapshotAge ← secondsSince now operational.publishedAt
    let recordAge ← recordAge now operational.lastReaderRecordAt
    let latestEventTime ← service.latestEventTime
    let pendingCount ← service.pendingCount
    pure
      { controllerState := operational.controller.state
        readerConnected := operational.reader.connected
        readerHealth := operational.reader.healthState
        snapshotPublishedAt := operational.publishedAt
        snapshotAgeSeconds := snapshotAge
        lastCredentialProcessedAt := operational.controller.lastCredentialProcessedAt
        lastReaderRecordAgeSeconds := recordAge
        releaseActive := operational.controller.releaseActive
        releaseDeadlineAt := operational.controller.releaseRemainingSeconds.map now.addSeconds
        releaseRemainingSeconds := operational.controller.releaseRemainingSeconds
        configuredReleaseSeconds := operational.controller.configuredReleaseSeconds
        lastRelayCommand := operational.controller.lastRelayCommand
        authorizationLoaded := authorization.loaded
        authorizationRecordCount := authorization.recordCount
        authorizationSourceRevision := authorization.sourceRevision
        authorizationSourceModifiedAt := authorization.sourceModifiedAt
        lastAuditEventAt := latestEventTime
        pendingNotificationCount := pendingCount
        applicationStartedAt := service.applicationStartedAt
        softwareVersion := service.softwareVersion }

/-- What the clock reads in a call. -/
def queriedAt (v : V) : DateTime := (service.clock.now (service.authorization.run v).2).1

end StatusService

/-- Microseconds in seconds. -/
def seconds (d : Nat) : ℚ := d / 1000000

theorem seconds_nonneg (d : Nat) : 0 ≤ seconds d := div_nonneg (Nat.cast_nonneg d) (by norm_num)

@[simp] theorem seconds_zero : seconds 0 = 0 := by simp [seconds]

theorem seconds_eq_zero {d : Nat} : seconds d = 0 ↔ d = 0 := by simp [seconds]

/-- A clock that is `d` microseconds ahead of another. -/
def Clock.ahead {W : Type} (d : Nat) (clock : Clock W) : Clock W where
  monotonic w := ((clock.monotonic w).1 + seconds d, (clock.monotonic w).2)
  now w := ({ (clock.now w).1 with wall := (clock.now w).1.wall + d }, (clock.now w).2)

namespace StatusService

variable {V : Type} {service : StatusService V} {operational : OperationalSnapshot}

theorem sub_eq {now time : DateTime} {microseconds : Int} (h : now.sub time = .ok microseconds)
    (htime : time.isAware = true) : microseconds = now.instant - time.instant := by
  obtain ⟨wall, offset⟩ := now
  obtain ⟨wall', offset'⟩ := time
  cases offset <;> cases offset' <;> cases h
  · cases htime
  · rfl

theorem secondsSince_ends {v : V} {now time : DateTime} (htime : time.isAware = true) :
    Triple (secondsSince now time) v
      (fun age _ => age = max 0 (((now.instant - time.instant : Int) : ℚ) / 1000000)) (fun _ _ => True) := by
  unfold secondsSince
  split
  · rename_i microseconds hsub
    rw [← sub_eq hsub htime]
    rfl
  · trivial

/-- The fields of a status that depend on the time of the query. -/
structure Told (operational : OperationalSnapshot) (now : DateTime) (status : StatusSnapshot) : Prop where
  remaining : status.releaseRemainingSeconds = operational.controller.releaseRemainingSeconds
  deadline : status.releaseDeadlineAt = operational.controller.releaseRemainingSeconds.map now.addSeconds
  age : status.lastReaderRecordAgeSeconds = operational.lastReaderRecordAt.map fun time =>
    max 0 (((now.instant - time.instant : Int) : ℚ) / 1000000)

theorem snapshot_ends {v : V} (haware : ∀ time, operational.lastReaderRecordAt = some time → time.isAware = true) :
    Triple (service.snapshot (some operational)) v
      (fun status _ => Told operational (service.queriedAt v) status) (fun _ _ => True) := by
  refine Triple.bind (Triple.mono (triple_run service.authorization v) (fun _ _ hrun => hrun) fun _ _ _ => trivial)
    fun authorization w hrun => ?_
  obtain rfl : (service.authorization.run v).2 = w := congrArg Prod.snd hrun
  refine Triple.bind (P := fun now _ => now = service.queriedAt v) rfl fun now w hnow => ?_
  subst hnow
  refine Triple.bind (triple_any _ _) fun snapshotAge w _ => ?_
  refine Triple.bind (P := fun age _ => age = operational.lastReaderRecordAt.map fun time =>
    max 0 ((((service.queriedAt v).instant - time.instant : Int) : ℚ) / 1000000)) ?_ fun age w hage => ?_
  · cases htime : operational.lastReaderRecordAt with
    | none => rfl
    | some time =>
      refine Triple.map (Triple.mono (secondsSince_ends (haware time htime)) ?_ fun _ _ _ => trivial)
      rintro _ _ rfl
      rfl
  · refine Triple.bind (triple_any _ _) fun latestEventTime w _ => ?_
    refine Triple.bind (triple_any _ _) fun pendingCount w _ => ?_
    exact ⟨rfl, rfl, hage⟩

end StatusService

namespace BridgewireRuntime

variable {W V : Type}

/-- The same wiring `d` microseconds later. -/
def Wiring.ahead (d : Nat) (c : Wiring W) : Wiring W :=
  { c with
    access := { c.access with clock := c.access.clock.ahead d }
    reader := { c.reader with
      monotonic := c.reader.monotonic.map fun monotonic w =>
        ((monotonic w).1 + seconds d, (monotonic w).2) }
    clock := c.clock.ahead d }

/-- A publication of the state `s`, and what it leaves in the store. -/
structure Publication (c : Wiring W) (s : BridgewireRuntime W) (published : OperationalSnapshot) : Prop where
  hasStore : c.hasStore = true
  returns : ((publishSnapshot c).run s).1 = .ok ()
  stored : ((publishSnapshot c).run s).2.snapshot = some published

/-- A status asked for at a time, while the store holds `operational`. -/
structure Query (service : StatusService V) (operational : OperationalSnapshot) (time : Int) (v : V)
    (status : StatusSnapshot) : Prop where
  answers : ((service.snapshot (some operational)).run v).1 = .ok status
  time : (service.queriedAt v).instant = time

/-- As far as `datetime`s can tell, which count in microseconds. -/
def SameInstant (a b : DateTime) : Prop := |a.instant - b.instant| ≤ 1

def SameAge (x y : ℚ) : Prop := |x - y| ≤ 1 / 1000000

/-- A status asked for `d` microseconds after the publication of `published`
says what follows from it, and what one says after another publication then. -/
structure Steady (published : OperationalSnapshot) (d : Nat) (status republished : StatusSnapshot) : Prop where
  remaining : status.releaseRemainingSeconds =
    published.controller.releaseRemainingSeconds.map fun r => max 0 (r - seconds d)
  deadline : ∀ r, published.controller.releaseRemainingSeconds = some r → seconds d ≤ r →
    status.releaseDeadlineAt.map DateTime.instant = some (published.publishedAt.instant + timedelta r)
  age : Option.Rel SameAge status.lastReaderRecordAgeSeconds
    (published.reader.lastRecordAgeSeconds.map fun a => max 0 (a + seconds d))
  sameRemaining : status.releaseRemainingSeconds = republished.releaseRemainingSeconds
  sameDeadline : Option.Rel SameInstant status.releaseDeadlineAt republished.releaseDeadlineAt
  sameAge : Option.Rel SameAge status.lastReaderRecordAgeSeconds republished.lastReaderRecordAgeSeconds

theorem of_ok {controller : ControllerSnapshot} {reader : ReaderSnapshot} {time : DateTime}
    {published : OperationalSnapshot} (h : OperationalSnapshot.of controller reader time = .ok published) :
    published.controller = controller ∧ published.reader = reader ∧
      published.publishedAt = ⟨time.instant, some 0⟩ ∧
      published.lastReaderRecordAt =
        reader.lastRecordAgeSeconds.map fun a => ⟨published.publishedAt.wall - timedelta a, some 0⟩ := by
  obtain ⟨wall, offset⟩ := time
  cases offset with
  | none => cases h
  | some offset =>
    obtain rfl := Except.ok.inj h
    exact ⟨rfl, rfl, rfl, rfl⟩

/-- What the store is given: the snapshots of the two, each at its reading of the clock. -/
theorem publishSnapshot_ends {c : Wiring W} {s : BridgewireRuntime W} (hstore : c.hasStore = true) :
    Triple (publishSnapshot c) s (fun _ s' => ∃ controller s₁ reader s₂ published,
        (Effect.zoom (systemPart W) (AccessController.snapshot c.access)).run s = (.ok controller, s₁) ∧
        (ReaderSupervisor.snapshot (readerPart W) (worldPart W) c.reader).run s₁ = (.ok reader, s₂) ∧
        OperationalSnapshot.of controller reader (c.clock.now s₂.system.world).1 = .ok published ∧
        s'.snapshot = some published) (fun _ _ => True) := by
  unfold publishSnapshot
  rw [if_pos hstore]
  refine Triple.bind (Triple.mono (triple_run _ s) (fun _ _ hrun => hrun) fun _ _ _ => trivial) ?_
  intro controller s₁ hcontroller
  refine Triple.bind (Triple.mono (triple_run _ s₁) (fun _ _ hrun => hrun) fun _ _ _ => trivial) ?_
  intro reader s₂ hreader
  refine Triple.bind (P := fun time _ => time = (c.clock.now s₂.system.world).1) rfl ?_
  rintro _ s₃ rfl
  split
  · exact ⟨controller, s₁, reader, s₂, _, hcontroller, hreader, ‹_›, rfl⟩
  · trivial

/-- The world after the controller's snapshot, which reads the clock only while something is released. -/
def afterController (c : Wiring W) (s : BridgewireRuntime W) : W :=
  match s.system.controller.releaseDeadline with
  | some _ => (c.access.clock.monotonic s.system.world).2
  | none => s.system.world

def recordAge (c : Wiring W) (s : BridgewireRuntime W) : Option ℚ :=
  match s.reader.lastRecordAt, c.reader.monotonic with
  | some time, some monotonic => some ((monotonic (afterController c s)).1 - time)
  | _, _ => none

def afterReader (c : Wiring W) (s : BridgewireRuntime W) : W :=
  match s.reader.lastRecordAt, c.reader.monotonic with
  | some _, some monotonic => (monotonic (afterController c s)).2
  | _, _ => afterController c s

theorem controllerSnapshot_run {c : Wiring W} {s s₁ : BridgewireRuntime W} {controller : ControllerSnapshot}
    (h : (Effect.zoom (systemPart W) (AccessController.snapshot c.access)).run s = (.ok controller, s₁)) :
    controller.releaseRemainingSeconds = s.system.controller.releaseDeadline.map (fun deadline =>
        max 0 (deadline - (c.access.clock.monotonic s.system.world).1)) ∧
      s₁ = { s with system := { s.system with world := afterController c s } } := by
  obtain ⟨⟨⟨state, deadline, high, last, escalation⟩, world, trace⟩, reader, stream, complete, snapshot, log⟩ := s
  cases deadline <;> cases h <;> exact ⟨rfl, rfl⟩

theorem readerSnapshot_run {c : Wiring W} {s s₁ s₂ : BridgewireRuntime W} {reader : ReaderSnapshot}
    (hs : s₁ = { s with system := { s.system with world := afterController c s } })
    (h : (ReaderSupervisor.snapshot (readerPart W) (worldPart W) c.reader).run s₁ = (.ok reader, s₂)) :
    reader.lastRecordAgeSeconds = recordAge c s ∧ s₂.system.world = afterReader c s := by
  subst hs
  obtain ⟨access, ⟨identity, enumerate, opener, read, closer, backoff, threshold, random, monotonic, hpos, delay⟩, health,
    audit, clock, uuid4, maximum, waiter, hasStore⟩ := c
  obtain ⟨system, ⟨session, attempt, had, repeated, lastRecordAt, health'⟩, stream, complete, snapshot, log⟩ := s
  cases lastRecordAt <;> cases monotonic <;> cases h <;> exact ⟨rfl, rfl⟩

theorem afterController_ahead (c : Wiring W) (s : BridgewireRuntime W) (d : Nat) :
    afterController (c.ahead d) s = afterController c s := rfl

theorem recordAge_ahead (c : Wiring W) (s : BridgewireRuntime W) (d : Nat) :
    recordAge (c.ahead d) s = (recordAge c s).map fun a => a + seconds d := by
  have hmonotonic : (c.ahead d).reader.monotonic = c.reader.monotonic.map fun monotonic w =>
      ((monotonic w).1 + seconds d, (monotonic w).2) := rfl
  unfold recordAge
  rw [hmonotonic, afterController_ahead]
  cases s.reader.lastRecordAt with
  | none => rfl
  | some time =>
    cases c.reader.monotonic with
    | none => rfl
    | some monotonic => exact congrArg some (by ring)

theorem afterReader_ahead (c : Wiring W) (s : BridgewireRuntime W) (d : Nat) :
    afterReader (c.ahead d) s = afterReader c s := by
  have hmonotonic : (c.ahead d).reader.monotonic = c.reader.monotonic.map fun monotonic w =>
      ((monotonic w).1 + seconds d, (monotonic w).2) := rfl
  unfold afterReader
  rw [hmonotonic, afterController_ahead]
  cases s.reader.lastRecordAt <;> cases c.reader.monotonic <;> rfl

/-- What a publication `d` microseconds later says. -/
structure Stated (c : Wiring W) (s : BridgewireRuntime W) (d : Nat) (published : OperationalSnapshot) : Prop where
  remaining : published.controller.releaseRemainingSeconds =
    s.system.controller.releaseDeadline.map fun deadline =>
      max 0 (deadline - ((c.access.clock.monotonic s.system.world).1 + seconds d))
  age : published.reader.lastRecordAgeSeconds = (recordAge c s).map fun a => a + seconds d
  time : published.publishedAt = ⟨(c.clock.now (afterReader c s)).1.instant + d, some 0⟩
  lastRecordAt : published.lastReaderRecordAt =
    published.reader.lastRecordAgeSeconds.map fun a => ⟨published.publishedAt.wall - timedelta a, some 0⟩

theorem publication_stated {c : Wiring W} {s : BridgewireRuntime W} {d : Nat} {published : OperationalSnapshot}
    (h : Publication (c.ahead d) s published) : Stated c s d published := by
  obtain ⟨controller, s₁, reader, s₂, published', hcontroller, hreader, hof, hstored⟩ :=
    (publishSnapshot_ends h.hasStore).returned h.returns
  obtain rfl : published' = published := Option.some.inj (hstored.symm.trans h.stored)
  obtain ⟨hremaining, hworld⟩ := controllerSnapshot_run hcontroller
  obtain ⟨hage, hworld⟩ := readerSnapshot_run hworld hreader
  obtain ⟨rfl, rfl, htime, hlast⟩ := of_ok hof
  rw [recordAge_ahead] at hage
  rw [hworld, afterReader_ahead] at htime
  refine ⟨hremaining, hage, ?_, hlast⟩
  rw [htime]
  exact congrArg (DateTime.mk · (some 0)) (by simp [Wiring.ahead, Clock.ahead, DateTime.instant]; ring)

variable {c : Wiring W} {s : BridgewireRuntime W} {d : Nat} {published : OperationalSnapshot}

theorem Stated.aware (h : Stated c s d published) {time : DateTime}
    (htime : published.lastReaderRecordAt = some time) : time.isAware = true := by
  rw [h.lastRecordAt] at htime
  obtain ⟨a, -, rfl⟩ := Option.map_eq_some_iff.mp htime
  rfl

theorem Query.told {service : StatusService V} {time : Int} {v : V} {status : StatusSnapshot}
    (hstatus : Query service published time v status) (h : Stated c s d published) :
    StatusService.Told published (service.queriedAt v) status :=
  (StatusService.snapshot_ends fun _ => h.aware).returned hstatus.answers

theorem ahead_zero (c : Wiring W) : c.ahead 0 = c := by
  have hclock (clock : Clock W) : clock.ahead 0 = clock := by
    simp [Clock.ahead, seconds]
  have hmonotonic (monotonic : Option (W → ℚ × W)) :
      (monotonic.map fun monotonic w => ((monotonic w).1 + seconds 0, (monotonic w).2)) = monotonic := by
    cases monotonic <;> simp [seconds]
  unfold Wiring.ahead
  rw [hclock, hclock, hmonotonic]

-- ---------------------------------------------------------------------------
-- Ages
-- ---------------------------------------------------------------------------

theorem timedelta_near (x : ℚ) : |(timedelta x : ℚ) - x * 1000000| ≤ 1 / 2 := by
  have hle := Rat.floor_le (x * 1000000)
  have hlt := Rat.lt_floor_add_one (x * 1000000)
  push_cast at hlt
  unfold timedelta
  rw [abs_le]
  dsimp only
  split
  · rename_i hdown
    have hrest : x * 1000000 - (x * 1000000).floor ≤ 1 / 2 := hdown.elim le_of_lt fun h => h.1.le
    constructor <;> linarith
  · rename_i hup
    have hrest : 1 / 2 ≤ x * 1000000 - (x * 1000000).floor := not_lt.mp fun h => hup (.inl h)
    push_cast
    constructor <;> linarith

theorem instant_addSeconds (time : DateTime) (seconds : ℚ) :
    (time.addSeconds seconds).instant = time.instant + timedelta seconds := by
  simp only [DateTime.instant, DateTime.addSeconds]
  ring

section
variable {published republished : OperationalSnapshot} {d : Nat} {now : DateTime} {status status' : StatusSnapshot}
  {c : Wiring W} {s : BridgewireRuntime W}

/-- The age in a status, from what has been published. -/
theorem told_age {d' : Nat} (h : Stated c s d' published) (hstatus : StatusService.Told published now status) :
    status.lastReaderRecordAgeSeconds = published.reader.lastRecordAgeSeconds.map fun a =>
      max 0 (((now.instant - published.publishedAt.instant + timedelta a : Int) : ℚ) / 1000000) := by
  rw [hstatus.age, h.lastRecordAt, Option.map_map]
  refine congrFun (congrArg _ (funext fun a => ?_)) _
  rw [h.time]
  simp [DateTime.instant]
  ring_nf

/-- Ages differ as little as what they are cut off from at zero. -/
theorem sameAge_max {x y : ℚ} (h : |x - y| ≤ 1 / 1000000) : SameAge (max 0 x) (max 0 y) := by
  have hle := abs_max_sub_max_le_abs x y 0
  rw [max_comm x, max_comm y] at hle
  exact hle.trans h

theorem sameAge_later (a : ℚ) (d : Nat) : SameAge (max 0 ((((d : Int) + timedelta a : Int) : ℚ) / 1000000))
    (max 0 (a + seconds d)) := by
  have hnear := abs_le.mp (timedelta_near a)
  refine sameAge_max (abs_le.mpr ?_)
  unfold seconds
  push_cast
  constructor <;> linarith [hnear.1, hnear.2]

theorem sameAge_republished (a : ℚ) (d : Nat) : SameAge (max 0 ((((d : Int) + timedelta a : Int) : ℚ) / 1000000))
    (max 0 (((timedelta (a + seconds d) : Int) : ℚ) / 1000000)) := by
  have hnear := abs_le.mp (timedelta_near a)
  have hnear' := abs_le.mp (timedelta_near (a + seconds d))
  refine sameAge_max (abs_le.mpr ?_)
  unfold seconds at hnear' ⊢
  push_cast
  constructor <;> linarith [hnear.1, hnear.2, hnear'.1, hnear'.2]

/-- The age is counted from the publication, so it goes on. -/
theorem age_steady (h : Stated c s 0 published) (hstatus : StatusService.Told published now status)
    (hnow : now.instant = published.publishedAt.instant + d) :
    Option.Rel SameAge status.lastReaderRecordAgeSeconds
      (published.reader.lastRecordAgeSeconds.map fun a => max 0 (a + seconds d)) := by
  rw [told_age h hstatus, hnow, add_sub_cancel_left]
  cases published.reader.lastRecordAgeSeconds with
  | none => exact .none
  | some a => exact .some (sameAge_later a d)

theorem sameAge_steady (h : Stated c s 0 published) (h' : Stated c s d republished)
    (hstatus : StatusService.Told published now status) {now' : DateTime}
    (hstatus' : StatusService.Told republished now' status')
    (hnow : now.instant = published.publishedAt.instant + d) (hnow' : now'.instant = now.instant) :
    Option.Rel SameAge status.lastReaderRecordAgeSeconds status'.lastReaderRecordAgeSeconds := by
  have hinstant : now'.instant = republished.publishedAt.instant := by
    rw [hnow', hnow, h.time, h'.time]
    simp [DateTime.instant]
  rw [told_age h hstatus, told_age h' hstatus', hnow, hinstant, add_sub_cancel_left, sub_self, h.age, h'.age]
  cases recordAge c s with
  | none => exact .none
  | some a =>
    simp only [Option.map_some, seconds_zero, add_zero, zero_add]
    exact .some (sameAge_republished a d)

end

section
variable {published republished : OperationalSnapshot} {d : Nat} {c : Wiring W} {s : BridgewireRuntime W}

/-- What remains when the state is published again. -/
theorem remaining_later (h : Stated c s 0 published) (h' : Stated c s d republished) :
    republished.controller.releaseRemainingSeconds =
      published.controller.releaseRemainingSeconds.map fun r => max 0 (r - seconds d) := by
  rw [h.remaining, h'.remaining, Option.map_map]
  refine congrFun (congrArg _ (funext fun deadline => ?_)) _
  dsimp only [Function.comp]
  rw [seconds_zero, add_zero, ← sub_sub]
  have hd := seconds_nonneg d
  rcases le_total (deadline - (c.access.clock.monotonic s.system.world).1) 0 with hle | hle
  · rw [max_eq_left hle, max_eq_left (by linarith), max_eq_left (by linarith)]
  · rw [max_eq_right hle]

/-- Nothing is left of the release, or no time has passed. -/
theorem remaining_fixed_iff (h : Stated c s 0 published) :
    (published.controller.releaseRemainingSeconds =
        published.controller.releaseRemainingSeconds.map fun r => max 0 (r - seconds d)) ↔
      ∀ deadline, s.system.controller.releaseDeadline = some deadline →
        deadline ≤ (c.access.clock.monotonic s.system.world).1 ∨ d = 0 := by
  rw [h.remaining, seconds_zero, add_zero]
  cases s.system.controller.releaseDeadline with
  | none => simp
  | some deadline =>
    simp only [Option.map_some, Option.some.injEq, forall_eq']
    have hd := seconds_nonneg d
    rcases le_or_gt deadline (c.access.clock.monotonic s.system.world).1 with hle | hlt
    · simp [hle, hd]
    · have hleft : 0 < deadline - (c.access.clock.monotonic s.system.world).1 := by linarith
      rw [max_eq_right hleft.le]
      refine ⟨fun heq => .inr (seconds_eq_zero.mp ?_), ?_⟩
      · rcases max_choice 0 (deadline - (c.access.clock.monotonic s.system.world).1 - seconds d) with hmax | hmax
        all_goals
          rw [hmax] at heq
          linarith
      · rintro (hle | rfl)
        · exact absurd hle hlt.not_ge
        · rw [seconds_zero, sub_zero, max_eq_right hleft.le]

end

/-- A release that goes on is told as it was when it was published; nothing else drifts. -/
theorem status_steady_iff (c : Wiring W) (s : BridgewireRuntime W) (service : StatusService V) (d : Nat)
    {published republished : OperationalSnapshot} (hpublished : Publication c s published)
    (hrepublished : Publication (c.ahead d) s republished) {v v' : V} {status status' : StatusSnapshot}
    (hstatus : Query service published (published.publishedAt.instant + d) v status)
    (hstatus' : Query service republished (published.publishedAt.instant + d) v' status') :
    Steady published d status status' ↔
      ∀ deadline, s.system.controller.releaseDeadline = some deadline →
        deadline ≤ (c.access.clock.monotonic s.system.world).1 ∨ d = 0 := by
  have h : Stated c s 0 published := publication_stated ((ahead_zero c).symm ▸ hpublished)
  have h' := publication_stated hrepublished
  have htold := hstatus.told h
  have htold' := hstatus'.told h'
  refine ⟨fun hsteady => ?_, fun hfixed => ?_⟩
  · exact (remaining_fixed_iff h).mp (htold.remaining.symm.trans hsteady.remaining)
  · have hremaining := (remaining_fixed_iff h).mpr hfixed
    have hsame := hremaining.trans (remaining_later h h').symm
    refine ⟨htold.remaining.trans hremaining, fun r hr hle => ?_, age_steady h htold hstatus.time,
      htold.remaining.trans (hsame.trans htold'.remaining.symm), ?_,
      sameAge_steady h h' htold htold' hstatus.time (hstatus'.time.trans hstatus.time.symm)⟩
    · rw [hr, Option.map_some, Option.some.injEq, max_eq_right (sub_nonneg.mpr hle)] at hremaining
      obtain rfl : d = 0 := seconds_eq_zero.mp (by linarith)
      rw [htold.deadline, hr]
      exact congrArg some ((instant_addSeconds _ r).trans (by rw [hstatus.time, Nat.cast_zero, add_zero]))
    · rw [htold.deadline, htold'.deadline, hsame]
      cases republished.controller.releaseRemainingSeconds with
      | none => exact .none
      | some r =>
        refine .some ?_
        rw [SameInstant, instant_addSeconds, instant_addSeconds, hstatus.time, hstatus'.time, sub_self]
        norm_num

/-- A service that is asked at one time. -/
def askedAt (time : Int) : StatusService Unit where
  authorization := pure ⟨true, 1, some "1:20", none⟩
  latestEventTime := pure none
  pendingCount := pure 0
  clock := ⟨fun w => (0, w), fun w => (⟨time, some 0⟩, w)⟩
  softwareVersion := "1.3.0"
  applicationStartedAt := ⟨0, some 0⟩
  startedAt_aware := rfl

/-- A runtime that has just accepted a credential. -/
def released : BridgewireRuntime Unit :=
  ((submit present (.parsed ⟨"00000001"⟩)).run ((start present).run (fresh present { policy := .standard } ())).2).2

/-- What it publishes, `d` microseconds after. -/
def releasedSnapshot (d : Nat) : OperationalSnapshot where
  controller := ⟨.released, true, some 5, some (5 - seconds d), 5, some .released, some ⟨0, some 0⟩⟩
  reader := ⟨false, .degraded, none⟩
  publishedAt := ⟨d, some 0⟩
  lastReaderRecordAt := none

/-- A reader that reads the frame of a credential, and a monotonic clock. -/
def timed : Wiring Unit :=
  let reading := withReader
    { read := .ok [2, 48, 49, 48, 50, 48, 51, 48, 52, 48, 53, 48, 49, 13, 10, 3]
      read_os := by
        intro e h
        cases h }
  { reading with reader := { reading.reader with monotonic := some fun w => (0, w) } }

/-- A runtime that has connected its reader and read the frame, and released. -/
def readOnce : BridgewireRuntime Unit :=
  let started := ((start timed).run (fresh timed { policy := .standard } ())).2
  let connected := ((runOnce timed).run started).2
  ((runOnce timed).run connected).2

/-- What it publishes seven seconds later, after the deadline, and `d` microseconds. -/
def lateSnapshot (d : Nat) : OperationalSnapshot where
  controller := ⟨.released, true, some 5, some 0, 5, some .released, some ⟨0, some 0⟩⟩
  reader := ⟨true, .ready, some (7 + seconds d)⟩
  publishedAt := ⟨7000000 + d, some 0⟩
  lastReaderRecordAt := some ⟨0, some 0⟩

theorem status_steady_iff_late :
    ∃ status status', Query (askedAt 8000000) (lateSnapshot 0) 8000000 () status ∧
      Query (askedAt 8000000) (lateSnapshot 1000000) 8000000 () status' ∧
      status.lastReaderRecordAgeSeconds = some 8 ∧ Steady (lateSnapshot 0) 1000000 status status' := by
  have hpublication (d : Nat) (hd : d = 0 ∨ d = 1000000) :
      Publication ((timed.ahead 7000000).ahead d) readOnce (lateSnapshot d) := by
    rcases hd with rfl | rfl <;> exact ⟨rfl, by decide +kernel, by decide +kernel⟩
  have hquery : Query (askedAt 8000000) (lateSnapshot 0) 8000000 () _ := ⟨rfl, rfl⟩
  have hquery' : Query (askedAt 8000000) (lateSnapshot 1000000) 8000000 () _ := ⟨rfl, rfl⟩
  refine ⟨_, _, hquery, hquery', by decide +kernel, ?_⟩
  refine (status_steady_iff (timed.ahead 7000000) readOnce (askedAt 8000000) 1000000
    (ahead_zero (timed.ahead 7000000) ▸ hpublication 0 (.inl rfl)) (hpublication 1000000 (.inr rfl))
    hquery hquery').mpr fun deadline hdeadline => .inl ?_
  have hfive : readOnce.system.controller.releaseDeadline = some 5 := by decide +kernel
  obtain rfl := Option.some.inj (hfive.symm.trans hdeadline)
  decide +kernel

/-- A second later four seconds are left, not five. -/
theorem release_drifts :
    ¬∀ (W V : Type) (c : Wiring W) (s : BridgewireRuntime W) (service : StatusService V) (d : Nat)
      (published republished : OperationalSnapshot), Publication c s published →
      Publication (c.ahead d) s republished → ∀ (v v' : V) (status status' : StatusSnapshot),
      Query service published (published.publishedAt.instant + d) v status →
      Query service republished (published.publishedAt.instant + d) v' status' →
      Steady published d status status' := by
  intro hall
  have hpublication (d : Nat) (hd : d = 0 ∨ d = 1000000) :
      Publication ((withReader {}).ahead d) released (releasedSnapshot d) := by
    rcases hd with rfl | rfl <;> exact ⟨rfl, by decide +kernel, by decide +kernel⟩
  have hquery : Query (askedAt 1000000) (releasedSnapshot 0) 1000000 () _ := ⟨rfl, rfl⟩
  have hquery' : Query (askedAt 1000000) (releasedSnapshot 1000000) 1000000 () _ := ⟨rfl, rfl⟩
  have hsteady := hall Unit Unit (withReader {}) released (askedAt 1000000) 1000000 _ _
    (ahead_zero (withReader {}) ▸ hpublication 0 (.inl rfl)) (hpublication 1000000 (.inr rfl)) _ _ _ _ hquery hquery'
  have hremaining : (releasedSnapshot 0).controller.releaseRemainingSeconds =
      (releasedSnapshot 0).controller.releaseRemainingSeconds.map fun r => max 0 (r - seconds 1000000) :=
    hsteady.remaining
  exact absurd hremaining (by decide +kernel)

end BridgewireRuntime

end Bridgewire
