import Bridgewire.Controller.Open
import Bridgewire.Runtime.Door

/-!
# Expired releases

A release ends with a tick. Between the tick that begins an iteration and the
records of its batch a deadline can pass, and a credential that is processed
then finds the door released.
-/

namespace Bridgewire

open Effect

namespace AccessController

/-- A released door was driven HIGH and has a deadline. -/
def DoorView.IsHeld (v : DoorView) : Prop :=
  v.state = .released → v.last = some true ∧ ∃ deadline, v.deadline = some deadline

/-- A LOW that raises has changed nothing but the trace. -/
theorem TriedLow.raised {v v' : DoorView} {e : Exn} (h : TriedLow v (.error e) v') :
    v'.state = v.state ∧ v'.last = v.last ∧ v'.deadline = v.deadline := by
  cases h <;> exact ⟨rfl, rfl, rfl⟩

theorem DoorView.IsHeld.called {W : Type} {c : Wiring W} {reading : ℚ} {v v' : DoorView} {operation : Operation}
    {outcome : Except Exn (Option AccessResult)} (hv : v.IsHeld) (h : Called c reading v operation outcome v') :
    v'.IsHeld := by
  have hnot {v' : DoorView} (h : v'.state ≠ .released) : v'.IsHeld := fun hreleased => absurd hreleased h
  cases h with
  | start h =>
    cases h with
    | running | refused | setupInterrupted | lowInterrupted => exact hv
    | setupRejected | lowRejected | ready => exact hnot (by simp)
  | process h =>
    cases h with
    | refused | settled | alreadyReleased => exact hv
    | asserted => exact fun _ => ⟨rfl, _, rfl⟩
    | interrupted hready | unlogged hready => exact hnot (by simpa using hready.symm ▸ nofun)
    | lowRaised hready _ _ _ _ hlow =>
      refine hnot ?_
      rw [hlow.raised.1]
      simpa using hready.symm ▸ nofun
    | failed => exact hnot (by simp)
  | tick h =>
    cases h with
    | idle | early | interrupted => exact hv
    | restored | rejected => exact hnot (by simp)
  | recoverableFailure h =>
    cases h with
    | lowRaised hlow =>
      obtain ⟨hstate, hlast, hdeadline⟩ := hlow.raised
      exact fun hreleased => by
        rw [hlast, hdeadline]
        exact hv (hstate ▸ hreleased)
    | faulted => exact hnot (by simp)
  | shutdown h =>
    cases h with
    | done => exact hv
    | lowRaised _ hlow => exact hnot (by rw [hlow.raised.1]; simp)
    | unclean _ hlow hcleanup =>
      refine hnot ?_
      rw [TriedCleanup.state_eq hcleanup, DoorView.withDeadline_state, TriedLow.state_eq hlow]
      simp
    | stopped | faulted => exact hnot (by simp)

/-- A release is on after `process` because it was opened or was on before. -/
theorem Processed.released {releaseSeconds : ℚ} {record : RecordResult} {v v' : DoorView} {result : AccessResult}
    (h : Processed releaseSeconds record v (.ok result) v') (hreleased : v'.state = .released) :
    result.physicalRelease = .asserted ∨ (v.state = .released ∧ v.deadline = v'.deadline) := by
  generalize houtcome : Except.ok result = outcome at h
  cases h with
  | refused | interrupted | unlogged | lowRaised => cases houtcome
  | settled | alreadyReleased => exact .inr ⟨hreleased, rfl⟩
  | @asserted _ _ _ _ _ logged =>
    cases logged with
    | error => cases houtcome
    | ok =>
      cases houtcome
      exact .inl rfl
  | failed => cases hreleased

theorem Processed.of_alreadyReleased {releaseSeconds : ℚ} {record : RecordResult} {v v' : DoorView}
    {result : AccessResult} (h : Processed releaseSeconds record v (.ok result) v')
    (habsorbed : result.physicalRelease = .alreadyReleased) : v.state = .released := by
  generalize houtcome : Except.ok result = outcome at h
  cases h with
  | refused | interrupted | unlogged | lowRaised => cases houtcome
  | settled _ _ hresult =>
    rw [(hresult result houtcome.symm).1] at habsorbed
    cases habsorbed
  | alreadyReleased hreleased => exact hreleased
  | @asserted _ _ _ _ _ logged =>
    cases logged with
    | error => cases houtcome
    | ok =>
      cases houtcome
      cases habsorbed
  | failed =>
    cases houtcome
    cases habsorbed

/-- With an accepting relay an authorized credential finds the door released or opens it. -/
theorem Processed.of_authorized {releaseSeconds : ℚ} {record : RecordResult} {v v' : DoorView}
    {result : AccessResult} (h : Processed releaseSeconds record v (.ok result) v')
    (hauthorized : result.authorization = some .authorized) {seen : List Occurrence}
    (htrace : v'.trace = v.trace ++ seen) (hrelay : Accepting seen) :
    result.physicalRelease = .alreadyReleased ∨ result.physicalRelease = .asserted := by
  have hopens : v.state = .ready → result.physicalRelease = .asserted :=
    fun hready => h.opens rfl hready hauthorized htrace hrelay
  generalize houtcome : Except.ok result = outcome at h
  cases h with
  | refused | interrupted | unlogged | lowRaised => cases houtcome
  | settled _ _ hresult => exact absurd hauthorized (hresult result houtcome.symm).2
  | alreadyReleased =>
    cases houtcome
    exact .inl rfl
  | asserted hready | failed hready => exact .inr (hopens hready)

/-- A tick that leaves a release on has read a time before its deadline. -/
theorem Ticked.released {reading : ℚ} {v v' : DoorView} (h : Ticked reading v (.ok ()) v')
    (hv : v.IsHeld) (hreleased : v'.state = .released) :
    ∃ deadline, v.deadline = some deadline ∧ v'.deadline = some deadline ∧ reading < deadline := by
  generalize houtcome : Except.ok () = outcome at h
  cases h with
  | idle hidle =>
    obtain ⟨-, deadline, hdeadline⟩ := hv hreleased
    exact absurd hidle (by simp [hreleased, hdeadline])
  | early _ hdeadline hreading => exact ⟨_, hdeadline, hdeadline, hreading⟩
  | restored | rejected => cases hreleased
  | interrupted => cases houtcome

end AccessController

namespace BridgewireRuntime

open AccessController (Called DoorView)

section
variable {W : Type} (c : Wiring W)

/-- In an iteration from `s`, `record` is processed in the state `before`,
after the records `earlier` of its batch. -/
def Reaches (s : BridgewireRuntime W) (earlier : List RecordResult) (record : RecordResult)
    (before : AccessController.System W) : Prop :=
  ∃ ticked read submitted later, (access c .tick).run s = (.ok (), ticked) ∧ ticked.reader.connected = true ∧
    (ReaderSupervisor.readRecordsOnce (host c) c.reader (streamPart W)).run ticked =
      (.ok (earlier ++ record :: later), read) ∧
    (submitAll c earlier).run read = (.ok (), submitted) ∧ before = submitted.system

/-- What `process` returns in a state. -/
def Returns (before : AccessController.System W) (record : RecordResult) (result : AccessResult) : Prop :=
  ((AccessController.call c.access (.process record)).run before).1 = .ok (some result)

variable {c}

/-- A call of `process` that returned. -/
theorem Returns.processed {before : AccessController.System W} {record : RecordResult} {result : AccessResult}
    (h : Returns c before record result) :
    AccessController.Processed c.access.releaseSeconds record (before.view.saw [.began (.process record)])
      (.ok result) ((AccessController.call c.access (.process record)).run before).2.view := by
  obtain ⟨outcome, hprocessed, houtcome⟩ := AccessController.process_called c.access record before
  rw [Returns, houtcome] at h
  cases outcome with
  | error e => cases h
  | ok result' =>
    cases h
    exact hprocessed

/-- A record that was submitted was processed. -/
theorem submit_ok {record : RecordResult} {s s' : BridgewireRuntime W} (h : (submit c record).run s = (.ok (), s')) :
    ∃ result, Returns c s.system record result ∧
      s'.system = ((AccessController.call c.access (.process record)).run s.system).2 := by
  unfold submit note AccessService.submitRecord at h
  simp only [run_bind, run_modify, run_zoom, show (systemPart W).get { s with log := s.log ++ [RuntimeOccurrence.submitted record] } =
    s.system from rfl] at h
  unfold Returns
  generalize (AccessController.call c.access (.process record)).run s.system = outcome at h ⊢
  obtain ⟨answer, system⟩ := outcome
  cases answer with
  | error e => cases h
  | ok answer =>
    cases answer with
    | none => cases h
    | some result =>
      cases h
      exact ⟨result, rfl, rfl⟩

/-- The controller stands still while the reader is read. -/
theorem readRecordsOnce_view (s : BridgewireRuntime W) :
    ((ReaderSupervisor.readRecordsOnce (host c) c.reader (streamPart W)).run s).2.system.view = s.system.view := by
  -- a read never waits, so what the host does in a wait does not matter
  let still : ReaderSupervisor.Host (BridgewireRuntime W) W := { host c with wait := fun _ => pure false }
  let Still (s s' : BridgewireRuntime W) : Prop := s'.system.view = s.system.view
  have hpreorder : IsPreorder (BridgewireRuntime W) Still :=
    { refl := fun _ => rfl, trans := fun _ _ _ h h' => h'.trans h }
  have hreports : Reports Anywhere Still :=
    { world := fun _ _ _ => rfl, snapshot := fun _ _ => rfl, reported := fun _ _ _ => rfl }
  have hstill : still.Keeps Anywhere Still :=
    { own := fun _ _ => rfl, world := fun _ _ _ => rfl, note := fun _ _ => rfl
      emit := recordReaderEvent_within hreports c.keeps_anywhere, wait := fun _ => within_pure false }
  exact ReaderSupervisor.readRecordsOnce_within hstill c.keeps_anywhere.reader (fun _ _ => rfl) s

/-- A release that is on after some records was on before them, or one of them opened it. -/
theorem submitAll_released {records : List RecordResult} {s s' : BridgewireRuntime W} {deadline : ℚ}
    (h : (submitAll c records).run s = (.ok (), s')) (hreleased : s'.system.controller.state = .released)
    (hdeadline : s'.system.controller.releaseDeadline = some deadline) :
    (s.system.controller.state = .released ∧ s.system.controller.releaseDeadline = some deadline) ∨
      ∃ earlier record later submitted result, records = earlier ++ record :: later ∧
        (submitAll c earlier).run s = (.ok (), submitted) ∧ Returns c submitted.system record result ∧
        result.physicalRelease = .asserted ∧ ((AccessController.call c.access (.process record)).run
          submitted.system).2.controller.releaseDeadline = some deadline := by
  induction records generalizing s with
  | nil =>
    cases h
    exact .inl ⟨hreleased, hdeadline⟩
  | cons record records ih =>
    obtain ⟨s₁, hsubmit, hrest⟩ : ∃ s₁, (submit c record).run s = (.ok (), s₁) ∧
        (submitAll c records).run s₁ = (.ok (), s') := by
      rw [submitAll, run_bind] at h
      generalize (submit c record).run s = outcome at h ⊢
      obtain ⟨answer, s₁⟩ := outcome
      cases answer with
      | error e => cases h
      | ok answer => exact ⟨s₁, rfl, h⟩
    obtain ⟨result, hreturns, hsystem⟩ := submit_ok hsubmit
    rcases ih hrest with ⟨hreleased₁, hdeadline₁⟩ | ⟨earlier, opener, later, submitted, opened, rfl, hearlier, hopened⟩
    · rw [hsystem] at hreleased₁ hdeadline₁
      rcases hreturns.processed.released hreleased₁ with hasserted | ⟨hbefore, hsame⟩
      · exact .inr ⟨[], record, records, s, result, rfl, rfl, hreturns, hasserted, hdeadline₁⟩
      · exact .inl ⟨hbefore, hsame.trans hdeadline₁⟩
    · refine .inr ⟨record :: earlier, opener, later, submitted, opened, rfl, ?_, hopened⟩
      rw [submitAll, run_bind, hsubmit]
      exact hearlier

theorem Moves.isHeld {allowed : AccessController.Operation → Prop} {v v' : DoorView} (h : Moves c allowed v v')
    (hv : v.IsHeld) : v'.IsHeld := by
  induction h with
  | refl => exact hv
  | tail _ hstep ih =>
    obtain ⟨_, _, _, -, hcalled⟩ := hstep
    exact ih.called hcalled

theorem submitAll_isHeld {records : List RecordResult} {s s' : BridgewireRuntime W}
    (h : (submitAll c records).run s = (.ok (), s')) (hs : s.system.view.IsHeld) : s'.system.view.IsHeld := by
  have hdoor := (submitAll_within (fun _ _ => call_works c _ trivial)
    (frames_works c _) records s).door
  rw [h] at hdoor
  exact hdoor.isHeld hs

/-- The tick of an iteration. -/
theorem tick_ticked {s ticked : BridgewireRuntime W} (h : (access c .tick).run s = (.ok (), ticked)) :
    AccessController.Ticked (c.access.clock.monotonic s.system.world).1 (s.system.view.saw [.began .tick]) (.ok ())
      ticked.system.view := by
  obtain ⟨answer, hcalled, hreturned, -⟩ := ends_iff.mp (access_ends (c := c) .tick s)
  rw [h] at hcalled hreturned
  obtain ⟨result, rfl⟩ := hreturned.mp rfl
  generalize hanswer : Except.ok result = answer at hcalled
  cases hcalled with
  | @tick outcome _ hticked =>
    cases outcome with
    | error e => cases hanswer
    | ok => exact hticked

/-- A released door of a run was driven HIGH and has a deadline. -/
theorem after_isHeld (escalation : EscalationTracker) (outside : W) {operations : List Operation}
    (hordinary : ∀ operation ∈ operations, operation.IsOrdinary) :
    (after c operations (fresh c escalation outside)).system.view.IsHeld := by
  suffices hkeeps : ∀ s : BridgewireRuntime W, s.system.view.IsHeld → (after c operations s).system.view.IsHeld from
    hkeeps _ fun hreleased => by cases hreleased
  induction operations with
  | nil => exact fun s hs => hs
  | cons operation operations ih =>
    intro s hs
    refine ih (fun operation h => hordinary operation (List.mem_cons_of_mem _ h)) _ ?_
    exact (perform_works c (hordinary operation List.mem_cons_self) s).door.isHeld hs

end

/-- **No tick has seen the end of a release that absorbs a credential.** When
`process` returns `ALREADY_RELEASED` in an iteration, the door was driven HIGH, and
either the tick of that iteration came before the deadline or the release was
opened since, by an earlier record of the batch. With an accepting relay any
other authorized credential opens a release. -/
theorem absorbed_until_ticked {W : Type} (c : Wiring W) (escalation : EscalationTracker) (outside : W)
    (operations : List Operation) (hordinary : ∀ operation ∈ operations, operation.IsOrdinary)
    (earlier : List RecordResult) (record : RecordResult) (before : AccessController.System W) (result : AccessResult)
    (hreaches : Reaches c (after c operations (fresh c escalation outside)) earlier record before)
    (hreturns : Returns c before record result) :
    (result.physicalRelease = .alreadyReleased →
      before.controller.lastRelayCommandHigh = some true ∧ ∃ deadline,
        before.controller.releaseDeadline = some deadline ∧
          ((c.access.clock.monotonic (after c operations (fresh c escalation outside)).system.world).1 < deadline ∨
            ∃ sooner opener later opening opened, earlier = sooner ++ opener :: later ∧
              Reaches c (after c operations (fresh c escalation outside)) sooner opener opening ∧
              Returns c opening opener opened ∧ opened.physicalRelease = .asserted ∧
              ((AccessController.call c.access (.process opener)).run opening).2.controller.releaseDeadline =
                some deadline)) ∧
      (result.authorization = some .authorized →
        AccessController.Accepting (AccessController.seenBy c.access (.process record) before) →
        result.physicalRelease = .alreadyReleased ∨ result.physicalRelease = .asserted) := by
  have hheld := after_isHeld (c := c) escalation outside hordinary
  generalize after c operations (fresh c escalation outside) = s at hheld hreaches ⊢
  obtain ⟨ticked, read, submitted, later, htick, hconnected, hread, hsubmitted, rfl⟩ := hreaches
  have hticked := tick_ticked htick
  have hstill : read.system.view = ticked.system.view := by
    have hview := readRecordsOnce_view (c := c) ticked
    rwa [hread] at hview
  constructor
  · intro habsorbed
    have hreleased : submitted.system.controller.state = .released := hreturns.processed.of_alreadyReleased habsorbed
    have htickedHeld : ticked.system.view.IsHeld := by
      have hcalled := (Called.tick (c := c.access) hticked)
      exact DoorView.IsHeld.called hheld hcalled
    obtain ⟨hhigh, deadline, hdeadline⟩ := submitAll_isHeld hsubmitted (hstill ▸ htickedHeld) hreleased
    refine ⟨hhigh, deadline, hdeadline, ?_⟩
    rcases submitAll_released hsubmitted hreleased hdeadline with ⟨hbefore, hsame⟩ | hopened
    · have hstate : ticked.system.view.state = .released := hstill ▸ hbefore
      have hkept : ticked.system.view.deadline = some deadline := hstill ▸ hsame
      obtain ⟨deadline', -, hdeadline', hearly⟩ := hticked.released (fun h => hheld h) hstate
      obtain rfl : deadline' = deadline := Option.some.inj (hdeadline'.symm.trans hkept)
      exact .inl hearly
    · obtain ⟨sooner, opener, rest, opening, opened, rfl, hsooner, hopener, hasserted, hopens⟩ := hopened
      refine .inr ⟨sooner, opener, rest, opening.system, opened, rfl, ?_, hopener, hasserted, hopens⟩
      exact ⟨ticked, read, opening, rest ++ record :: later, htick, hconnected, by simpa using hread, hsooner, rfl⟩
  · intro hauthorized haccepting
    obtain ⟨rest, hrest⟩ := (AccessController.call_called c.access (.process record) submitted.system).grows
    have htrace : ((AccessController.call c.access (.process record)).run submitted.system).2.trace =
        submitted.system.trace ++ (.began (.process record) :: rest) := hrest.symm.trans (by simp)
    rw [AccessController.seenBy_of_trace htrace] at haccepting
    exact hreturns.processed.of_authorized hauthorized hrest.symm
      (AccessController.Accepting.of_suffix haccepting (List.suffix_cons _ _))

-- ---------------------------------------------------------------------------
-- A slow audit
-- ---------------------------------------------------------------------------

/-- Two frames in one read, and an audit sink that takes ten seconds for each event. -/
def slow : Wiring (List (List UInt8) × ℚ) where
  access :=
    { authorization := ⟨fun _ => pure .authorized⟩
      relay := { setup := fun _ _ => pure (), command := fun _ => pure (), cleanup := pure () }
      audit := ⟨fun _ => modify fun w => (w.1, w.2 + 10)⟩
      notifications := ⟨fun _ => pure ()⟩
      clock := ⟨fun w => (w.2, w), fun w => (⟨0, some 0⟩, w)⟩
      uuid4 := fun w => ("", w)
      releaseSeconds := 3
      gpioChannel := 23
      releaseSeconds_pos := AccessController.threeSeconds_pos }
  reader :=
    { identity := .byId "/dev/serial/by-id/reader"
      enumerateDevices := pure [⟨"/dev/ttyUSB0", some "/dev/serial/by-id/reader", none, none, none, none, none⟩]
      openReader := fun _ => pure (some ⟨0⟩)
      read := fun _ => Effect.of fun w =>
        match w with
        | ([], time) => (.ok [], ([], time))
        | (data :: script, time) => (.ok data, (script, time))
      closeSession := fun _ => pure ()
      backoff := .unjittered
      repeatedFailureThreshold := 3
      randomUnit := pure 0
      monotonic := none
      threshold_pos := ReaderSupervisor.defaultThreshold_pos }
  health := ⟨fun _ => pure ()⟩
  audit := ⟨fun _ => pure ()⟩
  clock := ⟨fun w => (w.2, w), fun w => (⟨0, some 0⟩, w)⟩
  uuid4 := fun w => ("", w)
  maximumRecordBytes := 16
  waiter := ⟨fun _ w => (⟨0, .ok true⟩, w)⟩
  hasStore := false

def twoFrames : List UInt8 :=
  [2, 48, 49, 48, 50, 48, 51, 48, 52, 48, 53, 48, 49, 13, 10, 3,
    2, 48, 49, 48, 50, 48, 51, 48, 52, 48, 53, 48, 49, 13, 10, 3]

/-- The second iteration of a run over those frames. -/
def slowBatch : BridgewireRuntime (List (List UInt8) × ℚ) :=
  after slow [.start, .runOnce] (fresh slow { policy := .standard } ([twoFrames], 0))

/-- Its second record is processed here. -/
def slowBefore : AccessController.System (List (List UInt8) × ℚ) :=
  let ticked := ((access slow .tick).run slowBatch).2
  let read := ((ReaderSupervisor.readRecordsOnce (host slow) slow.reader (streamPart _)).run ticked).2
  ((submitAll slow [.parsed ⟨"0102030405"⟩]).run read).2.system

theorem run_returned {S α : Type} {m : Effect Exn S α} {s : S} {a : α} (h : (m.run s).1 = .ok a) :
    m.run s = (.ok a, (m.run s).2) :=
  Prod.ext h rfl

theorem slow_reaches : Reaches slow slowBatch [.parsed ⟨"0102030405"⟩] (.parsed ⟨"0102030405"⟩) slowBefore := by
  refine ⟨_, _, _, [], run_returned ?_, ?_, run_returned ?_, run_returned ?_, rfl⟩
  all_goals decide +kernel

theorem slow_returns : Returns slow slowBefore (.parsed ⟨"0102030405"⟩) ⟨some .authorized, .alreadyReleased⟩ :=
  show ((AccessController.call _ _).run _).1 = _ by decide +kernel

theorem absorbed_until_ticked_slow : slowBefore.controller.lastRelayCommandHigh = some true :=
  ((absorbed_until_ticked slow { policy := {} } ([twoFrames], 0) [.start, .runOnce] (by simp [Operation.IsOrdinary])
    [.parsed ⟨"0102030405"⟩] (.parsed ⟨"0102030405"⟩) slowBefore ⟨some .authorized, .alreadyReleased⟩ slow_reaches
    slow_returns).1 rfl).1

/-- Time does not go back, whatever is called. -/
structure Nondecreasing {W : Type} (c : Wiring W) : Prop where
  ports : c.Keeps fun w w' => (c.access.clock.monotonic w).1 ≤ (c.access.clock.monotonic w').1
  setup (numbering : String) (channel : Int) (w : W) : (c.access.clock.monotonic w).1 ≤
    (c.access.clock.monotonic ((c.access.relay.setup numbering channel).run w).2).1
  command (high : Bool) (w : W) : (c.access.clock.monotonic w).1 ≤
    (c.access.clock.monotonic ((c.access.relay.command high).run w).2).1
  cleanup (w : W) : (c.access.clock.monotonic w).1 ≤
    (c.access.clock.monotonic ((c.access.relay.cleanup).run w).2).1

theorem slow_nondecreasing : Nondecreasing slow where
  ports :=
    { access := ⟨fun _ _ => le_refl _, fun _ _ => le_add_of_nonneg_right (by decide), fun _ _ => le_refl _, fun _ => le_refl _,
        fun _ => le_refl _, fun _ => le_refl _⟩
      reader := ⟨fun _ => le_refl _, fun _ _ => le_refl _, fun _ w => by
        obtain ⟨_ | ⟨data, script⟩, time⟩ := w <;> exact le_refl _, fun _ _ => le_refl _, fun _ => le_refl _,
        fun _ h => by cases h⟩
      report := fun _ _ => le_refl _
      append := fun _ _ => le_refl _
      now := fun _ => le_refl _
      uuid4 := fun _ => le_refl _
      wait := fun _ _ => le_refl _ }
  setup _ _ _ := le_refl _
  command _ _ := le_refl _
  cleanup _ := le_refl _

/-- A release is over by the clock, and absorbs a credential. -/
theorem expired_release_absorbs :
    ¬∀ (W : Type) (c : Wiring W) (escalation : EscalationTracker) (outside : W) (rounds : Nat)
      (earlier : List RecordResult) (record : RecordResult) (before : AccessController.System W) (result : AccessResult),
      (∀ high w, ((c.access.relay.command high).run w).1 = .ok ()) → Nondecreasing c →
      Reaches c (after c (.start :: List.replicate rounds .runOnce) (fresh c escalation outside)) earlier record before →
      Returns c before record result → result.physicalRelease = .alreadyReleased →
      ∃ deadline, before.controller.releaseDeadline = some deadline ∧
        (c.access.clock.monotonic before.world).1 < deadline := by
  intro h
  obtain ⟨deadline, hdeadline, hearly⟩ := h _ slow { policy := {} } ([twoFrames], 0) 1 _ _ _ _ (fun _ _ => rfl)
    slow_nondecreasing slow_reaches slow_returns rfl
  have hpassed : slowBefore.controller.releaseDeadline = some 23 ∧
      (slow.access.clock.monotonic slowBefore.world).1 = 30 := by
    decide +kernel
  rw [hpassed.1] at hdeadline
  cases hdeadline
  rw [hpassed.2] at hearly
  exact absurd hearly (by decide)

end BridgewireRuntime

end Bridgewire
