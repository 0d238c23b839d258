import Bridgewire.Controller.Open
import Bridgewire.Runtime.Door

/-!
# What a shutdown tells

The controller records a rejected LOW or cleanup and returns; the runtime
takes a return for success. So a shutdown in which the relay rejects
something and everybody else is content hides the failure: the runtime is
done, the controller is not stopped, and no later shutdown tries again.
-/

namespace Bridgewire.AccessController

-- ---------------------------------------------------------------------------
-- Rejections that are hidden
-- ---------------------------------------------------------------------------

/-- The relay rejects something, and the audit sink takes a report of all of it. -/
def Hidden (seen : List Occurrence) : Prop :=
  0 < seen.countP Occurrence.isRejected ∧
    seen.countP Occurrence.isReport = seen.countP Occurrence.isRejected

section
variable {v v' : DoorView}

theorem ShutDown.hidden_iff {outcome : Except Exn Unit} (h : ShutDown v outcome v')
    {seen : List Occurrence} (htrace : v'.trace = v.trace ++ seen) :
    Hidden seen ↔ outcome = .ok () ∧ v'.state ≠ .stopped := by
  have hcleanup : ∀ {v outcome v'}, TriedCleanup v outcome v' → ∃ seen, v'.trace = v.trace ++ seen ∧
      seen.countP Occurrence.isRejected = rejectedIn outcome ∧
      seen.countP Occurrence.isReport = reportedIn outcome := by
    intro v outcome v' h
    refine h.counts ?_ (fun _ => rfl) fun _ => rfl
    rintro (e | ⟨⟨⟩⟩) <;> rfl
  cases h with
  | done hstopped =>
    obtain rfl : seen = [] := by simpa using htrace
    simp [Hidden, hstopped]
  | lowRaised _ hsafe =>
    obtain ⟨xs, hxs, hrejected, hreport⟩ := low_counts hsafe
    obtain rfl : .entered .shuttingDown :: xs = seen := by simpa [hxs] using htrace
    simp [Hidden, Occurrence.isRejected, Occurrence.isReport, hrejected, hreport, rejectedIn, reportedIn]
  | @unclean safe _ _ _ _ hsafe hclean =>
    obtain ⟨xs, hxs, hrejected, hreport⟩ := low_counts hsafe
    obtain ⟨ys, hys, hrejected', hreport'⟩ := hcleanup hclean
    obtain rfl : .entered .shuttingDown :: (xs ++ ys) = seen := by simpa [hxs, hys] using htrace
    cases safe <;>
      simp [Hidden, Occurrence.isRejected, Occurrence.isReport, hrejected, hreport, hrejected',
        hreport', rejectedIn, reportedIn]
  | @stopped _ tail _ _ _ hsafe hclean hlog =>
    obtain ⟨xs, hxs, hrejected, hreport⟩ := low_counts hsafe
    obtain ⟨ys, hys, hrejected', hreport'⟩ := hcleanup hclean
    obtain rfl : .entered .shuttingDown :: (xs ++ ys) ++ .entered .stopped :: tail = seen := by
      simpa [hxs, hys] using htrace
    simp [Hidden, Occurrence.isRejected, hrejected, hrejected', rejectedIn, hlog.rejected_eq]
  | @faulted safe cleanupOk _ _ _ hsafe hclean hfailed =>
    obtain ⟨xs, hxs, hrejected, hreport⟩ := low_counts hsafe
    obtain ⟨ys, hys, hrejected', hreport'⟩ := hcleanup hclean
    obtain rfl : .entered .shuttingDown :: (xs ++ ys) ++ [Occurrence.entered .faulted] = seen := by
      simpa [hxs, hys] using htrace
    cases safe <;> cases cleanupOk
    case true.true => cases hfailed
    all_goals
      simp [Hidden, Occurrence.isRejected, Occurrence.isReport, hrejected, hreport, hrejected',
        hreport', rejectedIn, reportedIn]

end

-- ---------------------------------------------------------------------------
-- A stopped controller
-- ---------------------------------------------------------------------------

/-- The relay accepted a cleanup. -/
def CleanedUp (trace : List Occurrence) : Prop := .cleanup (.ok ()) ∈ trace

/-- A stopped controller has secured the door. -/
def Secured (v : DoorView) : Prop :=
  v.state = .stopped → lastAccepted v.trace = some false ∧ CleanedUp v.trace

section
variable {v v' : DoorView}

theorem Secured.of_state (h : v.state ≠ .stopped) : Secured v := fun hstopped => absurd hstopped h

theorem Secured.extends (h : Secured v) (hv : Extends v v') : Secured v' := by
  obtain ⟨hstate, seen, hseen, htrace⟩ := hv
  intro hstopped
  obtain ⟨hlow, hclean⟩ := h (hstate.symm.trans hstopped)
  rw [htrace]
  exact ⟨stays_low hlow hseen.not_raised, List.mem_append_left _ hclean⟩

theorem Called.secured {W : Type} {c : Wiring W} {reading : ℚ} {operation : Operation}
    {outcome : Except Exn (Option AccessResult)} (h : Called c reading v operation outcome v')
    (hv : Secured v) : Secured v' := by
  have hbegan : Extends v (v.saw [.began operation]) :=
    (Extends.refl v).saw (by simp [Inert, Occurrence.IsHigh, Occurrence.entered?])
  cases h with
  | start h =>
    cases h with
    | running | refused => exact hv.extends hbegan
    | setupInterrupted hinit | lowInterrupted hinit =>
      exact Secured.of_state (by simp_all)
    | setupRejected | lowRejected | ready => exact Secured.of_state (by simp)
  | process h =>
    cases h with
    | refused => exact hv.extends hbegan
    | settled hready =>
      refine Secured.of_state ?_
      rcases hready with hready | hready <;> simp_all
    | alreadyReleased hready | interrupted hready | unlogged hready =>
      exact Secured.of_state (by simp_all)
    | lowRaised hready _ _ _ _ hlow =>
      refine Secured.of_state ?_
      rw [hlow.extends.state]
      simp_all
    | asserted | failed => exact Secured.of_state (by simp)
  | tick h =>
    cases h with
    | idle => exact hv.extends hbegan
    | early hreleased | interrupted hreleased => exact Secured.of_state (by simp_all)
    | restored | rejected => exact Secured.of_state (by simp)
  | recoverableFailure h =>
    cases h with
    | lowRaised hlow => exact (hv.extends hbegan).extends hlow.extends
    | faulted => exact Secured.of_state (by simp)
  | shutdown h =>
    cases h with
    | done => exact hv.extends hbegan
    | lowRaised _ hlow =>
      refine Secured.of_state ?_
      rw [hlow.extends.state]
      simp
    | unclean _ hlow hclean =>
      refine Secured.of_state ?_
      rw [hclean.extends.state, DoorView.withDeadline_state, hlow.extends.state]
      simp
    | @stopped _ tail _ _ _ hlow hclean hlog =>
      cases hlow
      cases hclean
      have htrace : v.trace ++ [Occurrence.began .shutdown] ++ [Occurrence.entered .shuttingDown] ++
          [Occurrence.command false (.ok ())] ++ [Occurrence.cleanup (.ok ())] ++ [Occurrence.entered .stopped] ++ tail =
          v.trace ++ ([Occurrence.began .shutdown, .entered .shuttingDown, .command false (.ok ()),
            .cleanup (.ok ()), .entered .stopped] ++ tail) := by simp
      intro _
      constructor
      · exact (congrArg lastAccepted htrace).trans (lastAccepted_of_low (by simp [hlog.commands_eq]) _)
      · simp [CleanedUp]
    | faulted => exact Secured.of_state (by simp)

/-- Nothing that the main loop asks for gets a stopped controller going. -/
theorem Called.stays_stopped {W : Type} {c : Wiring W} {reading : ℚ} {operation : Operation}
    {outcome : Except Exn (Option AccessResult)} (h : Called c reading v operation outcome v')
    (hordinary : operation.IsOrdinary) (hstopped : v.state = .stopped) : v'.state = .stopped := by
  cases h with
  | start h =>
    cases h <;> simp_all
  | process h =>
    cases h with
    | settled hready => rcases hready with hready | hready <;> simp_all
    | lowRaised hready | failed hready => simp_all
    | _ => simp_all
  | tick h => cases h <;> simp_all
  | recoverableFailure | shutdown => exact absurd hordinary id

end

end Bridgewire.AccessController

namespace Bridgewire.BridgewireRuntime

open Effect
open AccessController (Called DoorView Hidden Secured Survived CleanedUp lastAccepted)

-- ---------------------------------------------------------------------------
-- One shutdown
-- ---------------------------------------------------------------------------

/-- The session's close and the health reports are accepted. -/
def Willing (lines : List RuntimeOccurrence) : Prop :=
  ∀ line ∈ lines,
    match line with
    | .reader (.closed answer) | .reported _ answer => answer = .ok ()
    | _ => True

section
variable {W : Type} {c : Wiring W}

theorem gather_ends {cleanup : Program W Unit} {failures : List Exn} {s : BridgewireRuntime W}
    {R : Except Exn Unit → BridgewireRuntime W → Prop} (h : Ends cleanup s R) :
    Ends (gather cleanup failures) s (fun outcome s' => ∃ answer failures', R answer s' ∧
      outcome = .ok failures' ∧ (failures' = [] ↔ failures = [] ∧ answer = .ok ())) := by
  unfold gather
  refine Ends.bind (Triple.attempt h) ?_ ?_
  · rintro e s' ⟨⟨⟩, -⟩
  · rintro (e | ⟨⟨⟩⟩) s' h'
    · exact Ends.pure ⟨.error e, _, h'.2, rfl, by simp⟩
    · exact Ends.pure ⟨.ok (), _, h', rfl, by simp⟩

/-- Neither the door nor the log is changed by a port. -/
theorem ask_ends {α : Type} (port : Port W α) (s : BridgewireRuntime W) :
    Ends (zoom (worldPart W) port) s (fun _ s' =>
      s'.log = s.log ∧ s'.system.view = s.system.view ∧ s'.shutdownComplete = s.shutdownComplete) :=
  ends_iff.mpr ⟨rfl, rfl, rfl⟩

theorem reportHealth_ends (status : String) (details : List (String × HealthValue))
    (s : BridgewireRuntime W) :
    Ends (reportHealth c status details) s (fun outcome s' =>
      outcome = ((c.health.report ⟨status, details⟩).run s.system.world).1 ∧
        s'.log = s.log ++ [RuntimeOccurrence.reported ⟨status, details⟩ outcome] ∧
        s'.reader = s.reader ∧ s'.system.view = s.system.view ∧ s'.shutdownComplete = s.shutdownComplete) := by
  rw [ends_iff, reportHealth_run]
  exact ⟨rfl, rfl, rfl, rfl, rfl⟩

/-- The line of a close: that of the session, if one is open. -/
def closing (c : Wiring W) (s : BridgewireRuntime W) : List RuntimeOccurrence :=
  match s.reader.session with
  | none => []
  | some session => [.reader (.closed ((c.reader.closeSession session).run s.system.world).1)]

/-- A reader that is given up. -/
def Retired (reader : ReaderSupervisor) : Prop := reader.session = none ∧ reader.healthState = .stopped

theorem close_ends (s : BridgewireRuntime W) :
    Ends (ReaderSupervisor.close (host c) c.reader) s (fun outcome s' =>
      s'.log = s.log ++ closing c s ∧ (Willing (closing c s) ↔ outcome = .ok ()) ∧
        (outcome = .ok () → Retired s'.reader) ∧ s'.system.view = s.system.view ∧
        s'.shutdownComplete = s.shutdownComplete) := by
  have hdisconnect : Ends (ReaderSupervisor.disconnect (host c) c.reader) s (fun outcome s' =>
      s'.log = s.log ++ closing c s ∧ (Willing (closing c s) ↔ outcome = .ok ()) ∧
        (outcome = .ok () → s'.reader.session = none) ∧ s'.system.view = s.system.view ∧
        s'.shutdownComplete = s.shutdownComplete) := by
    unfold ReaderSupervisor.disconnect
    refine Ends.get_bind ?_
    unfold closing
    split
    · rename_i hnone
      have hnone : s.reader.session = none := hnone
      rw [hnone]
      exact Ends.pure ⟨by simp, by simp [Willing], fun _ => hnone, rfl, rfl⟩
    · rename_i session hsession
      have hsession : s.reader.session = some session := hsession
      rw [hsession]
      have hclose : Ends (ReaderSupervisor.ask (host c) (c.reader.closeSession session)) s (fun outcome s' =>
          outcome = ((c.reader.closeSession session).run s.system.world).1 ∧ s'.log = s.log ∧
            s'.system.view = s.system.view ∧ s'.shutdownComplete = s.shutdownComplete) :=
        ends_iff.mpr ⟨rfl, rfl, rfl, rfl⟩
      dsimp only
      refine Ends.bind (Triple.attempt hclose) ?_ ?_
      · rintro e s' ⟨⟨⟩, -⟩
      · rintro (e | ⟨⟨⟩⟩) s' h'
        · obtain ⟨-, hanswer, hlog, hview, hcomplete⟩ := h'
          rw [← hanswer]
          refine Ends.modify_bind (Ends.throw ⟨congrArg (· ++ _) hlog, ?_, ?_, hview, hcomplete⟩)
          · simp [Willing]
          · rintro ⟨⟩
        · obtain ⟨hanswer, hlog, hview, hcomplete⟩ := h'
          rw [← hanswer]
          refine Ends.modify_bind (ends_iff.mpr ⟨congrArg (· ++ _) hlog, ?_, fun _ => rfl, hview, hcomplete⟩)
          exact iff_of_true (by simp [Willing]) rfl
  unfold ReaderSupervisor.close
  refine Ends.bind hdisconnect ?_ ?_
  · rintro e s' ⟨hlog, hwilling, -, hview, hcomplete⟩
    refine ⟨hlog, hwilling, ?_, hview, hcomplete⟩
    rintro ⟨⟩
  · rintro ⟨⟩ s' ⟨hlog, hwilling, hsession, hview, hcomplete⟩
    exact ends_iff.mpr ⟨hlog, hwilling, fun _ => ⟨hsession rfl, rfl⟩, hview, hcomplete⟩

theorem Willing.append {xs ys : List RuntimeOccurrence} :
    Willing (xs ++ ys) ↔ Willing xs ∧ Willing ys := by
  simp [Willing, or_imp, forall_and]

-- What the controller's shutdown leaves, and then the reader's close.

def shut (c : Wiring W) (s : BridgewireRuntime W) : BridgewireRuntime W := ((access c .shutdown).run s).2

def shutAndClosed (c : Wiring W) (s : BridgewireRuntime W) : BridgewireRuntime W :=
  ((ReaderSupervisor.close (host c) c.reader).run (shut c s)).2

/-- The lines of the reader's close and of the report, each with the answer
that its port gives after what came before. -/
def lastLines (c : Wiring W) (s : BridgewireRuntime W) : List RuntimeOccurrence :=
  closing c (shut c s) ++
    [RuntimeOccurrence.reported ⟨"stopped", []⟩ ((c.health.report ⟨"stopped", []⟩).run (shutAndClosed c s).system.world).1]

/-- The three cleanups have been attempted, in their order: the controller's
shutdown, then the close of the reader, then the report. -/
structure CleansUp (c : Wiring W) (s s' : BridgewireRuntime W) : Prop where
  began : ∃ seen, (shut c s).system.trace = s.system.trace ++ .began .shutdown :: seen
  trace_eq : s'.system.trace = (shut c s).system.trace
  log_eq : s'.log = s.log ++ lastLines c s
  retired : Willing (closing c (shut c s)) → Retired s'.reader

theorem CleansUp.of_same {s s' s'' : BridgewireRuntime W} (h : CleansUp c s s')
    (htrace : s''.system.trace = s'.system.trace) (hlog : s''.log = s'.log) (hreader : s''.reader = s'.reader) :
    CleansUp c s s'' :=
  ⟨h.began, htrace.trans h.trace_eq, hlog.trans h.log_eq, fun hwilling => by rw [hreader]; exact h.retired hwilling⟩

theorem cleanUp_ends (s : BridgewireRuntime W) :
    Ends (cleanUp c) s (fun outcome s' => ∃ failures answer, outcome = .ok failures ∧ CleansUp c s s' ∧
      Called c.access (c.access.clock.monotonic s.system.world).1 s.system.view .shutdown answer
        s'.system.view ∧
      s'.shutdownComplete = s.shutdownComplete ∧
      (failures = [] ↔ (∃ result, answer = .ok result) ∧ Willing (lastLines c s))) := by
  unfold cleanUp
  have haccess : Ends (access c .shutdown) s (fun outcome s' => s' = shut c s ∧ ∃ answer,
      Called c.access (c.access.clock.monotonic s.system.world).1 s.system.view .shutdown answer
        s'.system.view ∧ (outcome = .ok () ↔ ∃ result, answer = .ok result) ∧ s' = { s with system := s'.system }) :=
    ends_iff.mpr ⟨rfl, ends_iff.mp (access_ends _ _)⟩
  have hclose : Ends (ReaderSupervisor.close (host c) c.reader) (shut c s) (fun outcome s' => s' = shutAndClosed c s ∧
      s'.log = (shut c s).log ++ closing c (shut c s) ∧ (Willing (closing c (shut c s)) ↔ outcome = .ok ()) ∧
        (outcome = .ok () → Retired s'.reader) ∧ s'.system.view = (shut c s).system.view ∧
        s'.shutdownComplete = (shut c s).shutdownComplete) :=
    ends_iff.mpr ⟨rfl, ends_iff.mp (close_ends _)⟩
  refine Ends.bind (gather_ends haccess) ?_ ?_
  · rintro e s' ⟨-, -, -, ⟨⟩, -⟩
  rintro failures₁ s₁ ⟨answer₁, _, ⟨rfl, answer, hcalled, hanswer, hsame⟩, ⟨⟩, hfailures₁⟩
  refine Ends.bind (gather_ends hclose) ?_ ?_
  · rintro e s' ⟨-, -, -, ⟨⟩, -⟩
  rintro failures₂ s₂ ⟨answer₂, _, ⟨rfl, hlog₂, hwilling, hretired, hview₂, hcomplete₂⟩, ⟨⟩, hfailures₂⟩
  refine (gather_ends (reportHealth_ends "stopped" [] (shutAndClosed c s))).mono ?_
  rintro _ s₃ ⟨answer₃, failures₃, ⟨hanswer₃, hlog₃, hreader₃, hview₃, hcomplete₃⟩, rfl, hfailures₃⟩
  have hlog : (shut c s).log = s.log := by rw [hsame]
  have hcomplete : (shut c s).shutdownComplete = s.shutdownComplete := by rw [hsame]
  have hview : s₃.system.view = (shut c s).system.view := hview₃.trans hview₂
  refine ⟨failures₃, answer, rfl, ⟨?_, ?_, ?_, ?_⟩, ?_, ?_, ?_⟩
  · obtain ⟨seen, hseen⟩ := hcalled.grows
    refine ⟨seen, ?_⟩
    simpa using hseen.symm
  · exact congrArg DoorView.trace hview
  · rw [hlog₃, hlog₂, hlog, hanswer₃, lastLines, List.append_assoc]
  · rw [hreader₃, hwilling]
    exact hretired
  · rw [hview]
    exact hcalled
  · rw [hcomplete₃, hcomplete₂, hcomplete]
  · rw [hfailures₃, hfailures₂, hfailures₁, lastLines, Willing.append, hwilling, hanswer, ← hanswer₃]
    simp [Willing, and_assoc]

/-- A shutdown that is not done yet: it is done when nothing raised. -/
theorem shutdown_ends {s : BridgewireRuntime W} (hfresh : s.shutdownComplete = false) :
    Ends (shutdown c) s (fun outcome s' => ∃ answer, CleansUp c s s' ∧
      Called c.access (c.access.clock.monotonic s.system.world).1 s.system.view .shutdown answer
        s'.system.view ∧
      (s'.shutdownComplete = true ↔ (∃ result, answer = .ok result) ∧ Willing (lastLines c s)) ∧
      (outcome = .ok () → s'.shutdownComplete = true)) := by
  unfold shutdown
  refine Ends.get_bind ?_
  rw [hfresh]
  refine Ends.bind (cleanUp_ends s) ?_ ?_
  · rintro e s' ⟨-, -, ⟨⟩, -⟩
  rintro failures s₁ ⟨_, answer, ⟨⟩, hcleans, hcalled, hcomplete, hfailures⟩
  have hkept : ∀ {s₂ s₃ : BridgewireRuntime W}, Published s₂ s₃ → s₂.system = s₁.system → s₂.log = s₁.log →
      s₂.reader = s₁.reader → CleansUp c s s₃ ∧
        Called c.access (c.access.clock.monotonic s.system.world).1 s.system.view .shutdown answer
          s₃.system.view := by
    intro s₂ s₃ hpublished hsystem hlog hreader
    have hview : s₃.system.view = s₁.system.view := by rw [hpublished.view, hsystem]
    refine ⟨hcleans.of_same (congrArg DoorView.trace hview) (hpublished.log.trans hlog)
      (hpublished.reader.trans hreader), ?_⟩
    rw [hview]
    exact hcalled
  split
  · rename_i hempty
    refine Ends.modify_bind (((publishSnapshot_published c).ends _).mono ?_)
    intro outcome s₂ hpublished
    have hdone : s₂.shutdownComplete = true := hpublished.complete
    obtain ⟨hcleans', hcalled'⟩ := hkept hpublished rfl rfl rfl
    refine ⟨answer, hcleans', hcalled', ?_, fun _ => hdone⟩
    rw [hdone, ← hfailures]
    simpa using hempty
  · rename_i hfailed
    have hopen : ∀ {s₂ : BridgewireRuntime W}, Published s₁ s₂ →
        (s₂.shutdownComplete = true ↔ (∃ result, answer = .ok result) ∧ Willing (lastLines c s)) := by
      intro s₂ hpublished
      rw [hpublished.complete, hcomplete, hfresh, ← hfailures]
      simpa using hfailed
    refine Ends.bind ((publishSnapshot_published c).ends _) ?_ ?_
    · intro e s₂ hpublished
      obtain ⟨hcleans', hcalled'⟩ := hkept hpublished rfl rfl rfl
      exact ⟨answer, hcleans', hcalled', hopen hpublished, by simp⟩
    · intro _ s₂ hpublished
      obtain ⟨hcleans', hcalled'⟩ := hkept hpublished rfl rfl rfl
      exact Ends.throw ⟨answer, hcleans', hcalled', hopen hpublished, by simp⟩

/-- A shutdown that is done does nothing. -/
theorem shutdown_done {s : BridgewireRuntime W} (hdone : s.shutdownComplete = true) :
    (shutdown c).run s = (.ok (), s) := by
  simp [shutdown, run_bind, hdone]

theorem handleFailure_ends (s : BridgewireRuntime W) :
    Ends (handleFailure c) s (fun _ s' => ∃ answer,
      Called c.access (c.access.clock.monotonic s.system.world).1 s.system.view .recoverableFailure
        answer s'.system.view ∧ s'.shutdownComplete = s.shutdownComplete) := by
  unfold handleFailure
  refine Ends.bind (access_ends _ s) ?_ ?_
  · rintro e s' ⟨answer, hcalled, -, hsame⟩
    exact ⟨answer, hcalled, by rw [hsame]⟩
  · rintro ⟨⟩ s₁ ⟨answer, hcalled, -, hsame⟩
    refine ((publishSnapshot_published c).ends _).mono fun _ s' hpublished => ⟨answer, ?_, ?_⟩
    · rw [hpublished.view]
      exact hcalled
    · rw [hpublished.complete, hsame]

-- ---------------------------------------------------------------------------
-- Runs
-- ---------------------------------------------------------------------------

variable (c)

/-- What an operation adds to the controller's trace, and to the log. -/
def seenBy (operation : Operation) (s : BridgewireRuntime W) : List AccessController.Occurrence :=
  ((perform c operation).run s).2.system.trace.drop s.system.trace.length

def linesBy (operation : Operation) (s : BridgewireRuntime W) : List RuntimeOccurrence :=
  ((perform c operation).run s).2.log.drop s.log.length

/-- A completed shutdown is left with a controller that is not stopped: the
relay's rejections are hidden by everybody else's content, or a failure is
handled after the shutdown. -/
def Masks (s : BridgewireRuntime W) : Operation → Prop
  | .shutdown =>
    s.shutdownComplete = false ∧ Hidden (seenBy c .shutdown s) ∧ Willing (linesBy c .shutdown s)
  | .handleFailure => s.shutdownComplete = true ∧ Survived (seenBy c .handleFailure s)
  | _ => False

/-- No operation of the run masks a failure. -/
def Unmasked : List Operation → BridgewireRuntime W → Prop
  | [], _ => True
  | operation :: operations, s =>
    ¬Masks c s operation ∧ Unmasked operations ((perform c operation).run s).2

variable {c}

/-- A completed shutdown means a stopped controller. -/
structure Honest (s : BridgewireRuntime W) : Prop where
  secured : Secured s.system.view
  complete : s.shutdownComplete = true → s.system.controller.state = .stopped

theorem Moves.honest {allowed : AccessController.Operation → Prop} {v v' : DoorView}
    (h : Moves c allowed v v') (hallowed : ∀ operation, allowed operation → operation.IsOrdinary)
    (hv : Secured v) : Secured v' ∧ (v.state = .stopped → v'.state = .stopped) := by
  induction h with
  | refl => exact ⟨hv, id⟩
  | tail _ hstep ih =>
    obtain ⟨reading, operation, outcome, hoperation, hcalled⟩ := hstep
    obtain ⟨hsecured, hstays⟩ := ih
    exact ⟨hcalled.secured hsecured,
      fun hstopped => hcalled.stays_stopped (hallowed _ hoperation) (hstays hstopped)⟩

theorem Honest.works {s s' : BridgewireRuntime W} (hs : Honest s)
    (h : Works c AccessController.Operation.IsOrdinary s s') : Honest s' := by
  obtain ⟨hsecured, hstays⟩ := h.door.honest (fun _ => id) hs.secured
  exact ⟨hsecured, fun hdone => hstays (hs.complete (h.complete.symm.trans hdone))⟩

/-- The new lines of the controller's trace in a call of the controller. -/
theorem seenBy_of_called (operation : Operation) {s : BridgewireRuntime W} {reading : ℚ}
    {call : AccessController.Operation} {answer : Except Exn (Option AccessResult)}
    (h : Called c.access reading s.system.view call answer
      ((perform c operation).run s).2.system.view) :
    ∃ rest, seenBy c operation s = .began call :: rest ∧
      ((perform c operation).run s).2.system.view.trace =
        (s.system.view.saw [AccessController.Occurrence.began call]).trace ++ rest := by
  obtain ⟨rest, hrest⟩ := h.grows
  refine ⟨rest, ?_, hrest.symm⟩
  have htrace : ((perform c operation).run s).2.system.trace =
      s.system.trace ++ .began call :: rest := by
    simpa using hrest.symm
  rw [seenBy, htrace, List.drop_left]

/-- A shutdown masks a failure just when it is done without a stopped controller. -/
theorem masks_shutdown {s : BridgewireRuntime W} (hfresh : s.shutdownComplete = false) :
    let s' := ((shutdown c).run s).2
    Masks c s .shutdown ↔ s'.shutdownComplete = true ∧ s'.system.controller.state ≠ .stopped := by
  intro s'
  obtain ⟨answer, hcleans, hcalled, hcomplete, -⟩ := ends_iff.mp (shutdown_ends (c := c) hfresh)
  obtain ⟨rest, hseen, htrace⟩ := seenBy_of_called .shutdown hcalled
  have hlines : linesBy c .shutdown s = lastLines c s := by
    rw [linesBy, show ((perform c .shutdown).run s).2.log = _ from hcleans.log_eq, List.drop_left]
  rw [hcomplete]
  cases hcalled with
  | @shutdown outcome _ h =>
    have hreturned : (∃ result, (outcome.map fun _ => none : Except Exn (Option AccessResult)) =
        .ok result) ↔ outcome = .ok () := by
      cases outcome <;> simp [Except.map]
    have hhidden : Hidden (seenBy c .shutdown s) ↔
        outcome = .ok () ∧ s'.system.controller.state ≠ .stopped := by
      have hhidden := h.hidden_iff htrace
      rw [hseen]
      exact hhidden
    rw [hreturned, Masks, hlines, hhidden]
    simp only [hfresh, true_and]
    exact and_right_comm

theorem masks_handleFailure {s : BridgewireRuntime W} :
    let s' := ((handleFailure c).run s).2
    s'.shutdownComplete = s.shutdownComplete ∧
      (Survived (seenBy c .handleFailure s) ∧ s'.system.controller.state = .faulted ∨
        ¬Survived (seenBy c .handleFailure s) ∧
          s'.system.controller.state = s.system.controller.state) := by
  intro s'
  obtain ⟨answer, hcalled, hcomplete⟩ := ends_iff.mp (handleFailure_ends (c := c) s)
  obtain ⟨rest, hseen, htrace⟩ := seenBy_of_called .handleFailure hcalled
  refine ⟨hcomplete, ?_⟩
  cases hcalled with
  | recoverableFailure h =>
    have hsurvived : Survived (seenBy c .handleFailure s) ↔ Survived rest := by
      rw [hseen]
      simp [Survived]
    rw [hsurvived]
    exact h.survived htrace

/-- An operation masks a failure and leaves a completed shutdown without a
stopped controller, or it keeps the runtime honest. -/
theorem honest_perform (operation : Operation) {s : BridgewireRuntime W} (hs : Honest s) :
    let s' := ((perform c operation).run s).2
    Masks c s operation ∧ s'.shutdownComplete = true ∧ s'.system.controller.state ≠ .stopped ∨
      ¬Masks c s operation ∧ Honest s' := by
  intro s'
  have hordinary : operation.IsOrdinary → Honest s' := fun h => hs.works (perform_works c h s)
  cases operation with
  | shutdown =>
    cases hdone : s.shutdownComplete with
    | true =>
      have hsame : s' = s := congrArg Prod.snd (shutdown_done (c := c) hdone)
      refine .inr ⟨?_, by rw [hsame]; exact hs⟩
      rintro ⟨hfresh, -⟩
      rw [hdone] at hfresh
      cases hfresh
    | false =>
      have hmasks := masks_shutdown (c := c) hdone
      by_cases hmasked : Masks c s .shutdown
      · exact .inl ⟨hmasked, hmasks.mp hmasked⟩
      · obtain ⟨answer, -, hcalled, -⟩ := ends_iff.mp (shutdown_ends (c := c) hdone)
        refine .inr ⟨hmasked, hcalled.secured hs.secured, fun hcomplete => ?_⟩
        exact not_not.mp fun hstate => hmasked (hmasks.mpr ⟨hcomplete, hstate⟩)
  | handleFailure =>
    obtain ⟨answer, hcalled, -⟩ := ends_iff.mp (handleFailure_ends (c := c) s)
    have hsecured : Secured s'.system.view := hcalled.secured hs.secured
    obtain ⟨hcomplete, hstate⟩ := masks_handleFailure (c := c) (s := s)
    cases hdone : s.shutdownComplete with
    | true =>
      rcases hstate with ⟨hsurvived, hfaulted⟩ | ⟨hraised, hsame⟩
      · refine .inl ⟨⟨hdone, hsurvived⟩, hcomplete.trans hdone, ?_⟩
        rw [show s'.system.controller.state = _ from hfaulted]
        simp
      · exact .inr ⟨fun hmasked => hraised hmasked.2, hsecured, fun _ => hsame.trans (hs.complete hdone)⟩
    | false =>
      refine .inr ⟨?_, hsecured, fun hdone' => ?_⟩
      · rintro ⟨hdone', -⟩
        rw [hdone] at hdone'
        cases hdone'
      · rw [show s'.shutdownComplete = _ from hcomplete, hdone] at hdone'
        cases hdone'
  | _ => exact .inr ⟨id, hordinary trivial⟩

theorem honest_after {operations : List Operation} {s : BridgewireRuntime W} (hs : Honest s)
    (hunmasked : Unmasked c operations s) : Honest (after c operations s) := by
  induction operations generalizing s with
  | nil => exact hs
  | cons operation operations ih =>
    obtain ⟨hfirst, hrest⟩ := hunmasked
    rcases honest_perform operation hs with ⟨hmasked, -⟩ | ⟨-, hnext⟩
    · exact absurd hmasked hfirst
    · exact ih hnext hrest

theorem honest_fresh (escalation : EscalationTracker) (outside : W) :
    Honest (fresh c escalation outside) := by
  refine ⟨AccessController.Secured.of_state ?_, ?_⟩
  · rintro ⟨⟩
  · rintro ⟨⟩

/-- As long as the controller is not stopped, a shutdown attempts LOW. -/
theorem Honest.retries {s : BridgewireRuntime W} (hs : Honest s)
    (hopen : s.system.controller.state ≠ .stopped) :
    ∃ answer, .command false answer ∈ seenBy c .shutdown s := by
  have hfresh : s.shutdownComplete = false := by
    cases hdone : s.shutdownComplete with
    | true => exact absurd (hs.complete hdone) hopen
    | false => rfl
  obtain ⟨answer, -, hcalled, -⟩ := ends_iff.mp (shutdown_ends (c := c) hfresh)
  obtain ⟨rest, hseen, htrace⟩ := seenBy_of_called .shutdown hcalled
  cases hcalled with
  | shutdown h =>
    rcases h.line with ⟨hstopped, -⟩ | ⟨answer, tail, -, hline, -⟩
    · exact absurd hstopped hopen
    · refine ⟨answer, ?_⟩
      rw [hseen, List.append_cancel_left (htrace.symm.trans hline)]
      simp

/-- What a shutdown that returns should mean. -/
def Achieved (s : BridgewireRuntime W) : Prop :=
  s.system.controller.state = .stopped ∧ lastAccepted s.system.trace = some false ∧
    CleanedUp s.system.trace

theorem Honest.achieves {s : BridgewireRuntime W} (hs : Honest s)
    (hunmasked : ¬Masks c s .shutdown) (hreturned : ((shutdown c).run s).1 = .ok ()) :
    Achieved ((shutdown c).run s).2 := by
  have hnext : Honest ((shutdown c).run s).2 := by
    rcases honest_perform (c := c) .shutdown hs with ⟨hmasked, -⟩ | ⟨-, hnext⟩
    · exact absurd hmasked hunmasked
    · exact hnext
  have hcomplete : ((shutdown c).run s).2.shutdownComplete = true := by
    cases hdone : s.shutdownComplete with
    | true =>
      rw [shutdown_done hdone]
      exact hdone
    | false =>
      obtain ⟨-, -, -, -, hcomplete⟩ := ends_iff.mp (shutdown_ends (c := c) hdone)
      exact hcomplete hreturned
  have hstopped := hnext.complete hcomplete
  exact ⟨hstopped, hnext.secured hstopped⟩

end

end Bridgewire.BridgewireRuntime
