import Bridgewire.Api.Server
import Mathlib.Data.List.Induction

/-!
# The lifecycle of the API server

`Moves` lists every way an action can end. What holds in every order of the
actions is read off it, one invariant at a time.
-/

namespace Bridgewire.UvicornThreadServer

variable {s s' : UvicornThreadServer} {action : Action} {events : List Event} {n : Nat}

@[simp] theorem setCall_state (call : Call) : (s.setCall n call).state = s.state := rfl

@[simp] theorem setCall_failures (call : Call) : (s.setCall n call).failures = s.failures := rfl

@[simp] theorem setCall_started (call : Call) : (s.setCall n call).started = s.started := rfl

@[simp] theorem setCall_stopComplete (call : Call) : (s.setCall n call).stopComplete = s.stopComplete := rfl

@[simp] theorem setCall_thread (call : Call) : (s.setCall n call).thread = s.thread := rfl

theorem setCall_calls (call : Call) (m : Nat) :
    (s.setCall n call).calls m = if m = n then call else s.calls m := Function.update_apply ..

/-- A call that goes on or ends without touching the object. -/
inductive Passes (s : UvicornThreadServer) : Action → Nat → Call → Prop
  | refused {n : Nat} : s.calls n = .notMade → s.state ≠ .new → Passes s (.start n) n
      (.started (.error (.lifecycle "server instances cannot be restarted")))
  | escaped {n : Nat} {e : Exn} : s.calls n = .launchFailed e → e.isException = false →
      Passes s (.recordLaunch n) n (.started (.error (.other e)))
  | leftLoop {n : Nat} : s.calls n = .polling → Passes s (.leaveLoop n) n .polled
  | startupFailed {n : Nat} (error : ApiServerError) : s.calls n = .polled →
      Passes s (.settle n) n (.started (.error (.api error)))
  | joinedStart {n : Nat} {expired : Bool} : s.calls n = .joiningTimedOut → s.thread ≠ .initial →
      Passes s (.joinStart n expired) n (.started (.error .startupTimeout))
  | cannotJoin {n : Nat} {expired : Bool} {e : Failure} : s.calls n = .joiningTimedOut →
      s.thread = .initial → Passes s (.joinStart n expired) n (.started (.error e))
  | stopped {n : Nat} : s.calls n = .notMade → s.state ≠ .new → s.thread.isAlive = false →
      Passes s (.stop n) n (.stopped (.ok ()))
  | mustWait {n : Nat} : s.calls n = .notMade → s.thread.isAlive → s.state = .stopping →
      Passes s (.stop n) n .willWait
  | waits {n : Nat} : s.calls n = .willWait → s.stopComplete = false →
      Passes s (.beginWait n) n .waiting
  | passesWait {n : Nat} : s.calls n = .willWait → s.stopComplete →
      Passes s (.beginWait n) n .woken
  | expires {n : Nat} : s.calls n = .waiting → Passes s (.expireWait n) n .woken
  | timedOut {n : Nat} (e : Failure) : s.calls n = .woken → s.state = .stopTimedOut →
      Passes s (.regain n) n (.stopped (.error e))
  | regained {n : Nat} : s.calls n = .woken → s.state ≠ .stopTimedOut →
      Passes s (.regain n) n (.stopped (.ok ()))
  | joined {n : Nat} {expired : Bool} : s.calls n = .joining → s.thread ≠ .initial →
      Passes s (.join n expired) n .joined
  | neverStarted {n : Nat} {expired : Bool} {e : Failure} : s.calls n = .joining → s.thread = .initial →
      Passes s (.join n expired) n (.stopped (.error e))

/-- A step of the thread that leaves the state and the failures alone. -/
inductive Proceeds (s : UvicornThreadServer) : Action → ServerThread → List Event → Prop
  | returned : s.thread = .serving → Proceeds s .runReturn .returned []
  | raised (e : Exn) : s.thread = .serving → Proceeds s (.runRaise e) (.raised e) [.runRaised e]
  | finished : s.thread = .returned → s.state ≠ .starting → s.state ≠ .running →
      s.state ≠ .stopping → Proceeds s .finish .finishing []
  | died : s.thread = .finishing → Proceeds s .die .ended []

/-- Every way an action can end. -/
inductive Moves (s : UvicornThreadServer) : Action → UvicornThreadServer → List Event → Prop
  | idle (action : Action) : Moves s action s []
  | passed {action : Action} {n : Nat} {call : Call} : Passes s action n call →
      Moves s action (s.setCall n call) []
  | proceeded {action : Action} {thread : ServerThread} {events : List Event} :
      Proceeds s action thread events → Moves s action { s with thread } events
  | reported (started : Bool) : s.thread = .serving → Moves s (.report started) { s with started } []
  -- `start`
  | began {n : Nat} : s.calls n = .notMade → s.state = .new →
      Moves s (.start n) { s.setCall n .launching with state := .starting } [.entered .new .starting]
  | launched {n : Nat} : s.calls n = .launching → s.thread = .initial →
      Moves s (.launch n none) { s.setCall n .polling with thread := .serving } [.launched]
  | launchRaised {n : Nat} {raised : Option Exn} (e : Exn) : s.calls n = .launching →
      (raised = none → s.thread ≠ .initial ∧ e.isException) → (∀ other, raised = some other → other = e) →
      Moves s (.launch n raised) (s.setCall n (.launchFailed e)) [.launched]
  | launchRecorded {n : Nat} {e : Exn} : s.calls n = .launchFailed e → e.isException →
      Moves s (.recordLaunch n)
        { s.setCall n (.started (.error (.startup "API thread could not start"))) with
          failures := s.failures ++ [Failure.other e], state := .startFailed }
        [.appended false (.other e), .entered s.state .startFailed]
  | ran {n : Nat} : s.calls n = .polled → s.state = .starting → s.started →
      Moves s (.settle n) { s.setCall n (.started (.ok ())) with state := .running }
        [.entered .starting .running]
  | startTimedOut {n : Nat} : s.calls n = .polled → s.thread.isAlive →
      s.state ≠ .startFailed → s.state ≠ .failed → s.state ≠ .stopping → s.state ≠ .stopped →
      Moves s (.settle n)
        { s.setCall n .timedOut with
          failures := s.failures ++ [Failure.startupTimeout], state := .startTimedOut }
        [.appended false .startupTimeout, .entered s.state .startTimedOut]
  | requested {n : Nat} : s.calls n = .timedOut →
      Moves s (.requestExit n) { s.setCall n .joiningTimedOut with shouldExit := true } []
  -- `stop`
  | foundNew {n : Nat} : s.calls n = .notMade → s.state = .new →
      Moves s (.stop n) { s.setCall n (.stopped (.ok ())) with state := .stopped }
        [.foundNew, .entered .new .stopped]
  | foundDead {n : Nat} : s.calls n = .notMade → s.state ≠ .new → s.thread.isAlive = false →
      s.state ≠ .startFailed → s.state ≠ .failed →
      Moves s (.stop n) { s.setCall n (.stopped (.ok ())) with state := .stopped }
        [.entered s.state .stopped]
  | stops {n : Nat} : s.calls n = .notMade → s.state ≠ .new → s.thread.isAlive → s.state ≠ .stopping →
      Moves s (.stop n)
        { s.setCall n .joining with stopComplete := false, shouldExit := true, state := .stopping }
        [.entered s.state .stopping]
  | stopTimedOut {n : Nat} : s.calls n = .joined → s.thread.isAlive →
      Moves s (.conclude n)
        (setStopComplete
          { s.setCall n (.stopped (.error .shutdownTimeout)) with
            failures := s.failures ++ [Failure.shutdownTimeout], state := .stopTimedOut })
        [.appended false .shutdownTimeout, .entered s.state .stopTimedOut]
  | concluded {n : Nat} : s.calls n = .joined → s.thread.isAlive = false →
      Moves s (.conclude n)
        (setStopComplete { s.setCall n (.stopped (.ok ())) with state := .stopped })
        [.entered s.state .stopped]
  -- `_thread_main`
  | raisedStarting {e : Exn} : s.thread = .raised e → s.state = .starting → s.started = false →
      Moves s .finish
        { s with thread := .finishing, failures := s.failures ++ [Failure.other e], state := .startFailed }
        [.appended true (.other e), .entered s.state .startFailed]
  | raised {e : Exn} : s.thread = .raised e → ¬(s.state = .starting ∧ s.started = false) →
      Moves s .finish
        { s with thread := .finishing, failures := s.failures ++ [Failure.other e], state := .failed }
        [.appended true (.other e), .entered s.state .failed]
  | returnedStarting : s.thread = .returned → s.state = .starting →
      Moves s .finish
        { s with
          thread := .finishing
          failures := s.failures ++ [Failure.startup "API server exited before startup"]
          state := .startFailed }
        [.appended true (.startup "API server exited before startup"), .entered .starting .startFailed]
  | returnedRunning : s.thread = .returned → s.state = .running →
      Moves s .finish
        { s with
          thread := .finishing
          failures := s.failures ++ [Failure.api ⟨.error, "API server exited unexpectedly"⟩]
          state := .failed }
        [.appended true (.api ⟨.error, "API server exited unexpectedly"⟩), .entered .running .failed]
  | returnedStopping : s.thread = .returned → s.state = .stopping →
      Moves s .finish { s with thread := .finishing, state := .stopped } [.entered .stopping .stopped]

-- ---------------------------------------------------------------------------
-- One action
-- ---------------------------------------------------------------------------

theorem start_moves (h : s.calls n = .notMade) : Moves s (.start n) (s.start n).1 (s.start n).2 := by
  unfold start
  split
  · rename_i hstate
    exact .passed (.refused h hstate)
  · rename_i hstate
    have hnew : s.state = .new := not_not.mp hstate
    have hmoves := Moves.began h hnew
    rw [← hnew] at hmoves
    exact hmoves

theorem launch_moves {raised : Option Exn} (h : s.calls n = .launching) :
    Moves s (.launch n raised) (s.launch n raised).1 (s.launch n raised).2 := by
  unfold launch
  split
  · exact .launched h ‹_›
  · exact .launchRaised _ h (fun _ => ⟨by assumption, rfl⟩) nofun
  · exact .launchRaised _ h nofun fun _ heq => (Option.some.inj heq).symm

theorem recordLaunch_moves {e : Exn} (h : s.calls n = .launchFailed e) :
    Moves s (.recordLaunch n) (s.recordLaunch n e).1 (s.recordLaunch n e).2 := by
  unfold recordLaunch
  split
  · exact .launchRecorded h ‹_›
  · rename_i hbare
    exact .passed (.escaped h (by simpa using hbare))

theorem settle_moves (h : s.calls n = .polled) :
    Moves s (.settle n) (s.settle n).1 (s.settle n).2 := by
  unfold settle
  dsimp only
  split
  · exact .passed (.startupFailed _ h)
  split
  · exact .passed (.startupFailed _ h)
  split
  · exact .passed (.startupFailed _ h)
  rename_i hstop
  split
  · rename_i hran
    have hmoves := Moves.ran h hran.2 hran.1
    rw [← hran.2] at hmoves
    exact hmoves
  split
  · exact .passed (.startupFailed _ h)
  · rename_i halive
    obtain ⟨hstopping, hstopped⟩ := not_or.mp hstop
    exact .startTimedOut h (not_not.mp halive) ‹_› ‹_› hstopping hstopped

theorem joinStart_moves {expired : Bool} (h : s.calls n = .joiningTimedOut) :
    let next := s.joined n expired (.started (.error .startupTimeout)) fun e => .started (.error e)
    Moves s (.joinStart n expired) next.1 next.2 := by
  dsimp only
  unfold joined
  split
  · exact .passed (.cannotJoin h ‹_›)
  split
  · exact .passed (.joinedStart h ‹_›)
  · exact .idle _

theorem stop_moves (h : s.calls n = .notMade) : Moves s (.stop n) (s.stop n).1 (s.stop n).2 := by
  unfold stop
  dsimp only
  split
  · rename_i hnew
    have hmoves := Moves.foundNew h hnew
    rw [← hnew] at hmoves
    exact hmoves
  rename_i hnew
  split
  · rename_i hdead
    exact .passed (.stopped h hnew (by simpa using hdead.1))
  rename_i hterminal
  split
  · rename_i hdead
    have hstates := fun hstate => hterminal ⟨hdead, hstate⟩
    exact .foundDead h hnew (by simpa using hdead) (fun hstate => hstates (.inl hstate))
      fun hstate => hstates (.inr (.inl hstate))
  rename_i halive
  split
  · exact .passed (.mustWait h (not_not.mp halive) ‹_›)
  · exact .stops h hnew (not_not.mp halive) ‹_›

theorem regain_moves (h : s.calls n = .woken) :
    Moves s (.regain n) (s.regain n).1 (s.regain n).2 := by
  unfold regain
  split
  · rename_i hstate
    split
    · exact .passed (.timedOut _ h hstate)
    split
    · exact .passed (.timedOut _ h hstate)
    · exact .passed (.timedOut _ h hstate)
  · exact .passed (.regained h ‹_›)

theorem join_moves {expired : Bool} (h : s.calls n = .joining) :
    let next := s.joined n expired .joined fun e => .stopped (.error e)
    Moves s (.join n expired) next.1 next.2 := by
  dsimp only
  unfold joined
  split
  · exact .passed (.neverStarted h ‹_›)
  split
  · exact .passed (.joined h ‹_›)
  · exact .idle _

theorem conclude_moves (h : s.calls n = .joined) :
    Moves s (.conclude n) (s.conclude n).1 (s.conclude n).2 := by
  unfold conclude
  split
  · exact .stopTimedOut h ‹_›
  · rename_i hdead
    exact .concluded h (by simpa using hdead)

theorem recordRaised_moves {e : Exn} (h : s.thread = .raised e) :
    Moves s .finish (s.recordRaised e).1 (s.recordRaised e).2 := by
  unfold recordRaised
  dsimp only
  split
  · rename_i hstarting
    exact .raisedStarting h hstarting.1 (by simpa using hstarting.2)
  · rename_i hstarting
    exact .raised h (by simpa using hstarting)

theorem recordReturned_moves (h : s.thread = .returned) :
    Moves s .finish s.recordReturned.1 s.recordReturned.2 := by
  unfold recordReturned
  dsimp only
  split
  · rename_i hstate
    have hmoves := Moves.returnedStarting h hstate
    rw [← hstate] at hmoves
    exact hmoves
  split
  · rename_i hstate
    have hmoves := Moves.returnedRunning h hstate
    rw [← hstate] at hmoves
    exact hmoves
  split
  · rename_i hstate
    have hmoves := Moves.returnedStopping h hstate
    rw [← hstate] at hmoves
    exact hmoves
  · exact .proceeded (.finished h ‹_› ‹_› ‹_›)

theorem Moves.guarded {p : Prop} [Decidable p] {next : UvicornThreadServer × List Event}
    (h : p → Moves s action next.1 next.2) :
    Moves s action (if p then next else (s, [])).1 (if p then next else (s, [])).2 := by
  split
  · exact h ‹_›
  · exact .idle _

theorem step_moves (s : UvicornThreadServer) (action : Action) :
    Moves s action (s.step action).1 (s.step action).2 := by
  cases action with
  | start n => exact .guarded start_moves
  | launch n raised => exact .guarded launch_moves
  | recordLaunch n =>
    unfold step
    dsimp only
    split
    · exact recordLaunch_moves ‹_›
    · exact .idle _
  | leaveLoop n => exact .guarded fun h => .passed (.leftLoop h)
  | settle n => exact .guarded settle_moves
  | requestExit n => exact .guarded .requested
  | joinStart n expired => exact .guarded joinStart_moves
  | stop n => exact .guarded stop_moves
  | beginWait n =>
    refine .guarded fun h => ?_
    cases hcomplete : s.stopComplete with
    | true => exact .passed (.passesWait h hcomplete)
    | false => exact .passed (.waits h hcomplete)
  | expireWait n => exact .guarded fun h => .passed (.expires h)
  | regain n => exact .guarded regain_moves
  | join n expired => exact .guarded join_moves
  | conclude n => exact .guarded conclude_moves
  | report started => exact .guarded (.reported started)
  | runReturn => exact .guarded fun h => .proceeded (.returned h)
  | runRaise e => exact .guarded fun h => .proceeded (.raised e h)
  | finish =>
    unfold step
    dsimp only
    split
    · exact recordRaised_moves ‹_›
    · exact recordReturned_moves ‹_›
    · exact .idle _
  | die => exact .guarded fun h => .proceeded (.died h)

-- ---------------------------------------------------------------------------
-- The start of the thread
-- ---------------------------------------------------------------------------

/-- `self._thread.start()` is still to be called, or has raised. -/
def Call.isLaunching : Call → Bool
  | .launching | .launchFailed _ => true
  | _ => false

theorem setCall_launching {call : Call} (hcall : call.isLaunching = false) {m : Nat}
    (h : ((s.setCall n call).calls m).isLaunching) : (s.setCall n call).calls m = s.calls m := by
  rw [setCall_calls] at h ⊢
  split at h
  · simp [hcall] at h
  · rw [if_neg ‹_›]

theorem setStopComplete_calls {m : Nat} {call : Call} (hcall : call ≠ .woken)
    (h : s.setStopComplete.calls m = call) : s.calls m = call := by
  simp only [setStopComplete] at h
  split at h
  · exact absurd h.symm hcall
  · exact h

theorem setStopComplete_launching {m : Nat} (h : (s.setStopComplete.calls m).isLaunching) :
    s.setStopComplete.calls m = s.calls m := by
  simp only [setStopComplete] at h ⊢
  split at h
  · cases h
  · rw [if_neg ‹_›]

/-- The thread is started by the one call that found the state NEW, if a `stop()`
did not find it first. -/
structure Launches (s : UvicornThreadServer) (trace : List Event) : Prop where
  fresh : s.state = .new → .launched ∉ trace ∧ ∀ n, s.calls n ≠ .launching
  unique : ∀ n m, s.calls n = .launching → s.calls m = .launching → n = m
  pending : ∀ n, s.calls n = .launching → .launched ∉ trace
  once : trace.count .launched ≤ 1
  unlaunched : .launched ∉ trace → s.thread = .initial
  refused : ∀ n e, s.calls n = .launchFailed e → .launched ∈ trace ∧ s.thread = .initial
  cancelled : .foundNew ∈ trace →
    s.state ≠ .new ∧ .launched ∉ trace ∧ ∀ n, s.calls n ≠ .launching

variable {trace : List Event}

theorem Launches.frame (h : Launches s trace) (hstate : s'.state = .new → s.state = .new)
    (hcalls : ∀ m, (s'.calls m).isLaunching → s'.calls m = s.calls m)
    (hthread : s.thread = .initial → s'.thread = .initial)
    (hlaunched : .launched ∉ events) (hfound : .foundNew ∉ events) :
    Launches s' (trace ++ events) := by
  have hin : .launched ∈ trace ++ events ↔ .launched ∈ trace := by simp [hlaunched]
  have hcall (m : Nat) (hm : s'.calls m = .launching) : s.calls m = .launching :=
    (hcalls m (by rw [hm]; rfl)).symm.trans hm
  refine ⟨fun hnew => ?_, fun n m hn hm => h.unique n m (hcall n hn) (hcall m hm), fun n hn => ?_, ?_,
    fun hun => hthread (h.unlaunched (mt hin.mpr hun)), fun n e hn => ?_, fun hfoundNew => ?_⟩
  · obtain ⟨hun, hnone⟩ := h.fresh (hstate hnew)
    exact ⟨mt hin.mp hun, fun n hn => hnone n (hcall n hn)⟩
  · exact mt hin.mp (h.pending n (hcall n hn))
  · simpa [List.count_eq_zero_of_not_mem hlaunched] using h.once
  · obtain ⟨hmem, ht⟩ := h.refused n e ((hcalls n (by rw [hn]; rfl)).symm.trans hn)
    exact ⟨hin.mpr hmem, hthread ht⟩
  · obtain ⟨hnew, hun, hnone⟩ := h.cancelled (by simpa [hfound] using hfoundNew)
    exact ⟨mt hstate hnew, mt hin.mp hun, fun n hn => hnone n (hcall n hn)⟩

theorem Passes.not_launching {call : Call} (h : Passes s action n call) : call.isLaunching = false := by
  cases h <;> rfl

/-- Once the thread may have been started, no call is about to start it. -/
theorem Launches.none_launching (h : Launches s trace) (ht : s.thread ≠ .initial) (m : Nat) :
    s.calls m ≠ .launching := fun hm => ht (h.unlaunched (h.pending m hm))

/-- Only one call gets here. -/
theorem Launches.launch {call : Call} {thread : ServerThread} (h : Launches s trace)
    (hn : s.calls n = .launching) (hcall : call ≠ .launching)
    (hthread : ∀ e, call = .launchFailed e → thread = .initial) :
    Launches { s.setCall n call with thread } (trace ++ [Event.launched]) := by
  have hun := h.pending n hn
  have hnew : s.state ≠ .new := fun hnew => (h.fresh hnew).2 n hn
  have hnone : ∀ m, (s.setCall n call).calls m ≠ .launching := by
    intro m hm
    rw [setCall_calls] at hm
    split at hm
    · exact hcall hm
    · exact absurd (h.unique m n hm hn) ‹_›
  refine ⟨fun h => absurd h hnew, fun m _ hm => absurd hm (hnone m), fun m hm => absurd hm (hnone m), ?_,
    fun hun => absurd (by simp) hun, fun m e hm => ⟨by simp, ?_⟩, fun hfound => ?_⟩
  · simp [List.count_eq_zero_of_not_mem hun]
  · replace hm : (s.setCall n call).calls m = .launchFailed e := hm
    rw [setCall_calls] at hm
    split at hm
    · exact hthread e hm
    · exact absurd (h.refused m e hm).1 hun
  · exact absurd hn ((h.cancelled (by simpa using hfound)).2.2 n)

theorem Launches.begin (h : Launches s trace) (hnew : s.state = .new) :
    Launches { s.setCall n .launching with state := .starting }
      (trace ++ [Event.entered .new .starting]) := by
  obtain ⟨hun, hnone⟩ := h.fresh hnew
  have honly : ∀ m, (s.setCall n .launching).calls m = .launching → m = n := by
    intro m hm
    rw [setCall_calls] at hm
    split at hm
    · assumption
    · exact absurd hm (hnone m)
  refine ⟨nofun, fun m k hm hk => (honly m hm).trans (honly k hk).symm, fun m _ => by simpa using hun, ?_,
    fun _ => h.unlaunched hun, fun m e hm => ?_, fun hfound => ?_⟩
  · simpa using h.once
  · replace hm : (s.setCall n .launching).calls m = .launchFailed e := hm
    rw [setCall_calls] at hm
    split at hm
    · cases hm
    · exact absurd (h.refused m e hm).1 hun
  · exact absurd hnew (h.cancelled (by simpa using hfound)).1

theorem Launches.cancel {outcome : Except Failure Unit} (h : Launches s trace) (hnew : s.state = .new) :
    Launches { s.setCall n (.stopped outcome) with state := .stopped }
      (trace ++ [Event.foundNew, .entered .new .stopped]) := by
  obtain ⟨hun, hnone⟩ := h.fresh hnew
  have hcall (m : Nat) : ((s.setCall n (.stopped outcome)).calls m).isLaunching →
      (s.setCall n (.stopped outcome)).calls m = s.calls m := setCall_launching rfl
  have hnone : ∀ m, (s.setCall n (.stopped outcome)).calls m ≠ .launching :=
    fun m hm => hnone m ((hcall m (by rw [hm]; rfl)).symm.trans hm)
  refine ⟨nofun, fun m _ hm => absurd hm (hnone m), fun m hm => absurd hm (hnone m), ?_,
    fun _ => h.unlaunched hun, fun m e hm => ?_, fun _ => ⟨nofun, by simpa using hun, hnone⟩⟩
  · simpa using h.once
  · replace hm : (s.setCall n (.stopped outcome)).calls m = .launchFailed e := hm
    exact absurd (h.refused m e ((hcall m (by rw [hm]; rfl)).symm.trans hm)).1 hun

theorem Launches.moves (h : Launches s trace) (hmoves : Moves s action s' events) :
    Launches s' (trace ++ events) := by
  have hcalls {n : Nat} {call : Call} (hcall : call.isLaunching = false) (m : Nat) :
      ((s.setCall n call).calls m).isLaunching → (s.setCall n call).calls m = s.calls m :=
    setCall_launching hcall
  have hsame (m : Nat) (_ : (s.calls m).isLaunching) : s.calls m = s.calls m := rfl
  cases hmoves with
  | idle => exact h.frame id hsame id nofun nofun
  | passed hp => exact h.frame id (hcalls hp.not_launching) id nofun nofun
  | proceeded hp =>
    cases hp with
    | returned ht => exact h.frame id hsame (by simp [ht]) nofun nofun
    | raised e ht => exact h.frame id hsame (by simp [ht]) (by simp) (by simp)
    | finished ht => exact h.frame id hsame (by simp [ht]) nofun nofun
    | died ht => exact h.frame id hsame (by simp [ht]) nofun nofun
  | reported => exact h.frame id hsame id nofun nofun
  | began _ hnew => exact h.begin hnew
  | launched hn => exact h.launch hn nofun nofun
  | launchRaised e hn => exact h.launch hn nofun fun _ _ => h.unlaunched (h.pending _ hn)
  | launchRecorded => exact h.frame nofun (hcalls rfl) id (by simp) (by simp)
  | ran => exact h.frame nofun (hcalls rfl) id (by simp) (by simp)
  | startTimedOut => exact h.frame nofun (hcalls rfl) id (by simp) (by simp)
  | requested => exact h.frame id (hcalls rfl) id nofun nofun
  | foundNew _ hnew => exact h.cancel hnew
  | foundDead => exact h.frame nofun (hcalls rfl) id (by simp) (by simp)
  | stops => exact h.frame nofun (hcalls rfl) id (by simp) (by simp)
  | stopTimedOut =>
    refine h.frame nofun (fun m hm => ?_) id (by simp) (by simp)
    have hset := setStopComplete_launching hm
    rw [hset] at hm ⊢
    exact hcalls rfl m hm
  | concluded =>
    refine h.frame nofun (fun m hm => ?_) id (by simp) (by simp)
    have hset := setStopComplete_launching hm
    rw [hset] at hm ⊢
    exact hcalls rfl m hm
  | raisedStarting ht => exact h.frame nofun hsame (by simp [ht]) (by simp) (by simp)
  | raised ht => exact h.frame nofun hsame (by simp [ht]) (by simp) (by simp)
  | returnedStarting ht => exact h.frame nofun hsame (by simp [ht]) (by simp) (by simp)
  | returnedRunning ht => exact h.frame nofun hsame (by simp [ht]) (by simp) (by simp)
  | returnedStopping ht => exact h.frame nofun hsame (by simp [ht]) (by simp) (by simp)

-- ---------------------------------------------------------------------------
-- The calls
-- ---------------------------------------------------------------------------

/-- Only while the thread has been started can a call be here. -/
def Call.isBacked : Call → Bool
  | .polling | .polled | .timedOut | .joiningTimedOut => true
  | .willWait | .waiting | .woken | .joining | .joined => true
  | _ => false

/-- `start()` ends by returning, with an `ApiServerError` or with what `except
Exception` does not catch. -/
def Call.isAccounted : Call → Bool
  | .started (.error (.other e)) => !e.isException
  | _ => true

structure Backed (s : UvicornThreadServer) : Prop where
  backed : ∀ n, (s.calls n).isBacked → s.thread ≠ .initial
  accounted : ∀ n, (s.calls n).isAccounted

theorem Backed.setCall {call : Call} (h : Backed s) (hcalls : s'.calls = (s.setCall n call).calls)
    (hthread : s.thread ≠ .initial → s'.thread ≠ .initial)
    (hbacked : call.isBacked → s'.thread ≠ .initial) (haccounted : call.isAccounted) : Backed s' := by
  constructor <;> intro m
  · rw [hcalls, setCall_calls]
    split
    · exact hbacked
    · exact fun hm => hthread (h.backed m hm)
  · rw [hcalls, setCall_calls]
    split
    · exact haccounted
    · exact h.accounted m

theorem Backed.keep (h : Backed s) (hcalls : s'.calls = s.calls) (hthread : s'.thread ≠ .initial) :
    Backed s' := by
  refine ⟨fun _ _ => hthread, fun m => ?_⟩
  rw [hcalls]
  exact h.accounted m

theorem Backed.setStopComplete (h : Backed s) : Backed s.setStopComplete := by
  constructor <;> intro m <;> unfold UvicornThreadServer.setStopComplete <;> dsimp only <;> split
  · rename_i hm
    exact fun _ => h.backed m (by simp [hm, Call.isBacked])
  · exact h.backed m
  · rfl
  · exact h.accounted m

theorem ServerThread.ne_initial {thread : ServerThread} (h : thread.isAlive) : thread ≠ .initial := by
  rintro rfl
  cases h

theorem Passes.backed {call : Call} (hp : Passes s action n call) (h : Backed s) :
    (call.isBacked → s.thread ≠ .initial) ∧ call.isAccounted := by
  have hbacked (m : Nat) (call : Call) (hm : s.calls m = call) (hcall : call.isBacked) :
      s.thread ≠ .initial := h.backed m (by rw [hm]; exact hcall)
  cases hp with
  | refused => exact ⟨nofun, rfl⟩
  | escaped _ hbare => exact ⟨nofun, by simp [Call.isAccounted, hbare]⟩
  | leftLoop hn => exact ⟨fun _ => hbacked _ _ hn rfl, rfl⟩
  | startupFailed => exact ⟨nofun, rfl⟩
  | joinedStart => exact ⟨nofun, rfl⟩
  | cannotJoin hn ht => exact absurd ht (hbacked _ _ hn rfl)
  | stopped => exact ⟨nofun, rfl⟩
  | mustWait _ halive => exact ⟨fun _ => ServerThread.ne_initial halive, rfl⟩
  | waits hn => exact ⟨fun _ => hbacked _ _ hn rfl, rfl⟩
  | passesWait hn => exact ⟨fun _ => hbacked _ _ hn rfl, rfl⟩
  | expires hn => exact ⟨fun _ => hbacked _ _ hn rfl, rfl⟩
  | timedOut => exact ⟨nofun, rfl⟩
  | regained => exact ⟨nofun, rfl⟩
  | joined hn ht => exact ⟨fun _ => ht, rfl⟩
  | neverStarted hn ht => exact absurd ht (hbacked _ _ hn rfl)

theorem Backed.moves (h : Backed s) (hmoves : Moves s action s' events) : Backed s' := by
  have hbacked (m : Nat) (call : Call) (hm : s.calls m = call) (hcall : call.isBacked) :
      s.thread ≠ .initial := h.backed m (by rw [hm]; exact hcall)
  cases hmoves with
  | idle => exact h
  | passed hp => exact h.setCall rfl id (hp.backed h).1 (hp.backed h).2
  | proceeded hp => exact h.keep rfl (by cases hp <;> nofun)
  | reported _ ht => exact h.keep rfl (by simp [ht])
  | began => exact h.setCall rfl id nofun rfl
  | launched => exact h.setCall rfl (by simp) (by simp) rfl
  | launchRaised => exact h.setCall rfl id nofun rfl
  | launchRecorded => exact h.setCall rfl id nofun rfl
  | ran => exact h.setCall rfl id nofun rfl
  | startTimedOut hn => exact h.setCall rfl id (fun _ => hbacked _ _ hn rfl) rfl
  | requested hn => exact h.setCall rfl id (fun _ => hbacked _ _ hn rfl) rfl
  | foundNew => exact h.setCall rfl id nofun rfl
  | foundDead => exact h.setCall rfl id nofun rfl
  | stops _ _ halive => exact h.setCall rfl id (fun _ => ServerThread.ne_initial halive) rfl
  | stopTimedOut =>
    apply Backed.setStopComplete
    exact h.setCall rfl id nofun rfl
  | concluded =>
    apply Backed.setStopComplete
    exact h.setCall rfl id nofun rfl
  | raisedStarting => exact h.keep rfl nofun
  | raised => exact h.keep rfl nofun
  | returnedStarting => exact h.keep rfl nofun
  | returnedRunning => exact h.keep rfl nofun
  | returnedStopping => exact h.keep rfl nofun

-- ---------------------------------------------------------------------------
-- RUNNING
-- ---------------------------------------------------------------------------

def Event.entersRunning : Event → Bool
  | .entered _ .running => true
  | _ => false

/-- Before RUNNING is entered the state is NEW or STARTING, and never again after. -/
structure Runs (s : UvicornThreadServer) (trace : List Event) : Prop where
  once : trace.countP Event.entersRunning ≤ 1
  early : s.state = .new ∨ s.state = .starting → trace.countP Event.entersRunning = 0

theorem Runs.frame (h : Runs s trace)
    (hstate : s'.state = .new ∨ s'.state = .starting → s.state = .new ∨ s.state = .starting)
    (hevents : events.countP Event.entersRunning = 0) : Runs s' (trace ++ events) := by
  constructor
  · rw [List.countP_append, hevents]
    exact h.once
  · intro hearly
    rw [List.countP_append, hevents]
    exact h.early (hstate hearly)

theorem Runs.moves (h : Runs s trace) (hmoves : Moves s action s' events) :
    Runs s' (trace ++ events) := by
  cases hmoves with
  | idle => exact h.frame id rfl
  | passed => exact h.frame id rfl
  | proceeded hp => exact h.frame id (by cases hp <;> rfl)
  | reported => exact h.frame id rfl
  | began _ hnew => exact h.frame (fun _ => .inl hnew) rfl
  | launched => exact h.frame id rfl
  | launchRaised => exact h.frame id rfl
  | ran _ hstate =>
    have hnone := h.early (.inr hstate)
    refine ⟨?_, by simp⟩
    rw [List.countP_append, hnone]
    decide
  | requested => exact h.frame id rfl
  | _ => exact h.frame (by simp [setStopComplete]) rfl

-- ---------------------------------------------------------------------------
-- The failures
-- ---------------------------------------------------------------------------

def Event.failure? : Event → Option Failure
  | .appended _ failure => some failure
  | _ => none

/-- The failures that the thread has appended itself. -/
def Event.ownFailure? : Event → Option Failure
  | .appended true failure => some failure
  | _ => none

def ownFailures (trace : List Event) : List Failure := trace.filterMap Event.ownFailure?

theorem ownFailures_append (trace events : List Event) :
    ownFailures (trace ++ events) = ownFailures trace ++ ownFailures events := List.filterMap_append

theorem Moves.failures (h : Moves s action s' events) :
    s'.failures = s.failures ++ events.filterMap Event.failure? := by
  cases h with
  | proceeded hp => cases hp <;> simp [Event.failure?]
  | _ => simp [Event.failure?, setStopComplete]

/-- What the thread has reported of its `run()`. -/
structure Reports (s : UvicornThreadServer) (trace : List Event) : Prop where
  before : s.thread ≠ .finishing → s.thread ≠ .ended → ownFailures trace = []
  raised : ∀ e, .runRaised e ∈ trace → s.thread = .raised e ∨
    (s.thread = .finishing ∨ s.thread = .ended) ∧ ownFailures trace = [.other e]
  once : (ownFailures trace).length ≤ 1

theorem Reports.frame (h : Reports s trace) (hthread : s'.thread = s.thread)
    (hown : ownFailures events = []) (hraised : ∀ e, .runRaised e ∉ events) :
    Reports s' (trace ++ events) := by
  have htrace : ownFailures (trace ++ events) = ownFailures trace := by
    simp [ownFailures_append, hown]
  constructor
  · rw [hthread, htrace]
    exact h.before
  · intro e he
    rw [hthread, htrace]
    exact h.raised e (by simpa [hraised] using he)
  · rw [htrace]
    exact h.once

/-- Before `run()` has raised or returned there is nothing to report. -/
theorem Reports.none_raised (h : Reports s trace) (hraised : ∀ e, s.thread ≠ .raised e)
    (hfinishing : s.thread ≠ .finishing) (hended : s.thread ≠ .ended) (e : Exn) :
    .runRaised e ∉ trace := by
  intro he
  rcases h.raised e he with ht | ⟨ht | ht, -⟩
  · exact hraised e ht
  · exact hfinishing ht
  · exact hended ht

/-- The thread goes on without a word. -/
theorem Reports.proceed {thread : ServerThread} (h : Reports s trace)
    (hraised : ∀ e, s.thread ≠ .raised e) (hfinishing : s.thread ≠ .finishing)
    (hended : s.thread ≠ .ended) (hthread : s'.thread = thread) (hown : ownFailures events = [])
    (hevents : ∀ e, .runRaised e ∈ events → thread = .raised e) : Reports s' (trace ++ events) := by
  have hbefore := h.before hfinishing hended
  have htrace : ownFailures (trace ++ events) = [] := by simp [ownFailures_append, hbefore, hown]
  refine ⟨fun _ _ => htrace, fun e he => .inl ?_, by simp [htrace]⟩
  rcases List.mem_append.mp he with he | he
  · exact absurd he (h.none_raised hraised hfinishing hended e)
  · rw [hthread]
    exact hevents e he

/-- The block of the thread that appends one failure. -/
theorem Reports.report {failure : Failure} {state : ApiServerState} (h : Reports s trace)
    (hfinishing : s.thread ≠ .finishing) (hended : s.thread ≠ .ended)
    (hthread : s'.thread = .finishing) (hraised : ∀ e, s.thread = .raised e → failure = .other e) :
    Reports s' (trace ++ [Event.appended true failure, .entered state s'.state]) := by
  have hbefore := h.before hfinishing hended
  have htrace : ownFailures (trace ++ [Event.appended true failure, .entered state s'.state]) = [failure] := by
    rw [ownFailures_append, hbefore]
    rfl
  refine ⟨fun hne => absurd hthread hne, fun e he => .inr ⟨.inl hthread, ?_⟩, by simp [htrace]⟩
  rw [htrace]
  rcases h.raised e (by simpa using he) with ht | ⟨ht | ht, -⟩
  · rw [hraised e ht]
  · exact absurd ht hfinishing
  · exact absurd ht hended

theorem Reports.moves (h : Reports s trace) (hmoves : Moves s action s' events) :
    Reports s' (trace ++ events) := by
  cases hmoves with
  | proceeded hp =>
    cases hp with
    | returned ht => exact h.proceed (by simp [ht]) (by simp [ht]) (by simp [ht]) rfl rfl nofun
    | raised e ht => exact h.proceed (by simp [ht]) (by simp [ht]) (by simp [ht]) rfl rfl (by simp)
    | finished ht =>
      refine ⟨fun hne => absurd rfl hne, fun e he => ?_, by simpa using h.once⟩
      exact absurd (by simpa using he)
        (h.none_raised (by simp [ht]) (by simp [ht]) (by simp [ht]) e)
    | died ht =>
      refine ⟨fun _ hne => absurd rfl hne, fun e he => ?_, by simpa using h.once⟩
      have hraised := h.raised e (by simpa using he)
      rw [ht] at hraised
      exact .inr ⟨.inr rfl, by simpa using hraised⟩
  | launched _ ht => exact h.proceed (by simp [ht]) (by simp [ht]) (by simp [ht]) rfl rfl (by simp)
  | raisedStarting ht => exact h.report (by simp [ht]) (by simp [ht]) rfl (by simp [ht])
  | raised ht => exact h.report (by simp [ht]) (by simp [ht]) rfl (by simp [ht])
  | returnedStarting ht => exact h.report (by simp [ht]) (by simp [ht]) rfl (by simp [ht])
  | returnedRunning ht => exact h.report (by simp [ht]) (by simp [ht]) rfl (by simp [ht])
  | returnedStopping ht =>
    have hnone := h.none_raised (by simp [ht]) (by simp [ht]) (by simp [ht])
    have htrace : ownFailures (trace ++ [Event.entered .stopping .stopped]) = ownFailures trace := by
      rw [ownFailures_append]
      exact List.append_nil _
    refine ⟨fun hne => absurd rfl hne, fun e he => ?_, htrace ▸ h.once⟩
    exact absurd (by simpa using he) (hnone e)
  | _ => exact h.frame rfl rfl (by simp)

-- ---------------------------------------------------------------------------
-- Every order of the actions
-- ---------------------------------------------------------------------------

structure Coherent (s : UvicornThreadServer) (trace : List Event) : Prop where
  launches : Launches s trace
  backed : Backed s
  runs : Runs s trace
  failures : s.failures = trace.filterMap Event.failure?
  reports : Reports s trace

theorem Coherent.step (h : Coherent s trace) (action : Action) :
    Coherent (s.step action).1 (trace ++ (s.step action).2) := by
  have hmoves := step_moves s action
  refine ⟨h.launches.moves hmoves, h.backed.moves hmoves, h.runs.moves hmoves, ?_, h.reports.moves hmoves⟩
  rw [hmoves.failures, h.failures, List.filterMap_append]

theorem coherent_init : Coherent init [] where
  launches := ⟨fun _ => ⟨nofun, fun _ => nofun⟩, nofun, nofun, by simp, fun _ => rfl, nofun, nofun⟩
  backed := ⟨nofun, fun _ => rfl⟩
  runs := ⟨by simp, by simp⟩
  failures := rfl
  reports := ⟨fun _ _ => rfl, nofun, by simp [ownFailures]⟩

theorem coherent_after (actions : List Action) : Coherent (after actions) (history actions) :=
  machine.run_traced (fun _ _ action h => h.step action) coherent_init actions

/-- RUNNING is entered by a `start()` that finds the state STARTING and the server
started, which then returns. -/
theorem Moves.enters_running (h : Moves s action s' events) (hs' : s'.state = .running)
    (hs : s.state ≠ .running) :
    s.state = .starting ∧ s.started ∧ ∃ n, action = .settle n ∧ s'.calls n = .started (.ok ()) := by
  cases h with
  | ran hn hstate hstarted => exact ⟨hstate, hstarted, _, rfl, by simp [setCall_calls]⟩
  | _ => first | exact absurd hs' hs | cases hs'

/-- `start()` returns by that transition only. -/
theorem Moves.start_returns (h : Moves s action s' events) {m : Nat}
    (hs' : s'.calls m = .started (.ok ())) (hs : s.calls m ≠ .started (.ok ())) :
    s.state = .starting ∧ s.started ∧ s'.state = .running := by
  have hother {n : Nat} {call : Call} (hm : (s.setCall n call).calls m = .started (.ok ()))
      (hcall : call ≠ .started (.ok ())) : False := by
    rw [setCall_calls] at hm
    split at hm
    · exact hcall hm
    · exact hs hm
  cases h with
  | ran _ hstate hstarted => exact ⟨hstate, hstarted, rfl⟩
  | passed hp =>
    cases hp <;> exact (hother hs' nofun).elim
  | stopTimedOut =>
    have hm : (s.setCall _ (.stopped (.error .shutdownTimeout))).calls m = .started (.ok ()) :=
      setStopComplete_calls nofun hs'
    exact (hother hm (by simp)).elim
  | concluded =>
    have hm : (s.setCall _ (.stopped (.ok ()))).calls m = .started (.ok ()) :=
      setStopComplete_calls nofun hs'
    exact (hother hm (by simp)).elim
  | began | launched | launchRaised | launchRecorded | startTimedOut | requested | foundNew | foundDead
  | stops =>
    exact (hother hs' nofun).elim
  | _ => exact absurd hs' hs

/-- What a call has of `self._thread.start()`, which `except Exception` may not catch. -/
def Call.raw? : Call → Option Exn
  | .launchFailed e | .started (.error (.other e)) => some e
  | _ => none

theorem setStopComplete_raw {m : Nat} {e : Exn} (h : (s.setStopComplete.calls m).raw? = some e) :
    (s.calls m).raw? = some e := by
  simp only [setStopComplete] at h
  split at h
  · cases h
  · exact h

theorem Moves.raw (h : Moves s action s' events) (hs : Backed s) {e : Exn}
    (hbare : e.isException = false) {m : Nat} (hm : (s'.calls m).raw? = some e) :
    (s.calls m).raw? = some e ∨ action = .launch m (some e) := by
  have hother {n : Nat} {call : Call} (hm : ((s.setCall n call).calls m).raw? = some e)
      (hcall : call.raw? = none) : (s.calls m).raw? = some e := by
    rw [setCall_calls] at hm
    split at hm
    · simp [hcall] at hm
    · exact hm
  cases h with
  | launchRaised raised hn hnone hsome =>
    rename_i n outcome
    rw [setCall_calls] at hm
    split at hm
    · rename_i hmn
      obtain rfl : raised = e := by simpa [Call.raw?] using hm
      cases outcome with
      | none =>
        rw [(hnone rfl).2] at hbare
        cases hbare
      | some other =>
        rw [hmn, hsome other rfl]
        exact .inr rfl
    · exact .inl hm
  | passed hp =>
    cases hp with
    | escaped hn =>
      rename_i n raised
      rw [setCall_calls] at hm
      split at hm
      · rename_i hmn
        rw [hmn, hn]
        exact .inl hm
      · exact .inl hm
    | cannotJoin hn ht => exact absurd ht (hs.backed _ (by rw [hn]; rfl))
    | _ => exact .inl (hother hm rfl)
  | stopTimedOut =>
    have hm : ((s.setCall _ (.stopped (.error .shutdownTimeout))).calls m).raw? = some e :=
      setStopComplete_raw hm
    exact .inl (hother hm rfl)
  | concluded =>
    have hm : ((s.setCall _ (.stopped (.ok ()))).calls m).raw? = some e := setStopComplete_raw hm
    exact .inl (hother hm rfl)
  | began | launched | launchRecorded | ran | startTimedOut | requested | foundNew | foundDead | stops =>
    exact .inl (hother hm rfl)
  | _ => exact .inl hm

theorem raw_launched (actions : List Action) {e : Exn} (hbare : e.isException = false) (n : Nat)
    (h : ((after actions).calls n).raw? = some e) : .launch n (some e) ∈ actions := by
  induction actions using List.reverseRecOn with
  | nil => cases h
  | append_singleton actions action ih =>
    rw [after, machine.run_concat] at h
    rcases (step_moves (after actions) action).raw (coherent_after actions).backed hbare h with h | rfl
    · exact List.mem_append_left _ (ih h)
    · simp

/-- `start()` lets an exception through and leaves everything else as it was. -/
theorem Moves.lets_through (h : Moves s action s' events) (hs : Backed s) {m : Nat} {e : Exn}
    (hs' : s'.calls m = .started (.error (.other e))) (hm : s.calls m ≠ .started (.error (.other e))) :
    s' = s.setCall m (.started (.error (.other e))) := by
  have hother {n : Nat} {call : Call} (hm' : (s.setCall n call).calls m = .started (.error (.other e)))
      (hcall : call ≠ .started (.error (.other e))) : False := by
    rw [setCall_calls] at hm'
    split at hm'
    · exact hcall hm'
    · exact hm hm'
  cases h with
  | passed hp =>
    cases hp with
    | escaped hn =>
      rename_i n _ _
      by_cases hmn : m = n
      · subst hmn
        rw [setCall_calls, if_pos rfl] at hs'
        rw [hs']
      · rw [setCall_calls, if_neg hmn] at hs'
        exact absurd hs' hm
    | cannotJoin hn ht => exact absurd ht (hs.backed _ (by rw [hn]; rfl))
    | _ => exact (hother hs' nofun).elim
  | stopTimedOut =>
    have hm' : (s.setCall _ (.stopped (.error .shutdownTimeout))).calls m = .started (.error (.other e)) :=
      setStopComplete_calls nofun hs'
    exact (hother hm' nofun).elim
  | concluded =>
    have hm' : (s.setCall _ (.stopped (.ok ()))).calls m = .started (.error (.other e)) :=
      setStopComplete_calls nofun hs'
    exact (hother hm' nofun).elim
  | began | launched | launchRaised | launchRecorded | ran | startTimedOut | requested | foundNew
  | foundDead | stops =>
    exact (hother hs' nofun).elim
  | _ => exact absurd hs' hm

/-- The exception of a `run()` is recorded with the state it leaves. -/
theorem finish_raised {e : Exn} (ht : s.thread = .raised e) :
    let s' := (s.step .finish).1
    s'.failures = s.failures ++ [.other e] ∧ s'.thread = .finishing ∧
      s'.state = if s.state = .starting ∧ ¬s.started then .startFailed else .failed := by
  simp only [step, ht, recordRaised]
  split <;> exact ⟨rfl, rfl, rfl⟩

/-- A `run()` that returns while the server is to run has failed. -/
theorem finish_returned (ht : s.thread = .returned) :
    (s.state = .starting → (s.step .finish).1.state = .startFailed ∧
        (s.step .finish).1.failures = s.failures ++ [Failure.startup "API server exited before startup"]) ∧
      (s.state = .running → (s.step .finish).1.state = .failed ∧
        (s.step .finish).1.failures =
          s.failures ++ [Failure.api ⟨.error, "API server exited unexpectedly"⟩]) := by
  constructor <;> intro hstate <;> simp [step, ht, recordReturned, hstate, fail]

/-- The thread is started at most once and not after a `stop()` that found the
server NEW; RUNNING is entered at most once, from STARTING with the server
started, and that is how `start()` returns; otherwise it raises an
`ApiServerError`, or what `self._thread.start()` raised that is no `Exception`;
failures are only appended, and what the thread has to report of its `run()` is
appended once. -/
theorem lifecycle_safe (actions : List Action) :
    let s := after actions
    let trace := history actions
    (trace.count .launched ≤ 1 ∧ (.foundNew ∈ trace → .launched ∉ trace)) ∧
      trace.countP Event.entersRunning ≤ 1 ∧
      (∀ n outcome, s.calls n = .started outcome →
        outcome = .ok () ∨ (∃ error, outcome = .error (.api error)) ∨
          ∃ e, outcome = .error (.other e) ∧ e.isException = false ∧ .launch n (some e) ∈ actions) ∧
      s.failures = trace.filterMap Event.failure? ∧ (ownFailures trace).length ≤ 1 ∧
      (∀ e, .runRaised e ∈ trace →
        ownFailures trace = if s.thread = .raised e then [] else [.other e]) ∧
      ∀ action,
        let s' := (s.step action).1
        s.failures <+: s'.failures ∧
          (s'.state = .running → s.state ≠ .running → s.state = .starting ∧ s.started ∧
            ∃ n, action = .settle n ∧ s'.calls n = .started (.ok ())) ∧
          (∀ n, s'.calls n = .started (.ok ()) → s.calls n ≠ .started (.ok ()) →
            s.state = .starting ∧ s.started ∧ s'.state = .running) ∧
          (∀ n e, s'.calls n = .started (.error (.other e)) → s.calls n ≠ .started (.error (.other e)) →
            s' = s.setCall n (.started (.error (.other e)))) ∧
          (∀ e, action = .finish → s.thread = .raised e →
            s'.failures = s.failures ++ [.other e] ∧ s'.thread = .finishing ∧
              s'.state = if s.state = .starting ∧ ¬s.started then .startFailed else .failed) ∧
          (action = .finish → s.thread = .returned →
            (s.state = .starting → s'.state = .startFailed ∧
              ∃ failure, s'.failures = s.failures ++ [failure]) ∧
            (s.state = .running → s'.state = .failed ∧
              ∃ failure, s'.failures = s.failures ++ [failure])) := by
  intro s trace
  have hs : Coherent s trace := coherent_after actions
  refine ⟨⟨hs.launches.once, fun hfound => (hs.launches.cancelled hfound).2.1⟩, hs.runs.once, ?_,
    hs.failures, hs.reports.once, ?_, ?_⟩
  · intro n outcome hn
    have haccounted := hs.backed.accounted n
    rw [hn] at haccounted
    match outcome with
    | .ok () => exact .inl rfl
    | .error (.api error) => exact .inr (.inl ⟨error, rfl⟩)
    | .error (.other e) =>
      have hbare : e.isException = false := by simpa [Call.isAccounted] using haccounted
      exact .inr (.inr ⟨e, rfl, hbare, raw_launched actions hbare n (by rw [hn]; rfl)⟩)
  · intro e he
    rcases hs.reports.raised e he with ht | ⟨ht, hown⟩
    · rw [if_pos ht]
      exact hs.reports.before (by simp [ht]) (by simp [ht])
    · rw [if_neg (by rcases ht with ht | ht <;> simp [ht])]
      exact hown
  · intro action s'
    have hmoves : Moves s action s' (s.step action).2 := step_moves s action
    refine ⟨?_, hmoves.enters_running, fun n => hmoves.start_returns,
      fun n e => hmoves.lets_through hs.backed, ?_, ?_⟩
    · rw [hmoves.failures]
      exact List.prefix_append _ _
    · rintro e rfl ht
      exact finish_raised ht
    · rintro rfl ht
      obtain ⟨hstarting, hrunning⟩ := finish_returned ht
      exact ⟨fun hstate => ⟨(hstarting hstate).1, _, (hstarting hstate).2⟩,
        fun hstate => ⟨(hrunning hstate).1, _, (hrunning hstate).2⟩⟩

/-- A `KeyboardInterrupt` in `self._thread.start()` is no `ApiServerError`. -/
theorem start_lets_interrupt_through :
    ¬∀ actions n outcome, (after actions).calls n = .started outcome →
      outcome = .ok () ∨ ∃ error, outcome = .error (.api error) := by
  intro h
  have hraised := h [.start 0, .launch 0 (some ⟨.keyboardInterrupt, "", [], none⟩), .recordLaunch 0] 0
    (.error (.other ⟨.keyboardInterrupt, "", [], none⟩)) rfl
  simp at hraised

end Bridgewire.UvicornThreadServer
