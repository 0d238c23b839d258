import Bridgewire.Api.Lifecycle

/-!
# What a returned `stop()` is worth

A `stop()` that returns has not always stopped the thread: it may come between
the two first steps of `start()`, or have waited in vain for another `stop()`.
`Orderly` is what has to hold of every action for it to be worth its name.
-/

namespace Bridgewire.UvicornThreadServer

variable {s s' : UvicornThreadServer} {action : Action} {events trace : List Event} {n : Nat}

/-- Once a `stop()` has returned, the thread is not alive. Of every state reached
it says that the thread is not started afterwards either. -/
def StaysStopped (s : UvicornThreadServer) : Prop :=
  (∃ n, s.calls n = .stopped (.ok ())) → s.thread.isAlive = false

/-- A `stop()` that waits for another one. -/
def Call.isWaiting : Call → Bool
  | .willWait | .waiting | .woken => true
  | _ => false

/-- The blocks that replace STOP_TIMED_OUT while the thread is alive. -/
def Overrules (s : UvicornThreadServer) : Action → Prop
  | .stop n => s.calls n = .notMade
  | .settle n => s.calls n = .polled
  | .finish => ∃ e, s.thread = .raised e
  | _ => False

structure Orderly (s : UvicornThreadServer) (action : Action) : Prop where
  /-- No `stop()` decides between STARTING and `self._thread.start()`. -/
  outsideStart : ∀ n m, action = .stop n → s.calls n = .notMade → s.calls m ≠ .launching
  /-- No wait for another `stop()` expires while that one is still at it. -/
  patient : ∀ n, action = .expireWait n → s.calls n = .waiting → s.thread.isAlive →
    s.state = .stopTimedOut
  /-- No verdict of a `stop()` is replaced before those who wait for it have seen it. -/
  heeded : ∀ n, (s.calls n).isWaiting → s.thread.isAlive → s.state = .stopTimedOut →
    ¬Overrules s action

/-- A run whose actions are all orderly. -/
def OrderlyRun : UvicornThreadServer → List Action → Prop
  | _, [] => True
  | s, action :: rest => Orderly s action ∧ OrderlyRun (s.step action).1 rest

-- ---------------------------------------------------------------------------
-- No thread
-- ---------------------------------------------------------------------------

/-- The thread is not alive and nothing will start it. -/
structure Shut (s : UvicornThreadServer) : Prop where
  dead : s.thread.isAlive = false
  opened : s.state ≠ .new
  unlaunched : ∀ m, s.calls m ≠ .launching

theorem Coherent.shut (h : Coherent s trace) (hdead : s.thread.isAlive = false)
    (ht : s.thread ≠ .initial) : Shut s where
  dead := hdead
  opened hnew := ht (h.launches.unlaunched (h.launches.fresh hnew).1)
  unlaunched := h.launches.none_launching ht

theorem Moves.stays_dead (h : Moves s action s' events) (hdead : s.thread.isAlive = false)
    (hunlaunched : ∀ m, s.calls m ≠ .launching) : s'.thread.isAlive = false := by
  cases h with
  | proceeded hp => cases hp <;> simp_all [ServerThread.isAlive]
  | launched hn => exact absurd hn (hunlaunched _)
  | reported _ ht => exact hdead
  | raisedStarting ht => simp [ht, ServerThread.isAlive] at hdead
  | raised ht => simp [ht, ServerThread.isAlive] at hdead
  | returnedStarting ht => simp [ht, ServerThread.isAlive] at hdead
  | returnedRunning ht => simp [ht, ServerThread.isAlive] at hdead
  | returnedStopping ht => simp [ht, ServerThread.isAlive] at hdead
  | _ => exact hdead

/-- NEW is not entered again. -/
theorem Moves.opened (h : Moves s action s' events) (hnew : s.state ≠ .new) : s'.state ≠ .new := by
  cases h with
  | idle | passed | proceeded | reported | launched | launchRaised | requested => exact hnew
  | _ => nofun

/-- Only a `start()` that finds NEW gets to start the thread. -/
theorem Moves.unlaunched (h : Moves s action s' events) (hnew : s.state ≠ .new)
    (hunlaunched : ∀ m, s.calls m ≠ .launching) (m : Nat) : s'.calls m ≠ .launching := by
  intro hm
  have hsame {n : Nat} {c : Call} (hcall : c.isLaunching = false)
      (hm : (s.setCall n c).calls m = .launching) : False :=
    hunlaunched m ((setCall_launching hcall (by rw [hm]; rfl)).symm.trans hm)
  cases h with
  | idle | proceeded | reported | raisedStarting | raised | returnedStarting | returnedRunning
  | returnedStopping => exact hunlaunched m hm
  | passed hp => exact hsame hp.not_launching hm
  | began _ hn => exact hnew hn
  | launched hn => exact hunlaunched _ hn
  | launchRaised e hn => exact hunlaunched _ hn
  | stopTimedOut =>
    exact hsame (c := .stopped (.error .shutdownTimeout)) rfl (setStopComplete_calls nofun hm)
  | concluded => exact hsame (c := .stopped (.ok ())) rfl (setStopComplete_calls nofun hm)
  | _ => exact hsame rfl hm

theorem Shut.moves (h : Shut s) (hmoves : Moves s action s' events) : Shut s' where
  dead := hmoves.stays_dead h.dead h.unlaunched
  opened := hmoves.opened h.opened
  unlaunched := hmoves.unlaunched h.opened h.unlaunched

-- ---------------------------------------------------------------------------
-- The verdict of the `stop()` waited for
-- ---------------------------------------------------------------------------

/-- The thread is not alive, or the next one to look will raise. -/
def Decided (s : UvicornThreadServer) : Prop := s.thread.isAlive = false ∨ s.state = .stopTimedOut

/-- What holds of the calls of `stop()` in an orderly run. -/
structure Heeded (s : UvicornThreadServer) : Prop where
  returned : ∀ n, s.calls n = .stopped (.ok ()) → Shut s
  stopping : s.state = .stopping → s.stopComplete = false
  willWait : ∀ n, s.calls n = .willWait → s.stopComplete → Decided s
  woken : ∀ n, s.calls n = .woken → Decided s

theorem Decided.moves (h : Decided s) (hs : Coherent s trace) (hn : (s.calls n).isWaiting)
    (horderly : Orderly s action) (hmoves : Moves s action s' events) : Decided s' := by
  have ht : s.thread ≠ .initial := by
    refine hs.backed.backed n ?_
    cases hcall : s.calls n <;> simp_all [Call.isWaiting, Call.isBacked]
  cases halive : s.thread.isAlive with
  | false => exact .inl ((hs.shut halive ht).moves hmoves).dead
  | true =>
    have hstate : s.state = .stopTimedOut := h.resolve_left (by simp [halive])
    have hoverrules := horderly.heeded n hn halive hstate
    cases hmoves with
    | idle | passed | proceeded | reported | launched | launchRaised | requested => exact .inr hstate
    | began _ hnew => simp [hstate] at hnew
    | launchRecorded hm => exact absurd (hs.launches.refused _ _ hm).2 ht
    | ran _ hstarting => simp [hstate] at hstarting
    | startTimedOut hm => exact absurd hm hoverrules
    | foundNew hm => exact absurd hm hoverrules
    | foundDead hm => exact absurd hm hoverrules
    | stops hm => exact absurd hm hoverrules
    | stopTimedOut => exact .inr rfl
    | concluded _ hdead => simp [halive] at hdead
    | raisedStarting ht => exact absurd ⟨_, ht⟩ hoverrules
    | raised ht => exact absurd ⟨_, ht⟩ hoverrules
    | returnedStarting _ hstarting => simp [hstate] at hstarting
    | returnedRunning _ hrunning => simp [hstate] at hrunning
    | returnedStopping _ hstopping => simp [hstate] at hstopping

/-- How a call comes to be woken. -/
theorem Moves.woken (h : Moves s action s' events) {m : Nat} (hm : s'.calls m = .woken) :
    s.calls m = .woken ∨ Decided s' ∨
      (s.calls m = .willWait ∧ s.stopComplete ∧ s' = s.setCall m .woken) ∨
      (s.calls m = .waiting ∧ action = .expireWait m ∧ s' = s.setCall m .woken) := by
  have hsame {n : Nat} {c : Call} (hm : (s.setCall n c).calls m = .woken) (hcall : c ≠ .woken) :
      s.calls m = .woken := by
    rw [setCall_calls] at hm
    split at hm
    · exact absurd hm hcall
    · exact hm
  cases h with
  | idle | proceeded | reported | raisedStarting | raised | returnedStarting | returnedRunning
  | returnedStopping => exact .inl hm
  | passed hp =>
    cases hp with
    | passesWait hn hcomplete =>
      rename_i n
      by_cases hmn : m = n
      · subst hmn
        exact .inr (.inr (.inl ⟨hn, hcomplete, rfl⟩))
      · rw [setCall_calls, if_neg hmn] at hm
        exact .inl hm
    | expires hn =>
      rename_i n
      by_cases hmn : m = n
      · subst hmn
        exact .inr (.inr (.inr ⟨hn, rfl, rfl⟩))
      · rw [setCall_calls, if_neg hmn] at hm
        exact .inl hm
    | _ => exact .inl (hsame hm nofun)
  | stopTimedOut => exact .inr (.inl (.inr rfl))
  | concluded _ hdead => exact .inr (.inl (.inl hdead))
  | _ => exact .inl (hsame hm nofun)

/-- How a call of `stop()` comes to have returned. -/
theorem Moves.returned (h : Moves s action s' events) {m : Nat}
    (hm : s'.calls m = .stopped (.ok ())) :
    s.calls m = .stopped (.ok ()) ∨
      (s.calls m = .notMade ∧ action = .stop m ∧ s'.thread = s.thread ∧
        s'.calls = (s.setCall m (.stopped (.ok ()))).calls ∧
        (s.state = .new ∧ s'.state = .stopped ∨ s.state ≠ .new ∧ s.thread.isAlive = false)) ∨
      (s.calls m = .woken ∧ s.state ≠ .stopTimedOut ∧ s' = s.setCall m (.stopped (.ok ()))) ∨
      (s.calls m = .joined ∧ s.thread.isAlive = false) := by
  have hsame {n : Nat} {c : Call} (hm : (s.setCall n c).calls m = .stopped (.ok ())) :
      s.calls m = .stopped (.ok ()) ∨ m = n ∧ c = .stopped (.ok ()) := by
    rw [setCall_calls] at hm
    split at hm
    · exact .inr ⟨‹_›, hm⟩
    · exact .inl hm
  have hother {n : Nat} {c : Call} (hm : (s.setCall n c).calls m = .stopped (.ok ()))
      (hcall : c ≠ .stopped (.ok ())) : s.calls m = .stopped (.ok ()) :=
    (hsame hm).resolve_right fun h => hcall h.2
  cases h with
  | idle | proceeded | reported | raisedStarting | raised | returnedStarting | returnedRunning
  | returnedStopping => exact .inl hm
  | passed hp =>
    cases hp with
    | stopped hn hnew hdead =>
      rcases hsame hm with hm | ⟨rfl, -⟩
      · exact .inl hm
      · exact .inr (.inl ⟨hn, rfl, rfl, rfl, .inr ⟨hnew, hdead⟩⟩)
    | regained hn hstate =>
      rcases hsame hm with hm | ⟨rfl, -⟩
      · exact .inl hm
      · exact .inr (.inr (.inl ⟨hn, hstate, rfl⟩))
    | _ => exact .inl (hother hm nofun)
  | foundNew hn hnew =>
    rcases hsame hm with hm | ⟨rfl, -⟩
    · exact .inl hm
    · exact .inr (.inl ⟨hn, rfl, rfl, rfl, .inl ⟨hnew, rfl⟩⟩)
  | foundDead hn hnew hdead =>
    rcases hsame hm with hm | ⟨rfl, -⟩
    · exact .inl hm
    · exact .inr (.inl ⟨hn, rfl, rfl, rfl, .inr ⟨hnew, hdead⟩⟩)
  | stopTimedOut =>
    have hm : (s.setCall _ (.stopped (.error .shutdownTimeout))).calls m = .stopped (.ok ()) :=
      setStopComplete_calls nofun hm
    exact .inl (hother hm nofun)
  | concluded hn hdead =>
    have hm : (s.setCall _ (.stopped (.ok ()))).calls m = .stopped (.ok ()) :=
      setStopComplete_calls nofun hm
    rcases hsame hm with hm | ⟨rfl, -⟩
    · exact .inl hm
    · exact .inr (.inr (.inr ⟨hn, hdead⟩))
  | _ => exact .inl (hother hm nofun)

/-- How the event comes to be set while a call is about to wait for it. -/
theorem Moves.willWait (h : Moves s action s' events)
    (hstopping : s.state = .stopping → s.stopComplete = false) {m : Nat}
    (hm : s'.calls m = .willWait) (hset : s'.stopComplete) :
    Decided s' ∨ s.calls m = .willWait ∧ s.stopComplete := by
  have hsame {n : Nat} {c : Call} (hm : (s.setCall n c).calls m = .willWait) (hcall : c ≠ .willWait) :
      s.calls m = .willWait := by
    rw [setCall_calls] at hm
    split at hm
    · exact absurd hm hcall
    · exact hm
  cases h with
  | idle | proceeded | reported | raisedStarting | raised | returnedStarting | returnedRunning
  | returnedStopping => exact .inr ⟨hm, hset⟩
  | passed hp =>
    cases hp with
    | mustWait _ _ hstate =>
      rw [setCall_stopComplete, hstopping hstate] at hset
      cases hset
    | _ => exact .inr ⟨hsame hm nofun, hset⟩
  | stops => cases hset
  | stopTimedOut => exact .inl (.inr rfl)
  | concluded _ hdead => exact .inl (.inl hdead)
  | _ => exact .inr ⟨hsame hm nofun, hset⟩

theorem Moves.stopping (h : Moves s action s' events)
    (hstopping : s.state = .stopping → s.stopComplete = false) :
    s'.state = .stopping → s'.stopComplete = false := by
  cases h with
  | idle | passed | proceeded | reported | launched | launchRaised | requested => exact hstopping
  | stops => exact fun _ => rfl
  | _ => nofun

theorem Heeded.moves (h : Heeded s) (hs : Coherent s trace) (horderly : Orderly s action)
    (hmoves : Moves s action s' events) : Heeded s' := by
  refine ⟨fun n hn => ?_, hmoves.stopping h.stopping, fun n hn hset => ?_, fun n hn => ?_⟩
  · rcases hmoves.returned hn with
      hbefore | ⟨hbefore, rfl, ht, hcalls, hfound⟩ | ⟨hbefore, hstate, rfl⟩ | ⟨hbefore, hdead⟩
    · exact (h.returned n hbefore).moves hmoves
    · have hopened : s'.state ≠ .new := by
        rcases hfound with ⟨-, hstate⟩ | ⟨hnew, -⟩
        · simp [hstate]
        · exact hmoves.opened hnew
      refine ⟨?_, hopened, fun m hm => ?_⟩
      · rw [ht]
        rcases hfound with ⟨hnew, -⟩ | ⟨-, hdead⟩
        · rw [hs.launches.unlaunched (hs.launches.fresh hnew).1]
          rfl
        · exact hdead
      · rw [hcalls, setCall_calls] at hm
        split at hm
        · cases hm
        · exact horderly.outsideStart n m rfl hbefore hm
    · have hdead := (h.woken n hbefore).resolve_right hstate
      exact (hs.shut hdead (hs.backed.backed n (by rw [hbefore]; rfl))).moves hmoves
    · exact (hs.shut hdead (hs.backed.backed n (by rw [hbefore]; rfl))).moves hmoves
  · rcases hmoves.willWait h.stopping hn hset with hdecided | ⟨hbefore, hset⟩
    · exact hdecided
    · exact (h.willWait n hbefore hset).moves hs (by rw [hbefore]; rfl) horderly hmoves
  · rcases hmoves.woken hn with hbefore | hdecided | ⟨hbefore, hset, rfl⟩ | ⟨hbefore, rfl, rfl⟩
    · exact (h.woken n hbefore).moves hs (by rw [hbefore]; rfl) horderly hmoves
    · exact hdecided
    · exact h.willWait n hbefore hset
    · cases halive : s.thread.isAlive with
      | false => exact .inl halive
      | true => exact .inr (horderly.patient n rfl hbefore halive)

theorem Heeded.run (h : Heeded s) (hs : Coherent s trace) {actions : List Action}
    (horderly : OrderlyRun s actions) : Heeded (machine.run s actions).1 := by
  induction actions generalizing s trace with
  | nil => exact h
  | cons action rest ih =>
    obtain ⟨hfirst, hrest⟩ := horderly
    exact ih (h.moves hs hfirst (step_moves s action)) (hs.step action) hrest

-- ---------------------------------------------------------------------------
-- What a disorderly action leads to
-- ---------------------------------------------------------------------------

theorem beginWait_waits (hn : (s.calls n).isWaiting) :
    let s' := (s.step (.beginWait n)).1
    (s'.calls n = .waiting ∨ s'.calls n = .woken) ∧ s'.thread = s.thread ∧ s'.state = s.state := by
  cases hcall : s.calls n <;> simp [hcall, Call.isWaiting] at hn
  · cases hset : s.stopComplete <;> simp [step, hcall, hset, setCall_calls]
  · simp [step, hcall]
  · simp [step, hcall]

theorem expireWait_wakes (hn : s.calls n = .waiting ∨ s.calls n = .woken) :
    let s' := (s.step (.expireWait n)).1
    s'.calls n = .woken ∧ s'.thread = s.thread ∧ s'.state = s.state := by
  rcases hn with hn | hn <;> simp [step, hn, setCall_calls]

theorem regain_returns (hn : s.calls n = .woken) (hstate : s.state ≠ .stopTimedOut) :
    s.step (.regain n) = (s.setCall n (.stopped (.ok ())), []) := by
  simp [step, hn, regain, hstate]

/-- A wait that ends with no verdict returns whatever the thread does. -/
theorem waiting_returns (hn : (s.calls n).isWaiting) (halive : s.thread.isAlive)
    (hstate : s.state ≠ .stopTimedOut) :
    ¬StaysStopped (machine.run s [.beginWait n, .expireWait n, .regain n]).1 := by
  intro hstopped
  obtain ⟨hwaits, hthread, hbegan⟩ := beginWait_waits hn
  obtain ⟨hwoken, hthread', hexpired⟩ := expireWait_wakes hwaits
  have hregained := regain_returns hwoken (by rw [hexpired, hbegan]; exact hstate)
  have hlast : (machine.run s [.beginWait n, .expireWait n, .regain n]).1 =
      ((s.step (.beginWait n)).1.step (.expireWait n)).1.setCall n (.stopped (.ok ())) :=
    congrArg Prod.fst hregained
  rw [hlast] at hstopped
  have hdead := hstopped ⟨n, by simp [setCall_calls]⟩
  rw [setCall_thread, hthread', hthread, halive] at hdead
  cases hdead

/-- A `stop()` between the two first steps of `start()`. -/
theorem inside_start_returns (hs : Coherent s trace) {m : Nat} (hn : s.calls n = .notMade)
    (hm : s.calls m = .launching) :
    ¬StaysStopped (machine.run (s.step (.stop n)).1 [.launch m none]).1 := by
  intro hstopped
  have ht : s.thread = .initial := hs.launches.unlaunched (hs.launches.pending m hm)
  have hnew : s.state ≠ .new := fun hnew => (hs.launches.fresh hnew).2 m hm
  have hmn : m ≠ n := by
    rintro rfl
    simp [hn] at hm
  obtain ⟨hcalls, hthread⟩ : (s.step (.stop n)).1.calls = (s.setCall n (.stopped (.ok ()))).calls ∧
      (s.step (.stop n)).1.thread = .initial := by
    simp only [step, hn, if_true, stop, hnew, if_false, ht, ServerThread.isAlive]
    split <;> simp [enter, ht]
  have hlaunched : (machine.run (s.step (.stop n)).1 [.launch m none]).1 =
      { (s.step (.stop n)).1.setCall m .polling with thread := .serving } := by
    have hlaunching : (s.step (.stop n)).1.calls m = .launching := by
      rw [hcalls, setCall_calls, if_neg hmn, hm]
    show ((s.step (.stop n)).1.step (.launch m none)).1 = _
    simp [step.eq_def _ (.launch m none), hlaunching, launch, hthread]
  rw [hlaunched] at hstopped
  have hdead := hstopped ⟨n, by
    rw [setCall_calls, if_neg hmn.symm, hcalls, setCall_calls, if_pos rfl]⟩
  cases hdead

/-- After a verdict that those who wait have not seen is replaced, they return. -/
theorem overruled_returns (hn : (s.calls n).isWaiting) (halive : s.thread.isAlive)
    (hstate : s.state = .stopTimedOut) (hoverrules : Overrules s action) :
    ((s.step action).1.calls n).isWaiting ∧ (s.step action).1.thread.isAlive ∧
      (s.step action).1.state ≠ .stopTimedOut := by
  cases action with
  | stop m =>
    have hm : s.calls m = .notMade := hoverrules
    have hnm : n ≠ m := by
      rintro rfl
      simp [hm, Call.isWaiting] at hn
    simp [step, hm, stop, hstate, halive, enter, setCall_calls, hnm, hn]
  | settle m =>
    have hm : s.calls m = .polled := hoverrules
    have hnm : n ≠ m := by
      rintro rfl
      simp [hm, Call.isWaiting] at hn
    simp [step, hm, settle, hstate, halive, fail, setCall_calls, hnm, hn]
  | finish =>
    obtain ⟨e, ht⟩ := hoverrules
    simp [step, ht, recordRaised, hstate, fail, hn, ServerThread.isAlive]
  | _ => exact hoverrules.elim

theorem disorderly_returns (hs : Coherent s trace) (h : ¬Orderly s action) :
    ∃ later, ¬StaysStopped (machine.run s (action :: later)).1 := by
  by_contra hnone
  replace hnone (later : List Action) : StaysStopped (machine.run (s.step action).1 later).1 :=
    not_not.mp (not_exists.mp hnone later)
  refine h ⟨fun n m haction hn hm => ?_, fun n haction hn halive => ?_,
    fun n hn halive hstate hoverrules => ?_⟩
  · subst haction
    exact inside_start_returns hs hn hm (hnone [.launch m none])
  · subst haction
    by_contra hstate
    obtain ⟨hwoken, hthread, hexpired⟩ := expireWait_wakes (.inl hn)
    have hwaiting : ((s.step (.expireWait n)).1.calls n).isWaiting := by
      rw [hwoken]
      rfl
    exact waiting_returns hwaiting (hthread ▸ halive) (hexpired ▸ hstate)
      (hnone [.beginWait n, .expireWait n, .regain n])
  · obtain ⟨hwaiting, halive, hstate⟩ := overruled_returns hn halive hstate hoverrules
    exact waiting_returns hwaiting halive hstate (hnone [.beginWait n, .expireWait n, .regain n])

/-- In an orderly run no thread is alive after a `stop()` has returned, and every
action that is not orderly can be followed by what breaks that. -/
theorem stopped_means_stopped (actions : List Action) :
    (OrderlyRun init actions → StaysStopped (after actions)) ∧
      ∀ action, ¬Orderly (after actions) action →
        ∃ later, ¬StaysStopped (after (actions ++ action :: later)) := by
  have hs : Coherent (after actions) (history actions) := coherent_after actions
  refine ⟨fun horderly hreturned => ?_, fun action hdisorderly => ?_⟩
  · obtain ⟨n, hn⟩ := hreturned
    have hinit : Heeded init := ⟨nofun, nofun, nofun, nofun⟩
    exact ((hinit.run coherent_init horderly).returned n hn).dead
  · obtain ⟨later, hlater⟩ := disorderly_returns hs hdisorderly
    refine ⟨later, ?_⟩
    rw [after, Transducer.run_append]
    exact hlater

/-- A server that runs is stopped by one `stop()`. -/
theorem stopped_means_stopped_running :
    StaysStopped (after [.start 0, .launch 0 none, .report true, .leaveLoop 0, .settle 0, .stop 1,
      .runReturn, .finish, .die, .join 1 false, .conclude 1]) := by
  refine (stopped_means_stopped _).1 ?_
  have houtside : ∀ m, (after [.start 0, .launch 0 none, .report true, .leaveLoop 0, .settle 0]).calls m ≠
      .launching := (coherent_after _).launches.none_launching nofun
  refine ⟨⟨?_, ?_, ?_⟩, ⟨?_, ?_, ?_⟩, ⟨?_, ?_, ?_⟩, ⟨?_, ?_, ?_⟩, ⟨?_, ?_, ?_⟩,
    ⟨fun _ m _ _ => houtside m, ?_, ?_⟩, ⟨?_, ?_, ?_⟩, ⟨?_, ?_, ?_⟩, ⟨?_, ?_, ?_⟩, ⟨?_, ?_, ?_⟩,
    ⟨?_, ?_, ?_⟩, trivial⟩
  all_goals nofun

/-- A `stop()` between the two first steps of a `start()` returns before the thread
is started. -/
theorem stop_before_launch : ¬∀ actions, StaysStopped (after actions) := by
  intro h
  have halive := h [.start 0, .stop 1, .launch 0 none] ⟨1, rfl⟩
  cases halive

end Bridgewire.UvicornThreadServer
