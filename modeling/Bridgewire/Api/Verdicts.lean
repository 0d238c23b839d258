import Bridgewire.Api.Lifecycle
import Bridgewire.History

/-!
# Failure verdicts

START_FAILED and FAILED are verdicts on the server. A `stop()` leaves them
alone when it finds the thread dead, but not when it finds it alive, nor when
the verdict falls while it joins the thread.
-/

namespace Bridgewire.UvicornThreadServer

open History (Always)

variable {s s' : UvicornThreadServer} {action : Action} {events trace : List Event} {n : Nat}

def isVerdict : ApiServerState → Bool
  | .startFailed | .failed => true
  | _ => false

/-- No verdict is replaced, and a thread that has seen `run()` raise does not leave STOPPED. -/
structure VerdictsFinal (actions : List Action) : Prop where
  kept : Always (fun before action => isVerdict (after before).state →
    ((after before).step action).1.state = (after before).state) actions
  raised : ∀ before rest, actions = before ++ rest → ∀ e, .runRaised e ∈ history before →
    ((after before).thread = .finishing ∨ (after before).thread = .ended) → (after before).state ≠ .stopped

/-- On a verdict, a `stop()` that begins finds the thread dead, and none comes back from its join. -/
def Respects (s : UvicornThreadServer) : Action → Prop
  | .stop n => isVerdict s.state → s.calls n = .notMade → s.thread.isAlive = false
  | .conclude n => isVerdict s.state → s.calls n ≠ .joined
  | _ => True

/-- What the thread has done when there is a verdict. -/
structure Judged (s : UvicornThreadServer) (trace : List Event) : Prop where
  failed : s.state = .failed → s.thread = .finishing ∨ s.thread = .ended
  startFailed : s.state = .startFailed → s.thread = .finishing ∨ s.thread = .ended ∨
    (s.thread = .initial ∧ ∀ m, s.calls m ≠ .launching)
  raised : ∀ e, .runRaised e ∈ trace → (s.thread = .finishing ∨ s.thread = .ended) → isVerdict s.state

theorem isVerdict_iff {state : ApiServerState} : isVerdict state ↔ state = .startFailed ∨ state = .failed := by
  cases state <;> simp [isVerdict]

/-- Where there is a verdict the thread does not run. -/
theorem Judged.at_rest (hj : Judged s trace) (hverdict : isVerdict s.state) :
    s.thread = .finishing ∨ s.thread = .ended ∨ (s.thread = .initial ∧ ∀ m, s.calls m ≠ .launching) := by
  rcases isVerdict_iff.mp hverdict with hstate | hstate
  · exact hj.startFailed hstate
  · exact (hj.failed hstate).imp_right .inl

/-- A verdict stays, unless a `stop()` replaces it. -/
theorem Moves.keeps_verdict (h : Moves s action s' events) (hs : Launches s trace) (hj : Judged s trace)
    (hverdict : isVerdict s.state) (hrespects : Respects s action) : s'.state = s.state := by
  have hnot {state : ApiServerState} (hstate : s.state = state) (hother : isVerdict state = false) : False := by
    rw [hstate, hother] at hverdict
    cases hverdict
  have hrest := hj.at_rest hverdict
  cases h with
  | idle | passed | proceeded | reported | launched | launchRaised | requested => rfl
  | began _ hstate | ran _ hstate | foundNew _ hstate | raisedStarting _ hstate | returnedStarting _ hstate
  | returnedRunning _ hstate | returnedStopping _ hstate =>
    exact (hnot hstate rfl).elim
  | launchRecorded hn =>
    rcases isVerdict_iff.mp hverdict with hstate | hstate
    · exact hstate.symm
    · have hinitial := (hs.refused _ _ hn).2
      rcases hj.failed hstate with ht | ht <;> rw [hinitial] at ht <;> cases ht
  | startTimedOut _ _ hstartFailed hfailed | foundDead _ _ _ hstartFailed hfailed =>
    exact ((isVerdict_iff.mp hverdict).elim hstartFailed hfailed).elim
  | stops hn _ halive => exact absurd halive (by simp [hrespects hverdict hn])
  | stopTimedOut hn | concluded hn => exact absurd hn (hrespects hverdict)
  | raised ht =>
    rw [ht] at hrest
    simp at hrest

/-- An action that is none of the thread. -/
theorem Judged.frame (hj : Judged s trace) (hthread : s'.thread = s.thread)
    (hstate : isVerdict s'.state → s'.state = s.state) (hkept : isVerdict s.state → s'.state = s.state)
    (hcalls : isVerdict s'.state → ∀ m, s'.calls m = .launching → s.calls m = .launching)
    (hraised : ∀ e, .runRaised e ∉ events) : Judged s' (trace ++ events) := by
  constructor
  · intro hfailed
    rw [hthread]
    exact hj.failed ((hstate (by rw [hfailed]; rfl)).symm.trans hfailed)
  · intro hfailed
    have hverdict : isVerdict s'.state := by rw [hfailed]; rfl
    rw [hthread]
    exact (hj.startFailed ((hstate hverdict).symm.trans hfailed)).imp_right
      (Or.imp_right (And.imp_right fun hnone m hm => hnone m (hcalls hverdict m hm)))
  · intro e he hdone
    have hverdict := hj.raised e (by simpa [hraised] using he) (hthread ▸ hdone)
    rwa [hkept hverdict]

/-- A step of the thread where there is no verdict, neither before nor after. -/
theorem Judged.proceed (hstate : isVerdict s'.state = false)
    (hraised : ∀ e, .runRaised e ∈ trace → ¬(s'.thread = .finishing ∨ s'.thread = .ended)) : Judged s' trace := by
  constructor
  · intro hfailed
    rw [hfailed] at hstate
    cases hstate
  · intro hfailed
    rw [hfailed] at hstate
    cases hstate
  · exact fun e he hdone => absurd hdone (hraised e he)

theorem Judged.moves (hj : Judged s trace) (hs : Coherent s trace) (h : Moves s action s' events)
    (hrespects : Respects s action) : Judged s' (trace ++ events) := by
  have hkept := fun hverdict => h.keeps_verdict hs.launches hj hverdict hrespects
  have hrunning (hrest : ¬(s.thread = .finishing ∨ s.thread = .ended ∨
      (s.thread = .initial ∧ ∀ m, s.calls m ≠ .launching))) : isVerdict s.state = false :=
    Bool.eq_false_iff.mpr fun hverdict => hrest (hj.at_rest hverdict)
  have hset {n : Nat} {call : Call} (hcall : call ≠ .launching) (m : Nat)
      (hm : (s.setCall n call).calls m = .launching) : s.calls m = .launching := by
    rw [setCall_calls] at hm
    split at hm
    · exact absurd hm hcall
    · exact hm
  have hsilent (hreturned : s.thread = .returned) (e : Exn) : .runRaised e ∉ trace :=
    hs.reports.none_raised (by simp [hreturned]) (by simp [hreturned]) (by simp [hreturned]) e
  cases h with
  | idle => exact hj.frame rfl (fun _ => rfl) hkept (fun _ _ h => h) (by simp)
  | passed hp =>
    refine hj.frame rfl (fun _ => rfl) hkept (fun _ => hset ?_) (by simp)
    rintro rfl
    cases hp.not_launching
  | proceeded hp =>
    cases hp with
    | returned ht => exact .proceed (hrunning (by simp [ht])) (by simp)
    | raised e ht => exact .proceed (hrunning (by simp [ht])) (by simp)
    | finished ht =>
      refine .proceed (hrunning (by simp [ht])) fun e he => absurd (by simpa using he) (hsilent ht e)
    | died ht =>
      refine ⟨fun _ => .inr rfl, fun _ => .inr (.inl rfl), fun e he _ => ?_⟩
      exact hj.raised e (by simpa using he) (.inl ht)
  | reported => exact hj.frame rfl (fun _ => rfl) hkept (fun _ _ h => h) (by simp)
  | began | ran | startTimedOut | foundNew | foundDead | stops | stopTimedOut | concluded =>
    exact hj.frame rfl nofun hkept nofun (by simp)
  | launched hn ht =>
    refine .proceed (hrunning fun hrest => ?_) (by simp)
    simp only [ht, reduceCtorEq, false_or] at hrest
    exact hrest.2 _ hn
  | launchRaised => exact hj.frame rfl (fun _ => rfl) hkept (fun _ => hset (by simp)) (by simp)
  | launchRecorded hn =>
    obtain ⟨hlaunched, hinitial⟩ := hs.launches.refused _ _ hn
    refine ⟨nofun, fun _ => .inr (.inr ⟨hinitial, fun m hm => ?_⟩), fun _ _ _ => rfl⟩
    exact hs.launches.pending m (hset (by simp) m hm) hlaunched
  | requested => exact hj.frame rfl (fun _ => rfl) hkept (fun _ => hset (by simp)) (by simp)
  | raisedStarting => exact ⟨nofun, fun _ => .inl rfl, fun _ _ _ => rfl⟩
  | raised => exact ⟨fun _ => .inl rfl, nofun, fun _ _ _ => rfl⟩
  | returnedStarting => exact ⟨nofun, fun _ => .inl rfl, fun _ _ _ => rfl⟩
  | returnedRunning => exact ⟨fun _ => .inl rfl, nofun, fun _ _ _ => rfl⟩
  | returnedStopping ht => exact .proceed rfl fun e he => absurd (by simpa using he) (hsilent ht e)

/-- An action that does not respect a verdict replaces it. -/
theorem replaces_verdict (h : ¬Respects s action) :
    isVerdict s.state ∧ (s.step action).1.state ≠ s.state := by
  unfold Respects at h
  split at h
  · rename_i n
    simp only [not_forall] at h
    obtain ⟨hverdict, hn, halive⟩ := h
    refine ⟨hverdict, ?_⟩
    rcases isVerdict_iff.mp hverdict with hstate | hstate
    all_goals simp [step, hn, stop, hstate, halive, enter]
  · rename_i n
    simp only [not_forall, not_not] at h
    obtain ⟨hverdict, hn⟩ := h
    refine ⟨hverdict, ?_⟩
    rcases isVerdict_iff.mp hverdict with hstate | hstate
    all_goals
      simp only [step, hn, if_true, conclude]
      split <;> simp [fail, enter, setStopComplete, hstate]
  · exact absurd trivial h

theorem after_concat (before : List Action) (action : Action) :
    after (before ++ [action]) = ((after before).step action).1 ∧
      history (before ++ [action]) = history before ++ ((after before).step action).2 := by
  rw [after, history, Transducer.run_concat]
  exact ⟨rfl, rfl⟩

/-- **Verdicts are final** in exactly the runs whose actions respect them. -/
theorem verdicts_final_iff (actions : List Action) :
    VerdictsFinal actions ↔ Always (fun before => Respects (after before)) actions := by
  constructor
  · intro h before action rest hsplit
    by_contra hrespects
    obtain ⟨hverdict, hreplaced⟩ := replaces_verdict hrespects
    exact hreplaced (h.kept before action rest hsplit hverdict)
  · intro h
    have hjudged : ∀ before rest, actions = before ++ rest → Judged (after before) (history before) := by
      intro before
      induction before using List.reverseRecOn with
      | nil => exact fun _ _ => ⟨nofun, nofun, nofun⟩
      | append_singleton before action ih =>
        intro rest hsplit
        rw [List.append_assoc] at hsplit
        rw [(after_concat before action).1, (after_concat before action).2]
        exact (ih _ hsplit).moves (coherent_after before) (step_moves _ action) (h before action rest hsplit)
    refine ⟨fun before action rest hsplit hverdict => ?_, fun before rest hsplit e he hdone hstopped => ?_⟩
    · exact (step_moves _ action).keeps_verdict (coherent_after before).launches
        (hjudged before (action :: rest) hsplit) hverdict (h before action rest hsplit)
    · have hverdict := (hjudged before rest hsplit).raised e he hdone
      rw [hstopped] at hverdict
      cases hverdict

/-- `stop()` joins the thread while it records that its `run()` raised. -/
theorem verdict_replaced : ¬∀ actions, VerdictsFinal actions := by
  intro h
  have hkept := (h [.start 0, .launch 0 none, .report true, .leaveLoop 0, .settle 0, .stop 1,
    .runRaise (Exn.osError "immediate failure"), .finish, .die, .join 1 false, .conclude 1]).kept
    [.start 0, .launch 0 none, .report true, .leaveLoop 0, .settle 0, .stop 1,
      .runRaise (Exn.osError "immediate failure"), .finish, .die, .join 1 false] (.conclude 1) [] rfl rfl
  cases hkept

end Bridgewire.UvicornThreadServer
