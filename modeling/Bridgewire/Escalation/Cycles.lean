import Bridgewire.Escalation.History

/-!
# Alarms in a cycle

What a tracker answers to a sorted list of timestamps, cut into cycles: in one
cycle at most a warning and then a critical level are raised.
-/

namespace Bridgewire

namespace EscalationTracker

/-- The timestamps and what `record` answers to each. -/
def answers (tracker : EscalationTracker) : List ℚ → List (ℚ × EscalationLevel)
  | [] => []
  | timestamp :: rest => (timestamp, (tracker.record timestamp).1) :: (tracker.record timestamp).2.answers rest

theorem answers_concat (tracker : EscalationTracker) (timestamps : List ℚ) (timestamp : ℚ) :
    tracker.answers (timestamps ++ [timestamp]) =
      tracker.answers timestamps ++ [(timestamp, ((tracker.recordAll timestamps).record timestamp).1)] := by
  induction timestamps generalizing tracker with
  | nil => rfl
  | cons first rest ih =>
    rw [List.cons_append, answers, answers, ih]
    rfl

@[simp] theorem answers_map_fst (tracker : EscalationTracker) (timestamps : List ℚ) :
    (tracker.answers timestamps).map Prod.fst = timestamps := by
  induction timestamps generalizing tracker with
  | nil => rfl
  | cons first rest ih => simp [answers, ih]

end EscalationTracker

namespace EscalationPolicy

variable (policy : EscalationPolicy)

/-- What is raised as the events of a cycle come in. -/
def alarms (events : List ℚ) : List EscalationLevel :=
  (events.inits.map policy.raised).filter (· ≠ .none)

theorem alarms_concat (events : List ℚ) (now : ℚ) :
    policy.alarms (events ++ [now]) =
      policy.alarms events ++ [policy.raised (events ++ [now])].filter (· ≠ .none) := by
  rw [alarms, List.inits_append, List.map_append, List.filter_append]
  rfl

theorem raised_concat (events : List ℚ) (now : ℚ) :
    policy.raised (events ++ [now]) =
      if (policy.reached events).value < (policy.reached (events ++ [now])).value then
        policy.reached (events ++ [now])
      else .none := by
  rw [raised, List.dropLast_concat]

theorem reached_mono (events : List ℚ) (now : ℚ) :
    (policy.reached events).value ≤ (policy.reached (events ++ [now])).value := by
  rw [reached_concat]
  cases policy.reached events <;> cases policy.windowLevel (events ++ [now]) <;> decide

/-- Every alarm is above the ones before it, and the last is the level reached. -/
theorem alarms_eq (events : List ℚ) :
    match policy.reached events with
    | .none => policy.alarms events = []
    | .warning => policy.alarms events = [.warning]
    | .critical => policy.alarms events = [.critical] ∨ policy.alarms events = [.warning, .critical] := by
  induction events using List.reverseRecOn with
  | nil => rfl
  | append_singleton events now ih =>
    have hmono := policy.reached_mono events now
    rw [alarms_concat, raised_concat]
    generalize policy.reached events = before at ih hmono ⊢
    generalize policy.reached (events ++ [now]) = level at hmono ⊢
    cases before <;> cases level <;> simp_all [EscalationLevel.value]

theorem alarms_sublist (events : List ℚ) : (policy.alarms events).Sublist [.warning, .critical] := by
  have halarms := policy.alarms_eq events
  split at halarms
  · rw [halarms]
    exact List.nil_sublist _
  · rw [halarms]
    decide
  · rcases halarms with halarms | halarms
    · rw [halarms]
      decide
    · rw [halarms]

/-- Two entries of one cycle. -/
def continuesEntry (a b : ℚ × EscalationLevel) : Bool := policy.continues a.1 b.1

end EscalationPolicy

namespace EscalationTracker

variable (policy : EscalationPolicy)

/-- The last cycle of the answers is the cycle of the timestamps, with what it raised. -/
theorem answers_cycles (timestamps : List ℚ) (hsorted : timestamps.Pairwise (· ≤ ·)) (hne : timestamps ≠ []) :
    ∃ cycles cycle, (answers { policy } timestamps).splitBy policy.continuesEntry = cycles ++ [cycle] ∧
      cycle.map Prod.fst = policy.cycle timestamps ∧
      (cycle.map Prod.snd).filter (· ≠ .none) = policy.alarms (policy.cycle timestamps) ∧
      ∀ other ∈ cycles, ((other.map Prod.snd).filter (· ≠ .none)).Sublist [.warning, .critical] := by
  induction timestamps using List.reverseRecOn with
  | nil => exact absurd rfl hne
  | append_singleton timestamps now ih =>
    have hfront : timestamps.Pairwise (· ≤ ·) := hsorted.sublist (List.sublist_append_left _ _)
    have htracks := Tracks.foldl policy prunes_popleft timestamps hfront
    have hanswer : ((recordAll { policy } timestamps).record now).1 =
        policy.raised (policy.cycle (timestamps ++ [now])) :=
      (htracks.recordPruning prunes_popleft hsorted).1
    rw [answers_concat, hanswer]
    have hstart : ([(now, policy.raised [now])].map Prod.snd).filter (· ≠ .none) = policy.alarms [now] :=
      (policy.alarms_concat [] now).symm
    rcases List.eq_nil_or_concat' timestamps with rfl | ⟨earlier, last, hlast⟩
    · exact ⟨[], [(now, policy.raised [now])], rfl, rfl, hstart, nofun⟩
    have hlastOf : timestamps.getLast? = some last := by simp [hlast]
    obtain ⟨cycles, cycle, hsplit, hfst, hsnd, hcycles⟩ := ih hfront (by simp [hlast])
    have hlastEntry : ∀ entry ∈ (answers { policy } timestamps).getLast?, entry.1 = last := by
      intro entry hentry
      have hmap : ((answers { policy } timestamps).map Prod.fst).getLast? = some entry.1 := by
        rw [List.getLast?_map, Option.mem_def.mp hentry]
        rfl
      rw [answers_map_fst, hlastOf] at hmap
      exact (Option.some.inj hmap).symm
    by_cases hcontinues : policy.continues last now = true
    · have hcycle : policy.cycle (timestamps ++ [now]) = policy.cycle timestamps ++ [now] := by
        refine policy.cycle_concat fun other hother => ?_
        obtain rfl := Option.mem_unique hlastOf hother
        exact hcontinues
      refine ⟨cycles, cycle ++ [(now, policy.raised (policy.cycle timestamps ++ [now]))], ?_, ?_, ?_, hcycles⟩
      · rw [hcycle]
        refine Window.splitBy_concat hsplit fun entry hentry => ?_
        rw [EscalationPolicy.continuesEntry, hlastEntry entry hentry]
        exact hcontinues
      · rw [hcycle, List.map_append, hfst]
        rfl
      · rw [hcycle, policy.alarms_concat, List.map_append, List.filter_append, hsnd]
        rfl
    · have hcycle : policy.cycle (timestamps ++ [now]) = [now] := by
        refine policy.cycle_concat_quiet fun other hother => ?_
        obtain rfl := Option.mem_unique hlastOf hother
        exact Bool.not_eq_true _ ▸ hcontinues
      refine ⟨cycles ++ [cycle], [(now, policy.raised [now])], ?_, ?_, ?_, ?_⟩
      · rw [hcycle, ← hsplit]
        refine List.splitBy_append_cons [] fun entry hentry => ?_
        rw [EscalationPolicy.continuesEntry, hlastEntry entry hentry]
        exact Bool.not_eq_true _ ▸ hcontinues
      · rw [hcycle]
        rfl
      · rw [hcycle]
        exact hstart
      · intro other hother
        rcases List.mem_append.mp hother with hother | hother
        · exact hcycles other hother
        · obtain rfl := List.mem_singleton.mp hother
          rw [hsnd]
          exact policy.alarms_sublist _

variable {policy} in
/-- In a cycle of a sorted list of timestamps, at most a warning and then a critical level are raised. -/
theorem alarms_of_cycle {timestamps : List ℚ} (hsorted : timestamps.Pairwise (· ≤ ·)) :
    ∀ cycle ∈ (answers { policy } timestamps).splitBy policy.continuesEntry,
      ((cycle.map Prod.snd).filter (· ≠ .none)).Sublist [.warning, .critical] := by
  intro cycle hcycle
  by_cases hne : timestamps = []
  · subst hne
    cases hcycle
  obtain ⟨cycles, last, hsplit, -, hsnd, hcycles⟩ := answers_cycles policy timestamps hsorted hne
  rw [hsplit] at hcycle
  rcases List.mem_append.mp hcycle with hcycle | hcycle
  · exact hcycles cycle hcycle
  · obtain rfl := List.mem_singleton.mp hcycle
    rw [hsnd]
    exact policy.alarms_sublist _

end EscalationTracker

end Bridgewire
