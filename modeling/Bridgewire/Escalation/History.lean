import Bridgewire.Escalation
import Bridgewire.Window
import Mathlib.Data.List.Infix
import Mathlib.Tactic.Linarith

/-!
# Escalation over a whole history

What a tracker answers, said of the unpruned list of the events so far: its
current cycle, the windows that end at an event, and the highest level they
reached.
-/

namespace Bridgewire

namespace EscalationPolicy

variable (policy : EscalationPolicy)

/-- Two successive events are in one cycle. -/
def continues (before after : ℚ) : Bool := after - before < policy.resetAfter

/-- The events of the cycle that the last event of the history is in. -/
def cycle (history : List ℚ) : List ℚ := Window.currentRun policy.continues history

/-- What the windows that end at the last of the events say. -/
def windowLevel (events : List ℚ) : EscalationLevel :=
  match events.getLast? with
  | none => .none
  | some now =>
    if policy.criticalCount ≤ events.countP (now - policy.criticalWindow ≤ ·) then .critical
    else if policy.warningCount ≤ events.countP (now - policy.warningWindow ≤ ·) then .warning
    else .none

/-- The highest level that the windows said while the events came in. -/
def reached (events : List ℚ) : EscalationLevel :=
  (events.inits.map policy.windowLevel).foldl .max .none

/-- What is new at the last of the events. -/
def raised (events : List ℚ) : EscalationLevel :=
  if (policy.reached events.dropLast).value < (policy.reached events).value then policy.reached events
  else .none

end EscalationPolicy

namespace EscalationTracker

/-- `record` where the loop over the old events is `prune`. -/
def recordPruning (prune : ℚ → List ℚ → List ℚ) (tracker : EscalationTracker) (timestamp : ℚ) :
    EscalationLevel × EscalationTracker :=
  let policy := tracker.policy
  let quiet := tracker.quietSince timestamp
  let level := if quiet then .none else tracker.level
  let events := (if quiet then [] else tracker.events) ++ [timestamp]
  let relevant := prune (timestamp - policy.criticalWindow) events
  let criticalCount := relevant.countP (timestamp - policy.criticalWindow ≤ ·)
  let warningCount := relevant.countP (timestamp - policy.warningWindow ≤ ·)
  let newLevel :=
    if policy.criticalCount ≤ criticalCount then .critical
    else if policy.warningCount ≤ warningCount then level.max .warning
    else level
  (if level.value < newLevel.value then newLevel else .none,
    { policy, events := relevant, level := newLevel, lastEvent := some timestamp })

/-- `record` that keeps every event of the cycle. -/
def recordUnpruned (tracker : EscalationTracker) (timestamp : ℚ) : EscalationLevel × EscalationTracker :=
  tracker.recordPruning (fun _ events => events) timestamp

def recordAll (tracker : EscalationTracker) (timestamps : List ℚ) : EscalationTracker :=
  timestamps.foldl (fun tracker timestamp => (tracker.record timestamp).2) tracker

def recordAllUnpruned (tracker : EscalationTracker) (timestamps : List ℚ) : EscalationTracker :=
  timestamps.foldl (fun tracker timestamp => (tracker.recordUnpruned timestamp).2) tracker

end EscalationTracker

-- ---------------------------------------------------------------------------
-- Levels
-- ---------------------------------------------------------------------------

namespace EscalationLevel

@[simp] theorem max_none (a : EscalationLevel) : a.max .none = a := by cases a <;> rfl

@[simp] theorem max_critical (a : EscalationLevel) : a.max .critical = .critical := by cases a <;> rfl

end EscalationLevel

namespace EscalationPolicy

variable (policy : EscalationPolicy)

@[simp] theorem reached_nil : policy.reached [] = .none := rfl

theorem reached_concat (events : List ℚ) (now : ℚ) :
    policy.reached (events ++ [now]) = (policy.reached events).max (policy.windowLevel (events ++ [now])) := by
  rw [reached, List.inits_append, List.map_append, List.foldl_append]
  rfl

theorem windowLevel_concat (events : List ℚ) (now : ℚ) :
    policy.windowLevel (events ++ [now]) =
      if policy.criticalCount ≤ (events ++ [now]).countP (now - policy.criticalWindow ≤ ·) then .critical
      else if policy.warningCount ≤ (events ++ [now]).countP (now - policy.warningWindow ≤ ·) then .warning
      else .none := by
  rw [windowLevel, List.getLast?_concat]

theorem cycle_concat {history : List ℚ} {now : ℚ}
    (h : ∀ last ∈ history.getLast?, policy.continues last now = true) :
    policy.cycle (history ++ [now]) = policy.cycle history ++ [now] :=
  Window.currentRun_concat h

theorem cycle_concat_quiet {history : List ℚ} {now : ℚ}
    (h : ∀ last ∈ history.getLast?, policy.continues last now = false) :
    policy.cycle (history ++ [now]) = [now] :=
  Window.currentRun_concat_break h

end EscalationPolicy

-- ---------------------------------------------------------------------------
-- The tracker keeps up with the history
-- ---------------------------------------------------------------------------

namespace EscalationTracker

/-- The events kept are sorted and count as the cycle does, in every window
that an event to come can ask about. -/
structure Tracks (policy : EscalationPolicy) (history : List ℚ) (tracker : EscalationTracker) : Prop where
  policy_eq : tracker.policy = policy
  lastEvent : tracker.lastEvent = history.getLast?
  level : tracker.level = policy.reached (policy.cycle history)
  sublist : tracker.events.Sublist (policy.cycle history)
  counts : ∀ last ∈ history.getLast?, ∀ cut, last - policy.criticalWindow ≤ cut →
    tracker.events.countP (cut ≤ ·) = (policy.cycle history).countP (cut ≤ ·)

/-- A loop over the old events that leaves what the critical window needs. -/
def Prunes (prune : ℚ → List ℚ → List ℚ) : Prop :=
  ∀ oldest events, events.Pairwise (· ≤ ·) → (prune oldest events).Sublist events ∧
    ∀ cut, oldest ≤ cut → (prune oldest events).countP (cut ≤ ·) = events.countP (cut ≤ ·)

theorem prunes_popleft : Prunes fun oldest => List.dropWhile (· < oldest) := by
  intro oldest events hsorted
  refine ⟨List.dropWhile_sublist _, fun cut hcut => ?_⟩
  dsimp only
  rw [Window.dropWhile_eq_filter hsorted, Window.countP_filter hcut]

theorem prunes_nothing : Prunes fun _ events => events :=
  fun _ events _ => ⟨List.Sublist.refl events, fun _ _ => rfl⟩

theorem tracks_initial (policy : EscalationPolicy) : Tracks policy [] { policy } where
  policy_eq := rfl
  lastEvent := rfl
  level := rfl
  sublist := List.Sublist.refl _
  counts := by simp

section
variable {policy : EscalationPolicy} {history : List ℚ} {tracker : EscalationTracker} {now : ℚ}

theorem Tracks.quietSince (h : Tracks policy history tracker) :
    tracker.quietSince now = true ↔
      ∃ last ∈ history.getLast?, policy.continues last now = false := by
  rw [EscalationTracker.quietSince, h.lastEvent, h.policy_eq]
  cases history.getLast? with
  | none => simp
  | some last => simp [EscalationPolicy.continues]

/-- What is left of the level and the events after the check for quiet. -/
theorem Tracks.reset (h : Tracks policy history tracker)
    (hsorted : (history ++ [now]).Pairwise (· ≤ ·)) :
    ∃ events kept : List ℚ, policy.cycle (history ++ [now]) = events ++ [now] ∧
      (if tracker.quietSince now then [] else tracker.events) = kept ∧
      (if tracker.quietSince now then .none else tracker.level) = policy.reached events ∧
      kept.Sublist events ∧
      ∀ cut, now - policy.criticalWindow ≤ cut → kept.countP (cut ≤ ·) = events.countP (cut ≤ ·) := by
  by_cases hquiet : tracker.quietSince now = true
  · obtain ⟨last, hlast, hbreak⟩ := h.quietSince.mp hquiet
    refine ⟨[], [], policy.cycle_concat_quiet ?_, by simp [hquiet], by simp [hquiet],
      List.Sublist.refl _, fun _ _ => rfl⟩
    intro other hother
    obtain rfl := Option.mem_unique hlast hother
    exact hbreak
  · have hcontinues : ∀ last ∈ history.getLast?, policy.continues last now = true := by
      intro last hlast
      by_contra hbreak
      exact hquiet (h.quietSince.mpr ⟨last, hlast, by simpa using hbreak⟩)
    refine ⟨policy.cycle history, tracker.events, policy.cycle_concat hcontinues, by simp [hquiet],
      by simp [hquiet, h.level], h.sublist, fun cut hcut => ?_⟩
    cases hlast : history.getLast? with
    | none =>
      obtain rfl := List.getLast?_eq_none_iff.mp hlast
      have hnil : tracker.events = [] := List.sublist_nil.mp h.sublist
      rw [hnil]
      rfl
    | some last =>
      have hmem : last ∈ history := List.mem_of_getLast? hlast
      have hle : last ≤ now := (List.pairwise_append.mp hsorted).2.2 last hmem now (by simp)
      exact h.counts last hlast cut (by linarith)

/-- One event: the answer, and what the tracker then knows. -/
theorem Tracks.recordPruning {prune : ℚ → List ℚ → List ℚ} (hprune : Prunes prune)
    (h : Tracks policy history tracker) (hsorted : (history ++ [now]).Pairwise (· ≤ ·)) :
    (tracker.recordPruning prune now).1 = policy.raised (policy.cycle (history ++ [now])) ∧
      Tracks policy (history ++ [now]) (tracker.recordPruning prune now).2 := by
  obtain ⟨events, kept, hcycle, hkept, hlevel, hsublist, hcounts⟩ := h.reset hsorted
  have hcycleSorted : (events ++ [now]).Pairwise (· ≤ ·) := by
    rw [← hcycle]
    exact hsorted.sublist Window.currentRun_suffix.sublist
  have hboth : (kept ++ [now]).Sublist (events ++ [now]) := hsublist.append (List.Sublist.refl _)
  obtain ⟨hrelevant, hrelevantCounts⟩ := hprune (now - policy.criticalWindow) (kept ++ [now])
    (hcycleSorted.sublist hboth)
  generalize hprunes : prune (now - policy.criticalWindow) (kept ++ [now]) = relevant
    at hrelevant hrelevantCounts
  -- in every window that ends now, what is left counts as the cycle does
  have hcount : ∀ cut, now - policy.criticalWindow ≤ cut →
      relevant.countP (cut ≤ ·) = (events ++ [now]).countP (cut ≤ ·) := by
    intro cut hcut
    rw [hrelevantCounts cut hcut, List.countP_append, List.countP_append, hcounts cut hcut]
  have hwindow : now - policy.criticalWindow ≤ now - policy.warningWindow := by
    have hwindows := policy.windows
    simp only [not_or, not_lt] at hwindows
    linarith [hwindows.2.1]
  have hnew : (if policy.criticalCount ≤ relevant.countP (now - policy.criticalWindow ≤ ·) then
        EscalationLevel.critical
      else if policy.warningCount ≤ relevant.countP (now - policy.warningWindow ≤ ·) then
        (policy.reached events).max .warning
      else policy.reached events) = policy.reached (events ++ [now]) := by
    rw [hcount _ le_rfl, hcount _ hwindow, policy.reached_concat, policy.windowLevel_concat]
    split
    · rw [EscalationLevel.max_critical]
    split
    · rfl
    · rw [EscalationLevel.max_none]
  have hrun : tracker.recordPruning prune now =
      (policy.raised (events ++ [now]),
        { policy, events := relevant, level := policy.reached (events ++ [now]), lastEvent := some now }) := by
    simp only [EscalationTracker.recordPruning, h.policy_eq, hkept, hlevel, hprunes, hnew,
      EscalationPolicy.raised, List.dropLast_concat]
  rw [hrun, hcycle]
  refine ⟨rfl, rfl, by simp, by rw [hcycle], ?_, ?_⟩
  · rw [hcycle]
    exact hrelevant.trans hboth
  · intro last hlast cut hcut
    obtain rfl : now = last := by simpa using hlast
    rw [hcycle]
    exact hcount cut hcut

theorem Tracks.foldl (policy : EscalationPolicy) {prune : ℚ → List ℚ → List ℚ} (hprune : Prunes prune)
    (history : List ℚ) (hsorted : history.Pairwise (· ≤ ·)) :
    Tracks policy history
      (history.foldl (fun tracker timestamp => (tracker.recordPruning prune timestamp).2) { policy }) := by
  induction history using List.reverseRecOn with
  | nil => exact tracks_initial policy
  | append_singleton history now ih =>
    rw [List.foldl_concat]
    exact ((ih (hsorted.sublist (List.sublist_append_left _ _))).recordPruning hprune hsorted).2

end

/-- Whatever was recorded before, an event is answered, and leaves a level, as the whole
history says; and a tracker that never prunes gives the same. -/
theorem record_full_history (policy : EscalationPolicy) (history : List ℚ) (timestamp : ℚ)
    (h : (history ++ [timestamp]).Pairwise (· ≤ ·)) :
    let tracker := recordAll { policy } history
    let unpruned := recordAllUnpruned { policy } history
    let events := policy.cycle (history ++ [timestamp])
    (tracker.record timestamp).2.level = policy.reached events ∧
      (tracker.record timestamp).1 = policy.raised events ∧
      (unpruned.recordUnpruned timestamp).2.level = (tracker.record timestamp).2.level ∧
      (unpruned.recordUnpruned timestamp).1 = (tracker.record timestamp).1 := by
  have hhistory : history.Pairwise (· ≤ ·) := h.sublist (List.sublist_append_left _ _)
  obtain ⟨hanswer, htracks⟩ :=
    (Tracks.foldl policy prunes_popleft history hhistory).recordPruning prunes_popleft h
  obtain ⟨hanswer', htracks'⟩ :=
    (Tracks.foldl policy prunes_nothing history hhistory).recordPruning prunes_nothing h
  exact ⟨htracks.level, hanswer, htracks'.level.trans htracks.level.symm, hanswer'.trans hanswer.symm⟩

theorem record_full_history_third :
    ([0, 30, 60] : List ℚ).Pairwise (· ≤ ·) ∧
      ((recordAll { policy := {} } [0, 30]).record 60).1 = .warning := by
  have hsorted : ([0, 30, 60] : List ℚ).Pairwise (· ≤ ·) := by decide +kernel
  refine ⟨hsorted, (record_full_history {} [0, 30] 60 hsorted).2.1.trans ?_⟩
  decide +kernel

end EscalationTracker

end Bridgewire
