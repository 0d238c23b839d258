import Bridgewire.Runtime.Faults
import Bridgewire.Runtime.Over
import Mathlib.Data.Rat.Floor

/-!
# Waiting

`EventWaiter.wait` goes round until the clock has reached its deadline or the
stop event is set. Nothing in the code bounds the turns: that they end is a
matter of the clock, and of what a wait for the stop event that times out has
let pass.
-/

namespace Bridgewire

open Effect

/-- `threading.Event`: whether it was set when a wait with a timeout ends. -/
structure StopEvent (W : Type) where
  wait (timeout : ℚ) : W → Bool × W

structure EventWaiter (W : Type) where
  clock : Clock W
  stopEvent : StopEvent W
  intervalSeconds : ℚ

namespace EventWaiter

section
variable {S W : Type} (waiter : EventWaiter W) (world : Component S W)

def monotonic : Effect Exn S ℚ := zoom world (reading waiter.clock.monotonic)

def sleep (timeout : ℚ) : Effect Exn S Bool := zoom world (reading (waiter.stopEvent.wait timeout))

variable (onInterval : Effect Exn S Unit)

/-- The loop: what the wait answers; none where so many turns do not suffice. -/
def loop (deadline : ℚ) : Nat → Effect Exn S (Option Bool)
  | 0 => pure none
  | turns + 1 => do
    if (← monotonic waiter world) < deadline then
      onInterval
      let remaining := max 0 (deadline - (← monotonic waiter world))
      if ← sleep waiter world (min waiter.intervalSeconds remaining) then pure (some false)
      else loop deadline turns
    else pure (some true)

def wait (turns : Nat) (seconds : ℚ) : Effect Exn S (Option Bool) := do
  let start ← monotonic waiter world
  loop waiter world onInterval (start + seconds) turns

-- ---------------------------------------------------------------------------
-- Time
-- ---------------------------------------------------------------------------

/-- In this time the clock is right, a wait for the stop event that times out
has taken its timeout, and `on_interval` does not go back. -/
structure Timed (time : W → ℚ) : Prop where
  reads : ∀ w, time w ≤ (waiter.clock.monotonic w).1 ∧
    (waiter.clock.monotonic w).1 ≤ time (waiter.clock.monotonic w).2
  timesOut : ∀ timeout w, (waiter.stopEvent.wait timeout w).1 = false →
    time w + timeout ≤ time (waiter.stopEvent.wait timeout w).2
  passes : Within (fun s s' => time (world.get s) ≤ time (world.get s')) onInterval

/-- How a loop with this deadline can end. -/
inductive Ended (time : W → ℚ) (deadline : ℚ) : Except Exn (Option Bool) → S → Prop
  | elapsed {s' : S} : deadline ≤ time (world.get s') → Ended time deadline (.ok (some true)) s'
  | stopped {s' : S} {timeout : ℚ} (before : S) : timeout ≤ waiter.intervalSeconds →
      waiter.stopEvent.wait timeout (world.get before) = (true, world.get s') → Ended time deadline (.ok (some false)) s'
  | raised {e : Exn} {s' : S} (before : S) : onInterval.run before = (.error e, s') → Ended time deadline (.error e) s'

variable {waiter world onInterval} {time : W → ℚ}

theorem monotonic_ends (h : Timed waiter world onInterval time) (s : S) :
    ∃ now s', (monotonic waiter world).run s = (.ok now, s') ∧ time (world.get s) ≤ now ∧ now ≤ time (world.get s') := by
  refine ⟨_, _, rfl, (h.reads (world.get s)).1, ?_⟩
  rw [world.get_set]
  exact (h.reads (world.get s)).2

theorem sleep_ends (timeout : ℚ) (s : S) :
    ∃ isSet s', (sleep waiter world timeout).run s = (.ok isSet, s') ∧
      waiter.stopEvent.wait timeout (world.get s) = (isSet, world.get s') := by
  refine ⟨_, _, rfl, ?_⟩
  rw [world.get_set]
  rfl

/-- A turn that does not end the wait lasts an interval or reaches the deadline. -/
theorem turn_ends (h : Timed waiter world onInterval time) (deadline : ℚ) (s : S) :
    (∃ answer s', (∀ turns, (loop waiter world onInterval deadline (turns + 1)).run s = (answer, s')) ∧
        Ended waiter world onInterval time deadline answer s') ∨
      time (world.get s) < deadline ∧
        ∃ s', (∀ turns, (loop waiter world onInterval deadline (turns + 1)).run s =
            (loop waiter world onInterval deadline turns).run s') ∧
          min deadline (time (world.get s) + waiter.intervalSeconds) ≤ time (world.get s') := by
  obtain ⟨now, s₁, hread, hnow, hnow₁⟩ := monotonic_ends h s
  by_cases hlt : now < deadline
  swap
  · refine .inl ⟨.ok (some true), s₁, fun turns => ?_, .elapsed ((not_lt.mp hlt).trans hnow₁)⟩
    rw [loop, run_bind, hread]
    dsimp only
    rw [if_neg hlt]
    rfl
  have hpasses := h.passes s₁
  cases hcalled : onInterval.run s₁ with
  | mk answer s₂ =>
    rw [hcalled] at hpasses
    cases answer with
    | error e =>
      refine .inl ⟨.error e, s₂, fun turns => ?_, .raised s₁ hcalled⟩
      rw [loop, run_bind, hread]
      dsimp only
      rw [if_pos hlt, run_bind, hcalled]
    | ok =>
      obtain ⟨now₂, s₃, hread₂, hnow₂, hnow₃⟩ := monotonic_ends h s₂
      obtain ⟨isSet, s₄, hslept, hset⟩ :=
        @sleep_ends _ _ waiter world (min waiter.intervalSeconds (max 0 (deadline - now₂))) s₃
      have hturn : ∀ turns, (loop waiter world onInterval deadline (turns + 1)).run s =
          (if isSet then pure (some false) else loop waiter world onInterval deadline turns :
            Effect Exn S (Option Bool)).run s₄ := by
        intro turns
        rw [loop, run_bind, hread]
        dsimp only
        rw [if_pos hlt, run_bind, hcalled]
        dsimp only
        rw [run_bind, hread₂]
        dsimp only
        rw [run_bind, hslept]
      cases isSet with
      | true => exact .inl ⟨.ok (some false), s₄, fun turns => hturn turns, .stopped s₃ (min_le_left _ _) hset⟩
      | false =>
        refine .inr ⟨hnow.trans_lt hlt, s₄, fun turns => hturn turns, ?_⟩
        have hslept := h.timesOut (min waiter.intervalSeconds (max 0 (deadline - now₂))) (world.get s₃)
          (by rw [hset])
        rw [hset] at hslept
        rcases min_cases waiter.intervalSeconds (max 0 (deadline - now₂)) with ⟨heq, -⟩ | ⟨heq, -⟩
        · refine (min_le_right _ _).trans ?_
          rw [heq] at hslept
          linarith
        · refine (min_le_left _ _).trans ?_
          rw [heq] at hslept
          linarith [le_max_right 0 (deadline - now₂)]

/-- So many intervals before the deadline, so many turns and one more suffice. -/
theorem loop_ends (h : Timed waiter world onInterval time) (hpositive : 0 < waiter.intervalSeconds) (deadline : ℚ)
    (intervals : Nat) (s : S) (hs : deadline ≤ time (world.get s) + intervals * waiter.intervalSeconds) :
    ∃ answer s', (∀ turns, intervals < turns →
        (loop waiter world onInterval deadline turns).run s = (answer, s')) ∧
      Ended waiter world onInterval time deadline answer s' := by
  induction intervals generalizing s with
  | zero =>
    rcases turn_ends h deadline s with ⟨answer, s', hrun, hended⟩ | ⟨hlt, -⟩
    · refine ⟨answer, s', fun turns hturns => ?_, hended⟩
      obtain ⟨turns, rfl⟩ := Nat.exists_eq_succ_of_ne_zero (Nat.ne_of_gt hturns)
      exact hrun turns
    · exact absurd hs (not_le.mpr (by simpa using hlt))
  | succ intervals ih =>
    rcases turn_ends h deadline s with ⟨answer, s', hrun, hended⟩ | ⟨-, s₁, hrun, hprogress⟩
    · refine ⟨answer, s', fun turns hturns => ?_, hended⟩
      obtain ⟨turns, rfl⟩ := Nat.exists_eq_succ_of_ne_zero (Nat.ne_of_gt (Nat.zero_lt_of_lt hturns))
      exact hrun turns
    · have hnext : deadline ≤ time (world.get s₁) + intervals * waiter.intervalSeconds := by
        push_cast at hs
        rcases min_le_iff.mp hprogress with hreached | hlasted
        · exact hreached.trans (le_add_of_nonneg_right (by positivity))
        · linarith
      obtain ⟨answer, s', hloop, hended⟩ := ih s₁ hnext
      refine ⟨answer, s', fun turns hturns => ?_, hended⟩
      obtain ⟨turns, rfl⟩ := Nat.exists_eq_succ_of_ne_zero (Nat.ne_of_gt (Nat.zero_lt_of_lt hturns))
      exact (hrun turns).trans (hloop turns (by omega))

theorem wait_ends (h : Timed waiter world onInterval time) (hpositive : 0 < waiter.intervalSeconds) (seconds : ℚ)
    (s : S) :
    ∃ start answer s', time (world.get s) ≤ start ∧
      (∀ turns, ⌈seconds / waiter.intervalSeconds⌉₊ < turns →
        (wait waiter world onInterval turns seconds).run s = (answer, s')) ∧
      Ended waiter world onInterval time (start + seconds) answer s' := by
  obtain ⟨start, s₁, hread, hstart, hstart₁⟩ := monotonic_ends h s
  have hs₁ : start + seconds ≤ time (world.get s₁) + (⌈seconds / waiter.intervalSeconds⌉₊ : ℚ) * waiter.intervalSeconds := by
    have hceil : seconds ≤ (⌈seconds / waiter.intervalSeconds⌉₊ : ℚ) * waiter.intervalSeconds :=
      (div_le_iff₀ hpositive).mp (Nat.le_ceil _)
    linarith
  obtain ⟨answer, s', hloop, hended⟩ := loop_ends h hpositive (start + seconds) _ s₁ hs₁
  refine ⟨start, answer, s', hstart, fun turns hturns => ?_, hended⟩
  rw [wait, run_bind, hread]
  exact hloop turns hturns

end

end EventWaiter

-- ---------------------------------------------------------------------------
-- The waits of a runtime
-- ---------------------------------------------------------------------------

namespace BridgewireRuntime

variable {W : Type}

/-- Time does not go back. -/
def NoSooner (time : W → ℚ) (w w' : W) : Prop := time w ≤ time w'

instance (time : W → ℚ) : IsPreorder W (NoSooner time) where
  refl w := le_refl (time w)
  trans _ _ _ := le_trans

def Later (time : W → ℚ) (s s' : BridgewireRuntime W) : Prop := NoSooner time s.system.world s'.system.world

instance (time : W → ℚ) : IsPreorder (BridgewireRuntime W) (Later time) where
  refl s := refl_of (NoSooner time) s.system.world
  trans _ _ _ := trans_of (NoSooner time)

/-- `cooperative_wait` with the waiter that the constructor makes. -/
def eventWait (c : Wiring W) (waiter : EventWaiter W) (turns : Nat) (seconds : ℚ) : Program W (Option Bool) :=
  waiter.wait (worldPart W) (tickAndPublish c) turns seconds

/-- A wiring with a waiter, in a time that they do not turn back. -/
structure Wiring.IsTimed (c : Wiring W) (waiter : EventWaiter W) (time : W → ℚ) : Prop where
  ports : c.Keeps (NoSooner time)
  low : Within (NoSooner time) (c.access.relay.command false)
  reads : ∀ w, time w ≤ (waiter.clock.monotonic w).1 ∧
    (waiter.clock.monotonic w).1 ≤ time (waiter.clock.monotonic w).2
  timesOut : ∀ timeout w, (waiter.stopEvent.wait timeout w).1 = false →
    time w + timeout ≤ time (waiter.stopEvent.wait timeout w).2

theorem Wiring.IsTimed.timed {c : Wiring W} {waiter : EventWaiter W} {time : W → ℚ} (h : c.IsTimed waiter time) :
    EventWaiter.Timed waiter (worldPart W) (tickAndPublish c) time where
  reads := h.reads
  timesOut := h.timesOut
  passes := by
    have hcall : Within (AccessController.OnWorld (NoSooner time)) (AccessController.call c.access .tick) :=
      AccessController.call_within h.ports.access .tick h.low (by rintro ⟨-, ⟨⟩⟩) (fun htick => by cases htick)
        fun htick => by cases htick
    have htick : Within (Later time) (BridgewireRuntime.access c .tick) := (Within.zoom hcall fun _ _ hlater => hlater).map _
    exact tickAndPublish_within htick ⟨fun _ _ hlater => hlater, fun s _ => refl_of (Later time) s⟩ h.ports

/-- **Every wait ends.** Once its turns suffice for the intervals in it, a wait
answers, and the same with more: true no sooner than the time it was asked to
wait, false as soon as the stop event is found set, and otherwise it raises
what a tick or a publication raised. -/
theorem cooperative_wait_ends (c : Wiring W) (waiter : EventWaiter W) {time : W → ℚ} (h : c.IsTimed waiter time)
    (hpositive : 0 < waiter.intervalSeconds) (seconds : ℚ) (s : BridgewireRuntime W) :
    ∃ start answer s', time s.system.world ≤ start ∧
      (∀ turns, ⌈seconds / waiter.intervalSeconds⌉₊ < turns →
        (eventWait c waiter turns seconds).run s = (answer, s')) ∧
      EventWaiter.Ended waiter (worldPart W) (tickAndPublish c) time (start + seconds) answer s' :=
  EventWaiter.wait_ends h.timed hpositive seconds s

/-- A world that is a clock: what times out takes its time, and nothing else does. -/
def ticking : EventWaiter ℚ where
  clock := ⟨fun time => (time, time), fun time => (⟨0, some 0⟩, time)⟩
  stopEvent := ⟨fun timeout time => (false, time + timeout)⟩
  intervalSeconds := 1 / 20

def presentBeside : Wiring ℚ :=
  present.over ⟨fun _ => (), fun _ time => time, fun _ _ => rfl, fun _ => rfl, fun _ _ _ => rfl⟩

theorem ticking_timed : presentBeside.IsTimed ticking id where
  ports := by
    refine (present.over_keeps _).mono ?_
    rintro before after ⟨_, hsame⟩
    exact le_of_eq hsame.symm
  low := by
    refine (zoom_beside _ _).mono ?_
    rintro before after ⟨_, hsame⟩
    exact le_of_eq hsame.symm
  reads time := ⟨le_refl time, le_refl time⟩
  timesOut timeout time _ := le_refl (time + timeout)

def waitingRuntime : BridgewireRuntime ℚ := fresh presentBeside { policy := .standard } 0

theorem cooperative_wait_ends_ticking :
    ∃ s', ∀ turns, ⌈(1 : ℚ) / ticking.intervalSeconds⌉₊ < turns →
      (eventWait presentBeside ticking turns 1).run waitingRuntime = (.ok (some true), s') := by
  obtain ⟨start, answer, s', -, hrun, -⟩ :=
    cooperative_wait_ends presentBeside ticking ticking_timed (by norm_num [ticking]) 1 waitingRuntime
  have hanswer : ((eventWait presentBeside ticking 30 1).run waitingRuntime).1 = .ok (some true) := by decide +kernel
  have hturns : ⌈(1 : ℚ) / ticking.intervalSeconds⌉₊ < 30 := by
    have hceil : ⌈(1 : ℚ) / ticking.intervalSeconds⌉₊ ≤ 20 := Nat.ceil_le.mpr (by norm_num [ticking])
    omega
  rw [hrun 30 hturns] at hanswer
  subst hanswer
  exact ⟨s', hrun⟩

end BridgewireRuntime

end Bridgewire
