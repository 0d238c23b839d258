import Mathlib.Data.Rat.Defs
import Mathlib.Algebra.Order.Ring.Rat

/-!
# Escalation

The sliding windows over suspicious events, on a monotonic clock.
-/

namespace Bridgewire

inductive EscalationLevel
  | none
  | warning
  | critical
  deriving DecidableEq, Repr

namespace EscalationLevel

/-- The value of the `IntEnum`. -/
def value : EscalationLevel → Nat
  | .none => 0
  | .warning => 1
  | .critical => 2

def max (a b : EscalationLevel) : EscalationLevel := if a.value < b.value then b else a

end EscalationLevel

/-- A policy that its constructor accepts. -/
structure EscalationPolicy where
  warningCount : Int := 3
  warningWindow : ℚ := 60
  criticalCount : Int := 5
  criticalWindow : ℚ := 300
  resetAfter : ℚ := 900
  thresholds : ¬(warningCount ≤ 0 ∨ criticalCount ≤ warningCount) := by decide
  windows : ¬(warningWindow ≤ 0 ∨ criticalWindow < warningWindow ∨ resetAfter ≤ 0) := by decide

/-- The policy of the constructor's defaults. -/
def EscalationPolicy.standard : EscalationPolicy := {}

structure EscalationTracker where
  policy : EscalationPolicy
  events : List ℚ := []
  level : EscalationLevel := .none
  lastEvent : Option ℚ := none

namespace EscalationTracker

/-- Since the last event nothing happened for `reset_after` seconds. -/
def quietSince (tracker : EscalationTracker) (timestamp : ℚ) : Bool :=
  match tracker.lastEvent with
  | some lastEvent => tracker.policy.resetAfter ≤ timestamp - lastEvent
  | none => false

def record (tracker : EscalationTracker) (timestamp : ℚ) : EscalationLevel × EscalationTracker :=
  let policy := tracker.policy
  let quiet := tracker.quietSince timestamp
  let level := if quiet then .none else tracker.level
  let events := (if quiet then [] else tracker.events) ++ [timestamp]
  let relevant := events.dropWhile (· < timestamp - policy.criticalWindow)
  let criticalCount := relevant.countP (timestamp - policy.criticalWindow ≤ ·)
  let warningCount := relevant.countP (timestamp - policy.warningWindow ≤ ·)
  let newLevel :=
    if policy.criticalCount ≤ criticalCount then .critical
    else if policy.warningCount ≤ warningCount then level.max .warning
    else level
  (if level.value < newLevel.value then newLevel else .none,
    { policy, events := relevant, level := newLevel, lastEvent := some timestamp })

end EscalationTracker

end Bridgewire
