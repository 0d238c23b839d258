import Bridgewire.Audit
import Bridgewire.Effect

/-!
# The interfaces

What a collaborator is to the code: calls that change a world `W` which the
code does not see and that may raise. The world is arbitrary, so a theorem
about all worlds is about every pattern of answers and exceptions.
-/

namespace Bridgewire

inductive AuthorizationOutcome
  | authorized
  | denied
  | unknown
  deriving DecidableEq, Repr

/-- A call to a collaborator. -/
abbrev Port (W α : Type) : Type := Effect Exn W α

structure Clock (W : Type) where
  monotonic : W → ℚ × W
  now : W → DateTime × W

structure Relay (W : Type) where
  setup (numbering : String) (channel : Int) : Port W Unit
  command (high : Bool) : Port W Unit
  cleanup : Port W Unit

structure AuditSink (W : Type) where
  append (event : AuditEvent) : Port W Unit

structure NotificationQueue (W : Type) where
  enqueue (event : AuditEvent) : Port W Unit

/-- A value in the details of a health report. -/
inductive HealthValue
  | text (value : String)
  /-- `{"enabled": enabled, "state": state}`. -/
  | api (enabled : Bool) (state : String)
  deriving DecidableEq, Repr

structure HealthReport where
  status : String
  details : List (String × HealthValue)
  deriving DecidableEq, Repr

structure HealthReporter (W : Type) where
  report (report : HealthReport) : Port W Unit

/-- How a wait goes: how often it calls `on_interval`, and how it ends. -/
structure Wait where
  intervals : Nat
  outcome : Except Exn Bool

/-- A waiter waits as long as the clock and the stop event make it. -/
structure Waiter (W : Type) where
  wait (seconds : ℚ) : W → Wait × W

structure AuthorizationSource (W : Type) where
  classify (credential : String) : Port W AuthorizationOutcome

end Bridgewire
