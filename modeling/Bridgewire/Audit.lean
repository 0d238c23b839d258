import Bridgewire.Python
import Mathlib.Data.List.Infix
import Mathlib.Data.Rat.Defs

/-!
# Audit events

An `AuditEvent` is its fields and the fact that the constructor's own check
accepts them, so an event with a naive timestamp or a correlation that is
not allow-listed cannot be built.
-/

namespace Bridgewire

inductive Severity
  | debug
  | info
  | warning
  | critical
  | error
  deriving DecidableEq, Repr

inductive EventType
  | serviceStarted
  | serviceShutdown
  | configurationError
  | credentialAuthorized
  | credentialDenied
  | credentialUnknown
  | malformedRecord
  | escalationWarning
  | escalationCritical
  | relayAsserted
  | relayRestored
  | relayControlError
  | authorizationReloaded
  | authorizationReloadFailed
  | notificationDeliveryFailed
  | notificationBacklogRecovered
  | readerConnecting
  | readerConnected
  | readerNotFound
  | readerIdentityAmbiguous
  | readerOpenFailed
  | readerReadFailed
  | readerDisconnected
  | readerRecovered
  | readerRecordReceived
  | readerRecordMalformed
  | reconnectScheduled
  | reconnectRepeatedlyFailed
  deriving DecidableEq, Repr

/-- `str | int | float | bool | None`. -/
inductive CorrelationValue
  | text (value : String)
  | integer (value : Int)
  | real (value : ℚ)
  | boolean (value : Bool)
  | none
  deriving DecidableEq, Repr

/-- A mapping in insertion order. -/
abbrev Correlation := List (String × CorrelationValue)

def Correlation.get (correlation : Correlation) (key : String) : CorrelationValue :=
  (correlation.lookup key).getD .none

def forbiddenKeys : List String :=
  ["credential", "card", "name", "secret", "token", "webhook", "password"]

def allowedCorrelationKeys : List String := ["reason", "duration_seconds", "attempt", "event_count"]

def allowedReasons : List String :=
  ["invalid_length", "invalid_framing", "invalid_terminator", "invalid_encoding",
    "invalid_identifier", "invalid_checksum_encoding", "checksum_mismatch", "excessive_length",
    "malformed_record", "queue_unavailable", "setup_failed", "high_failed", "low_failed",
    "cleanup_failed"]

/-- `str.lower`, as far as it can give an ASCII letter: the Kelvin sign and
the dotted capital I are the two characters outside ASCII that do. -/
def lower (text : String) : List Char :=
  text.toList.flatMap fun c =>
    if c = '\u212a' then ['k'] else if c = '\u0130' then ['i', '\u0307'] else [c.toLower]

structure AuditFields where
  eventType : EventType
  severity : Severity
  timestamp : DateTime
  correlation : Correlation
  readerState : Option String
  controllerState : Option String
  deliveryStatus : Option String
  eventId : String
  deriving DecidableEq

namespace AuditFields

def checkKeys : List String → Except Exn Unit
  | [] => .ok ()
  | key :: keys =>
    if forbiddenKeys.any fun forbidden => forbidden.toList <:+: lower key then
      .error (.valueError ("sensitive correlation key is prohibited: " ++ key))
    else if key ∉ allowedCorrelationKeys then
      .error (.valueError ("correlation key is not allow-listed: " ++ key))
    else checkKeys keys

def checkReason : CorrelationValue → Except Exn Unit
  | .none => .ok ()
  | .text reason =>
    if reason ∈ allowedReasons then .ok ()
    else .error (.valueError "correlation reason is not allow-listed")
  | _ => .error (.valueError "correlation reason is not allow-listed")

/-- `AuditEvent.__post_init__`. -/
def postInit (fields : AuditFields) : Except Exn Unit :=
  if fields.timestamp.isAware = false then
    .error (.valueError "audit timestamps must be timezone-aware")
  else
    match checkKeys (fields.correlation.map Prod.fst) with
    | .error e => .error e
    | .ok () => checkReason (Correlation.get fields.correlation "reason")

end AuditFields

structure AuditEvent extends AuditFields where
  accepted : toAuditFields.postInit = .ok ()

def AuditFields.construct (fields : AuditFields) : Except Exn AuditEvent :=
  match h : fields.postInit with
  | .ok () => .ok ⟨fields, h⟩
  | .error e => .error e

theorem AuditFields.construct_accepted {fields : AuditFields} (h : fields.postInit = .ok ()) :
    fields.construct = .ok ⟨fields, h⟩ := by
  unfold construct
  split
  · rfl
  · rename_i e herror
    rw [h] at herror
    cases herror

theorem AuditFields.construct_rejected {fields : AuditFields} {e : Exn} (h : fields.postInit = .error e) :
    fields.construct = .error e := by
  unfold construct
  split
  · rename_i hok
    rw [h] at hok
    cases hok
  · rename_i e' herror
    rw [h] at herror
    cases herror
    rfl

theorem AuditFields.construct_ok {fields : AuditFields} {event : AuditEvent}
    (h : fields.construct = .ok event) : event.toAuditFields = fields := by
  unfold construct at h
  split at h
  · cases h
    rfl
  · cases h

end Bridgewire
