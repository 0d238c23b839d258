import Bridgewire.Encodings
import Bridgewire.Isoformat.RoundTrip
import Bridgewire.Persistence.Event

/-!
# Rows of events

`SQLiteAuditSink.append` writes a row that `SQLiteAuditReader._event` reads. A
text is stored as it is or, if it has no UTF-8, not at all.
-/

namespace Bridgewire

-- ---------------------------------------------------------------------------
-- SQLite
-- ---------------------------------------------------------------------------

inductive BindError
  /-- `sqlite3.Error` -/
  | sqlite
  | other (e : Exn)
  deriving DecidableEq

namespace Sqlite

def maxInt : Nat := 2147483647

/-- `SQLITE_MAX_LENGTH` -/
def maxLength : Nat := 1000000000

def bindText (text : Text) : Except BindError Unit :=
  match Encodings.encodeUtf8 text with
  | none => .error (.other (.valueError "surrogates not allowed"))
  | some bytes =>
    if maxInt < bytes.length then .error (.other (.overflowError "string longer than INT_MAX bytes"))
    else if maxLength < bytes.length then .error .sqlite
    else .ok ()

def bindInt (n : Int) : Except BindError Unit :=
  if -(2 ^ 63) ≤ n ∧ n < 2 ^ 63 then .ok ()
  else .error (.other (.overflowError "Python int too large to convert to SQLite INTEGER"))

def bindOptional : Option Text → Except BindError Unit
  | some text => bindText text
  | none => .ok ()

end Sqlite

-- ---------------------------------------------------------------------------
-- Rows
-- ---------------------------------------------------------------------------

structure EventRow where
  eventId : Text
  timestamp : Text
  eventType : Text
  severity : Text
  correlation : Text
  readerState : Option Text
  controllerState : Option Text
  deliveryStatus : Option Text
  deriving DecidableEq

namespace EventRow

def texts (row : EventRow) : List (Option Text) :=
  [some row.eventId, some row.timestamp, some row.eventType, some row.severity, some row.correlation, row.readerState,
    row.controllerState, row.deliveryStatus]

/-- Every value of the row can be bound. -/
def isBindable (row : EventRow) : Bool := row.texts.all fun text => Sqlite.bindOptional text = .ok ()

end EventRow

namespace EventType

def all : List EventType :=
  [.serviceStarted, .serviceShutdown, .configurationError, .credentialAuthorized, .credentialDenied, .credentialUnknown,
    .malformedRecord, .escalationWarning, .escalationCritical, .relayAsserted, .relayRestored, .relayControlError,
    .authorizationReloaded, .authorizationReloadFailed, .notificationDeliveryFailed, .notificationBacklogRecovered,
    .readerConnecting, .readerConnected, .readerNotFound, .readerIdentityAmbiguous, .readerOpenFailed, .readerReadFailed,
    .readerDisconnected, .readerRecovered, .readerRecordReceived, .readerRecordMalformed, .reconnectScheduled,
    .reconnectRepeatedlyFailed]

/-- `EventType(text)` -/
def ofValue (text : Text) : Option EventType := all.find? fun eventType => Text.of eventType.value = text

end EventType

namespace Severity

def all : List Severity := [.debug, .info, .warning, .critical, .error]

/-- `Severity(text)` -/
def ofValue (text : Text) : Option Severity := all.find? fun severity => Text.of severity.value = text

end Severity

/-- What `_event` raises. -/
inductive EventError
  | valueError
  | typeError
  | attributeError
  deriving DecidableEq

/-- What `MappingProxyType` takes for a mapping: a dictionary, or a string, whose
keys are its characters. -/
inductive Mapping (F : Type)
  | dict (entries : List (Text × Json F))
  | chars (text : Text)

namespace Mapping

variable {F : Type}

def ofJson : Json F → Option (Mapping F)
  | .obj entries => some (.dict entries)
  | .str text => some (.chars text)
  | _ => none

def keys : Mapping F → List Text
  | .dict entries => entries.map Prod.fst
  | .chars text => text.map fun c => [c]

end Mapping

/-- An event as it is read: its correlation is whatever JSON the constructor accepts. -/
structure ReadEvent (F : Type) where
  eventType : EventType
  severity : Severity
  timestamp : DateTime
  correlation : List (Text × Json F)
  readerState : Option Text
  controllerState : Option Text
  deliveryStatus : Option Text
  eventId : Text
  aware : timestamp.isAware = true

namespace ReadEvent

variable {F : Type}

/-- The check of the reason; one that has no hash cannot be looked up. -/
def checkReason : Option (Json F) → Except EventError Unit
  | some (.str reason) => if (allowedReasons.map Text.of).contains reason then .ok () else .error .valueError
  | some .null | none => .ok ()
  | some (.arr _) | some (.obj _) => .error .typeError
  | some _ => .error .valueError

/-- `__post_init__` of a correlation, and the entries of one that it accepts. -/
def postInit (mapping : Mapping F) : Except EventError (List (Text × Json F)) :=
  if mapping.keys.all (allowedCorrelationKeys.map Text.of).contains then
    match mapping with
    | .dict entries =>
      match checkReason (entries.lookup (Text.of "reason")) with
      | .ok () => .ok entries
      | .error e => .error e
    -- `get` is no attribute of a string.
    | .chars _ => .error .attributeError
  else .error .valueError

/-- Equality in Python with an event that has been stored. -/
structure Equals (read : ReadEvent F) (event : StoredEvent F) : Prop where
  eventType : read.eventType = event.eventType
  severity : read.severity = event.severity
  timestamp : read.timestamp = event.timestamp
  correlation : Json.Same (.obj read.correlation) (StoredEvent.correlationJson event.correlation)
  readerState : read.readerState = event.readerState
  controllerState : read.controllerState = event.controllerState
  deliveryStatus : read.deliveryStatus = event.deliveryStatus
  eventId : read.eventId = event.eventId

end ReadEvent

section
variable {F : Type} (rendering : Rendering F)

namespace SQLiteAuditSink

/-- The row; none where `json.dumps` or the statement raises. -/
def append (event : StoredEvent F) : Option EventRow :=
  (Json.dumps rendering.toFloats (StoredEvent.correlationJson event.correlation)).bind fun correlation =>
    let row : EventRow :=
      { eventId := event.eventId
        timestamp := Text.ofChars event.timestamp.isoformat
        eventType := Text.of event.eventType.value
        severity := Text.of event.severity.value
        correlation := Text.ofChars correlation
        readerState := event.readerState
        controllerState := event.controllerState
        deliveryStatus := event.deliveryStatus }
    if row.isBindable then some row else none

end SQLiteAuditSink

namespace SQLiteAuditReader

/-- `_event` -/
def event (row : EventRow) : Except EventError (ReadEvent F) :=
  match DateTime.fromisoformat row.timestamp, EventType.ofValue row.eventType, Severity.ofValue row.severity,
    Json.loads rendering.toFloats row.correlation with
  | some timestamp, some eventType, some severity, some value =>
    match Mapping.ofJson value with
    | none => .error .typeError
    | some mapping =>
      if haware : timestamp.isAware = true then
        match ReadEvent.postInit mapping with
        | .error e => .error e
        | .ok correlation =>
          .ok
            { eventType, severity, timestamp, correlation
              readerState := row.readerState
              controllerState := row.controllerState
              deliveryStatus := row.deliveryStatus
              eventId := row.eventId
              aware := haware }
      else .error .valueError
  | _, _, _, _ => .error .valueError

end SQLiteAuditReader

end

-- ---------------------------------------------------------------------------
-- Enumerations
-- ---------------------------------------------------------------------------

theorem Text.of_inj {a b : String} (h : Text.of a = Text.of b) : a = b :=
  String.toList_inj.mp (List.map_injective_iff.mpr (fun _ _ => CodePoint.char.inj) h)

/-- A value names its member when no other has it. -/
theorem find_value {α : Type} {all : List α} {value : α → String} (hnodup : (all.map value).Nodup) {member : α}
    (h : member ∈ all) :
    (all.find? fun other => Text.of (value other) = Text.of (value member)) = some member := by
  cases hfind : all.find? fun other => Text.of (value other) = Text.of (value member) with
  | none =>
    have hnone := List.find?_eq_none.mp hfind member h
    exact absurd (decide_eq_true rfl) hnone
  | some found =>
    have hvalue : Text.of (value found) = Text.of (value member) := by simpa using List.find?_some hfind
    exact congrArg some (List.inj_on_of_nodup_map hnodup (List.mem_of_find?_eq_some hfind) h (Text.of_inj hvalue))

theorem EventType.values_nodup : (EventType.all.map EventType.value).Nodup := by decide +kernel

theorem EventType.mem_all (eventType : EventType) : eventType ∈ EventType.all := by cases eventType <;> decide

theorem EventType.ofValue_value (eventType : EventType) :
    EventType.ofValue (Text.of eventType.value) = some eventType :=
  find_value EventType.values_nodup eventType.mem_all

theorem Severity.values_nodup : (Severity.all.map Severity.value).Nodup := by decide +kernel

theorem Severity.mem_all (severity : Severity) : severity ∈ Severity.all := by cases severity <;> decide

theorem Severity.ofValue_value (severity : Severity) : Severity.ofValue (Text.of severity.value) = some severity :=
  find_value Severity.values_nodup severity.mem_all

-- ---------------------------------------------------------------------------
-- Round trip
-- ---------------------------------------------------------------------------

section
variable {F : Type} {rendering : Rendering F}

theorem toJson_allowed {value : Scalar F} (h : EventFields.isAllowedReason (some value) = true) :
    ReadEvent.checkReason (some value.toJson.canonical) = .ok () := by
  cases value with
  | none => rfl
  | text reason =>
    obtain ⟨allowed, -, hreason⟩ := List.mem_map.mp (of_decide_eq_true h)
    have hjoined : reason.joined = reason := by
      rw [← hreason]
      exact Text.joined_of_hasPair (Text.hasPair_ofChars _)
    show ReadEvent.checkReason (some (.str reason.joined)) = .ok ()
    rw [hjoined]
    exact if_pos (List.contains_iff_mem.mpr (of_decide_eq_true h))
  | integer | real | boolean => cases h

theorem mem_of_lookup {α : Type} {entries : List (Text × α)} {key : Text} {value : α}
    (h : entries.lookup key = some value) : (key, value) ∈ entries := by
  obtain ⟨before, after, rfl, -⟩ := List.lookup_eq_some_iff.mp h
  exact List.mem_append_right _ List.mem_cons_self

/-- What the constructor has accepted it accepts again. -/
theorem postInit_canonical (event : StoredEvent F) :
    ∃ entries, (StoredEvent.correlationJson event.correlation).canonical = .obj entries ∧
      ReadEvent.postInit (.dict entries) = .ok entries := by
  have hkeyed := event.correlation_keyed
  obtain ⟨haccepted, hreason⟩ := Bool.and_eq_true_iff.mp event.accepted
  have hallowed := (Bool.and_eq_true_iff.mp haccepted).2
  obtain ⟨entries, hcanonical, hperm⟩ := hkeyed.canonical_keys
  have hkeys {key : Text} : key ∈ entries.map Prod.fst ↔ key ∈ event.correlation.map Prod.fst := by
    rw [hperm.mem_iff, List.map_map]
    rfl
  have hall : (Mapping.dict entries).keys.all (allowedCorrelationKeys.map Text.of).contains = true :=
    List.all_eq_true.mpr fun key hkey =>
      List.contains_iff_mem.mpr (of_decide_eq_true (List.all_eq_true.mp hallowed key (hkeys.mp hkey)))
  have hcheck : ReadEvent.checkReason (entries.lookup (Text.of "reason")) = .ok () := by
    cases hlookup : event.correlation.lookup (Text.of "reason") with
    | none =>
      have hmissing : entries.lookup (Text.of "reason") = none := by
        refine List.lookup_eq_none_iff.mpr fun entry hentry => bne_iff_ne.mpr fun hkey => ?_
        have hmem := hkeys.mp (List.mem_map_of_mem hentry)
        obtain ⟨before, hbefore, hfirst⟩ := List.mem_map.mp hmem
        exact bne_iff_ne.mp (List.lookup_eq_none_iff.mp hlookup before hbefore) (hkey.trans hfirst.symm)
      rw [hmissing]
      rfl
    | some value =>
      have hmem : (Text.of "reason", value.toJson) ∈ event.correlation.map fun entry => (entry.1, entry.2.toJson) :=
        List.mem_map.mpr ⟨(Text.of "reason", value), mem_of_lookup hlookup, rfl⟩
      obtain ⟨entries', hcanonical', hlookup'⟩ := hkeyed.lookup_canonical hmem
      obtain rfl := Json.obj.inj (hcanonical.symm.trans hcanonical')
      rw [hlookup']
      rw [hlookup] at hreason
      exact toJson_allowed hreason
  refine ⟨entries, hcanonical, ?_⟩
  simp only [ReadEvent.postInit, if_pos hall, hcheck]

/-- No value of the correlation has two surrogates side by side that encode one character. -/
def StoredEvent.CorrelationIsSingle (event : StoredEvent F) : Prop :=
  ∀ text ∈ StoredEvent.correlationTexts event.correlation, text.hasPair = false

theorem same_canonical {event : StoredEvent F} (h : event.CorrelationIsSingle) {entries : List (Text × Json F)}
    (hcanonical : (StoredEvent.correlationJson event.correlation).canonical = .obj entries) :
    Json.Same (.obj entries) (StoredEvent.correlationJson event.correlation) := by
  have hkeyed : (StoredEvent.correlationJson event.correlation).isWellKeyed = true :=
    Json.obj_wellKeyed.mpr event.correlation_keyed
  have hjoined : (StoredEvent.correlationJson event.correlation).joined =
      StoredEvent.correlationJson event.correlation := by
    refine StoredEvent.correlationJson_joined (fun entry hentry => ?_) fun text htext => ?_
    · exact StoredEvent.key_single event.accepted (List.mem_map_of_mem hentry)
    · exact Text.joined_of_hasPair (h text htext)
  calc (Json.obj entries).sortKeys
      = (StoredEvent.correlationJson event.correlation).canonical := by
        rw [← hcanonical, Json.sortKeys_canonical hkeyed]
    _ = (StoredEvent.correlationJson event.correlation).joined.sortKeys := by
        rw [Json.canonical, Json.sortKeys_joined hkeyed]
    _ = (StoredEvent.correlationJson event.correlation).sortKeys := by rw [hjoined]

/-- What the row of an event is read as: the event itself, unless a value of its
correlation has a pair. -/
structure ReadEvent.ReadFrom (read : ReadEvent F) (event : StoredEvent F) : Prop where
  eventType : read.eventType = event.eventType
  severity : read.severity = event.severity
  timestamp : read.timestamp = event.timestamp
  correlation : (StoredEvent.correlationJson event.correlation).canonical = .obj read.correlation
  readerState : read.readerState = event.readerState
  controllerState : read.controllerState = event.controllerState
  deliveryStatus : read.deliveryStatus = event.deliveryStatus
  eventId : read.eventId = event.eventId

theorem ReadEvent.ReadFrom.equals {read : ReadEvent F} {event : StoredEvent F} (h : read.ReadFrom event)
    (hsingle : event.CorrelationIsSingle) : read.Equals event :=
  ⟨h.eventType, h.severity, h.timestamp, same_canonical hsingle h.correlation, h.readerState, h.controllerState,
    h.deliveryStatus, h.eventId⟩

theorem append_row {event : StoredEvent F} {row : EventRow} (h : SQLiteAuditSink.append rendering event = some row) :
    ∃ correlation, Json.dumps rendering.toFloats (StoredEvent.correlationJson event.correlation) = some correlation ∧
      row.isBindable = true ∧
      row = { eventId := event.eventId
              timestamp := Text.ofChars event.timestamp.isoformat
              eventType := Text.of event.eventType.value
              severity := Text.of event.severity.value
              correlation := Text.ofChars correlation
              readerState := event.readerState
              controllerState := event.controllerState
              deliveryStatus := event.deliveryStatus } := by
  obtain ⟨correlation, hdumps, hrow⟩ := Option.bind_eq_some_iff.mp h
  dsimp only at hrow
  split at hrow
  · rename_i hbindable
    obtain rfl := Option.some.inj hrow
    exact ⟨correlation, hdumps, hbindable, rfl⟩
  · cases hrow

theorem event_append (hfloats : Json.Floats.Lawful rendering.toFloats) {event : StoredEvent F} {row : EventRow}
    (htimestamp : event.timestamp.Representable) (h : SQLiteAuditSink.append rendering event = some row) :
    ∃ read, SQLiteAuditReader.event rendering row = .ok read ∧ read.ReadFrom event := by
  obtain ⟨correlation, hdumps, -, rfl⟩ := append_row h
  obtain ⟨entries, hcanonical, hallowed⟩ := postInit_canonical event
  have haware : event.timestamp.isAware = true :=
    (Bool.and_eq_true_iff.mp (Bool.and_eq_true_iff.mp event.accepted).1).1
  have hloads : Json.loads rendering.toFloats (Text.ofChars correlation) = some (.obj entries) := by
    rw [Json.loads_dumps hfloats (Json.obj_wellKeyed.mpr event.correlation_keyed) hdumps]
    exact congrArg some hcanonical
  refine ⟨⟨event.eventType, event.severity, event.timestamp, entries, event.readerState, event.controllerState,
    event.deliveryStatus, event.eventId, haware⟩, ?_, ⟨rfl, rfl, rfl, hcanonical, rfl, rfl, rfl, rfl⟩⟩
  simp only [SQLiteAuditReader.event, DateTime.fromisoformat_isoformat htimestamp, EventType.ofValue_value,
    Severity.ofValue_value, hloads, Mapping.ofJson, dif_pos haware, hallowed]

end

end Bridgewire
