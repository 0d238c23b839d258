import Bridgewire.Audit
import Bridgewire.Isoformat
import Bridgewire.Json.Canonical

/-!
# Events as they are stored

An audit event as `as_dict` renders it. Its texts are Python's, in which a
surrogate may stand alone, and what a float is is left open.
-/

namespace Bridgewire

namespace Severity

def value : Severity → String
  | .debug => "debug"
  | .info => "info"
  | .warning => "warning"
  | .critical => "critical"
  | .error => "error"

end Severity

namespace EventType

def value : EventType → String
  | .serviceStarted => "service_started"
  | .serviceShutdown => "service_shutdown"
  | .configurationError => "configuration_error"
  | .credentialAuthorized => "credential_authorized"
  | .credentialDenied => "credential_denied"
  | .credentialUnknown => "credential_unknown"
  | .malformedRecord => "malformed_record"
  | .escalationWarning => "escalation_warning"
  | .escalationCritical => "escalation_critical"
  | .relayAsserted => "relay_asserted"
  | .relayRestored => "relay_restored"
  | .relayControlError => "relay_control_error"
  | .authorizationReloaded => "authorization_reloaded"
  | .authorizationReloadFailed => "authorization_reload_failed"
  | .notificationDeliveryFailed => "notification_delivery_failed"
  | .notificationBacklogRecovered => "notification_backlog_recovered"
  | .readerConnecting => "reader_connecting"
  | .readerConnected => "reader_connected"
  | .readerNotFound => "reader_not_found"
  | .readerIdentityAmbiguous => "reader_identity_ambiguous"
  | .readerOpenFailed => "reader_open_failed"
  | .readerReadFailed => "reader_read_failed"
  | .readerDisconnected => "reader_disconnected"
  | .readerRecovered => "reader_recovered"
  | .readerRecordReceived => "reader_record_received"
  | .readerRecordMalformed => "reader_record_malformed"
  | .reconnectScheduled => "reconnect_scheduled"
  | .reconnectRepeatedlyFailed => "reconnect_repeatedly_failed"

end EventType

def Text.of (string : String) : Text := Text.ofChars string.toList

/-- The texts of values: `json`'s floats, and `str` of what is neither a text nor `None`. -/
structure Rendering (F : Type) extends Floats F where
  other : Json F → Text

def Rendering.str {F : Type} (rendering : Rendering F) : Json F → Text
  | .str text => text
  | .null => Text.of "None"
  | value => rendering.other value

/-- Floats as their texts, and the `str` of nothing else. -/
def Rendering.decimals : Rendering Json.Decimal := { Json.Decimal.floats with other := fun _ => [] }

theorem Rendering.decimals_lawful : Json.Floats.Lawful Rendering.decimals.toFloats := Json.Decimal.floats_lawful

/-- The value of a correlation, in which a text may be any. -/
inductive Scalar (F : Type)
  | text (value : Text)
  | integer (value : Int)
  | real (value : F)
  | boolean (value : Bool)
  | none
  deriving DecidableEq

namespace Scalar

variable {F : Type}

def toJson : Scalar F → Json F
  | .text value => .str value
  | .integer value => .int value
  | .real value => .float value
  | .boolean value => .bool value
  | .none => .null

end Scalar

structure EventFields (F : Type) where
  eventType : EventType
  severity : Severity
  timestamp : DateTime
  correlation : List (Text × Scalar F)
  readerState : Option Text
  controllerState : Option Text
  deliveryStatus : Option Text
  eventId : Text
  deriving DecidableEq

namespace EventFields

variable {F : Type}

def isAllowedReason : Option (Scalar F) → Bool
  | some (.text reason) => reason ∈ allowedReasons.map Text.of
  | some .none | none => true
  | some _ => false

/-- Where `__post_init__` returns. An allow-listed key is not a sensitive one. -/
def isAccepted (fields : EventFields F) : Bool :=
  fields.timestamp.isAware &&
    (fields.correlation.map Prod.fst).all (fun key => key ∈ allowedCorrelationKeys.map Text.of) &&
    isAllowedReason (fields.correlation.lookup (Text.of "reason"))

end EventFields

structure StoredEvent (F : Type) extends EventFields F where
  accepted : toEventFields.isAccepted = true
  /-- A mapping has a key once. -/
  nodup : (correlation.map Prod.fst).Nodup

namespace StoredEvent

variable {F : Type}

def optional : Option Text → Json F
  | some text => .str text
  | none => .null

def correlationJson (correlation : List (Text × Scalar F)) : Json F :=
  .obj (correlation.map fun entry => (entry.1, entry.2.toJson))

def asDict (event : StoredEvent F) : Json F :=
  .obj
    [(Text.of "event_id", .str event.eventId),
      (Text.of "timestamp", .str (Text.ofChars event.timestamp.isoformat)),
      (Text.of "event_type", .str (Text.of event.eventType.value)),
      (Text.of "severity", .str (Text.of event.severity.value)),
      (Text.of "correlation", correlationJson event.correlation),
      (Text.of "reader_state", optional event.readerState),
      (Text.of "controller_state", optional event.controllerState),
      (Text.of "delivery_status", optional event.deliveryStatus)]

theorem key_single {fields : EventFields F} (h : fields.isAccepted = true) {key : Text}
    (hkey : key ∈ fields.correlation.map Prod.fst) : key.hasPair = false := by
  have hkeys := List.all_eq_true.mp (Bool.and_eq_true_iff.mp (Bool.and_eq_true_iff.mp h).1).2
  obtain ⟨allowed, -, rfl⟩ := List.mem_map.mp (of_decide_eq_true (hkeys key hkey))
  exact Text.hasPair_ofChars _

theorem correlation_keyed (event : StoredEvent F) :
    Json.Keyed (event.correlation.map fun entry => (entry.1, entry.2.toJson)) where
  nodup := by
    rw [List.map_map]
    exact event.nodup
  single entry hentry := by
    obtain ⟨before, hbefore, rfl⟩ := List.mem_map.mp hentry
    exact key_single event.accepted (List.mem_map_of_mem hbefore)
  values entry hentry := by
    obtain ⟨⟨key, value⟩, -, rfl⟩ := List.mem_map.mp hentry
    cases value <;> rfl

theorem optional_wellKeyed (text : Option Text) : (optional text : Json F).isWellKeyed = true := by
  cases text <;> rfl

theorem asDict_keys (event : StoredEvent F) (entries : List (Text × Json F)) (h : event.asDict = .obj entries) :
    entries.map Prod.fst =
      ["event_id", "timestamp", "event_type", "severity", "correlation", "reader_state", "controller_state",
        "delivery_status"].map Text.of := by
  cases h
  rfl

theorem asDict_wellKeyed (event : StoredEvent F) : event.asDict.isWellKeyed = true := by
  refine Json.obj_wellKeyed.mpr ⟨?_, ?_, ?_⟩
  · rw [asDict_keys event _ rfl]
    decide
  · intro entry hentry
    have hkey : entry.1 ∈ _ := List.mem_map_of_mem hentry
    rw [asDict_keys event _ rfl] at hkey
    obtain ⟨key, -, hkey⟩ := List.mem_map.mp hkey
    rw [← hkey]
    exact Text.hasPair_ofChars _
  · simp only [List.forall_mem_cons]
    exact ⟨rfl, rfl, rfl, rfl, Json.obj_wellKeyed.mpr event.correlation_keyed, optional_wellKeyed _,
      optional_wellKeyed _, optional_wellKeyed _, by simp⟩

/-- The texts in a correlation. -/
def correlationTexts (correlation : List (Text × Scalar F)) : List Text :=
  correlation.filterMap fun entry =>
    match entry.2 with
    | .text value => some value
    | _ => none

/-- The texts that are not the code's own. -/
def texts (event : StoredEvent F) : List Text :=
  event.eventId :: event.readerState.toList ++ event.controllerState.toList ++ event.deliveryStatus.toList ++
    correlationTexts event.correlation

/-- No two surrogates that encode one character stand side by side in a text of the event. -/
def isSingle (event : StoredEvent F) : Bool := event.texts.all fun text => !text.hasPair

theorem isSingle_text {event : StoredEvent F} (h : event.isSingle = true) {text : Text} (htext : text ∈ event.texts) :
    text.joined = text :=
  Text.joined_of_hasPair (by simpa using List.all_eq_true.mp h text htext)

theorem optional_joined {text : Option Text} (h : ∀ t ∈ text.toList, t.joined = t) :
    (optional text : Json F).joined = optional text := by
  cases text with
  | none => rfl
  | some t => exact congrArg Json.str (h t List.mem_cons_self)

theorem correlationJson_joined {correlation : List (Text × Scalar F)}
    (hkeys : ∀ entry ∈ correlation, entry.1.hasPair = false)
    (htexts : ∀ text ∈ correlationTexts correlation, text.joined = text) :
    (correlationJson correlation).joined = correlationJson correlation := by
  refine congrArg Json.obj ?_
  rw [Json.joinedEntries_eq, List.map_map]
  refine List.map_congr_left fun entry hentry => ?_
  obtain ⟨key, value⟩ := entry
  refine Prod.ext (Text.joined_of_hasPair (hkeys _ hentry)) ?_
  cases value with
  | text value => exact congrArg Json.str (htexts value (List.mem_filterMap.mpr ⟨_, hentry, rfl⟩))
  | integer | real | boolean | none => rfl

theorem asDict_joined {event : StoredEvent F} (h : event.isSingle = true) : event.asDict.joined = event.asDict := by
  have htext {text : Text} (hmem : text ∈ event.texts) : text.joined = text := isSingle_text h hmem
  have hcorrelation : (correlationJson event.correlation).joined = correlationJson event.correlation := by
    refine correlationJson_joined (fun entry hentry => key_single event.accepted (List.mem_map_of_mem hentry)) ?_
    exact fun text hmem => htext (List.mem_append_right _ hmem)
  have hreader : (optional event.readerState : Json F).joined = optional event.readerState :=
    optional_joined fun text hmem => htext (by simp [texts, hmem])
  have hcontroller : (optional event.controllerState : Json F).joined = optional event.controllerState :=
    optional_joined fun text hmem => htext (by simp [texts, hmem])
  have hdelivery : (optional event.deliveryStatus : Json F).joined = optional event.deliveryStatus :=
    optional_joined fun text hmem => htext (by simp [texts, hmem])
  have hof (chars : List Char) : (Text.ofChars chars).joined = Text.ofChars chars :=
    Text.joined_of_hasPair (Text.hasPair_ofChars chars)
  simp only [asDict, Json.joined, Json.joinedEntries, Text.of, hof, hcorrelation, hreader, hcontroller, hdelivery,
    htext List.mem_cons_self]

end StoredEvent

end Bridgewire
