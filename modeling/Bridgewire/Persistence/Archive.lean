import Bridgewire.Interfaces
import Bridgewire.Queries.Reader
import Mathlib.Data.List.Nodup

/-!
# The archive of the audit

The events that the code makes, as `SQLiteAuditSink` stores them: one row
each, in a table beside everything else that the collaborators change.
-/

namespace Bridgewire

open Effect

-- ---------------------------------------------------------------------------
-- Events of the code
-- ---------------------------------------------------------------------------

section
variable {F : Type} (real : ℚ → F)

/-- The value, with its float as `real` has it. -/
def CorrelationValue.scalar : CorrelationValue → Scalar F
  | .text value => .text (Text.of value)
  | .integer value => .integer value
  | .real value => .real (real value)
  | .boolean value => .boolean value
  | .none => .none

def AuditFields.stored (fields : AuditFields) : EventFields F where
  eventType := fields.eventType
  severity := fields.severity
  timestamp := fields.timestamp
  correlation := fields.correlation.map fun entry => (Text.of entry.1, entry.2.scalar real)
  readerState := fields.readerState.map Text.of
  controllerState := fields.controllerState.map Text.of
  deliveryStatus := fields.deliveryStatus.map Text.of
  eventId := Text.of fields.eventId

theorem Text.of_injective : Function.Injective Text.of := fun _ _ => Text.of_inj

theorem lookup_scalar (correlation : Correlation) (key : String) :
    (correlation.map fun entry => (Text.of entry.1, entry.2.scalar real)).lookup (Text.of key) =
      (correlation.lookup key).map (CorrelationValue.scalar real) := by
  induction correlation with
  | nil => rfl
  | cons entry rest ih =>
    rw [List.map_cons, List.lookup_cons, List.lookup_cons, ih]
    by_cases h : key = entry.1
    · simp [h]
    · have hne : Text.of key ≠ Text.of entry.1 := fun hsame => h (Text.of_inj hsame)
      rw [beq_false_of_ne h, beq_false_of_ne hne]

theorem AuditFields.checkKeys_allowed {keys : List String} (h : AuditFields.checkKeys keys = .ok ()) :
    ∀ key ∈ keys, key ∈ allowedCorrelationKeys := by
  induction keys with
  | nil => simp
  | cons key keys ih =>
    unfold checkKeys at h
    split at h
    · cases h
    split at h
    · cases h
    · rename_i hallowed
      exact List.forall_mem_cons.mpr ⟨not_not.mp hallowed, ih h⟩

theorem AuditFields.checkReason_allowed {value : CorrelationValue} (h : AuditFields.checkReason value = .ok ()) :
    EventFields.isAllowedReason (some (value.scalar real)) = true := by
  cases value with
  | none => rfl
  | text reason =>
    by_cases hallowed : reason ∈ allowedReasons
    · exact decide_eq_true (List.mem_map_of_mem hallowed)
    · rw [checkReason, if_neg hallowed] at h
      cases h
  | integer | real | boolean => cases h

/-- What the constructor has accepted is accepted as it is stored. -/
theorem AuditFields.stored_isAccepted {fields : AuditFields} (h : fields.postInit = .ok ()) :
    (fields.stored real).isAccepted = true := by
  unfold postInit at h
  split at h
  · cases h
  rename_i haware
  split at h
  · cases h
  rename_i hkeys
  have haware' : fields.timestamp.isAware = true := by simpa using haware
  refine Bool.and_eq_true_iff.mpr ⟨Bool.and_eq_true_iff.mpr ⟨haware', ?_⟩, ?_⟩
  · refine List.all_eq_true.mpr fun key hkey => decide_eq_true ?_
    rw [stored, List.map_map] at hkey
    obtain ⟨entry, hentry, rfl⟩ := List.mem_map.mp hkey
    exact List.mem_map_of_mem (checkKeys_allowed hkeys entry.1 (List.mem_map_of_mem hentry))
  · show EventFields.isAllowedReason ((fields.correlation.map _).lookup (Text.of "reason")) = true
    rw [lookup_scalar]
    unfold Correlation.get at h
    cases hlookup : fields.correlation.lookup "reason" with
    | none => rfl
    | some value =>
      rw [hlookup, Option.getD_some] at h
      exact checkReason_allowed real h

theorem AuditFields.stored_keys (fields : AuditFields) :
    (fields.stored real).correlation.map Prod.fst = (fields.correlation.map Prod.fst).map Text.of := by
  simp [stored, Function.comp_def]

/-- The event as it is stored; none of what is no mapping, with a key twice. -/
def AuditEvent.stored? (event : AuditEvent) : Option (StoredEvent F) :=
  if h : (event.correlation.map Prod.fst).Nodup then
    some
      { toEventFields := event.toAuditFields.stored real
        accepted := AuditFields.stored_isAccepted real event.accepted
        nodup := by
          rw [AuditFields.stored_keys]
          exact h.map Text.of_injective }
  else none

theorem AuditEvent.stored?_fields {event : AuditEvent} {stored : StoredEvent F} (h : event.stored? real = some stored) :
    stored.toEventFields = event.toAuditFields.stored real := by
  unfold stored? at h
  split at h
  · obtain rfl := Option.some.inj h
    rfl
  · cases h

/-- The code's own texts have no surrogates. -/
theorem AuditEvent.stored?_single {event : AuditEvent} {stored : StoredEvent F} (h : event.stored? real = some stored) :
    stored.CorrelationIsSingle := by
  intro text htext
  rw [AuditEvent.stored?_fields real h, AuditFields.stored] at htext
  obtain ⟨entry, hentry, htext⟩ := List.mem_filterMap.mp htext
  obtain ⟨⟨key, value⟩, -, rfl⟩ := List.mem_map.mp hentry
  cases value with
  | text value =>
    obtain rfl := Option.some.inj htext
    exact Text.hasPair_ofChars _
  | integer | real | boolean | none => cases htext

end

-- ---------------------------------------------------------------------------
-- The sink
-- ---------------------------------------------------------------------------

/-- The table of a sink, beside everything else. -/
structure Archive (W : Type) where
  world : W
  rows : List EventRow

def Archive.outer (W : Type) : Component (Archive W) W where
  get s := s.world
  set world s := { s with world }
  get_set _ _ := rfl
  set_get _ := rfl
  set_set _ _ _ := rfl

namespace SQLiteAuditSink

variable {F : Type} (rendering : Rendering F) (real : ℚ → F)

def insertEvent (rows : List EventRow) (event : AuditEvent) : Option (List EventRow) :=
  (event.stored? real).bind (insert rendering rows)

/-- All of them; none where one cannot be inserted. -/
def insertEvents (rows : List EventRow) (events : List AuditEvent) : Option (List EventRow) :=
  events.foldlM (insertEvent rendering real) rows

/-- A sink whose transactions may fail, and what an `append` raises that the table does not take. -/
def archiving {W : Type} (transaction : AuditSink W) (refusal : AuditEvent → Exn) : AuditSink (Archive W) where
  append event := do
    zoom (Archive.outer W) (transaction.append event)
    Effect.of fun s =>
      match insertEvent rendering real s.rows event with
      | some rows => (.ok (), { s with rows })
      | none => (.error (refusal event), s)

variable {rendering real}

theorem insertEvents_append {rows rows' : List EventRow} {events : List AuditEvent}
    (h : insertEvents rendering real rows events = some rows') (more : List AuditEvent) :
    insertEvents rendering real rows (events ++ more) = insertEvents rendering real rows' more := by
  rw [insertEvents, List.foldlM_append, ← insertEvents, h]
  rfl

theorem insertEvents_single (rows : List EventRow) (event : AuditEvent) :
    insertEvents rendering real rows [event] = insertEvent rendering real rows event := bind_pure _

/-- What an `append` ends with, and the table it leaves. -/
inductive Appended (rendering : Rendering F) (real : ℚ → F) (rows : List EventRow) (event : AuditEvent) :
    Except Exn Unit → List EventRow → Prop
  | inserted {rows' : List EventRow} (h : insertEvent rendering real rows event = some rows') :
    Appended rendering real rows event (.ok ()) rows'
  | refused (e : Exn) : Appended rendering real rows event (.error e) rows

theorem archiving_append {W : Type} {transaction : AuditSink W} {refusal : AuditEvent → Exn} (event : AuditEvent)
    (s : Archive W) :
    Ends ((archiving rendering real transaction refusal).append event) s fun outcome s' =>
      Appended rendering real s.rows event outcome s'.rows := by
  have htransaction : Ends (zoom (Archive.outer W) (transaction.append event)) s fun _ s' => s'.rows = s.rows :=
    ends_iff.mpr rfl
  refine Ends.bind htransaction (fun e s' hrows => hrows ▸ .refused e) fun _ s' hrows => ?_
  rw [← hrows]
  refine ends_iff.mpr ?_
  simp only [run_of]
  cases hinsert : insertEvent rendering real s'.rows event with
  | some rows => exact .inserted hinsert
  | none => exact .refused _

end SQLiteAuditSink

end Bridgewire
