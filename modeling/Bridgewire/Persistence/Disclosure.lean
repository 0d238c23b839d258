import Bridgewire.Json.Texts
import Bridgewire.Persistence.Store

/-!
# What a correlation tells

The allow-list of reasons is checked of what stands under `reason`. Under the
other keys any text is let through, and is stored and queued as it is.
-/

namespace Bridgewire

variable {F : Type}

/-- A reason of the allow-list. -/
def IsReason (text : Text) : Prop := text ∈ allowedReasons.map Text.of

instance (text : Text) : Decidable (IsReason text) := inferInstanceAs (Decidable (text ∈ _))

/-- What stands in the correlation field of a payload. -/
def correlationField : Json F → Option (Json F)
  | .obj entries => entries.lookup (Text.of "correlation")
  | _ => none

/-- A payload whose correlation has no texts but allowed reasons. -/
def OnlyReasons (payload : Json F) : Prop :=
  ∀ value, correlationField payload = some value → ∀ text ∈ value.texts, IsReason text

/-- In the payload, in the row and in the line of an event. -/
structure NothingHidden (rendering : Rendering F) (event : StoredEvent F) : Prop where
  payload : OnlyReasons event.asDict
  stored : ∀ row, SQLiteAuditSink.append rendering event = some row →
    ∀ value, Json.loads rendering.toFloats row.correlation = some value → ∀ text ∈ value.texts, IsReason text
  queued : ∀ line, Json.dumps rendering.toFloats event.asDict = some line →
    ∀ value, Json.loads rendering.toFloats (Text.ofChars line) = some value → OnlyReasons value

variable {rendering : Rendering F}

theorem mem_texts_correlation {correlation : List (Text × Scalar F)} {text : Text} :
    text ∈ (StoredEvent.correlationJson correlation).texts ↔ ∃ key, (key, .text text) ∈ correlation := by
  simp only [StoredEvent.correlationJson, Json.texts, Json.mem_entriesTexts, List.mem_map, exists_exists_and_eq_and]
  constructor
  · rintro ⟨⟨key, value⟩, hmem, htext⟩
    cases value with
    | text value =>
      obtain rfl := List.mem_singleton.mp htext
      exact ⟨key, hmem⟩
    | integer | real | boolean | none => cases htext
  · rintro ⟨key, hmem⟩
    exact ⟨(key, .text text), hmem, List.mem_singleton_self _⟩

theorem asDict_entries (event : StoredEvent F) :
    ∃ entries, event.asDict = .obj entries ∧ Json.Keyed entries ∧
      (Text.of "correlation", StoredEvent.correlationJson event.correlation) ∈ entries := by
  refine ⟨_, rfl, Json.obj_wellKeyed.mp event.asDict_wellKeyed, ?_⟩
  iterate 4 refine List.mem_cons_of_mem _ ?_
  exact List.mem_cons_self

theorem correlationField_asDict (event : StoredEvent F) :
    correlationField event.asDict = some (StoredEvent.correlationJson event.correlation) := by
  obtain ⟨entries, hentries, hkeyed, hmem⟩ := asDict_entries event
  rw [hentries]
  exact Json.lookup_of_mem hkeyed.nodup hmem

theorem correlationField_canonical (event : StoredEvent F) :
    correlationField event.asDict.canonical = some (StoredEvent.correlationJson event.correlation).canonical := by
  obtain ⟨entries, hentries, hkeyed, hmem⟩ := asDict_entries event
  obtain ⟨entries', hcanonical, hlookup⟩ := hkeyed.lookup_canonical hmem
  rw [hentries, hcanonical]
  exact hlookup

/-- What the reason is has been checked. -/
theorem reason_allowed {event : StoredEvent F} {text : Text}
    (h : (Text.of "reason", .text text) ∈ event.correlation) : IsReason text := by
  have hreason := (Bool.and_eq_true_iff.mp event.accepted).2
  rw [Json.lookup_of_mem event.nodup h] at hreason
  exact of_decide_eq_true hreason

theorem IsReason.joined {text : Text} (h : IsReason text) : IsReason text.joined := by
  obtain ⟨reason, -, rfl⟩ := List.mem_map.mp h
  rwa [Text.of, Text.joined_of_hasPair (Text.hasPair_ofChars _)]

/-- Nothing is hidden exactly if what stands under the other keys is no text but a reason. -/
theorem nothing_hidden_iff (hfloats : Json.Floats.Lawful rendering.toFloats) (event : StoredEvent F) :
    NothingHidden rendering event ↔
      ∀ key text, (key, .text text) ∈ event.correlation → key ≠ Text.of "reason" → IsReason text := by
  constructor
  · intro h key text hmem hkey
    exact h.payload _ (correlationField_asDict event) text (mem_texts_correlation.mpr ⟨key, hmem⟩)
  · intro h
    have hwritten : ∀ text ∈ (StoredEvent.correlationJson event.correlation).texts, IsReason text := by
      intro text htext
      obtain ⟨key, hmem⟩ := mem_texts_correlation.mp htext
      by_cases hkey : key = Text.of "reason"
      · exact reason_allowed (hkey ▸ hmem)
      · exact h key text hmem hkey
    have hread : ∀ text ∈ (StoredEvent.correlationJson event.correlation).canonical.texts, IsReason text := by
      intro text htext
      obtain ⟨written, hmem, rfl⟩ := Json.mem_texts_canonical.mp htext
      exact (hwritten written hmem).joined
    refine ⟨fun value hvalue => ?_, fun row hrow value hvalue => ?_, fun line hline value hvalue field hfield => ?_⟩
    · obtain rfl := Option.some.inj ((correlationField_asDict event).symm.trans hvalue)
      exact hwritten
    · obtain ⟨correlation, hdumps, -, rfl⟩ := append_row hrow
      have hloads := Json.loads_dumps hfloats (Json.obj_wellKeyed.mpr event.correlation_keyed) hdumps
      obtain rfl := Option.some.inj (hloads.symm.trans hvalue)
      exact hread
    · have hloads := Json.loads_dumps hfloats event.asDict_wellKeyed hline
      obtain rfl := Option.some.inj (hloads.symm.trans hvalue)
      obtain rfl := Option.some.inj ((correlationField_canonical event).symm.trans hfield)
      exact hread

/-- An event with this correlation, if its keys and its reason are allowed. -/
def withCorrelation (correlation : List (Text × Scalar F)) : EventFields F where
  eventType := .malformedRecord
  severity := .warning
  timestamp := ⟨63_000_000_000_000_000, some 0⟩
  correlation := correlation
  readerState := none
  controllerState := none
  deliveryStatus := none
  eventId := Text.of "a"

def attempted : StoredEvent Json.Decimal where
  toEventFields := withCorrelation [(Text.of "reason", .text (Text.of "queue_unavailable")), (Text.of "attempt", .integer 3)]
  accepted := by decide +kernel
  nodup := by decide +kernel

theorem nothing_hidden_attempted : NothingHidden Rendering.decimals attempted := by
  refine (nothing_hidden_iff Rendering.decimals_lawful attempted).mpr fun key text hmem hkey => ?_
  rcases List.mem_cons.mp hmem with h | h
  · exact absurd (congrArg Prod.fst h) hkey
  · cases List.mem_singleton.mp h

/-- An identifier under `attempt`. -/
def disclosing : StoredEvent Json.Decimal where
  toEventFields := withCorrelation [(Text.of "attempt", .text (Text.of "0102030405"))]
  accepted := by decide +kernel
  nodup := by decide +kernel

theorem not_always_nothing_hidden : ¬∀ event : StoredEvent Json.Decimal, NothingHidden Rendering.decimals event := by
  intro h
  have hreason : IsReason (Text.of "0102030405") :=
    (h disclosing).payload _ (correlationField_asDict disclosing) _
      (mem_texts_correlation.mpr ⟨Text.of "attempt", List.mem_singleton_self _⟩)
  exact absurd hreason (by decide +kernel)

end Bridgewire
