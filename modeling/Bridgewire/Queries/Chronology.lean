import Bridgewire.Queries.ReadBack

/-!
# Texts in the order of time

What the statements compare as texts of datetimes in UTC they compare as
instants, and by the id where these are the same.
-/

namespace Bridgewire

open Encodings

theorem map_isoText (time : DateTime) : (isoText time).map CodePoint.toNat = DateTime.codes time.isoformat := by
  simp [isoText, Text.ofChars, DateTime.codes, CodePoint.toNat]

namespace DateTime

variable {a b : DateTime}

theorem IsUtc.instant (h : IsUtc a) : a.instant = a.wall := by simp [DateTime.instant, h.utc]

theorem IsUtc.ext (ha : IsUtc a) (hb : IsUtc b) (h : a.instant = b.instant) : a = b := by
  rw [ha.instant, hb.instant] at h
  obtain ⟨wall, utcoffset⟩ := a
  obtain ⟨wall', utcoffset'⟩ := b
  obtain rfl : wall = wall' := h
  rw [show utcoffset = utcoffset' from ha.utc.trans hb.utc.symm]

theorem bytes_isoText_lt_iff (ha : IsUtc a) (hb : IsUtc b) :
    bytes (isoText a) < bytes (isoText b) ↔ a.instant < b.instant := by
  rw [bytes_lt_iff, map_isoText, map_isoText, isoformat_lt_iff ha hb, ha.instant, hb.instant]

theorem isoText_inj (ha : IsUtc a) (hb : IsUtc b) : isoText a = isoText b ↔ a = b := by
  refine ⟨fun h => ha.ext hb ?_, fun h => by rw [h]⟩
  have hlt := bytes_isoText_lt_iff ha hb
  have hgt := bytes_isoText_lt_iff hb ha
  rw [h] at hlt hgt
  have hirrefl : ¬bytes (isoText b) < bytes (isoText b) := List.lt_irrefl _
  have := hlt.not.mp hirrefl
  have := hgt.not.mp hirrefl
  omega

end DateTime

/-- The row of an event at this time. -/
def EventRow.At (row : EventRow) (time : DateTime) : Prop := row.timestamp = isoText time

theorem key_le_iff {a b : DateTime} (ha : a.IsUtc) (hb : b.IsUtc) {row row' : EventRow} (hrow : row.At a)
    (hrow' : row'.At b) :
    row.key ≤ row'.key ↔ a.instant < b.instant ∨ a = b ∧ bytes row.eventId ≤ bytes row'.eventId := by
  rw [EventRow.key, EventRow.key, Prod.Lex.toLex_le_toLex]
  dsimp only
  rw [bytes_eq_iff, hrow, hrow', DateTime.bytes_isoText_lt_iff ha hb, DateTime.isoText_inj ha hb]

/-- Of datetimes in UTC the bytes of the texts are in the order of the instants,
and so are all comparisons that the statements make of a row at one of them. -/
theorem text_order_is_time_order (a b : DateTime) (ha : a.IsUtc) (hb : b.IsUtc) :
    (a.instant < b.instant ↔ bytes (isoText a) < bytes (isoText b)) ∧ (isoText a = isoText b ↔ a = b) ∧
      (∀ row : EventRow, row.At a →
        (Sqlite.less row.timestamp (isoText b) = true ↔ a.instant < b.instant) ∧
        (Sqlite.less (isoText b) row.timestamp = true ↔ b.instant < a.instant) ∧
        ∀ query : EventQuery, ∀ cursor, query.cursor = some cursor → cursor.timestamp = b →
          (query.continues row = true ↔
            a.instant < b.instant ∨ a = b ∧ bytes row.eventId < bytes cursor.eventId)) ∧
      ∀ row row' : EventRow, row.At a → row'.At b →
        (row.key ≤ row'.key ↔ a.instant < b.instant ∨ a = b ∧ bytes row.eventId ≤ bytes row'.eventId) := by
  have hless : Sqlite.less (isoText a) (isoText b) = true ↔ a.instant < b.instant :=
    decide_eq_true_iff.trans (DateTime.bytes_isoText_lt_iff ha hb)
  have hgreater : Sqlite.less (isoText b) (isoText a) = true ↔ b.instant < a.instant :=
    decide_eq_true_iff.trans (DateTime.bytes_isoText_lt_iff hb ha)
  refine ⟨(DateTime.bytes_isoText_lt_iff ha hb).symm, DateTime.isoText_inj ha hb, fun row hrow => ⟨?_, ?_, ?_⟩,
    fun row row' => key_le_iff ha hb⟩
  · rw [hrow, hless]
  · rw [hrow, hgreater]
  · rintro query cursor hcursor rfl
    simp only [EventQuery.continues, hcursor, Option.all_some, Bool.or_eq_true, Bool.and_eq_true, decide_eq_true_eq,
      show row.timestamp = isoText a from hrow, hless, DateTime.isoText_inj ha hb]
    exact or_congr Iff.rfl (and_congr Iff.rfl decide_eq_true_iff)

theorem text_order_across_fraction : bytes (isoText ⟨0, some 0⟩) < bytes (isoText ⟨1, some 0⟩) :=
  (text_order_is_time_order ⟨0, some 0⟩ ⟨1, some 0⟩ ⟨by decide, by decide, rfl⟩ ⟨by decide, by decide, rfl⟩).1.mp
    (by decide)

/-- `latest_event_time`; of a text that is no datetime none, for the `ValueError`. -/
def SQLiteAuditSink.latestEventTime (rows : List EventRow) : Option (Option DateTime) :=
  (rows.mergeSort fun a b => !Sqlite.less a.timestamp b.timestamp).head?.map fun row =>
    DateTime.fromisoformat row.timestamp

/-- The latest of the events. -/
theorem latest_event_time {rows : List EventRow} (h : ∀ row ∈ rows, ∃ time : DateTime, time.IsUtc ∧ row.At time)
    (hrows : rows ≠ []) :
    ∃ latest : DateTime, SQLiteAuditSink.latestEventTime rows = some (some latest) ∧ latest.IsUtc ∧
      (∃ row ∈ rows, row.At latest) ∧
      ∀ row ∈ rows, ∀ time : DateTime, time.IsUtc → row.At time → time.instant ≤ latest.instant := by
  have htrans (a b c : EventRow) (hab : (!Sqlite.less a.timestamp b.timestamp) = true)
      (hbc : (!Sqlite.less b.timestamp c.timestamp) = true) : (!Sqlite.less a.timestamp c.timestamp) = true := by
    simp only [Sqlite.less, Bool.not_eq_true', decide_eq_false_iff_not, not_lt] at hab hbc ⊢
    exact hbc.trans hab
  have htotal (a b : EventRow) :
      (!Sqlite.less a.timestamp b.timestamp || !Sqlite.less b.timestamp a.timestamp) = true := by
    simp only [Sqlite.less, Bool.or_eq_true, Bool.not_eq_true', decide_eq_false_iff_not, not_lt]
    exact le_total _ _
  have hsorted := List.pairwise_mergeSort htrans htotal rows
  cases hcons : rows.mergeSort fun a b => !Sqlite.less a.timestamp b.timestamp with
  | nil =>
    have hlength : (rows.mergeSort fun a b => !Sqlite.less a.timestamp b.timestamp).length = rows.length :=
      List.length_mergeSort _
    rw [hcons] at hlength
    exact absurd (List.length_eq_zero_iff.mp hlength.symm) hrows
  | cons first rest =>
    have hmem {row : EventRow} : row ∈ first :: rest ↔ row ∈ rows := by rw [← hcons, List.mem_mergeSort]
    obtain ⟨latest, hlatest, hat⟩ := h first (hmem.mp List.mem_cons_self)
    rw [hcons] at hsorted
    refine ⟨latest, ?_, hlatest, ⟨first, hmem.mp List.mem_cons_self, hat⟩, fun row hrow time htime hrowAt => ?_⟩
    · rw [SQLiteAuditSink.latestEventTime, hcons, List.head?_cons, Option.map_some, show first.timestamp = _ from hat,
        isoText, DateTime.fromisoformat_isoformat hlatest.representable]
    · rcases List.mem_cons.mp (hmem.mpr hrow) with rfl | hlater
      · rw [(DateTime.isoText_inj htime hlatest).mp (hrowAt.symm.trans hat)]
      · have hle := (List.pairwise_cons.mp hsorted).1 row hlater
        rw [show first.timestamp = _ from hat, show row.timestamp = _ from hrowAt, Sqlite.less, Bool.not_eq_true',
          decide_eq_false_iff_not, DateTime.bytes_isoText_lt_iff hlatest htime] at hle
        exact Int.not_lt.mp hle

end Bridgewire
