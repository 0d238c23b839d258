import Bridgewire.Queries.Reader

/-!
# What has been stored is read back

Every row in the table is one that the sink wrote, under an id of its own. So
no query finds a row that it cannot read, and an event is read as itself.
-/

namespace Bridgewire

open SQLiteAuditSink SQLiteAuditReader

variable {F : Type} {rendering : Rendering F}

/-- The rows of such events, with an id each. -/
structure Written (rendering : Rendering F) (P : StoredEvent F → Prop) (rows : List EventRow) : Prop where
  nodup : (rows.map EventRow.eventId).Nodup
  stored : ∀ row ∈ rows, ∃ event : StoredEvent F, P event ∧ append rendering event = some row

variable {P : StoredEvent F → Prop}

theorem Written.empty : Written rendering P [] where
  nodup := List.nodup_nil
  stored := by simp

theorem insert_some {rows rows' : List EventRow} {event : StoredEvent F} (h : insert rendering rows event = some rows') :
    ∃ row, append rendering event = some row ∧ row.eventId ∉ rows.map EventRow.eventId ∧ rows' = rows ++ [row] := by
  obtain ⟨row, happend, hrow⟩ := Option.bind_eq_some_iff.mp h
  split at hrow
  · cases hrow
  · rename_i hfresh
    exact ⟨row, happend, fun hmem => hfresh (List.contains_iff_mem.mpr hmem), (Option.some.inj hrow).symm⟩

theorem Written.insert {rows rows' : List EventRow} (h : Written rendering P rows) {event : StoredEvent F}
    (hevent : P event) (hinsert : insert rendering rows event = some rows') : Written rendering P rows' := by
  obtain ⟨row, happend, hfresh, rfl⟩ := insert_some hinsert
  refine ⟨?_, ?_⟩
  · rw [List.map_append, List.nodup_append]
    refine ⟨h.nodup, by simp, fun a ha b hb heq => hfresh ?_⟩
    obtain rfl := List.mem_singleton.mp hb
    exact heq ▸ ha
  · intro other hother
    rcases List.mem_append.mp hother with hmem | hmem
    · exact h.stored other hmem
    · obtain rfl := List.mem_singleton.mp hmem
      exact ⟨event, hevent, happend⟩

theorem insertAll_cons (rows : List EventRow) (event : StoredEvent F) (rest : List (StoredEvent F)) :
    insertAll rendering rows (event :: rest) = insertAll rendering ((insert rendering rows event).getD rows) rest := rfl

theorem Written.insertAll {rows : List EventRow} (h : Written rendering P rows) {events : List (StoredEvent F)}
    (hevents : ∀ event ∈ events, P event) : Written rendering P (insertAll rendering rows events) := by
  induction events generalizing rows with
  | nil => exact h
  | cons event rest ih =>
    obtain ⟨hevent, hrest⟩ := List.forall_mem_cons.mp hevents
    rw [insertAll_cons]
    cases hinsert : SQLiteAuditSink.insert rendering rows event with
    | none => exact ih h hrest
    | some rows' => exact ih (h.insert hevent hinsert) hrest

/-- A row stays. -/
theorem mem_insertAll {rows : List EventRow} (events : List (StoredEvent F)) {row : EventRow} (h : row ∈ rows) :
    row ∈ SQLiteAuditSink.insertAll rendering rows events := by
  induction events generalizing rows with
  | nil => exact h
  | cons event rest ih =>
    rw [insertAll_cons]
    cases hinsert : SQLiteAuditSink.insert rendering rows event with
    | none => exact ih h
    | some rows' =>
      obtain ⟨row', -, -, rfl⟩ := insert_some hinsert
      exact ih (List.mem_append_left _ h)

theorem mem_select {query : EventQuery} {rows : List EventRow} {row : EventRow} (h : row ∈ query.select rows) :
    row ∈ rows := by
  have hsorted : row ∈ query.sorted rows := by
    unfold EventQuery.select at h
    split at h
    · exact h
    · exact List.mem_of_mem_take h
  exact List.mem_of_mem_filter (List.mem_mergeSort.mp hsorted)

theorem mapM_forall₂ {α β ε : Type} {f : α → Except ε β} {items : List α} (h : ∀ a ∈ items, ∃ b, f a = .ok b) :
    ∃ results, items.mapM f = .ok results ∧ List.Forall₂ (fun a b => f a = .ok b) items results := by
  induction items with
  | nil => exact ⟨[], rfl, .nil⟩
  | cons a rest ih =>
    obtain ⟨⟨b, hb⟩, hrest⟩ := List.forall_mem_cons.mp h
    obtain ⟨results, hresults, hforall⟩ := ih hrest
    exact ⟨b :: results, by simp [List.mapM_cons, hb, hresults, bind, Except.bind, pure, Except.pure], .cons hb hforall⟩

/-- Python has the datetime of the event. -/
def Dated (event : StoredEvent F) : Prop := event.timestamp.Representable

theorem Written.event (hfloats : Json.Floats.Lawful rendering.toFloats) {rows : List EventRow}
    (h : Written rendering Dated rows) {row : EventRow} (hrow : row ∈ rows) :
    ∃ read, SQLiteAuditReader.event rendering row = .ok read := by
  obtain ⟨event, htimestamp, happend⟩ := h.stored row hrow
  obtain ⟨read, hread, -⟩ := event_append hfloats htimestamp happend
  exact ⟨read, hread⟩

/-- A query whose parameters can be bound reads every row that it selects. -/
theorem Written.listEvents (hfloats : Json.Floats.Lawful rendering.toFloats) {rows : List EventRow}
    (h : Written rendering Dated rows) {query : EventQuery} (hbind : query.bind = .ok ()) :
    ∃ reads, SQLiteAuditReader.listEvents rendering (.table rows) query = .ok reads ∧
      List.Forall₂ (fun row read => SQLiteAuditReader.event rendering row = .ok read) (query.select rows) reads := by
  obtain ⟨reads, hmapM, hreads⟩ :=
    mapM_forall₂ fun row hrow => h.event hfloats (@mem_select query rows row hrow)
  refine ⟨reads, ?_, hreads⟩
  simp only [SQLiteAuditReader.listEvents, Database.execute, hbind, hmapM]

/-- An id finds its row. -/
theorem Written.find {rows : List EventRow} (h : Written rendering P rows) {row : EventRow} (hrow : row ∈ rows) :
    rows.find? (fun other => other.eventId = row.eventId) = some row := by
  cases hfind : rows.find? fun other => other.eventId = row.eventId with
  | none =>
    have hnone := List.find?_eq_none.mp hfind row hrow
    exact absurd (decide_eq_true rfl) hnone
  | some found =>
    have hid : found.eventId = row.eventId := by simpa using List.find?_some hfind
    exact congrArg some (List.inj_on_of_nodup_map h.nodup (List.mem_of_find?_eq_some hfind) hrow hid)

theorem bindable_id {row : EventRow} (h : row.isBindable = true) : Sqlite.bindText row.eventId = .ok () :=
  of_decide_eq_true (List.all_eq_true.mp h (some row.eventId) List.mem_cons_self)

/-- Every event that has been stored is read back, whatever is stored before and
after it, and as itself if no value of its correlation has a pair of surrogates;
and no query fails on what has been stored. -/
theorem read_back (hfloats : Json.Floats.Lawful rendering.toFloats) (earlier later : List (StoredEvent F))
    (event : StoredEvent F) (hearlier : ∀ other ∈ earlier, other.timestamp.Representable)
    (hlater : ∀ other ∈ later, other.timestamp.Representable) (htimestamp : event.timestamp.Representable)
    {rows : List EventRow}
    (h : SQLiteAuditSink.insert rendering (SQLiteAuditSink.insertAll rendering [] earlier) event = some rows) :
    let database := Database.table (SQLiteAuditSink.insertAll rendering rows later)
    (∃ read, getEvent rendering database event.eventId = .ok (some read) ∧ read.ReadFrom event ∧
        (event.CorrelationIsSingle → read.Equals event)) ∧
      ∀ query : EventQuery, query.bind = .ok () →
        ∃ reads, SQLiteAuditReader.listEvents rendering database query = .ok reads ∧
          List.Forall₂ (fun row read => row.eventId = event.eventId → read.ReadFrom event ∧
              (event.CorrelationIsSingle → read.Equals event))
            (query.select (SQLiteAuditSink.insertAll rendering rows later)) reads := by
  intro database
  have hwritten : Written rendering Dated (SQLiteAuditSink.insertAll rendering rows later) :=
    ((Written.empty.insertAll hearlier).insert htimestamp h).insertAll hlater
  obtain ⟨row, happend, -, hrows⟩ := insert_some h
  have hrow : row ∈ SQLiteAuditSink.insertAll rendering rows later :=
    mem_insertAll later (by rw [hrows]; exact List.mem_append_right _ List.mem_cons_self)
  obtain ⟨read, hread, hfrom⟩ := event_append hfloats htimestamp happend
  obtain ⟨correlation, -, hbindable, hfields⟩ := append_row happend
  have hid : row.eventId = event.eventId := by rw [hfields]
  refine ⟨⟨read, ?_, hfrom, hfrom.equals⟩, fun query hbind => ?_⟩
  · have hfind := hwritten.find hrow
    rw [hid] at hfind
    have hbind : Sqlite.bindText event.eventId = .ok () := hid ▸ bindable_id hbindable
    simp only [getEvent, database, Database.execute, hbind, hfind, hread]
  · obtain ⟨reads, hreads, hforall⟩ := hwritten.listEvents hfloats hbind
    have hmem : ∀ other ∈ query.select (SQLiteAuditSink.insertAll rendering rows later),
        other ∈ SQLiteAuditSink.insertAll rendering rows later := fun _ => mem_select
    refine ⟨reads, hreads, (List.forall₂_and_left _ reads |>.mpr ⟨hmem, hforall⟩).imp ?_⟩
    rintro other read' ⟨hother, hread'⟩ hsame
    obtain rfl := List.inj_on_of_nodup_map hwritten.nodup hother hrow (hsame.trans hid.symm)
    obtain rfl := Except.ok.inj (hread.symm.trans hread')
    exact ⟨hfrom, hfrom.equals⟩

/-- What has no text in its correlation. -/
def counted : StoredEvent Json.Decimal where
  toEventFields :=
    { eventType := .notificationDeliveryFailed
      severity := .warning
      timestamp := ⟨63_000_000_000_000_000, some 3_600_000_000⟩
      correlation := [(Text.of "event_count", .integer 2)]
      readerState := none
      controllerState := some (Text.of "ready")
      deliveryStatus := none
      eventId := Text.of "a" }
  accepted := by decide +kernel
  nodup := by decide +kernel

theorem sortKeys_single (key : Text) (value : Json F) :
    (Json.obj [(key, value)]).sortKeys = .obj [(key, value.sortKeys)] := by
  simp [Json.sortKeys, Json.sortEntries]

theorem counted_representable : counted.timestamp.Representable where
  first := by decide
  last := by decide
  offset offset h := by
    obtain rfl := Option.some.inj h
    exact ⟨by decide, by decide⟩

theorem counted_single : counted.CorrelationIsSingle := by
  intro text htext
  cases htext

theorem insert_counted : ∃ rows, SQLiteAuditSink.insert Rendering.decimals [] counted = some rows := by
  have hsorted : (StoredEvent.correlationJson counted.correlation).sortKeys =
      StoredEvent.correlationJson counted.correlation := sortKeys_single _ _
  have hdumps : Json.dumps Rendering.decimals.toFloats (StoredEvent.correlationJson counted.correlation) =
      some "\x7b\"event_count\": 2\x7d".toList := by
    rw [Json.dumps, hsorted]
    decide +kernel
  rw [SQLiteAuditSink.insert, append, hdumps]
  exact Option.isSome_iff_exists.mp (by decide +kernel)

theorem read_back_counted :
    ∃ rows, SQLiteAuditSink.insert Rendering.decimals [] counted = some rows ∧
      ∃ read, getEvent Rendering.decimals (.table rows) counted.eventId = .ok (some read) ∧ read.Equals counted := by
  obtain ⟨rows, hrows⟩ := insert_counted
  obtain ⟨read, hread, -, hequals⟩ :=
    (read_back Rendering.decimals_lawful [] [] counted (by simp) (by simp) counted_representable hrows).1
  exact ⟨rows, hrows, read, hread, hequals counted_single⟩

/-- What has two surrogates in its correlation. -/
def paired : StoredEvent Json.Decimal where
  toEventFields :=
    { counted.toEventFields with correlation := [(Text.of "attempt", .text [.surrogate 0x3D, .surrogate 0x600])] }
  accepted := by decide +kernel
  nodup := by decide +kernel

theorem append_paired : ∃ row, append Rendering.decimals paired = some row := by
  have hsorted : (StoredEvent.correlationJson paired.correlation).sortKeys =
      StoredEvent.correlationJson paired.correlation := sortKeys_single _ _
  have hdumps : Json.dumps Rendering.decimals.toFloats (StoredEvent.correlationJson paired.correlation) =
      some "\x7b\"attempt\": \"\\ud83d\\ude00\"\x7d".toList := by
    rw [Json.dumps, hsorted]
    decide +kernel
  rw [append, hdumps]
  exact Option.isSome_iff_exists.mp (by decide +kernel)

/-- The two surrogates come back as one character. -/
theorem not_always_read_back :
    ¬∀ (event : StoredEvent Json.Decimal) (row : EventRow), event.timestamp.Representable →
      append Rendering.decimals event = some row →
        ∃ read, SQLiteAuditReader.event Rendering.decimals row = .ok read ∧ read.Equals event := by
  intro h
  obtain ⟨row, happend⟩ := append_paired
  have hrepresentable : paired.timestamp.Representable := counted_representable
  obtain ⟨read, hread, hequals⟩ := h paired row hrepresentable happend
  obtain ⟨read', hread', hfrom⟩ := event_append Rendering.decimals_lawful hrepresentable happend
  obtain rfl := Except.ok.inj (hread.symm.trans hread')
  have hwritten : [.surrogate 0x3D, .surrogate 0x600] ∈ (StoredEvent.correlationJson paired.correlation).texts :=
    List.mem_singleton_self _
  rw [← Json.mem_texts_sortKeys, ← hequals.correlation, Json.mem_texts_sortKeys, ← hfrom.correlation,
    Json.mem_texts_canonical] at hwritten
  obtain ⟨written, -, hjoined⟩ := hwritten
  exact absurd (Text.hasPair_joined written) (by rw [← hjoined]; decide)

end Bridgewire
