import Bridgewire.Queries.Pages
import Bridgewire.Queries.Total

/-!
# The queries agree

A page, the detail of an event and the time of the latest one are three
statements over one table. What a page shows, the others confirm.
-/

namespace Bridgewire

open SQLiteAuditSink SQLiteAuditReader

/-- `latest_event_time` of the reader. A text that is no datetime is not caught. -/
def SQLiteAuditReader.latestEventTime (database : Database) : Except QueryError (Option DateTime) :=
  match database.execute (.ok ()) SQLiteAuditSink.latestEventTime with
  | .error e => .error e
  | .ok none => .ok none
  | .ok (some (some time)) => .ok (some time)
  | .ok (some none) => .error (.other (.valueError "Invalid isoformat string"))

/-- A request for everything. -/
structure EventRequest.Unfiltered (request : EventRequest) : Prop where
  cursor : request.cursor = none
  before : request.before = none
  after : request.after = none
  eventType : request.eventType = none
  severity : request.severity = none

variable {F : Type} {rendering : Rendering F} {service : ReadOnlyQueryService}

theorem forall₂_of_mapM {α β ε : Type} {f : α → Except ε β} {items : List α} {results : List β}
    (h : items.mapM f = .ok results) : List.Forall₂ (fun a b => f a = .ok b) items results := by
  induction items generalizing results with
  | nil =>
    obtain rfl := Except.ok.inj h
    exact .nil
  | cons a rest ih =>
    rw [List.mapM_cons] at h
    cases hb : f a with
    | error e => simp [hb, bind, Except.bind] at h
    | ok b =>
      cases hlater : rest.mapM f with
      | error e => simp [hb, hlater, bind, Except.bind] at h
      | ok later =>
        obtain rfl : b :: later = results := by
          simpa [hb, hlater, bind, Except.bind, pure, Except.pure] using h
        exact .cons hb (ih hlater)

theorem page_items {limit : Nat} {events : List (ReadEvent F)} {page : EventPage F}
    (h : ReadOnlyQueryService.page rendering limit events = .ok page) : page.items = events.take limit := by
  unfold ReadOnlyQueryService.page at h
  split at h
  · obtain rfl := Except.ok.inj h
    rfl
  split at h
  · split at h
    · obtain rfl := Except.ok.inj h
      rfl
    · cases h
  · obtain rfl := Except.ok.inj h
    rfl

/-- What a page shows was read from the first of the rows selected. -/
theorem items_read {rows : List EventRow} {request : EventRequest} {page : EventPage F}
    (hpage : service.listEvents rendering (.table rows) request = .ok page) :
    ∃ query, service.query rendering request = .ok query ∧
      List.Forall₂ (fun row event => SQLiteAuditReader.event rendering row = .ok event)
        ((query.select rows).take request.limit.toNat) page.items := by
  obtain ⟨query, events, hquery, hevents, hshown⟩ := ReadOnlyQueryService.listEvents_ok_iff.mp hpage
  obtain ⟨_, ⟨⟩, -, hread⟩ := reader_ok_iff.mp hevents
  exact ⟨query, hquery, page_items hshown ▸ List.forall₂_take _ (forall₂_of_mapM hread)⟩

theorem event_id {row : EventRow} {event : ReadEvent F} (h : SQLiteAuditReader.event rendering row = .ok event) :
    row.eventId = event.eventId := by
  unfold SQLiteAuditReader.event at h
  split at h
  · split at h
    · cases h
    split at h
    · split at h
      · cases h
      · obtain rfl := Except.ok.inj h
        rfl
    · cases h
  · cases h

/-- The detail of a row that can be read. -/
theorem getEvent_row {P : StoredEvent F → Prop} {rows : List EventRow} (h : Written rendering P rows)
    {row : EventRow} (hrow : row ∈ rows) {event : ReadEvent F}
    (hread : SQLiteAuditReader.event rendering row = .ok event) :
    getEvent rendering (.table rows) event.eventId = .ok (some event) := by
  obtain ⟨stored, -, happend⟩ := h.stored row hrow
  obtain ⟨-, -, hbindable, -⟩ := append_row happend
  have hbind := bindable_id hbindable
  have hfind := h.find hrow
  rw [event_id hread] at hbind hfind
  simp only [getEvent, Database.execute, hbind, hfind, hread]

theorem insertAll_append (rows : List EventRow) (events more : List (StoredEvent F)) :
    insertAll rendering rows (events ++ more) = insertAll rendering (insertAll rendering rows events) more :=
  List.foldl_append

theorem written_any {rows : List EventRow} {P : StoredEvent F → Prop} (h : Written rendering P rows) :
    Written rendering (fun _ => True) rows :=
  ⟨h.nodup, fun row hrow => by
    obtain ⟨event, -, happend⟩ := h.stored row hrow
    exact ⟨event, trivial, happend⟩⟩

/-- Without filters the first row of a page is the greatest of all. -/
theorem first_greatest {rows : List EventRow} {request : EventRequest} (h : request.Unfiltered) {query : EventQuery}
    (hquery : service.query rendering request = .ok query) :
    (rows = [] → (query.select rows).take request.limit.toNat = []) ∧
      (rows ≠ [] → ∃ first rest, (query.select rows).take request.limit.toNat = first :: rest ∧ first ∈ rows ∧
        ∀ row ∈ rows, row.key ≤ first.key) := by
  obtain ⟨hpositive, -, hlimit, hpassed⟩ := ReadOnlyQueryService.query_ok_iff.mp hquery
  have hbefore : query.before = none := by
    have hsame := hpassed.before
    rw [h.before] at hsame
    exact (Except.ok.inj hsame).symm
  have hafter : query.after = none := by
    have hsame := hpassed.after
    rw [h.after] at hsame
    exact (Except.ok.inj hsame).symm
  have hcursor : query.cursor = none := by
    have hsame := hpassed.cursor
    rw [h.cursor] at hsame
    exact (Except.ok.inj hsame).symm
  have hall : query.sorted rows = Keyset.descending EventRow.key rows := by
    have htrue : (fun row => query.filters row && query.continues row) = fun _ => true := by
      funext row
      simp [EventQuery.filters, EventQuery.continues, hbefore, hafter, hcursor, hpassed.eventType, h.eventType,
        hpassed.severity, h.severity]
    rw [EventQuery.sorted, htrue, List.filter_true]
    rfl
  have hselect : (query.select rows).take request.limit.toNat =
      (Keyset.descending EventRow.key rows).take request.limit.toNat := by
    rw [EventQuery.select, if_neg (by omega), List.take_take, hall]
    congr 1
    omega
  rw [hselect]
  have hmem {row : EventRow} : row ∈ Keyset.descending EventRow.key rows ↔ row ∈ rows := Keyset.mem_descending
  have hle : (Keyset.descending EventRow.key rows).Pairwise fun a b => b.key ≤ a.key := Keyset.descending_le rows
  cases hcons : Keyset.descending EventRow.key rows with
  | nil =>
    refine ⟨fun _ => List.take_nil, fun hne => ?_⟩
    obtain ⟨row, hrow⟩ := List.exists_mem_of_ne_nil rows hne
    rw [← hmem, hcons] at hrow
    cases hrow
  | cons first rest =>
    rw [hcons] at hle
    obtain ⟨limit, hpred⟩ := Nat.exists_eq_succ_of_ne_zero (show request.limit.toNat ≠ 0 by omega)
    have hfirst : first ∈ rows := hmem.mp (hcons ▸ List.mem_cons_self)
    refine ⟨fun hempty => absurd hfirst (hempty ▸ List.not_mem_nil), fun _ => ?_⟩
    refine ⟨first, rest.take limit, by rw [hpred, List.take_succ_cons], hfirst, fun row hrow => ?_⟩
    have hin : row ∈ first :: rest := by rwa [← hcons, hmem]
    rcases List.mem_cons.mp hin with rfl | hlater
    · exact le_refl _
    · exact (List.pairwise_cons.mp hle).1 row hlater

/-- The latest event time is that of a row, and no row is later. -/
theorem latest_of_rows (hfloats : Json.Floats.Lawful rendering.toFloats) {rows : List EventRow}
    (h : Chronicle rendering rows) (hne : rows ≠ []) :
    ∃ latest : DateTime, SQLiteAuditReader.latestEventTime (.table rows) = .ok (some latest) ∧ latest.IsUtc ∧
      (∃ row ∈ rows, row.At latest) ∧ ∀ row ∈ rows, ∀ read, ReadsRow rendering row read →
        read.timestamp.instant ≤ latest.instant := by
  have hat : ∀ row ∈ rows, ∃ time : DateTime, time.IsUtc ∧ row.At time := by
    intro row hrow
    obtain ⟨read, hread⟩ := reads_row hfloats h hrow
    exact ⟨read.timestamp, hread.utc, hread.timestamp⟩
  obtain ⟨latest, htime, hutc, hrow, hlast⟩ := latest_event_time hat hne
  refine ⟨latest, ?_, hutc, hrow, fun row hrow read hread => hlast row hrow _ hread.utc hread.timestamp⟩
  simp only [SQLiteAuditReader.latestEventTime, Database.execute, htime]

/-- Rows are in the order of their times. -/
theorem instant_le_of_key_le {row row' : EventRow} {read read' : ReadEvent F} (h : ReadsRow rendering row read)
    (h' : ReadsRow rendering row' read') (hle : row.key ≤ row'.key) : read.timestamp.instant ≤ read'.timestamp.instant := by
  rcases (key_le_iff h.utc h'.utc h.timestamp h'.timestamp).mp hle with hlt | ⟨heq, -⟩
  · exact le_of_lt hlt
  · rw [heq]

/-- **The queries agree.** Of events in UTC, appended in any order: whatever a
page shows is what the detail of its id is, now and after any more are appended;
it is no later than the latest event time, and where nothing is filtered that
is the time of the first event shown, none if there is none. -/
theorem queries_agree (hfloats : Json.Floats.Lawful rendering.toFloats) {events : List (StoredEvent F)}
    (hevents : ∀ event ∈ events, event.Timely) {request : EventRequest} {page : EventPage F}
    (hpage : service.listEvents rendering (.table (insertAll rendering [] events)) request = .ok page) :
    (∀ event ∈ page.items, ∀ more : List (StoredEvent F),
      getEvent rendering (.table (insertAll rendering [] (events ++ more))) event.eventId = .ok (some event)) ∧
    ∃ latest, SQLiteAuditReader.latestEventTime (.table (insertAll rendering [] events)) = .ok latest ∧
      (∀ event ∈ page.items, ∃ time ∈ latest, event.timestamp.instant ≤ time.instant) ∧
      (request.Unfiltered → latest = page.items.head?.map ReadEvent.timestamp) := by
  have hrows : Chronicle rendering (insertAll rendering [] events) := Written.empty.insertAll hevents
  simp only [insertAll_append]
  generalize insertAll rendering [] events = rows at hrows hpage
  obtain ⟨query, hquery, hitems⟩ := items_read hpage
  have hreads : ∀ {row : EventRow} {event : ReadEvent F}, row ∈ rows →
      SQLiteAuditReader.event rendering row = .ok event → ReadsRow rendering row event := by
    intro row event hrow hread
    obtain ⟨read, hreads⟩ := reads_row hfloats hrows hrow
    obtain rfl := Except.ok.inj (hread.symm.trans hreads.event)
    exact hreads
  -- Every event shown was read from a row.
  have hshown : ∀ event ∈ page.items, ∃ row ∈ rows, ReadsRow rendering row event := by
    intro event hevent
    obtain ⟨row, hrow, hread⟩ := forall₂_mem_right hitems hevent
    have hmem : row ∈ rows := mem_select (List.mem_of_mem_take hrow)
    exact ⟨row, hmem, hreads hmem hread⟩
  refine ⟨fun event hevent more => ?_, ?_⟩
  · obtain ⟨row, hrow, hread⟩ := hshown event hevent
    exact getEvent_row ((written_any hrows).insertAll fun _ _ => trivial) (mem_insertAll more hrow) hread.event
  by_cases hempty : rows = []
  · refine ⟨none, ?_, fun event hevent => ?_, fun hunfiltered => ?_⟩
    · rw [hempty]
      simp [SQLiteAuditReader.latestEventTime, Database.execute, SQLiteAuditSink.latestEventTime]
    · obtain ⟨row, hrow, -⟩ := hshown event hevent
      rw [hempty] at hrow
      cases hrow
    · rw [(first_greatest hunfiltered hquery).1 hempty] at hitems
      rw [List.forall₂_nil_left_iff.mp hitems]
      rfl
  · obtain ⟨latest, htime, hutc, ⟨row, hrow, hat⟩, hlast⟩ := latest_of_rows hfloats hrows hempty
    refine ⟨some latest, htime, fun event hevent => ?_, fun hunfiltered => ?_⟩
    · obtain ⟨row, hrow, hread⟩ := hshown event hevent
      exact ⟨latest, rfl, hlast row hrow event hread⟩
    · obtain ⟨greatest, later, htake, hgreatest, hle⟩ := (first_greatest hunfiltered hquery).2 hempty
      rw [htake] at hitems
      obtain ⟨event, shown, hread, -, hpageItems⟩ := List.forall₂_cons_left_iff.mp hitems
      have hfirst : ReadsRow rendering greatest event := hreads hgreatest hread
      obtain ⟨read, hreadRow⟩ := reads_row hfloats hrows hrow
      obtain rfl : latest = read.timestamp :=
        (DateTime.isoText_inj hutc hreadRow.utc).mp (hat.symm.trans hreadRow.timestamp)
      have hup := instant_le_of_key_le hreadRow hfirst (hle row hrow)
      have hdown := hlast greatest hgreatest event hfirst
      rw [hpageItems, List.head?_cons, Option.map_some, hutc.ext hfirst.utc (le_antisymm hup hdown)]

/-- The cursor after the event "b" at noon. -/
def noonCursor : Text := Text.of "WyIyMDI2LTAxLTAxVDEyOjAwOjAwKzAwOjAwIiwiYiJd"

/-- The page after it of what is no warning. -/
def afterNoonCursor : EventRequest := ⟨2, some noonCursor, none, none, none, some .info⟩

def nextQuery : EventQuery := ⟨3, some ⟨⟨noon, some 0⟩, Text.of "b", rfl⟩, none, none, none, some .info⟩

theorem afterNoonCursor_passed : ReadOnlyQueryService.Passed Rendering.decimals afterNoonCursor nextQuery := by
  have hparse : EventCursor.parse Rendering.decimals noonCursor = some (⟨noon, some 0⟩, Text.of "b") := by
    decide +kernel
  refine ⟨fun _ => rfl, rfl, rfl, rfl, ?_, rfl, rfl⟩
  simp only [ReadOnlyQueryService.decodeCursor, afterNoonCursor, EventCursor.decode, hparse]
  rfl

theorem found_nextQuery :
    Keyset.found EventRow.key nextQuery.accepts nextQuery.below ⟨plainRows, 2⟩ =
      [plainRow "a" noon .info, plainRow "d" (noon - 3_600_000_000) .info] := by
  have hfilter : (plainRows.filter fun row => nextQuery.accepts row && nextQuery.below row) =
      [plainRow "a" noon .info, plainRow "d" (noon - 3_600_000_000) .info] := by
    decide +kernel
  rw [Keyset.found, Keyset.descending, hfilter]
  exact List.mergeSort_of_pairwise (by decide +kernel)

/-- The request for all events. -/
def everything : EventRequest := ⟨2, none, none, none, none, none⟩

theorem queries_agree_noon :
    ∃ page first latest, hundred.listEvents Rendering.decimals (.table plainRows) afterNoonCursor = .ok page ∧
      hundred.listEvents Rendering.decimals (.table plainRows) everything = .ok first ∧
      first.items.head?.map ReadEvent.timestamp = some latest ∧
      SQLiteAuditReader.latestEventTime (.table plainRows) = .ok (some latest) ∧
      page.items.map ReadEvent.eventId = [Text.of "a", Text.of "d"] ∧
      (∀ event ∈ page.items, event.timestamp.instant ≤ latest.instant) ∧
      ∀ event ∈ page.items,
        getEvent Rendering.decimals
          (.table (insertAll Rendering.decimals [] (plainEvents ++ [plainEvent "e" (noon + 500_000) .info])))
          event.eventId = .ok (some event) := by
  have hrows : Chronicle Rendering.decimals plainRows := insertAll_plain ▸ Written.empty.insertAll plainEvents_timely
  have hturn : (⟨2, []⟩ : Turn Json.Decimal).Allowed hundred := ⟨by decide, by decide, by simp⟩
  obtain ⟨page, hpage, hshows⟩ :=
    request_shows Rendering.decimals_lawful hrows afterNoonCursor_passed hturn (by decide +kernel)
  have hpassed : ReadOnlyQueryService.Passed Rendering.decimals everything ⟨3, none, none, none, none, none⟩ :=
    ⟨by decide, rfl, rfl, rfl, rfl, rfl, rfl⟩
  obtain ⟨first, hfirst, -⟩ := request_shows Rendering.decimals_lawful hrows hpassed hturn (by decide)
  have hpage' : hundred.listEvents Rendering.decimals (.table (insertAll Rendering.decimals [] plainEvents))
      afterNoonCursor = .ok page := by
    rw [insertAll_plain]
    exact hpage
  have hfirst' : hundred.listEvents Rendering.decimals (.table (insertAll Rendering.decimals [] plainEvents))
      everything = .ok first := by
    rw [insertAll_plain]
    exact hfirst
  obtain ⟨hdetail, latest, hlatest, hlast, -⟩ :=
    queries_agree Rendering.decimals_lawful plainEvents_timely hpage'
  obtain ⟨-, latest', hlatest', -, hhead⟩ := queries_agree Rendering.decimals_lawful plainEvents_timely hfirst'
  obtain rfl := Except.ok.inj (hlatest.symm.trans hlatest')
  have hitems : page.items.map ReadEvent.eventId = [Text.of "a", Text.of "d"] := by
    have hread := hshows.items
    rw [show (2 : Int).toNat = 2 from rfl, found_nextQuery] at hread
    obtain ⟨first, rest, hfirst, hrest, hpageItems⟩ := List.forall₂_cons_left_iff.mp hread
    obtain ⟨second, later, hsecond, hlater, hrestItems⟩ := List.forall₂_cons_left_iff.mp hrest
    rw [List.forall₂_nil_left_iff.mp hlater] at hrestItems
    rw [hpageItems, hrestItems, List.map_cons, List.map_cons, List.map_nil, ← hfirst.eventId, ← hsecond.eventId]
    rfl
  rw [insertAll_plain] at hlatest
  cases latest with
  | none =>
    have hempty : page.items = [] := by
      refine List.eq_nil_iff_forall_not_mem.mpr fun event hevent => ?_
      obtain ⟨time, ⟨⟩, -⟩ := hlast event hevent
    rw [hempty] at hitems
    cases hitems
  | some latest =>
    refine ⟨page, first, latest, hpage, hfirst, (hhead ⟨rfl, rfl, rfl, rfl, rfl⟩).symm, hlatest, hitems, fun event hevent => ?_, fun event hevent => hdetail event hevent _⟩
    obtain ⟨time, htime, hle⟩ := hlast event hevent
    obtain rfl := Option.some.inj htime
    exact hle

end Bridgewire
