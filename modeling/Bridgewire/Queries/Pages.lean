import Bridgewire.Keyset
import Bridgewire.Queries.Chronology
import Bridgewire.Queries.Service

/-!
# Following the cursors

The pages of the service are pages by key over the rows: a cursor that has been
handed out is decoded to the key of the last row. So events are returned in
order and once, whatever is appended in between.
-/

namespace Bridgewire

open SQLiteAuditSink ReadOnlyQueryService

variable {F : Type} {rendering : Rendering F}

-- ---------------------------------------------------------------------------
-- Rows of events in UTC
-- ---------------------------------------------------------------------------

/-- An event as the clocks and the sink make it. -/
structure StoredEvent.Timely (event : StoredEvent F) : Prop where
  utc : event.timestamp.IsUtc
  named : event.eventId ≠ []

/-- A table of such events. -/
abbrev Chronicle (rendering : Rendering F) (rows : List EventRow) : Prop :=
  Written rendering StoredEvent.Timely rows

theorem encodeUtf8_chars {text : Text} {encoded : List Byte} (h : Encodings.encodeUtf8 text = some encoded) :
    ∃ chars, text = Text.ofChars chars := by
  induction text generalizing encoded with
  | nil => exact ⟨[], rfl⟩
  | cons c rest ih =>
    cases c with
    | surrogate n => cases h
    | char c =>
      obtain ⟨tail, htail, -⟩ := Option.map_eq_some_iff.mp h
      obtain ⟨chars, rfl⟩ := ih htail
      exact ⟨c :: chars, rfl⟩

/-- What has been bound has no surrogates. -/
theorem bound_single {text : Text} (h : Sqlite.bindText text = .ok ()) : text.hasPair = false := by
  unfold Sqlite.bindText at h
  split at h
  · cases h
  · rename_i encoded hencoded
    obtain ⟨chars, rfl⟩ := encodeUtf8_chars hencoded
    exact Text.hasPair_ofChars chars

/-- What is read from a row of the table, and that its texts can be bound again. -/
structure ReadsRow (rendering : Rendering F) (row : EventRow) (read : ReadEvent F) : Prop where
  event : SQLiteAuditReader.event rendering row = .ok read
  utc : read.timestamp.IsUtc
  timestamp : row.timestamp = isoText read.timestamp
  eventId : row.eventId = read.eventId
  eventType : row.eventType = Text.of read.eventType.value
  severity : row.severity = Text.of read.severity.value
  named : read.eventId ≠ []
  boundTimestamp : Sqlite.bindText row.timestamp = .ok ()
  boundId : Sqlite.bindText row.eventId = .ok ()

theorem reads_row (hfloats : Json.Floats.Lawful rendering.toFloats) {rows : List EventRow}
    (h : Chronicle rendering rows) {row : EventRow} (hrow : row ∈ rows) : ∃ read, ReadsRow rendering row read := by
  obtain ⟨event, htimely, happend⟩ := h.stored row hrow
  obtain ⟨read, hread, hfrom⟩ := event_append hfloats htimely.utc.representable happend
  obtain ⟨correlation, -, hbindable, hfields⟩ := append_row happend
  have hbound {text : Text} (hmem : some text ∈ row.texts) : Sqlite.bindText text = .ok () :=
    of_decide_eq_true (List.all_eq_true.mp hbindable (some text) hmem)
  refine ⟨read, hread, hfrom.timestamp ▸ htimely.utc, ?_, ?_, ?_, ?_, hfrom.eventId ▸ htimely.named, hbound (by simp [EventRow.texts]),
    hbound (by simp [EventRow.texts])⟩
  · rw [hfields, hfrom.timestamp]
    rfl
  · rw [hfields, hfrom.eventId]
  · rw [hfields, hfrom.eventType]
  · rw [hfields, hfrom.severity]

-- ---------------------------------------------------------------------------
-- A query as a page by key
-- ---------------------------------------------------------------------------

namespace EventQuery

/-- The filters that stay the same from page to page. -/
def accepts (query : EventQuery) (row : EventRow) : Bool := { query with before := none }.filters row

/-- Those that a cursor takes the place of, and the cursor. -/
def below (query : EventQuery) (row : EventRow) : Bool :=
  query.before.all (fun before => Sqlite.less row.timestamp (isoText before)) && query.continues row

theorem filters_continues (query : EventQuery) (row : EventRow) :
    (query.filters row && query.continues row) = (query.accepts row && query.below row) := by
  simp only [filters, accepts, below, Option.all_none, Bool.true_and]
  generalize query.before.all (fun before => Sqlite.less row.timestamp (isoText before)) = before
  cases before <;> simp

theorem sorted_eq (query : EventQuery) (rows : List EventRow) (limit : Nat) :
    query.sorted rows = Keyset.found EventRow.key query.accepts query.below ⟨rows, limit⟩ := by
  rw [sorted, Keyset.found, Keyset.descending, List.filter_congr fun row _ => query.filters_continues row]

/-- One more than the page has. -/
theorem select_eq {query : EventQuery} {limit : Int} (hpositive : 0 < limit) (hlimit : query.limit = limit + 1)
    (rows : List EventRow) :
    query.select rows =
      (Keyset.found EventRow.key query.accepts query.below ⟨rows, limit.toNat⟩).take (limit.toNat + 1) := by
  have hnat : query.limit.toNat = limit.toNat + 1 := by omega
  rw [select, if_neg (by omega), sorted_eq query rows limit.toNat, hnat]

theorem below_down (query : EventQuery) (h : query.cursor = none) : Keyset.Down EventRow.key query.below := by
  intro row row' hlt hbelow
  simp only [below, continues, h, Option.all_none, Bool.and_true] at hbelow ⊢
  cases hbefore : query.before with
  | none => rfl
  | some before =>
    rw [hbefore] at hbelow
    have hle : Encodings.bytes row.timestamp ≤ Encodings.bytes row'.timestamp := by
      rcases Prod.Lex.toLex_lt_toLex.mp hlt with hfirst | ⟨heq, -⟩
      · exact le_of_lt hfirst
      · exact le_of_eq heq
    have hless : Encodings.bytes row'.timestamp < Encodings.bytes (isoText before) := of_decide_eq_true hbelow
    exact decide_eq_true (lt_of_le_of_lt hle hless)

/-- A cursor at a row continues below its key. -/
theorem below_cursor {query : EventQuery} {cursor : EventCursor} {last : EventRow} (hbefore : query.before = none)
    (hcursor : query.cursor = some cursor) (htimestamp : isoText cursor.timestamp = last.timestamp)
    (hid : cursor.eventId = last.eventId) : query.below = fun row : EventRow => row.key < last.key := by
  funext row
  rw [Bool.eq_iff_iff, decide_eq_true_eq]
  simp only [below, continues, hbefore, hcursor, Option.all_none, Option.all_some, Bool.true_and, htimestamp, hid,
    Bool.or_eq_true, Bool.and_eq_true, decide_eq_true_eq, Sqlite.less, EventRow.key, Prod.Lex.toLex_lt_toLex]
  exact or_congr Iff.rfl (and_congr ⟨congrArg Encodings.bytes, Encodings.bytes_inj⟩ Iff.rfl)

end EventQuery

theorem key_inj {row row' : EventRow} (h : row.key = row'.key) : row.eventId = row'.eventId :=
  Encodings.bytes_inj (congrArg (fun key => (ofLex key).2) h)

theorem Written.keys {P : StoredEvent F → Prop} {rows : List EventRow} (h : Written rendering P rows) :
    (rows.map EventRow.key).Nodup := by
  have hids := h.nodup
  rw [List.Nodup, List.pairwise_map] at hids ⊢
  exact hids.imp fun hne heq => hne (key_inj heq)

-- ---------------------------------------------------------------------------
-- One page
-- ---------------------------------------------------------------------------

/-- A cursor that stands at a row. -/
structure EventCursor.At (cursor : EventCursor) (row : EventRow) : Prop where
  timestamp : isoText cursor.timestamp = row.timestamp
  eventId : cursor.eventId = row.eventId

/-- The page shows these rows, the first of all that were found. -/
structure ShowsPage (rendering : Rendering F) (found : List EventRow) (limit : Nat) (page : EventPage F) : Prop where
  items : List.Forall₂ (ReadsRow rendering) (found.take limit) page.items
  last : found.length ≤ limit → page.nextCursor = none
  more : limit < found.length → ∀ row, (found.take limit).getLast? = some row →
    ∃ text cursor, page.nextCursor = some text ∧
      EventCursor.decode rendering (Text.ofChars text) = .ok cursor ∧ cursor.At row

theorem hasUtc_of_isUtc {time : DateTime} (h : time.IsUtc) : time.hasUtc = true := by
  rw [DateTime.hasUtc, h.instant, Bool.and_eq_true_iff]
  exact ⟨decide_eq_true h.first, decide_eq_true h.last⟩

/-- The cursor after an item is decoded to stand at the row of the item. -/
theorem cursor_at (hfloats : Json.Floats.Lawful rendering.toFloats) {row : EventRow} {read : ReadEvent F}
    (h : ReadsRow rendering row read) :
    ∃ text cursor, EventCursor.encode rendering ⟨read.timestamp, read.eventId, read.aware⟩ = .ok text ∧
      EventCursor.decode rendering (Text.ofChars text) = .ok cursor ∧ cursor.At row := by
  have hjoined : read.eventId.joined = read.eventId :=
    Text.joined_of_hasPair (h.eventId ▸ bound_single h.boundId)
  have hutc : (⟨read.timestamp.instant, some 0⟩ : DateTime) = read.timestamp := by
    rw [h.utc.instant, ← h.utc.utc]
  obtain ⟨text, hencode, -, hdecode⟩ := EventCursor.decode_encoded hfloats
    (show (⟨read.timestamp, read.eventId, read.aware⟩ : EventCursor).timestamp.hasUtc = true from hasUtc_of_isUtc h.utc)
    (by rw [hjoined]; exact h.named)
  refine ⟨text, ⟨⟨read.timestamp.instant, some 0⟩, read.eventId.joined, rfl⟩, hencode, hdecode, ?_, ?_⟩
  · exact (congrArg isoText hutc).trans h.timestamp.symm
  · exact hjoined.trans h.eventId.symm

theorem getLast?_forall₂ {α β : Type} {R : α → β → Prop} {items : List α} {results : List β}
    (h : List.Forall₂ R items results) {a : α} (ha : items.getLast? = some a) :
    ∃ b, results.getLast? = some b ∧ R a b := by
  induction h with
  | nil => cases ha
  | @cons first result rest results' hfirst hrest ih =>
    cases hrest with
    | nil =>
      obtain rfl := Option.some.inj ha
      exact ⟨result, rfl, hfirst⟩
    | cons hsecond hlater =>
      rw [List.getLast?_cons_cons] at ha ⊢
      exact ih ha

/-- From what the reader returns, one more than the page has, the page is made. -/
theorem page_shows (hfloats : Json.Floats.Lawful rendering.toFloats) {found : List EventRow} {limit : Nat}
    (hpositive : 0 < limit) {events : List (ReadEvent F)}
    (h : List.Forall₂ (ReadsRow rendering) (found.take (limit + 1)) events) :
    ∃ page, ReadOnlyQueryService.page rendering limit events = .ok page ∧ ShowsPage rendering found limit page := by
  have hitems : List.Forall₂ (ReadsRow rendering) (found.take limit) (events.take limit) := by
    have htake := List.forall₂_take limit h
    rwa [List.take_take, Nat.min_eq_left (Nat.le_succ limit)] at htake
  have hlength : events.length = min (limit + 1) found.length := by rw [← h.length_eq, List.length_take]
  unfold ReadOnlyQueryService.page
  by_cases hmore : limit < found.length
  · obtain ⟨row, hrow⟩ : ∃ row, (found.take limit).getLast? = some row := by
      rw [← Option.isSome_iff_exists, List.getLast?_isSome, ← List.length_pos_iff, List.length_take]
      omega
    obtain ⟨read, hread, hreads⟩ := getLast?_forall₂ hitems hrow
    obtain ⟨text, cursor, hencode, hdecode, hat⟩ := cursor_at hfloats hreads
    simp only [hread, if_pos (show limit < events.length by omega), hencode]
    refine ⟨_, rfl, hitems, fun hle => absurd hmore (Nat.not_lt.mpr hle), fun _ row' hrow' => ?_⟩
    obtain rfl := Option.some.inj (hrow.symm.trans hrow')
    exact ⟨text, cursor, rfl, hdecode, hat⟩
  · have hall : ¬limit < events.length := by omega
    cases (events.take limit).getLast? with
    | none => exact ⟨_, rfl, hitems, fun _ => rfl, fun h => absurd h hmore⟩
    | some last =>
      simp only [if_neg hall]
      exact ⟨_, rfl, hitems, fun _ => rfl, fun h => absurd h hmore⟩

/-- Of a table of such events the reader returns the rows it selects, if it returns any. -/
theorem listEvents_reads (hfloats : Json.Floats.Lawful rendering.toFloats) {rows : List EventRow}
    (hrows : Chronicle rendering rows) {query : EventQuery} (hbind : query.bind = .ok ()) :
    ∃ events, SQLiteAuditReader.listEvents rendering (.table rows) query = .ok events ∧
      List.Forall₂ (ReadsRow rendering) (query.select rows) events := by
  have hdated : Written rendering Dated rows :=
    ⟨hrows.nodup, fun row hrow => by
      obtain ⟨event, htimely, happend⟩ := hrows.stored row hrow
      exact ⟨event, htimely.utc.representable, happend⟩⟩
  obtain ⟨events, hevents, hforall⟩ := hdated.listEvents hfloats hbind
  refine ⟨events, hevents, ?_⟩
  have hmem : ∀ row ∈ query.select rows, row ∈ rows := fun _ => mem_select
  refine (List.forall₂_and_left _ events |>.mpr ⟨hmem, hforall⟩).imp ?_
  rintro row read ⟨hrow, hread⟩
  obtain ⟨read', hreads⟩ := reads_row hfloats hrows hrow
  obtain rfl := Except.ok.inj (hread.symm.trans hreads.event)
  exact hreads

-- ---------------------------------------------------------------------------
-- Parameters
-- ---------------------------------------------------------------------------

theorem bindTexts_ok_iff {texts : List Text} :
    Sqlite.bindTexts texts = .ok () ↔ ∀ text ∈ texts, Sqlite.bindText text = .ok () := by
  induction texts with
  | nil => simp [Sqlite.bindTexts]
  | cons text rest ih =>
    rw [Sqlite.bindTexts, List.forall_mem_cons, ← ih]
    cases Sqlite.bindText text with
    | error e => simp
    | ok done => simp

theorem bind_ok_iff {query : EventQuery} :
    query.bind = .ok () ↔ (∀ text ∈ query.texts, Sqlite.bindText text = .ok ()) ∧ Sqlite.bindInt query.limit = .ok () := by
  rw [EventQuery.bind, ← bindTexts_ok_iff]
  cases Sqlite.bindTexts query.texts with
  | error e => simp
  | ok done => simp

theorem bindInt_ok {n : Int} (hpositive : 0 < n) (hlimit : n < 2 ^ 63) : Sqlite.bindInt n = .ok () :=
  if_pos ⟨by omega, hlimit⟩

/-- Only the cursor of the next query is new. -/
theorem texts_next {query : EventQuery} (htexts : ∀ text ∈ query.texts, Sqlite.bindText text = .ok ())
    {cursor : EventCursor} {row : EventRow} (hat : cursor.At row) (htimestamp : Sqlite.bindText row.timestamp = .ok ())
    (hid : Sqlite.bindText row.eventId = .ok ()) :
    ∀ text ∈ ({ query with cursor := some cursor, before := none } : EventQuery).texts,
      Sqlite.bindText text = .ok () := by
  intro text htext
  simp only [EventQuery.texts, EventQuery.cursorTexts, Option.map_none, Option.toList_none, List.nil_append,
    List.mem_append, List.mem_cons, List.not_mem_nil, or_false] at htext
  rcases htext with hold | hnew
  · exact htexts text (by simp only [EventQuery.texts, List.mem_append]; tauto)
  · rw [hat.timestamp, hat.eventId] at hnew
    rcases hnew with rfl | rfl | rfl
    · exact htimestamp
    · exact htimestamp
    · exact hid

-- ---------------------------------------------------------------------------
-- The walk
-- ---------------------------------------------------------------------------

/-- The limit of a request, and the events that are appended before the next one. -/
structure Turn (F : Type) where
  limit : Int
  appended : List (StoredEvent F)

/-- The pages, each with the cursor of the one before, and whether the last one has none. -/
def follow (service : ReadOnlyQueryService) (rendering : Rendering F) :
    List EventRow → EventRequest → List (Turn F) → Except QueryError (List (EventPage F) × Bool)
  | _, _, [] => .ok ([], false)
  | rows, request, turn :: rest =>
    match service.listEvents rendering (.table rows) { request with limit := turn.limit } with
    | .error e => .error e
    | .ok page =>
      match page.nextCursor with
      | none => .ok ([page], true)
      | some cursor =>
        match follow service rendering (insertAll rendering rows turn.appended)
            { request with cursor := some (Text.ofChars cursor), before := none } rest with
        | .error e => .error e
        | .ok later => .ok (page :: later.1, later.2)

/-- The tables that the requests find. -/
def rounds (rendering : Rendering F) : List EventRow → List (Turn F) → List (Keyset.Round EventRow)
  | _, [] => []
  | rows, turn :: rest => ⟨rows, turn.limit.toNat⟩ :: rounds rendering (insertAll rendering rows turn.appended) rest

/-- A turn whose limit the service allows, and before whose next one such events are appended. -/
structure Turn.Allowed (service : ReadOnlyQueryService) (turn : Turn F) : Prop where
  positive : 0 < turn.limit
  maximum : turn.limit ≤ service.maximumEventPageSize
  appended : ∀ event ∈ turn.appended, event.Timely

variable {service : ReadOnlyQueryService}

theorem passed_limit {request : EventRequest} {query : EventQuery} (h : Passed rendering request query) (limit limit' : Int) :
    Passed rendering { request with limit := limit } { query with limit := limit' } :=
  ⟨h.single, h.before, h.after, h.ordered, h.cursor, h.eventType, h.severity⟩

/-- The request after a page is passed on with the cursor at its last row. -/
theorem passed_next {request : EventRequest} {query : EventQuery} (h : Passed rendering request query) {text : List Char}
    {cursor : EventCursor} (hdecode : EventCursor.decode rendering (Text.ofChars text) = .ok cursor) :
    Passed rendering { request with cursor := some (Text.ofChars text), before := none }
      { query with cursor := some cursor, before := none } where
  single _ := rfl
  before := rfl
  after := h.after
  ordered := rfl
  cursor := by simp only [decodeCursor, hdecode]
  eventType := h.eventType
  severity := h.severity

/-- A request that is passed on and whose parameters can be bound is answered with the page. -/
theorem request_shows (hfloats : Json.Floats.Lawful rendering.toFloats) {rows : List EventRow}
    (hrows : Chronicle rendering rows) {request : EventRequest} {query : EventQuery} (h : Passed rendering request query)
    {turn : Turn F} (hturn : turn.Allowed service)
    (hbind : ({ query with limit := turn.limit + 1 } : EventQuery).bind = .ok ()) :
    ∃ page, service.listEvents rendering (.table rows) { request with limit := turn.limit } = .ok page ∧
      ShowsPage rendering (Keyset.found EventRow.key query.accepts query.below ⟨rows, turn.limit.toNat⟩) turn.limit.toNat
        page := by
  have hpassed := passed_limit h turn.limit (turn.limit + 1)
  obtain ⟨events, hevents, hreads⟩ := listEvents_reads hfloats hrows hbind
  rw [EventQuery.select_eq hturn.positive rfl] at hreads
  obtain ⟨page, hpage, hshows⟩ := page_shows hfloats (by have := hturn.positive; omega) hreads
  refine ⟨page, listEvents_ok_iff.mpr ⟨_, events, query_ok_iff.mpr ?_, hevents, hpage⟩, hshows⟩
  exact ⟨hturn.positive, hturn.maximum, rfl, hpassed⟩

/-- A page that has been returned was asked for with parameters that can be bound. -/
theorem bind_of_listEvents {rows : List EventRow} {request : EventRequest} {query : EventQuery}
    (h : Passed rendering request query) {limit : Int} {page : EventPage F}
    (hpage : service.listEvents rendering (.table rows) { request with limit := limit } = .ok page) :
    ({ query with limit := limit + 1 } : EventQuery).bind = .ok () := by
  obtain ⟨asked, events, hasked, hevents, -⟩ := listEvents_ok_iff.mp hpage
  obtain ⟨hpositive, hmaximum, -, -⟩ := query_ok_iff.mp hasked
  have hquery : service.query rendering { request with limit := limit } = .ok { query with limit := limit + 1 } :=
    query_ok_iff.mpr ⟨hpositive, hmaximum, rfl, passed_limit h limit (limit + 1)⟩
  obtain rfl := Except.ok.inj (hasked.symm.trans hquery)
  cases hbind : ({ query with limit := limit + 1 } : EventQuery).bind with
  | ok done => rfl
  | error e => cases e <;> simp [SQLiteAuditReader.listEvents, Database.execute, hbind] at hevents

/-- The pages of the service are those by key, item by item. -/
structure Follows (rendering : Rendering F) (pages : List (List EventRow) × Bool) (result : List (EventPage F) × Bool) :
    Prop where
  items : List.Forall₂ (fun rows page => List.Forall₂ (ReadsRow rendering) rows page.items) pages.1 result.1
  ended : result.2 = pages.2

theorem follow_pages (hfloats : Json.Floats.Lawful rendering.toFloats) {turns : List (Turn F)}
    (hturns : ∀ turn ∈ turns, turn.Allowed service) {rows : List EventRow} (hrows : Chronicle rendering rows)
    {request : EventRequest} {query : EventQuery} (h : Passed rendering request query)
    (htexts : ∀ text ∈ query.texts, Sqlite.bindText text = .ok ()) :
    (∀ result, follow service rendering rows request turns = .ok result →
        Follows rendering (Keyset.pages EventRow.key query.accepts query.below (rounds rendering rows turns)) result) ∧
      ((∀ turn ∈ turns, turn.limit + 1 < 2 ^ 63) → ∃ result, follow service rendering rows request turns = .ok result) := by
  induction turns generalizing rows request query with
  | nil =>
    refine ⟨fun result hresult => ?_, fun _ => ⟨_, rfl⟩⟩
    obtain rfl := Except.ok.inj hresult
    exact ⟨.nil, rfl⟩
  | cons turn rest ih =>
    obtain ⟨hturn, hrest⟩ := List.forall_mem_cons.mp hturns
    have hlater := hrows.insertAll hturn.appended
    have hpositive : 0 < turn.limit.toNat := by have := hturn.positive; omega
    -- The request is answered once its limit can be bound.
    have hstep (hlimit : Sqlite.bindInt (turn.limit + 1) = .ok ()) :
        ∃ page, service.listEvents rendering (.table rows) { request with limit := turn.limit } = .ok page ∧
          ShowsPage rendering (Keyset.found EventRow.key query.accepts query.below ⟨rows, turn.limit.toNat⟩)
            turn.limit.toNat page :=
      request_shows hfloats hrows h hturn (bind_ok_iff.mpr ⟨htexts, hlimit⟩)
    have hdone (page : EventPage F)
        (hpage : service.listEvents rendering (.table rows) { request with limit := turn.limit } = .ok page)
        (hshows : ShowsPage rendering (Keyset.found EventRow.key query.accepts query.below ⟨rows, turn.limit.toNat⟩)
          turn.limit.toNat page) :
        (∀ result, follow service rendering rows request (turn :: rest) = .ok result →
            Follows rendering
              (Keyset.pages EventRow.key query.accepts query.below (rounds rendering rows (turn :: rest))) result) ∧
          ((∀ turn ∈ rest, turn.limit + 1 < 2 ^ 63) →
            ∃ result, follow service rendering rows request (turn :: rest) = .ok result) := by
      rcases @Keyset.more_or_last _ _ _ EventRow.key query.accepts query.below
          ⟨rows, turn.limit.toNat⟩ hpositive with hend | ⟨hmore, row, hrow⟩
      · have hfollow : follow service rendering rows request (turn :: rest) = .ok ([page], true) := by
          simp only [follow, hpage, hshows.last hend]
        refine ⟨fun result hresult => ?_, fun _ => ⟨_, hfollow⟩⟩
        obtain rfl := Except.ok.inj (hfollow.symm.trans hresult)
        have hitems := hshows.items
        rw [List.take_of_length_le hend] at hitems
        rw [rounds, Keyset.pages_cons_last hend]
        exact ⟨.cons hitems .nil, rfl⟩
      · obtain ⟨text, cursor, hnext, hdecode, hat⟩ := hshows.more hmore row hrow
        have hfound := Keyset.mem_found.mp (List.mem_of_mem_take (List.mem_of_getLast? hrow))
        obtain ⟨read, hread⟩ := reads_row hfloats hrows hfound.1
        have hbelow : ({ query with cursor := some cursor, before := none } : EventQuery).below =
            fun row' : EventRow => row'.key < row.key :=
          EventQuery.below_cursor rfl rfl hat.timestamp hat.eventId
        obtain ⟨hall, hexists⟩ := ih hrest hlater (passed_next h hdecode)
          (texts_next htexts hat hread.boundTimestamp hread.boundId)
        rw [hbelow] at hall
        refine ⟨fun result hresult => ?_, fun hlimits => ?_⟩
        · simp only [follow, hpage, hnext] at hresult
          split at hresult
          · cases hresult
          · rename_i later hfollow
            obtain rfl := Except.ok.inj hresult
            obtain ⟨hitems, hended⟩ := hall later hfollow
            rw [rounds, Keyset.pages_cons_more hrow hmore]
            exact ⟨.cons hshows.items hitems, hended⟩
        · obtain ⟨later, hfollow⟩ := hexists hlimits
          exact ⟨(page :: later.1, later.2), by simp only [follow, hpage, hnext, hfollow]⟩
    refine ⟨fun result hresult => ?_, fun hlimits => ?_⟩
    · obtain ⟨page, hpage⟩ : ∃ page,
          service.listEvents rendering (.table rows) { request with limit := turn.limit } = .ok page := by
        unfold follow at hresult
        split at hresult
        · cases hresult
        · rename_i page hpage
          exact ⟨page, hpage⟩
      obtain ⟨page', hpage', hshows⟩ := hstep (bind_ok_iff.mp (bind_of_listEvents h hpage)).2
      exact (hdone page' hpage' hshows).1 result hresult
    · obtain ⟨hlimit, hlimits⟩ := List.forall_mem_cons.mp hlimits
      obtain ⟨page, hpage, hshows⟩ := hstep (bindInt_ok (by have := hturn.positive; omega) hlimit)
      exact (hdone page hpage hshows).2 hlimits

end Bridgewire
