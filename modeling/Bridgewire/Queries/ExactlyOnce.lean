import Bridgewire.Queries.Pages

/-!
# Every event exactly once

Whoever follows the cursors gets every event that the request asks for and that
was there at the first page, once and in order.
-/

namespace Bridgewire

open SQLiteAuditSink ReadOnlyQueryService

variable {F : Type} {rendering : Rendering F} {service : ReadOnlyQueryService}

/-- What a request asks for. -/
structure EventRequest.Matches (request : EventRequest) (event : ReadEvent F) : Prop where
  before : ∀ before ∈ request.before, event.timestamp.instant < before.instant
  after : ∀ after ∈ request.after, after.instant < event.timestamp.instant
  eventType : ∀ eventType ∈ request.eventType, event.eventType = eventType
  severity : ∀ severity ∈ request.severity, event.severity = severity

theorem normalizeTime_ok {value normalized : Option DateTime} {field : String}
    (h : normalizeTime value field = .ok normalized) :
    value = none ∧ normalized = none ∨
      ∃ time, value = some time ∧ time.hasUtc = true ∧ normalized = some ⟨time.instant, some 0⟩ := by
  unfold normalizeTime at h
  cases value with
  | none => exact .inl ⟨rfl, (Except.ok.inj h).symm⟩
  | some time =>
    refine .inr ⟨time, rfl, ?_⟩
    dsimp only at h
    split at h
    · cases h
    · unfold DateTime.astimezone at h
      by_cases hutc : time.hasUtc = true
      · rw [if_pos hutc] at h
        exact ⟨hutc, (Except.ok.inj h).symm⟩
      · rw [if_neg hutc] at h
        cases h

theorem eventType_value_inj {a b : EventType} (h : Text.of a.value = Text.of b.value) : a = b := by
  have hread := EventType.ofValue_value a
  rw [h, EventType.ofValue_value] at hread
  exact (Option.some.inj hread).symm

theorem severity_value_inj {a b : Severity} (h : Text.of a.value = Text.of b.value) : a = b := by
  have hread := Severity.ofValue_value a
  rw [h, Severity.ofValue_value] at hread
  exact (Option.some.inj hread).symm

/-- The statement selects the rows of the events that the request asks for. -/
theorem matches_iff {request : EventRequest} {query : EventQuery} (h : Passed rendering request query)
    (hcursor : request.cursor = none) {row : EventRow} {read : ReadEvent F} (hread : ReadsRow rendering row read) :
    query.accepts row = true ∧ query.below row = true ↔ request.Matches read := by
  have hnone : query.cursor = none := by
    have hdecode := h.cursor
    rw [hcursor] at hdecode
    exact (Except.ok.inj hdecode).symm
  have hutc (time : DateTime) (h : time.hasUtc = true) : DateTime.instant ⟨time.instant, some 0⟩ = time.instant := by
    simp [DateTime.instant]
  have hbefore : query.before.all (fun before => Sqlite.less row.timestamp (isoText before)) = true ↔
      ∀ before ∈ request.before, read.timestamp.instant < before.instant := by
    rcases normalizeTime_ok h.before with ⟨hvalue, hnormalized⟩ | ⟨time, hvalue, htime, hnormalized⟩
    · simp [hvalue, hnormalized]
    · simp [hvalue, hnormalized, Sqlite.less, hread.timestamp,
        DateTime.bytes_isoText_lt_iff hread.utc (EventCursor.utc_isUtc htime), hutc time htime]
  have hafter : query.after.all (fun after => Sqlite.less (isoText after) row.timestamp) = true ↔
      ∀ after ∈ request.after, after.instant < read.timestamp.instant := by
    rcases normalizeTime_ok h.after with ⟨hvalue, hnormalized⟩ | ⟨time, hvalue, htime, hnormalized⟩
    · simp [hvalue, hnormalized]
    · simp [hvalue, hnormalized, Sqlite.less, hread.timestamp,
        DateTime.bytes_isoText_lt_iff (EventCursor.utc_isUtc htime) hread.utc, hutc time htime]
  have htype : query.eventType.all (fun eventType => row.eventType = Text.of eventType.value) = true ↔
      ∀ eventType ∈ request.eventType, read.eventType = eventType := by
    rw [h.eventType, hread.eventType]
    cases request.eventType with
    | none => simp
    | some eventType =>
      simp only [Option.all_some, decide_eq_true_eq, Option.mem_def, Option.some.injEq, forall_eq']
      exact ⟨eventType_value_inj, fun heq => by rw [heq]⟩
  have hseverity : query.severity.all (fun severity => row.severity = Text.of severity.value) = true ↔
      ∀ severity ∈ request.severity, read.severity = severity := by
    rw [h.severity, hread.severity]
    cases request.severity with
    | none => simp
    | some severity =>
      simp only [Option.all_some, decide_eq_true_eq, Option.mem_def, Option.some.injEq, forall_eq']
      exact ⟨severity_value_inj, fun heq => by rw [heq]⟩
  simp only [EventQuery.accepts, EventQuery.filters, EventQuery.below, EventQuery.continues, hnone, Option.all_none,
    Bool.true_and, Bool.and_true, Bool.and_eq_true, hbefore, hafter, htype, hseverity]
  constructor
  · rintro ⟨⟨⟨hafter, htype⟩, hseverity⟩, hbefore⟩
    exact ⟨hbefore, hafter, htype, hseverity⟩
  · rintro ⟨hbefore, hafter, htype, hseverity⟩
    exact ⟨⟨⟨hafter, htype⟩, hseverity⟩, hbefore⟩

-- ---------------------------------------------------------------------------
-- The rounds
-- ---------------------------------------------------------------------------

/-- The table after all turns. -/
def lastRows (rendering : Rendering F) (rows : List EventRow) (turns : List (Turn F)) : List EventRow :=
  turns.foldl (fun rows turn => insertAll rendering rows turn.appended) rows

theorem subset_lastRows (rows : List EventRow) (turns : List (Turn F)) : rows ⊆ lastRows rendering rows turns := by
  induction turns generalizing rows with
  | nil => exact fun _ h => h
  | cons turn rest ih => exact fun row hrow => ih _ (mem_insertAll turn.appended hrow)

theorem lastRows_chronicle {rows : List EventRow} (h : Chronicle rendering rows) {turns : List (Turn F)}
    (hturns : ∀ turn ∈ turns, turn.Allowed service) : Chronicle rendering (lastRows rendering rows turns) := by
  induction turns generalizing rows with
  | nil => exact h
  | cons turn rest ih =>
    obtain ⟨hturn, hrest⟩ := List.forall_mem_cons.mp hturns
    exact ih (h.insertAll hturn.appended) hrest

/-- Between the first rows and the last, with a key each. -/
theorem rounds_sound {rows : List EventRow} (h : Chronicle rendering rows) {turns : List (Turn F)}
    (hturns : ∀ turn ∈ turns, turn.Allowed service) :
    ∀ round ∈ rounds rendering rows turns, round.Sound EventRow.key ∧ rows ⊆ round.items ∧
      round.items ⊆ lastRows rendering rows turns := by
  induction turns generalizing rows with
  | nil => simp [rounds]
  | cons turn rest ih =>
    obtain ⟨hturn, hrest⟩ := List.forall_mem_cons.mp hturns
    have hpositive := hturn.positive
    rw [rounds, List.forall_mem_cons]
    refine ⟨⟨⟨h.keys, by simp only; omega⟩, fun _ h => h, subset_lastRows rows (turn :: rest)⟩, fun round hround => ?_⟩
    obtain ⟨hsound, hfirst, hlast⟩ := ih (h.insertAll hturn.appended) hrest round hround
    exact ⟨hsound, fun row hrow => hfirst (mem_insertAll turn.appended hrow), hlast⟩

theorem length_rounds (rows : List EventRow) (turns : List (Turn F)) :
    (rounds rendering rows turns).length = turns.length := by
  induction turns generalizing rows with
  | nil => rfl
  | cons turn rest ih => simp [rounds, ih]

-- ---------------------------------------------------------------------------
-- Items and rows
-- ---------------------------------------------------------------------------

theorem forall₂_flatMap {α β γ : Type} {R : α → β → Prop} {items : γ → List β} {rows : List (List α)}
    {pages : List γ} (h : List.Forall₂ (fun rows page => List.Forall₂ R rows (items page)) rows pages) :
    List.Forall₂ R rows.flatten (pages.flatMap items) := by
  induction h with
  | nil => exact .nil
  | cons hfirst hrest ih =>
    rw [List.flatten_cons, List.flatMap_cons]
    exact List.rel_append hfirst ih

theorem forall₂_mem_left {α β : Type} {R : α → β → Prop} {items : List α} {results : List β}
    (h : List.Forall₂ R items results) {a : α} (ha : a ∈ items) : ∃ b ∈ results, R a b := by
  induction h with
  | nil => cases ha
  | @cons first result rest results hfirst hrest ih =>
    rcases List.mem_cons.mp ha with rfl | hmem
    · exact ⟨result, List.mem_cons_self, hfirst⟩
    · obtain ⟨b, hb, hR⟩ := ih hmem
      exact ⟨b, List.mem_cons_of_mem _ hb, hR⟩

theorem forall₂_mem_right {α β : Type} {R : α → β → Prop} {items : List α} {results : List β}
    (h : List.Forall₂ R items results) {b : β} (hb : b ∈ results) : ∃ a ∈ items, R a b :=
  forall₂_mem_left h.flip hb

theorem pairwise_forall₂ {α β : Type} {R : α → β → Prop} {S : α → α → Prop} {T : β → β → Prop}
    (hST : ∀ a a' b b', R a b → R a' b' → S a a' → T b b') {items : List α} {results : List β}
    (h : List.Forall₂ R items results) (hitems : items.Pairwise S) : results.Pairwise T := by
  induction h with
  | nil => exact .nil
  | @cons a b rest results hfirst hrest ih =>
    obtain ⟨ha, hlater⟩ := List.pairwise_cons.mp hitems
    refine List.pairwise_cons.mpr ⟨fun b' hb' => ?_, ih hlater⟩
    obtain ⟨a', ha', hR⟩ := forall₂_mem_right hrest hb'
    exact hST a a' b b' hfirst hR (ha a' ha')

/-- Later or, at the same time, with the greater id. -/
def Later (a b : ReadEvent F) : Prop :=
  b.timestamp.instant < a.timestamp.instant ∨
    b.timestamp = a.timestamp ∧ Encodings.bytes b.eventId < Encodings.bytes a.eventId

theorem later_iff_key {row row' : EventRow} {read read' : ReadEvent F} (h : ReadsRow rendering row read)
    (h' : ReadsRow rendering row' read') : Later read read' ↔ row'.key < row.key := by
  rw [EventRow.key, EventRow.key, Prod.Lex.toLex_lt_toLex]
  dsimp only
  rw [Encodings.bytes_eq_iff, h.timestamp, h'.timestamp, h.eventId, h'.eventId,
    DateTime.bytes_isoText_lt_iff h'.utc h.utc, DateTime.isoText_inj h'.utc h.utc]
  rfl

theorem later_of_key {row row' : EventRow} {read read' : ReadEvent F} (h : ReadsRow rendering row read)
    (h' : ReadsRow rendering row' read') (hlt : row'.key < row.key) : Later read read' := (later_iff_key h h').mpr hlt

theorem first_passed {rows : List EventRow} {request : EventRequest} {limit : Int} {page : EventPage F}
    (h : service.listEvents rendering (.table rows) { request with limit := limit } = .ok page) :
    ∃ query, Passed rendering request query ∧ ∀ text ∈ query.texts, Sqlite.bindText text = .ok () := by
  obtain ⟨query, events, hquery, -, -⟩ := listEvents_ok_iff.mp h
  obtain ⟨-, -, -, hpassed⟩ := query_ok_iff.mp hquery
  have hsame : Passed rendering request query := passed_limit hpassed request.limit query.limit
  exact ⟨query, hsame, (bind_ok_iff.mp (bind_of_listEvents hsame h)).1⟩

/-- What somebody who follows the cursors has got. -/
structure Walk (rendering : Rendering F) (rows last : List EventRow) (request : EventRequest) (requests : Nat)
    (items : List (ReadEvent F)) (ended : Bool) : Prop where
  decreasing : items.Pairwise Later
  once : (items.map ReadEvent.eventId).Nodup
  asked : ∀ item ∈ items, request.Matches item
  /-- Nothing is missing that was there. -/
  complete : ended = true → ∀ event : StoredEvent F, event.Timely → ∀ row ∈ rows, append rendering event = some row →
    ∃ read, SQLiteAuditReader.event rendering row = .ok read ∧ read.eventId = event.eventId ∧
      read.timestamp = event.timestamp ∧ (request.Matches read → read ∈ items)
  /-- With more requests than there are events the last page has been reached. -/
  ends : last.length < requests → ended = true

theorem walk_follows (hfloats : Json.Floats.Lawful rendering.toFloats) {rows : List EventRow}
    (hrows : Chronicle rendering rows) {request : EventRequest} (hcursor : request.cursor = none) {query : EventQuery}
    (hpassed : Passed rendering request query) {turns : List (Turn F)} (hturns : ∀ turn ∈ turns, turn.Allowed service)
    {pages : List (EventPage F)} {ended : Bool}
    (h : Follows rendering (Keyset.pages EventRow.key query.accepts query.below (rounds rendering rows turns))
      (pages, ended)) :
    Walk rendering rows (lastRows rendering rows turns) request turns.length (pages.flatMap EventPage.items) ended := by
  have hsound := rounds_sound hrows hturns
  have hkeys : ∀ round ∈ rounds rendering rows turns, round.Sound EventRow.key := fun round hround => (hsound round hround).1
  have hnone : query.cursor = none := by
    have hdecode := hpassed.cursor
    rw [hcursor] at hdecode
    exact (Except.ok.inj hdecode).symm
  have hdown := EventQuery.below_down query hnone
  have hitems := forall₂_flatMap h.items
  have hdecreasing := @Keyset.pages_decreasing _ _ _ EventRow.key query.accepts query.below _ hkeys
  have hlast := (lastRows_chronicle hrows hturns).nodup
  have hmem {row : EventRow}
      (hrow : row ∈ (Keyset.pages EventRow.key query.accepts query.below (rounds rendering rows turns)).1.flatten) :
      query.accepts row = true ∧ query.below row = true ∧ row ∈ lastRows rendering rows turns := by
    obtain ⟨haccepts, hbelow, round, hround, hin⟩ := Keyset.mem_pages hkeys hdown hrow
    exact ⟨haccepts, hbelow, (hsound round hround).2.2 hin⟩
  constructor
  · refine pairwise_forall₂ (S := fun row row' : EventRow => row'.key < row.key) ?_ hitems hdecreasing
    exact fun row row' read read' hread hread' hlt => later_of_key hread hread' hlt
  · have hids : (Keyset.pages EventRow.key query.accepts query.below (rounds rendering rows turns)).1.flatten.Pairwise
        fun a b => a.eventId ≠ b.eventId := by
      refine hdecreasing.imp_of_mem fun {a b} ha hb hlt hsame => ?_
      obtain rfl := List.inj_on_of_nodup_map hlast (hmem ha).2.2 (hmem hb).2.2 hsame
      exact lt_irrefl _ hlt
    rw [List.Nodup, List.pairwise_map]
    refine pairwise_forall₂ (fun row row' read read' hread hread' hne => ?_) hitems hids
    rwa [hread.eventId, hread'.eventId] at hne
  · intro item hitem
    obtain ⟨row, hrow, hread⟩ := forall₂_mem_right hitems hitem
    obtain ⟨haccepts, hbelow, -⟩ := hmem hrow
    exact (matches_iff hpassed hcursor hread).mp ⟨haccepts, hbelow⟩
  · intro hended event htimely row hrow happend
    obtain ⟨read, hread⟩ := reads_row hfloats hrows hrow
    obtain ⟨read', hread', hfrom⟩ := event_append hfloats htimely.utc.representable happend
    obtain rfl := Except.ok.inj (hread.event.symm.trans hread')
    refine ⟨read, hread.event, hfrom.eventId, hfrom.timestamp, fun hmatches => ?_⟩
    obtain ⟨haccepts, hbelow⟩ := (matches_iff hpassed hcursor hread).mpr hmatches
    have hin := Keyset.pages_complete hkeys (fun round hround => (hsound round hround).2.1 hrow) haccepts hbelow
      (h.ended.symm.trans hended)
    obtain ⟨item, hitem, hreadItem⟩ := forall₂_mem_left hitems hin
    obtain rfl := Except.ok.inj (hread.event.symm.trans hreadItem.event)
    exact hitem
  · intro hlength
    have hend := @Keyset.pages_end _ _ _ EventRow.key query.accepts query.below _ hkeys hdown _ (fun round hround => (hsound round hround).2.2)
      (by rw [length_rounds]; exact hlength)
    exact h.ended.trans hend

/-- From the first page on every event that the request asks for comes once and
in order, whatever is stored between the pages; and once the first page has been
returned no request fails. -/
theorem pages_exactly_once (hfloats : Json.Floats.Lawful rendering.toFloats) (service : ReadOnlyQueryService)
    (stored : List (StoredEvent F)) (hstored : ∀ event ∈ stored, event.Timely) (request : EventRequest)
    (hcursor : request.cursor = none) (turns : List (Turn F)) (hturns : ∀ turn ∈ turns, turn.Allowed service) :
    let rows := insertAll rendering [] stored
    (∀ pages ended, follow service rendering rows request turns = .ok (pages, ended) →
      Walk rendering rows (lastRows rendering rows turns) request turns.length (pages.flatMap EventPage.items) ended) ∧
      ∀ limit page, service.listEvents rendering (.table rows) { request with limit := limit } = .ok page →
        (∀ turn ∈ turns, turn.limit + 1 < 2 ^ 63) →
          ∃ result, follow service rendering rows request turns = .ok result := by
  intro rows
  have hrows : Chronicle rendering rows := Written.empty.insertAll hstored
  constructor
  · intro pages ended hfollow
    cases turns with
    | nil =>
      cases Except.ok.inj hfollow
      exact ⟨.nil, .nil, by simp, nofun, fun h => absurd h (Nat.not_lt_zero _)⟩
    | cons turn rest =>
      obtain ⟨page, hpage⟩ : ∃ page,
          service.listEvents rendering (.table rows) { request with limit := turn.limit } = .ok page := by
        unfold follow at hfollow
        split at hfollow
        · cases hfollow
        · rename_i page hpage
          exact ⟨page, hpage⟩
      obtain ⟨query, hpassed, htexts⟩ := first_passed hpage
      have hfollows := (follow_pages hfloats hturns hrows hpassed htexts).1 (pages, ended) hfollow
      exact walk_follows hfloats hrows hcursor hpassed hturns hfollows
  · intro limit page hpage hlimits
    obtain ⟨query, hpassed, htexts⟩ := first_passed hpage
    exact (follow_pages hfloats hturns hrows hpassed htexts).2 hlimits

/-- An event with an empty correlation, in UTC. -/
def plainEvent (eventId : String) (instant : Int) (severity : Severity) : StoredEvent Json.Decimal where
  toEventFields :=
    { eventType := .serviceStarted
      severity := severity
      timestamp := ⟨instant, some 0⟩
      correlation := []
      readerState := none
      controllerState := none
      deliveryStatus := none
      eventId := Text.of eventId }
  accepted := rfl
  nodup := List.nodup_nil

def plainRow (eventId : String) (instant : Int) (severity : Severity) : EventRow where
  eventId := Text.of eventId
  timestamp := Text.ofChars (DateTime.isoformat ⟨instant, some 0⟩)
  eventType := Text.of EventType.serviceStarted.value
  severity := Text.of severity.value
  correlation := Text.of "\x7b\x7d"
  readerState := none
  controllerState := none
  deliveryStatus := none

theorem append_plain {eventId : String} {instant : Int} {severity : Severity}
    (h : (plainRow eventId instant severity).isBindable = true) :
    append Rendering.decimals (plainEvent eventId instant severity) = some (plainRow eventId instant severity) := by
  have hsorted : (StoredEvent.correlationJson ([] : List (Text × Scalar Json.Decimal))).sortKeys = .obj [] := by
    simp [StoredEvent.correlationJson, Json.sortKeys, Json.sortEntries]
  have hdumps : Json.dumps Rendering.decimals.toFloats (StoredEvent.correlationJson (plainEvent eventId instant severity).correlation) =
      some "\x7b\x7d".toList := by
    show Json.dumps Rendering.decimals.toFloats (StoredEvent.correlationJson []) = _
    rw [Json.dumps, hsorted]
    decide +kernel
  rw [append, hdumps]
  exact if_pos h

/-- Noon of the first of January 2026. -/
def noon : Int := 63_902_865_600_000_000

/-- Two events of one time, a warning and an earlier event. -/
def plainEvents : List (StoredEvent Json.Decimal) :=
  [plainEvent "a" noon .info, plainEvent "b" noon .info, plainEvent "c" noon .warning,
    plainEvent "d" (noon - 3_600_000_000) .info]

def plainRows : List EventRow :=
  [plainRow "a" noon .info, plainRow "b" noon .info, plainRow "c" noon .warning,
    plainRow "d" (noon - 3_600_000_000) .info]

theorem insertAll_plain_cons {rows : List EventRow} {eventId : String} {instant : Int} {severity : Severity}
    {rest : List (StoredEvent Json.Decimal)} (hbindable : (plainRow eventId instant severity).isBindable = true)
    (hnew : Text.of eventId ∉ rows.map EventRow.eventId) :
    insertAll Rendering.decimals rows (plainEvent eventId instant severity :: rest) =
      insertAll Rendering.decimals (rows ++ [plainRow eventId instant severity]) rest := by
  have hinsert : SQLiteAuditSink.insert Rendering.decimals rows (plainEvent eventId instant severity) =
      some (rows ++ [plainRow eventId instant severity]) := by
    rw [SQLiteAuditSink.insert, append_plain hbindable, Option.bind_some]
    exact if_neg fun hcontains => hnew (List.contains_iff_mem.mp hcontains)
  rw [insertAll, List.foldl_cons, hinsert]
  rfl

theorem insertAll_plain : insertAll Rendering.decimals [] plainEvents = plainRows := by
  rw [plainEvents, insertAll_plain_cons (by decide +kernel) (by decide +kernel),
    insertAll_plain_cons (by decide +kernel) (by decide +kernel),
    insertAll_plain_cons (by decide +kernel) (by decide +kernel),
    insertAll_plain_cons (by decide +kernel) (by decide +kernel)]
  rfl

theorem plainEvent_timely {eventId : String} {instant : Int} {severity : Severity}
    (hutc : DateTime.IsUtc ⟨instant, some 0⟩) (hnamed : Text.of eventId ≠ []) :
    (plainEvent eventId instant severity).Timely :=
  ⟨hutc, hnamed⟩

theorem plainEvents_timely : ∀ event ∈ plainEvents, event.Timely := by
  simp only [plainEvents, List.forall_mem_cons]
  refine ⟨plainEvent_timely ?_ ?_, plainEvent_timely ?_ ?_, plainEvent_timely ?_ ?_, plainEvent_timely ?_ ?_, by simp⟩
  any_goals decide
  all_goals exact ⟨by decide, by decide, rfl⟩

def hundred : ReadOnlyQueryService := ⟨100, by decide⟩

/-- What is no warning and came before a second past noon, on a clock an hour ahead. -/
def untilNoon : EventRequest where
  limit := 1
  cursor := none
  before := some ⟨noon + 3_601_000_000, some 3_600_000_000⟩
  after := none
  eventType := none
  severity := some .info

/-- Pages of one event, before whose next ones a later event and one of the same
time are appended. -/
def singly : List (Turn Json.Decimal) :=
  ⟨1, [plainEvent "e" (noon + 500_000) .info]⟩ :: ⟨1, [plainEvent "ab" noon .info]⟩ :: List.replicate 5 ⟨1, []⟩

theorem singly_allowed : ∀ turn ∈ singly, turn.Allowed hundred := by
  have hutc : DateTime.IsUtc ⟨noon, some 0⟩ ∧ DateTime.IsUtc ⟨noon + 500_000, some 0⟩ :=
    ⟨⟨by decide, by decide, rfl⟩, ⟨by decide, by decide, rfl⟩⟩
  refine List.forall_mem_cons.mpr ⟨⟨by decide, by decide, ?_⟩, List.forall_mem_cons.mpr ⟨⟨by decide, by decide, ?_⟩, ?_⟩⟩
  · simpa using plainEvent_timely hutc.2 (by decide)
  · simpa using plainEvent_timely hutc.1 (by decide)
  · intro turn hturn
    obtain rfl := List.eq_of_mem_replicate hturn
    exact ⟨by decide, by decide, by simp⟩

/-- At most as many rows as events are added. -/
theorem length_insertAll_le {rendering : Rendering F} (rows : List EventRow) (events : List (StoredEvent F)) :
    (insertAll rendering rows events).length ≤ rows.length + events.length := by
  induction events generalizing rows with
  | nil => exact Nat.le_refl _
  | cons event rest ih =>
    have hfirst : ((SQLiteAuditSink.insert rendering rows event).getD rows).length ≤ rows.length + 1 := by
      cases hinsert : SQLiteAuditSink.insert rendering rows event with
      | none => exact Nat.le_succ _
      | some next =>
        obtain ⟨row, -, -, rfl⟩ := insert_some hinsert
        simp
    have hrest := ih ((SQLiteAuditSink.insert rendering rows event).getD rows)
    rw [insertAll, List.foldl_cons]
    rw [insertAll] at hrest
    rw [List.length_cons]
    omega

theorem length_lastRows_le {rendering : Rendering F} (rows : List EventRow) (turns : List (Turn F)) :
    (lastRows rendering rows turns).length ≤ rows.length + (turns.map fun turn => turn.appended.length).sum := by
  induction turns generalizing rows with
  | nil => exact Nat.le_refl _
  | cons turn rest ih =>
    have hfirst := @length_insertAll_le _ rendering rows turn.appended
    have hrest := ih (insertAll rendering rows turn.appended)
    rw [List.map_cons, List.sum_cons]
    exact hrest.trans (by omega)

theorem pages_exactly_once_noon :
    ∃ pages, follow hundred Rendering.decimals plainRows untilNoon singly = .ok (pages, true) ∧
      (pages.flatMap EventPage.items).Pairwise Later ∧
      (∀ item ∈ pages.flatMap EventPage.items, item.severity = .info) ∧
      ∀ eventId ∈ ["a", "b", "d"], ((pages.flatMap EventPage.items).map ReadEvent.eventId).count (Text.of eventId) = 1 := by
  obtain ⟨hwalk, hexists⟩ := pages_exactly_once Rendering.decimals_lawful hundred plainEvents plainEvents_timely
    untilNoon rfl singly singly_allowed
  rw [insertAll_plain] at hwalk hexists
  have hrows : Chronicle Rendering.decimals plainRows := insertAll_plain ▸ Written.empty.insertAll plainEvents_timely
  have hpassed : Passed Rendering.decimals untilNoon
      ⟨2, none, some ⟨noon + 1_000_000, some 0⟩, none, none, some .info⟩ :=
    ⟨by decide, by decide, rfl, rfl, rfl, rfl, rfl⟩
  have hturn : (⟨1, []⟩ : Turn Json.Decimal).Allowed hundred := ⟨by decide, by decide, by simp⟩
  obtain ⟨page, hpage, -⟩ := request_shows Rendering.decimals_lawful hrows hpassed hturn (by decide +kernel)
  obtain ⟨⟨pages, ended⟩, hfollow⟩ := hexists 1 page hpage (by decide)
  obtain ⟨hdecreasing, honce, hasked, hcomplete, hends⟩ := hwalk pages ended hfollow
  obtain rfl : ended = true :=
    hends (Nat.lt_of_le_of_lt (length_lastRows_le plainRows singly) (by decide))
  refine ⟨pages, hfollow, hdecreasing, fun item hitem => (hasked item hitem).severity .info rfl, ?_⟩
  have hshown {eventId : String} {instant : Int} (htimely : (plainEvent eventId instant .info).Timely)
      (hrow : plainRow eventId instant .info ∈ plainRows)
      (hbindable : (plainRow eventId instant .info).isBindable = true) (hbefore : instant < noon + 1_000_000) :
      ((pages.flatMap EventPage.items).map ReadEvent.eventId).count (Text.of eventId) = 1 := by
    have happend := append_plain hbindable
    obtain ⟨read, hread, hid, htimestamp, hin⟩ := hcomplete rfl _ htimely _ hrow happend
    obtain ⟨read', hread', hfrom⟩ := event_append Rendering.decimals_lawful htimely.utc.representable happend
    obtain rfl := Except.ok.inj (hread.symm.trans hread')
    refine List.count_eq_one_of_mem honce (List.mem_map.mpr ⟨read, hin ⟨?_, nofun, nofun, ?_⟩, hid⟩)
    · rintro before hmem
      obtain rfl := Option.some.inj hmem
      rw [htimestamp]
      show instant - 0 < noon + 3_601_000_000 - 3_600_000_000
      omega
    · rintro severity hmem
      obtain rfl := Option.some.inj hmem
      exact hfrom.severity
  simp only [List.forall_mem_cons]
  have htimely := plainEvents_timely
  simp only [plainEvents, List.forall_mem_cons] at htimely
  obtain ⟨ha, hb, -, hd, -⟩ := htimely
  exact ⟨hshown ha (by simp [plainRows]) (by decide +kernel) (by decide),
    hshown hb (by simp [plainRows]) (by decide +kernel) (by decide),
    hshown hd (by simp [plainRows]) (by decide +kernel) (by decide), by simp⟩

end Bridgewire
