import Bridgewire.Queries.Reader

/-!
# The query service

`ReadOnlyQueryService.list_events`: the request is checked and turned into the
query of the reader, which asks for one event more than the page has.
-/

namespace Bridgewire

structure EventRequest where
  limit : Int
  cursor : Option Text
  before : Option DateTime
  after : Option DateTime
  eventType : Option EventType
  severity : Option Severity

structure EventPage (F : Type) where
  items : List (ReadEvent F)
  nextCursor : Option (List Char)

structure ReadOnlyQueryService where
  maximumEventPageSize : Int
  positive : 0 < maximumEventPageSize

namespace ReadOnlyQueryService

variable {F : Type} (service : ReadOnlyQueryService) (rendering : Rendering F)

def normalizeTime (value : Option DateTime) (field : String) : Except QueryError (Option DateTime) :=
  match value with
  | none => .ok none
  | some time =>
    if time.isAware = false then .error (.invalidQuery (field ++ " must be timezone-aware"))
    else
      match time.astimezone with
      | .ok utc => .ok (some utc)
      | .error e => .error (.other e)

/-- `after >= before` -/
def isReversed : Option DateTime → Option DateTime → Bool
  | some before, some after => before.instant ≤ after.instant
  | _, _ => false

def decodeCursor : Option Text → Except QueryError (Option EventCursor)
  | none => .ok none
  | some cursor =>
    match EventCursor.decode rendering cursor with
    | .ok decoded => .ok (some decoded)
    | .error e => .error e

/-- What is asked of the reader. -/
def query (request : EventRequest) : Except QueryError EventQuery :=
  if request.limit ≤ 0 ∨ service.maximumEventPageSize < request.limit then
    .error (.invalidQuery ("limit must be between 1 and " ++ toString service.maximumEventPageSize))
  else if request.cursor.isSome ∧ request.before.isSome then
    .error (.invalidQuery "cursor and before cannot be combined")
  else
    match normalizeTime request.before "before" with
    | .error e => .error e
    | .ok before =>
      match normalizeTime request.after "after" with
      | .error e => .error e
      | .ok after =>
        if isReversed before after then .error (.invalidQuery "after must be earlier than before")
        else
          match decodeCursor rendering request.cursor with
          | .error e => .error e
          | .ok cursor =>
            .ok
              { limit := request.limit + 1
                cursor, before, after
                eventType := request.eventType
                severity := request.severity }

/-- The page of what the reader has returned. -/
def page (limit : Nat) (events : List (ReadEvent F)) : Except QueryError (EventPage F) :=
  match (events.take limit).getLast? with
  | none => .ok ⟨events.take limit, none⟩
  | some last =>
    if limit < events.length then
      match EventCursor.encode rendering ⟨last.timestamp, last.eventId, last.aware⟩ with
      | .ok text => .ok ⟨events.take limit, some text⟩
      | .error e => .error (.other e)
    else .ok ⟨events.take limit, none⟩

def listEvents (database : Database) (request : EventRequest) : Except QueryError (EventPage F) :=
  match service.query rendering request with
  | .error e => .error e
  | .ok query =>
    match SQLiteAuditReader.listEvents rendering database query with
    | .error e => .error e
    | .ok events => page rendering request.limit.toNat events

-- ---------------------------------------------------------------------------
-- Requests that are passed on
-- ---------------------------------------------------------------------------

/-- The request without its limit is passed on as this. -/
structure Passed (request : EventRequest) (query : EventQuery) : Prop where
  single : request.cursor.isSome = true → request.before = none
  before : normalizeTime request.before "before" = .ok query.before
  after : normalizeTime request.after "after" = .ok query.after
  ordered : isReversed query.before query.after = false
  cursor : decodeCursor rendering request.cursor = .ok query.cursor
  eventType : query.eventType = request.eventType
  severity : query.severity = request.severity

variable {service rendering}

theorem query_ok_iff {request : EventRequest} {query : EventQuery} :
    service.query rendering request = .ok query ↔
      0 < request.limit ∧ request.limit ≤ service.maximumEventPageSize ∧ query.limit = request.limit + 1 ∧
        Passed rendering request query := by
  unfold ReadOnlyQueryService.query
  constructor
  · intro h
    split at h
    · cases h
    · rename_i hlimit
      split at h
      · cases h
      · rename_i hsingle
        split at h
        · cases h
        · rename_i before hbefore
          split at h
          · cases h
          · rename_i after hafter
            split at h
            · cases h
            · rename_i hordered
              split at h
              · cases h
              · rename_i cursor hcursor
                obtain rfl := Except.ok.inj h
                refine ⟨by omega, by omega, rfl, fun hsome => ?_, hbefore, hafter, by simpa using hordered, hcursor, rfl,
                  rfl⟩
                exact Option.not_isSome_iff_eq_none.mp fun hbefore => hsingle ⟨hsome, hbefore⟩
  · rintro ⟨hpositive, hmaximum, hlimit, hsingle, hbefore, hafter, hordered, hcursor, heventType, hseverity⟩
    have hcombined : ¬(request.cursor.isSome = true ∧ request.before.isSome = true) := by
      rintro ⟨hsome, hbefore⟩
      rw [hsingle hsome] at hbefore
      cases hbefore
    rw [if_neg (by omega), if_neg hcombined]
    simp only [hbefore, hafter, hordered, hcursor, ← hlimit, ← heventType, ← hseverity]
    rfl

theorem listEvents_ok_iff {database : Database} {request : EventRequest} {found : EventPage F} :
    service.listEvents rendering database request = .ok found ↔
      ∃ query events, service.query rendering request = .ok query ∧
        SQLiteAuditReader.listEvents rendering database query = .ok events ∧
          page rendering request.limit.toNat events = .ok found := by
  unfold ReadOnlyQueryService.listEvents
  constructor
  · intro h
    split at h
    · cases h
    · rename_i query hquery
      split at h
      · cases h
      · rename_i events hevents
        exact ⟨query, events, hquery, hevents, h⟩
  · rintro ⟨query, events, hquery, hevents, hpage⟩
    simp only [hquery, hevents, hpage]

end ReadOnlyQueryService

end Bridgewire
