import Bridgewire.Encodings.Order
import Bridgewire.Json.Texts
import Bridgewire.Persistence.Store
import Bridgewire.Queries.Cursor
import Mathlib.Data.Prod.Lex

/-!
# The audit reader

`SQLiteAuditReader` over the table that `SQLiteAuditSink` fills. A statement is
prepared, its parameters are bound, and only then rows are read.
-/

namespace Bridgewire

-- ---------------------------------------------------------------------------
-- The table
-- ---------------------------------------------------------------------------

namespace SQLiteAuditSink

variable {F : Type} (rendering : Rendering F)

/-- `append` to the table; none where it raises, as for an id that is known. -/
def insert (rows : List EventRow) (event : StoredEvent F) : Option (List EventRow) :=
  (append rendering event).bind fun row =>
    if (rows.map EventRow.eventId).contains row.eventId then none else some (rows ++ [row])

/-- One `append` after the other; one that raises leaves the table as it was. -/
def insertAll (rows : List EventRow) (events : List (StoredEvent F)) : List EventRow :=
  events.foldl (fun rows event => (insert rendering rows event).getD rows) rows

end SQLiteAuditSink

/-- What the connection of a query finds. -/
inductive Database
  /-- It cannot be opened, or has no such table. -/
  | unavailable
  /-- Reading the rows fails. -/
  | failing
  | table (rows : List EventRow)

-- ---------------------------------------------------------------------------
-- Statements
-- ---------------------------------------------------------------------------

def isoText (time : DateTime) : Text := Text.ofChars time.isoformat

namespace Sqlite

def bindTexts : List Text → Except BindError Unit
  | [] => .ok ()
  | text :: rest =>
    match bindText text with
    | .error e => .error e
    | .ok () => bindTexts rest

/-- Texts are compared byte by byte. -/
def less (a b : Text) : Bool := Encodings.bytes a < Encodings.bytes b

end Sqlite

def QueryError.unavailable : QueryError := .queryUnavailable "audit query unavailable"

/-- A statement with these parameters, and what it reads from the table. -/
def Database.execute {α : Type} (database : Database) (bound : Except BindError Unit) (select : List EventRow → α) :
    Except QueryError α :=
  match database, bound with
  | .unavailable, _ => .error .unavailable
  | _, .error .sqlite => .error .unavailable
  | _, .error (.other e) => .error (.other e)
  | .failing, .ok () => .error .unavailable
  | .table rows, .ok () => .ok (select rows)

/-- The arguments of `list_events`. -/
structure EventQuery where
  limit : Int
  cursor : Option EventCursor
  before : Option DateTime
  after : Option DateTime
  eventType : Option EventType
  severity : Option Severity

/-- What the rows are ordered by. -/
def EventRow.key (row : EventRow) : List Nat ×ₗ List Nat :=
  toLex (Encodings.bytes row.timestamp, Encodings.bytes row.eventId)

namespace EventQuery

variable (query : EventQuery)

def cursorTexts : List Text :=
  match query.cursor with
  | none => []
  | some cursor => [isoText cursor.timestamp, isoText cursor.timestamp, cursor.eventId]

def texts : List Text :=
  (query.before.map isoText).toList ++ (query.after.map isoText).toList ++
    (query.eventType.map fun eventType => Text.of eventType.value).toList ++
    (query.severity.map fun severity => Text.of severity.value).toList ++ query.cursorTexts

def bind : Except BindError Unit :=
  match Sqlite.bindTexts query.texts with
  | .error e => .error e
  | .ok () => Sqlite.bindInt query.limit

/-- `WHERE`, but for the cursor. -/
def filters (row : EventRow) : Bool :=
  query.before.all (fun before => Sqlite.less row.timestamp (isoText before)) &&
    query.after.all (fun after => Sqlite.less (isoText after) row.timestamp) &&
    query.eventType.all (fun eventType => row.eventType = Text.of eventType.value) &&
    query.severity.all (fun severity => row.severity = Text.of severity.value)

/-- `(timestamp < ? OR (timestamp = ? AND event_id < ?))` -/
def continues (row : EventRow) : Bool :=
  query.cursor.all fun cursor =>
    Sqlite.less row.timestamp (isoText cursor.timestamp) ||
      (row.timestamp = isoText cursor.timestamp && Sqlite.less row.eventId cursor.eventId)

/-- `ORDER BY timestamp DESC, event_id DESC` -/
def sorted (rows : List EventRow) : List EventRow :=
  (rows.filter fun row => query.filters row && query.continues row).mergeSort fun a b => b.key ≤ a.key

/-- A negative limit is none. -/
def select (rows : List EventRow) : List EventRow :=
  if query.limit < 0 then query.sorted rows else (query.sorted rows).take query.limit.toNat

end EventQuery

-- ---------------------------------------------------------------------------
-- The reader
-- ---------------------------------------------------------------------------

/-- The `except` clause around `_event`. -/
def EventError.raised : EventError → QueryError
  | .valueError | .typeError => .unavailable
  | .attributeError => .other ⟨.otherException, "'str' object has no attribute 'get'", [], none⟩

namespace SQLiteAuditReader

variable {F : Type} (rendering : Rendering F)

def listEvents (database : Database) (query : EventQuery) : Except QueryError (List (ReadEvent F)) :=
  match database.execute query.bind query.select with
  | .error e => .error e
  | .ok rows =>
    match rows.mapM (event rendering) with
    | .ok events => .ok events
    | .error e => .error e.raised

def getEvent (database : Database) (eventId : Text) : Except QueryError (Option (ReadEvent F)) :=
  match database.execute (Sqlite.bindText eventId) fun rows => rows.find? fun row => row.eventId = eventId with
  | .error e => .error e
  | .ok none => .ok none
  | .ok (some row) =>
    match event rendering row with
    | .ok event => .ok (some event)
    | .error e => .error e.raised

end SQLiteAuditReader

end Bridgewire
