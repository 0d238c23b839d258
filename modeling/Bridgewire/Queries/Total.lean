import Bridgewire.Queries.ExactlyOnce

/-!
# What a query raises

Every stage of a query has its own exceptions. Those of a datetime that is in no
year in UTC, of a parameter that cannot be bound, and of a correlation that is an
empty string, are not turned into errors of the query.
-/

namespace Bridgewire

open ReadOnlyQueryService

variable {F : Type}

-- ---------------------------------------------------------------------------
-- Parameters that can always be bound
-- ---------------------------------------------------------------------------

theorem bindText_ascii {text : List Char} (h : ∀ c ∈ text, c.toNat < 128) (hlength : text.length ≤ Sqlite.maxLength) :
    Sqlite.bindText (Text.ofChars text) = .ok () := by
  have hbytes : (Encodings.bytesOf text).length = text.length := List.length_map _
  have hmax : Sqlite.maxLength < Sqlite.maxInt := by decide
  unfold Sqlite.bindText
  rw [Encodings.encodeUtf8_ascii h]
  dsimp only
  rw [hbytes, if_neg (by omega), if_neg (by omega)]

theorem isDigit_ascii {c : Char} (h : c.isDigit = true) : c.toNat < 128 := by
  obtain ⟨-, hlast⟩ := Char.isDigit_iff_toNat.mp h
  have hnine : '9'.toNat = 57 := rfl
  omega

namespace DateTime

theorem pad_ascii (width n : Nat) : ∀ c ∈ pad width n, c.toNat < 128 :=
  fun c hc => isDigit_ascii (pad_isDigit width n c hc)

theorem fraction_ascii (n : Nat) : ∀ c ∈ fraction n, c.toNat < 128 := by
  unfold fraction
  split
  · simp
  · exact List.forall_mem_cons.mpr ⟨by decide, pad_ascii 6 n⟩

theorem length_fraction (n : Nat) : (fraction n).length ≤ 7 := by
  unfold fraction
  split
  · simp
  · simp [length_pad]

theorem offsetText_ascii (offset : Int) : ∀ c ∈ offsetText offset, c.toNat < 128 := by
  have hsign : (if offset < 0 then '-' else '+').toNat < 128 := by split <;> decide
  have hcolon : ':'.toNat < 128 := by decide
  unfold offsetText
  simp only [List.cons_append, List.append_assoc, List.forall_mem_cons, List.forall_mem_append]
  refine ⟨hsign, pad_ascii _ _, hcolon, pad_ascii _ _, ?_⟩
  split
  · simp
  · simp only [List.forall_mem_cons, List.forall_mem_append]
    exact ⟨hcolon, pad_ascii _ _, fraction_ascii _⟩

theorem length_offsetText (offset : Int) : (offsetText offset).length ≤ 16 := by
  have hfraction := length_fraction (offset.natAbs % 60000000 % 1000000)
  unfold offsetText
  simp only [List.cons_append, List.length_cons, List.length_append, length_pad]
  split
  · simp
  · simp only [List.length_cons, List.length_append, length_pad]
    omega

theorem fieldsText_ascii (fields : Fields) : ∀ c ∈ fields.text, c.toNat < 128 := by
  unfold Fields.text
  simp only [List.cons_append, List.append_assoc, List.forall_mem_cons, List.forall_mem_append]
  exact ⟨pad_ascii _ _, by decide, pad_ascii _ _, by decide, pad_ascii _ _, by decide, pad_ascii _ _, by decide,
    pad_ascii _ _, by decide, pad_ascii _ _, fraction_ascii _⟩

theorem length_fieldsText (fields : Fields) : fields.text.length ≤ 26 := by
  have hfraction := length_fraction fields.microsecond
  unfold Fields.text
  simp only [List.cons_append, List.append_assoc, List.length_cons, List.length_append, length_pad]
  omega

/-- No time is too long, or has characters that cannot be encoded. -/
theorem isoText_bound (time : DateTime) : Sqlite.bindText (isoText time) = .ok () := by
  have hfields := fieldsText_ascii (fieldsOf time.wall.toNat)
  have hlength := length_fieldsText (fieldsOf time.wall.toNat)
  have hmax : 42 ≤ Sqlite.maxLength := by decide
  unfold isoText isoformat
  cases time.utcoffset with
  | none =>
    simp only [List.append_nil]
    exact bindText_ascii hfields (by omega)
  | some offset =>
    have hoffset := length_offsetText offset
    refine bindText_ascii (List.forall_mem_append.mpr ⟨hfields, offsetText_ascii offset⟩) ?_
    simp only [List.length_append]
    omega

end DateTime

theorem eventType_bound (eventType : EventType) : Sqlite.bindText (Text.of eventType.value) = .ok () := by
  have hall : EventType.all.all fun eventType =>
      eventType.value.toList.all (·.toNat < 128) && eventType.value.toList.length < 100 := by decide +kernel
  obtain ⟨hascii, hlength⟩ := Bool.and_eq_true_iff.mp (List.all_eq_true.mp hall eventType eventType.mem_all)
  have hmax : 100 ≤ Sqlite.maxLength := by decide
  refine bindText_ascii (fun c hc => of_decide_eq_true (List.all_eq_true.mp hascii c hc)) ?_
  exact le_trans (le_of_lt (of_decide_eq_true hlength)) hmax

theorem severity_bound (severity : Severity) : Sqlite.bindText (Text.of severity.value) = .ok () := by
  have hall : Severity.all.all fun severity =>
      severity.value.toList.all (·.toNat < 128) && severity.value.toList.length < 100 := by decide +kernel
  obtain ⟨hascii, hlength⟩ := Bool.and_eq_true_iff.mp (List.all_eq_true.mp hall severity severity.mem_all)
  have hmax : 100 ≤ Sqlite.maxLength := by decide
  refine bindText_ascii (fun c hc => of_decide_eq_true (List.all_eq_true.mp hascii c hc)) ?_
  exact le_trans (le_of_lt (of_decide_eq_true hlength)) hmax

-- ---------------------------------------------------------------------------
-- Answers
-- ---------------------------------------------------------------------------

/-- There is a result, or one of the two errors of a query is raised. -/
def Answers {α : Type} (result : Except QueryError α) : Prop := ∀ e, result ≠ .error (.other e)

section
variable {α β : Type}

@[simp] theorem answers_ok {a : α} : Answers (.ok a) := nofun

@[simp] theorem answers_invalid {message : String} : Answers (.error (.invalidQuery message) : Except QueryError α) :=
  nofun

@[simp] theorem answers_unavailable : Answers (.error .unavailable : Except QueryError α) := nofun

@[simp] theorem not_answers_other {e : Exn} : ¬Answers (.error (.other e) : Except QueryError α) := fun h => h e rfl

/-- An error is passed on at every type. -/
theorem answers_error {e : QueryError} :
    Answers (.error e : Except QueryError α) ↔ Answers (.error e : Except QueryError β) := by
  simp [Answers]

end

theorem astimezone_utc {time : DateTime} (h : time.hasUtc = true) : time.astimezone = .ok ⟨time.instant, some 0⟩ :=
  if_pos h

theorem astimezone_other {time : DateTime} (h : time.hasUtc ≠ true) :
    time.astimezone = .error (.overflowError "date value out of range") := if_neg h

theorem normalizeTime_answers {value : Option DateTime} {field : String} :
    Answers (normalizeTime value field) ↔ ∀ time ∈ value, time.isAware = true → time.hasUtc = true := by
  unfold normalizeTime
  cases value with
  | none => simp
  | some time =>
    cases haware : time.isAware with
    | false => simp [haware]
    | true =>
      by_cases hutc : time.hasUtc = true
      · simp [haware, hutc, astimezone_utc hutc]
      · simp [haware, hutc, astimezone_other hutc]

/-- What a cursor of the request says, in any offset. -/
def EventRequest.parsed (rendering : Rendering F) (request : EventRequest) : Option (DateTime × Text) :=
  request.cursor.bind (EventCursor.parse rendering)

theorem decodeCursor_answers {rendering : Rendering F} {cursor : Option Text} :
    Answers (decodeCursor rendering cursor) ↔
      ∀ parsed ∈ cursor.bind (EventCursor.parse rendering), parsed.1.hasUtc = true := by
  cases cursor with
  | none => simp [decodeCursor]
  | some text =>
    unfold decodeCursor EventCursor.decode
    simp only [Option.bind_some]
    cases EventCursor.parse rendering text with
    | none => simp
    | some parsed =>
      by_cases hutc : parsed.1.hasUtc = true
      · simp [hutc, astimezone_utc hutc]
      · simp [hutc, astimezone_other hutc]

-- ---------------------------------------------------------------------------
-- The reader
-- ---------------------------------------------------------------------------

theorem execute_answers {α : Type} {database : Database} {bound : Except BindError Unit}
    {select : List EventRow → α} :
    Answers (database.execute bound select) ↔
      database ≠ .unavailable → ∀ e, bound ≠ .error (.other e) := by
  cases database <;> rcases bound with (- | e) | - <;> simp [Database.execute]

theorem execute_ok {α : Type} {database : Database} {bound : Except BindError Unit} {select : List EventRow → α}
    {selected : α} (h : database.execute bound select = .ok selected) :
    ∃ rows, database = .table rows ∧ bound = .ok () ∧ selected = select rows := by
  cases database with
  | unavailable => cases h
  | failing => cases bound with
    | error e => cases e <;> cases h
    | ok => cases h
  | table rows => cases bound with
    | error e => cases e <;> cases h
    | ok => exact ⟨rows, rfl, rfl, (Except.ok.inj h).symm⟩

theorem bindInt_other {n : Int} (hpositive : 0 < n) : (∀ e, Sqlite.bindInt n ≠ .error (.other e)) ↔ n < 2 ^ 63 := by
  by_cases h : n < 2 ^ 63
  · simp only [bindInt_ok hpositive h, h, iff_true]
    exact nofun
  · have hlarge : Sqlite.bindInt n = .error (.other (.overflowError "Python int too large to convert to SQLite INTEGER")) :=
      if_neg fun hrange => h hrange.2
    simp only [hlarge, h, iff_false]
    exact fun hother => hother _ rfl

theorem bindTexts_bound {texts : List Text} (h : ∀ text ∈ texts, Sqlite.bindText text = .ok ()) (rest : List Text) :
    Sqlite.bindTexts (texts ++ rest) = Sqlite.bindTexts rest := by
  induction texts with
  | nil => rfl
  | cons text texts ih =>
    obtain ⟨htext, hrest⟩ := List.forall_mem_cons.mp h
    simp [Sqlite.bindTexts, htext, ih hrest]

namespace EventQuery

variable (query : EventQuery)

/-- The parameters of a statement but for the id of the cursor and the limit. -/
def plain : List Text := { query with cursor := none }.texts ++ query.cursorTexts.take 2

theorem texts_eq : query.texts = query.plain ++ (query.cursor.map EventCursor.eventId).toList := by
  unfold plain texts cursorTexts
  cases query.cursor <;> simp

theorem plain_bound : ∀ text ∈ query.plain, Sqlite.bindText text = .ok () := by
  intro text htext
  simp only [plain, texts, cursorTexts, List.append_nil, List.mem_append, Option.mem_toList, Option.map_eq_some_iff] at htext
  obtain (((⟨before, -, rfl⟩ | ⟨after, -, rfl⟩) | ⟨eventType, -, rfl⟩) | ⟨severity, -, rfl⟩) | hcursor := htext
  · exact before.isoText_bound
  · exact after.isoText_bound
  · exact eventType_bound eventType
  · exact severity_bound severity
  · cases hquery : query.cursor with
    | none => simp [hquery] at hcursor
    | some cursor =>
      obtain rfl : text = isoText cursor.timestamp := by simpa [hquery] using hcursor
      exact cursor.timestamp.isoText_bound

variable {query}

/-- The id can be encoded and is not too long for `sqlite3`, and then, if it is
not too long for SQLite, the limit is an integer of SQLite. -/
theorem bind_other (hpositive : 0 < query.limit) :
    (∀ e, query.bind ≠ .error (.other e)) ↔
      (∀ cursor ∈ query.cursor, ∃ encoded, Encodings.encodeUtf8 cursor.eventId = some encoded ∧
          encoded.length ≤ Sqlite.maxInt) ∧
        ((∀ cursor ∈ query.cursor, ∀ encoded, Encodings.encodeUtf8 cursor.eventId = some encoded →
            encoded.length ≤ Sqlite.maxLength) → query.limit < 2 ^ 63) := by
  unfold bind
  simp only [texts_eq, bindTexts_bound query.plain_bound]
  cases query.cursor with
  | none => simpa [Sqlite.bindTexts] using bindInt_other hpositive
  | some cursor =>
    simp only [Option.map_some, Option.toList_some, Option.mem_some_iff, forall_eq', Sqlite.bindTexts, Sqlite.bindText]
    cases Encodings.encodeUtf8 cursor.eventId with
    | none => simp
    | some encoded =>
      by_cases hint : Sqlite.maxInt < encoded.length
      · simp [hint]
      · by_cases hlength : Sqlite.maxLength < encoded.length
        · simp [hint, hlength, Nat.le_of_not_lt hint, Nat.not_le_of_lt hlength]
        · simpa [hint, hlength, Nat.le_of_not_lt hint, Nat.le_of_not_lt hlength] using bindInt_other hpositive

theorem bind_ok (hpositive : 0 < query.limit) :
    query.bind = .ok () ↔
      (∀ cursor ∈ query.cursor, ∃ encoded, Encodings.encodeUtf8 cursor.eventId = some encoded ∧
          encoded.length ≤ Sqlite.maxLength) ∧ query.limit < 2 ^ 63 := by
  have hint : Sqlite.bindInt query.limit = .ok () ↔ query.limit < 2 ^ 63 := by
    refine ⟨fun h => (bindInt_other hpositive).mp fun e => ?_, bindInt_ok hpositive⟩
    rw [h]
    exact nofun
  have hmax : Sqlite.maxLength < Sqlite.maxInt := by decide
  rw [bind_ok_iff, hint, texts_eq]
  refine and_congr ?_ Iff.rfl
  simp only [List.forall_mem_append, iff_true_intro query.plain_bound, true_and, Option.mem_toList]
  refine Option.forall_mem_map.trans (forall₂_congr fun cursor _ => ?_)
  unfold Sqlite.bindText
  cases Encodings.encodeUtf8 cursor.eventId with
  | none => simp
  | some encoded =>
    by_cases hlength : Sqlite.maxLength < encoded.length
    · by_cases hint : Sqlite.maxInt < encoded.length
      · simp [hint, Nat.not_le_of_lt hlength]
      · simp [hint, hlength, Nat.not_le_of_lt hlength]
    · have hshort := Nat.le_of_not_lt hlength
      simp [hlength, hshort, show ¬Sqlite.maxInt < encoded.length by omega]

end EventQuery

-- ---------------------------------------------------------------------------
-- Rows that cannot be read
-- ---------------------------------------------------------------------------

/-- A row of an event whose correlation is the JSON of the empty string. -/
structure EventRow.IsVoid (rendering : Rendering F) (row : EventRow) : Prop where
  timestamp : ∃ timestamp, DateTime.fromisoformat row.timestamp = some timestamp ∧ timestamp.isAware = true
  eventType : ∃ eventType, EventType.ofValue row.eventType = some eventType
  severity : ∃ severity, Severity.ofValue row.severity = some severity
  correlation : Json.loads rendering.toFloats row.correlation = some (.str [])

theorem checkReason_attributeError (reason : Option (Json F)) :
    ReadEvent.checkReason reason ≠ .error .attributeError := by
  unfold ReadEvent.checkReason
  split
  · split <;> simp
  all_goals simp

/-- No key that is allowed is a single character. -/
theorem single_not_allowed (c : CodePoint) : [c] ∉ allowedCorrelationKeys.map Text.of := by
  intro hmem
  obtain ⟨key, hkey, hof⟩ := List.mem_map.mp hmem
  have hlong : ∀ key ∈ allowedCorrelationKeys, 1 < (Text.of key).length := by decide +kernel
  have hlength := hlong key hkey
  rw [hof] at hlength
  exact absurd hlength (by simp)

theorem postInit_attributeError_iff {mapping : Mapping F} :
    ReadEvent.postInit mapping = .error .attributeError ↔ mapping = .chars [] := by
  cases mapping with
  | dict entries =>
    refine iff_of_false (fun h => ?_) nofun
    unfold ReadEvent.postInit at h
    split at h
    · dsimp only at h
      split at h
      · cases h
      · rename_i e hreason
        obtain rfl := Except.error.inj h
        exact checkReason_attributeError _ hreason
    · cases h
  | chars text =>
    cases text with
    | nil => exact iff_of_true rfl rfl
    | cons c rest =>
      refine iff_of_false (fun h => ?_) nofun
      have hkeys : ¬(Mapping.chars (c :: rest) : Mapping F).keys.all
          (allowedCorrelationKeys.map Text.of).contains = true := by
        simp only [Mapping.keys, List.map_cons, List.all_cons, Bool.and_eq_true, List.contains_iff_mem]
        exact fun hall => single_not_allowed c hall.1
      rw [ReadEvent.postInit, if_neg hkeys] at h
      cases h

theorem ofJson_chars_iff {value : Json F} {text : Text} : Mapping.ofJson value = some (.chars text) ↔ value = .str text := by
  cases value <;> simp [Mapping.ofJson]

/-- Only a void row raises what the reader does not catch. -/
theorem event_attributeError_iff {rendering : Rendering F} {row : EventRow} :
    SQLiteAuditReader.event rendering row = .error .attributeError ↔ row.IsVoid rendering := by
  constructor
  · intro h
    unfold SQLiteAuditReader.event at h
    split at h
    · rename_i timestamp eventType severity value htimestamp heventType hseverity hvalue
      split at h
      · cases h
      · rename_i mapping hmapping
        split at h
        · rename_i haware
          split at h
          · rename_i e hinit
            obtain rfl := Except.error.inj h
            obtain rfl := postInit_attributeError_iff.mp hinit
            obtain rfl := ofJson_chars_iff.mp hmapping
            exact ⟨⟨timestamp, htimestamp, haware⟩, ⟨eventType, heventType⟩, ⟨severity, hseverity⟩, hvalue⟩
          · cases h
        · cases h
    · cases h
  · rintro ⟨⟨timestamp, htimestamp, haware⟩, ⟨eventType, heventType⟩, ⟨severity, hseverity⟩, hvalue⟩
    have hinit : ReadEvent.postInit (Mapping.chars [] : Mapping F) = .error .attributeError :=
      postInit_attributeError_iff.mpr rfl
    simp only [SQLiteAuditReader.event, htimestamp, heventType, hseverity, hvalue, Mapping.ofJson, dif_pos haware, hinit]

/-- The first row that cannot be read is the one that `mapM` stops at. -/
theorem mapM_error_iff {α β ε : Type} {f : α → Except ε β} {items : List α} {e : ε} :
    items.mapM f = .error e ↔ ∃ before item after, items = before ++ item :: after ∧
      (∀ other ∈ before, ∃ b, f other = .ok b) ∧ f item = .error e := by
  induction items with
  | nil => simp [pure, Except.pure]
  | cons first rest ih =>
    rw [List.mapM_cons]
    cases hfirst : f first with
    | error e' =>
      constructor
      · intro h
        obtain rfl : e' = e := Except.error.inj h
        exact ⟨[], first, rest, rfl, by simp, hfirst⟩
      · rintro ⟨before, item, after, hsplit, hbefore, hitem⟩
        cases before with
        | nil =>
          obtain ⟨rfl, -⟩ := List.cons.inj hsplit
          obtain rfl := Except.error.inj (hfirst.symm.trans hitem)
          rfl
        | cons other before =>
          obtain ⟨rfl, -⟩ := List.cons.inj hsplit
          obtain ⟨b, hb⟩ := hbefore first List.mem_cons_self
          cases hfirst.symm.trans hb
    | ok b =>
      have hrest : (do let results ← rest.mapM f; pure (b :: results) : Except ε (List β)) = .error e ↔
          rest.mapM f = .error e := by
        cases rest.mapM f <;> simp [bind, Except.bind, pure, Except.pure]
      refine hrest.trans (ih.trans ⟨?_, ?_⟩)
      · rintro ⟨before, item, after, rfl, hbefore, hitem⟩
        exact ⟨first :: before, item, after, rfl, List.forall_mem_cons.mpr ⟨⟨b, hfirst⟩, hbefore⟩, hitem⟩
      · rintro ⟨before, item, after, hsplit, hbefore, hitem⟩
        cases before with
        | nil =>
          obtain ⟨rfl, -⟩ := List.cons.inj hsplit
          cases hfirst.symm.trans hitem
        | cons other before =>
          obtain ⟨-, rfl⟩ := List.cons.inj hsplit
          exact ⟨before, item, after, rfl, (List.forall_mem_cons.mp hbefore).2, hitem⟩

/-- Whoever reads the rows in this order comes to a void one. -/
def MeetsVoid (rendering : Rendering F) (rows : List EventRow) : Prop :=
  ∃ before row after, rows = before ++ row :: after ∧
    (∀ other ∈ before, ∃ read, SQLiteAuditReader.event rendering other = .ok read) ∧ row.IsVoid rendering

theorem mapM_attributeError_iff {rendering : Rendering F} {rows : List EventRow} :
    rows.mapM (SQLiteAuditReader.event rendering) = .error .attributeError ↔ MeetsVoid rendering rows := by
  simp only [mapM_error_iff, event_attributeError_iff, MeetsVoid]

theorem raised_answers {e : EventError} {α : Type} :
    Answers (.error e.raised : Except QueryError α) ↔ e ≠ .attributeError := by
  cases e with
  | valueError => exact iff_of_true answers_unavailable nofun
  | typeError => exact iff_of_true answers_unavailable nofun
  | attributeError => exact iff_of_false (fun h => h _ rfl) (by simp)

theorem reader_answers {rendering : Rendering F} {database : Database} {query : EventQuery} :
    Answers (SQLiteAuditReader.listEvents rendering database query) ↔
      (database ≠ .unavailable → ∀ e, query.bind ≠ .error (.other e)) ∧
        ∀ rows, database = .table rows → query.bind = .ok () → ¬MeetsVoid rendering (query.select rows) := by
  have hexecute := @execute_answers _ database query.bind query.select
  unfold SQLiteAuditReader.listEvents
  cases hrows : database.execute query.bind query.select with
  | error e =>
    rw [hrows] at hexecute
    refine (answers_error.trans hexecute).trans ⟨fun h => ⟨h, fun rows hdatabase hbind => ?_⟩, And.left⟩
    rw [hdatabase, hbind] at hrows
    cases hrows
  | ok selected =>
    rw [hrows] at hexecute
    obtain ⟨rows, hdatabase, hbind, hselected⟩ := execute_ok hrows
    have hvoid : (∀ rows, database = .table rows → query.bind = .ok () → ¬MeetsVoid rendering (query.select rows)) ↔
        selected.mapM (SQLiteAuditReader.event rendering) ≠ .error .attributeError := by
      rw [hselected, hdatabase, Ne, mapM_attributeError_iff]
      exact ⟨fun h => h rows rfl hbind, fun h _ hsame _ => Database.table.inj hsame ▸ h⟩
    rw [iff_true_intro (hexecute.mp answers_ok), true_and, hvoid]
    dsimp only
    cases selected.mapM (SQLiteAuditReader.event rendering) with
    | ok events => simp
    | error e => exact raised_answers.trans (by simp)

/-- There is no next page, or the last item is in a year of UTC. -/
theorem page_answers {rendering : Rendering F} (hfloats : Json.Floats.Lawful rendering.toFloats) {limit : Nat}
    {events : List (ReadEvent F)} :
    Answers (page rendering limit events) ↔
      (limit < events.length → ∀ last ∈ (events.take limit).getLast?, last.timestamp.hasUtc = true) := by
  unfold page
  cases (events.take limit).getLast? with
  | none => simp
  | some last =>
    by_cases hmore : limit < events.length
    · by_cases hutc : last.timestamp.hasUtc = true
      · obtain ⟨bytes, -, hencode⟩ := @EventCursor.encode_eq F rendering hfloats
          ⟨last.timestamp, last.eventId, last.aware⟩ hutc
        simp [hmore, hutc, hencode]
      · have hencode : EventCursor.encode rendering ⟨last.timestamp, last.eventId, last.aware⟩ =
            .error (.overflowError "date value out of range") := by
          simp [EventCursor.encode, astimezone_other hutc]
        simp [hmore, hutc, hencode]
    · simp [hmore]

-- ---------------------------------------------------------------------------
-- The query
-- ---------------------------------------------------------------------------

/-- The limit is a size of a page, and the request has no two upper ends. -/
structure Admitted (service : ReadOnlyQueryService) (request : EventRequest) : Prop where
  positive : 0 < request.limit
  maximum : request.limit ≤ service.maximumEventPageSize
  single : request.cursor.isSome = true → request.before = none

structure Timed (service : ReadOnlyQueryService) (request : EventRequest) : Prop extends Admitted service request where
  before : ∀ before ∈ request.before, before.isAware = true
  after : ∀ after ∈ request.after, after.isAware = true
  ordered : ∀ before ∈ request.before, ∀ after ∈ request.after, after.instant < before.instant

structure WellFormed (service : ReadOnlyQueryService) (rendering : Rendering F) (request : EventRequest) : Prop
    extends Timed service request where
  cursor : ∀ text ∈ request.cursor, EventCursor.parse rendering text ≠ none

/-- Every time of the request has a year in UTC. -/
structure InYears (rendering : Rendering F) (request : EventRequest) : Prop where
  before : ∀ before ∈ request.before, before.hasUtc = true
  after : ∀ after ∈ request.after, after.hasUtc = true
  cursor : ∀ parsed ∈ request.parsed rendering, parsed.1.hasUtc = true

namespace EventRequest

def utc (time : DateTime) : DateTime := ⟨time.instant, some 0⟩

/-- The query that a request asks, if every time in it has a year in UTC. -/
def asked (rendering : Rendering F) (request : EventRequest) : EventQuery where
  limit := request.limit + 1
  cursor := (request.parsed rendering).map fun parsed => ⟨utc parsed.1, parsed.2, rfl⟩
  before := request.before.map utc
  after := request.after.map utc
  eventType := request.eventType
  severity := request.severity

end EventRequest

theorem normalizeTime_ok_iff {value normalized : Option DateTime} {field : String} :
    normalizeTime value field = .ok normalized ↔
      (∀ time ∈ value, time.isAware = true ∧ time.hasUtc = true) ∧
        value.map EventRequest.utc = normalized := by
  unfold normalizeTime
  cases value with
  | none => simp
  | some time =>
    cases haware : time.isAware with
    | false => simp [haware]
    | true =>
      by_cases hutc : time.hasUtc = true
      · simp [haware, hutc, astimezone_utc hutc, EventRequest.utc]
      · simp [haware, hutc, astimezone_other hutc]

theorem decodeCursor_ok_iff {rendering : Rendering F} {cursor : Option Text} {decoded : Option EventCursor} :
    decodeCursor rendering cursor = .ok decoded ↔
      (∀ text ∈ cursor, EventCursor.parse rendering text ≠ none) ∧
        (∀ parsed ∈ cursor.bind (EventCursor.parse rendering), parsed.1.hasUtc = true) ∧
          ((cursor.bind (EventCursor.parse rendering)).map fun parsed => ⟨EventRequest.utc parsed.1, parsed.2, rfl⟩) =
            decoded := by
  cases cursor with
  | none => simp [decodeCursor]
  | some text =>
    unfold decodeCursor EventCursor.decode
    simp only [Option.bind_some, Option.mem_some_iff, forall_eq']
    cases EventCursor.parse rendering text with
    | none => simp
    | some parsed =>
      by_cases hutc : parsed.1.hasUtc = true
      · simp [hutc, astimezone_utc hutc, EventRequest.utc]
      · simp [hutc, astimezone_other hutc]

theorem isReversed_iff {before after : Option DateTime} :
    isReversed (before.map EventRequest.utc) (after.map EventRequest.utc) = false ↔
      ∀ first ∈ before, ∀ second ∈ after, DateTime.instant second < DateTime.instant first := by
  cases before with
  | none => simp [isReversed]
  | some before =>
    cases after with
    | none => simp [isReversed]
    | some after =>
      simp only [isReversed, EventRequest.utc, DateTime.instant, Option.map_some, decide_eq_false_iff_not, Int.not_le,
        Option.mem_some_iff, forall_eq', Option.getD_some, Int.sub_zero]

section
variable {service : ReadOnlyQueryService} {rendering : Rendering F} {request : EventRequest}

theorem asked_iff {query : EventQuery} :
    service.query rendering request = .ok query ↔
      WellFormed service rendering request ∧ InYears rendering request ∧ query = request.asked rendering := by
  refine query_ok_iff.trans ⟨?_, ?_⟩
  · rintro ⟨hpositive, hmaximum, hlimit, hsingle, hbefore, hafter, hordered, hcursor, heventType, hseverity⟩
    obtain ⟨hbefore, hbeforeEq⟩ := normalizeTime_ok_iff.mp hbefore
    obtain ⟨hafter, hafterEq⟩ := normalizeTime_ok_iff.mp hafter
    obtain ⟨hparse, hcursor, hcursorEq⟩ := decodeCursor_ok_iff.mp hcursor
    rw [← hbeforeEq, ← hafterEq] at hordered
    refine ⟨⟨⟨⟨hpositive, hmaximum, hsingle⟩, fun before h => (hbefore before h).1, fun after h => (hafter after h).1,
      isReversed_iff.mp hordered⟩, hparse⟩, ⟨fun before h => (hbefore before h).2, fun after h => (hafter after h).2,
      hcursor⟩, ?_⟩
    obtain ⟨limit, cursor, before, after, eventType, severity⟩ := query
    obtain rfl : limit = request.limit + 1 := hlimit
    obtain rfl : eventType = request.eventType := heventType
    obtain rfl : severity = request.severity := hseverity
    obtain rfl : _ = cursor := hcursorEq
    obtain rfl : _ = before := hbeforeEq
    obtain rfl : _ = after := hafterEq
    rfl
  · rintro ⟨hformed, hyears, rfl⟩
    exact ⟨hformed.positive, hformed.maximum, rfl, hformed.single,
      normalizeTime_ok_iff.mpr ⟨fun before h => ⟨hformed.before before h, hyears.before before h⟩, rfl⟩,
      normalizeTime_ok_iff.mpr ⟨fun after h => ⟨hformed.after after h, hyears.after after h⟩, rfl⟩,
      isReversed_iff.mpr hformed.ordered, decodeCursor_ok_iff.mpr ⟨hformed.cursor, hyears.cursor, rfl⟩, rfl, rfl⟩

/-- The times that are looked at, before a check fails, have years in UTC. -/
structure InReach (service : ReadOnlyQueryService) (rendering : Rendering F) (request : EventRequest) : Prop where
  before : Admitted service request → ∀ before ∈ request.before, before.isAware = true → before.hasUtc = true
  after : Admitted service request → (∀ before ∈ request.before, before.isAware = true) →
    ∀ after ∈ request.after, after.isAware = true → after.hasUtc = true
  cursor : Timed service request → ∀ parsed ∈ request.parsed rendering, parsed.1.hasUtc = true

theorem normalizeTime_error {value : Option DateTime} {field : String} {e : QueryError}
    (h : normalizeTime value field = .error e) (haware : ∀ time ∈ value, time.isAware = true)
    (hutc : ∀ time ∈ value, time.isAware = true → time.hasUtc = true) : False := by
  have hok := (@normalizeTime_ok_iff value _ field).mpr ⟨fun time htime => ⟨haware time htime,
    hutc time htime (haware time htime)⟩, rfl⟩
  rw [hok] at h
  cases h

/-- Stage by stage: one that fails with an error of the query hides what comes after it. -/
theorem query_answers : Answers (service.query rendering request) ↔ InReach service rendering request := by
  unfold ReadOnlyQueryService.query
  by_cases hlimit : request.limit ≤ 0 ∨ service.maximumEventPageSize < request.limit
  · rw [if_pos hlimit]
    have hrefused (h : Admitted service request) : False := by
      have hpositive := h.positive
      have hmaximum := h.maximum
      omega
    exact iff_of_true answers_invalid
      ⟨fun h => (hrefused h).elim, fun h => (hrefused h).elim, fun h => (hrefused h.toAdmitted).elim⟩
  rw [if_neg hlimit]
  by_cases hsingle : request.cursor.isSome ∧ request.before.isSome
  · rw [if_pos hsingle]
    have hrefused (h : Admitted service request) : False := by
      rw [h.single hsingle.1] at hsingle
      exact absurd hsingle.2 nofun
    exact iff_of_true answers_invalid
      ⟨fun h => (hrefused h).elim, fun h => (hrefused h).elim, fun h => (hrefused h.toAdmitted).elim⟩
  rw [if_neg hsingle]
  have hadmitted : Admitted service request :=
    ⟨by omega, by omega, fun hsome => Option.not_isSome_iff_eq_none.mp fun hbefore => hsingle ⟨hsome, hbefore⟩⟩
  have hbeforeAnswers := @normalizeTime_answers request.before "before"
  cases hbefore : normalizeTime request.before "before" with
  | error e =>
    rw [hbefore] at hbeforeAnswers
    refine (answers_error.trans hbeforeAnswers).trans ⟨fun h => ⟨fun _ => h, fun _ haware => ?_, fun htimed => ?_⟩,
      fun h => h.before hadmitted⟩
    · exact (normalizeTime_error hbefore haware h).elim
    · exact (normalizeTime_error hbefore htimed.before h).elim
  | ok before =>
    obtain ⟨hbeforeAll, rfl⟩ := normalizeTime_ok_iff.mp hbefore
    have hafterAnswers := @normalizeTime_answers request.after "after"
    cases hafter : normalizeTime request.after "after" with
    | error e =>
      rw [hafter] at hafterAnswers
      refine (answers_error.trans hafterAnswers).trans ⟨fun h => ⟨fun _ time htime _ => (hbeforeAll time htime).2,
        fun _ _ => h, fun htimed => (normalizeTime_error hafter htimed.after h).elim⟩, fun h => ?_⟩
      exact h.after hadmitted fun time htime => (hbeforeAll time htime).1
    | ok after =>
      obtain ⟨hafterAll, rfl⟩ := normalizeTime_ok_iff.mp hafter
      have hreach (h : Timed service request → ∀ parsed ∈ request.parsed rendering, parsed.1.hasUtc = true) :
          InReach service rendering request :=
        ⟨fun _ time htime _ => (hbeforeAll time htime).2, fun _ _ time htime _ => (hafterAll time htime).2, h⟩
      dsimp only
      by_cases hordered : isReversed (request.before.map EventRequest.utc) (request.after.map EventRequest.utc) = true
      · rw [if_pos hordered]
        refine iff_of_true answers_invalid (hreach fun htimed => ?_)
        rw [isReversed_iff.mpr htimed.ordered] at hordered
        cases hordered
      · rw [if_neg hordered]
        have htimed : Timed service request :=
          ⟨hadmitted, fun time htime => (hbeforeAll time htime).1, fun time htime => (hafterAll time htime).1,
            isReversed_iff.mp (by simpa using hordered)⟩
        have hcursorAnswers := @decodeCursor_answers _ rendering request.cursor
        cases hcursor : decodeCursor rendering request.cursor with
        | error e =>
          rw [hcursor] at hcursorAnswers
          exact (answers_error.trans hcursorAnswers).trans ⟨fun h => hreach fun _ => h, fun h => h.cursor htimed⟩
        | ok cursor =>
          rw [hcursor] at hcursorAnswers
          exact iff_of_true answers_ok (hreach fun _ => hcursorAnswers.mp answers_ok)

-- ---------------------------------------------------------------------------
-- The whole request
-- ---------------------------------------------------------------------------

theorem listEvents_answers {database : Database} :
    Answers (service.listEvents rendering database request) ↔
      Answers (service.query rendering request) ∧
        ∀ query, service.query rendering request = .ok query →
          Answers (SQLiteAuditReader.listEvents rendering database query) ∧
            ∀ events, SQLiteAuditReader.listEvents rendering database query = .ok events →
              Answers (page rendering request.limit.toNat events) := by
  unfold ReadOnlyQueryService.listEvents
  generalize service.query rendering request = asked
  cases asked with
  | error e => simp [Answers]
  | ok query =>
    simp only [answers_ok, true_and, Except.ok.injEq, forall_eq']
    generalize SQLiteAuditReader.listEvents rendering database query = read
    cases read with
    | error e => simp [Answers]
    | ok events => simp only [answers_ok, true_and, Except.ok.injEq, forall_eq']

theorem reader_ok_iff {database : Database} {query : EventQuery} {events : List (ReadEvent F)} :
    SQLiteAuditReader.listEvents rendering database query = .ok events ↔
      ∃ rows, database = .table rows ∧ query.bind = .ok () ∧
        (query.select rows).mapM (SQLiteAuditReader.event rendering) = .ok events := by
  unfold SQLiteAuditReader.listEvents
  cases database with
  | unavailable => simp [Database.execute]
  | failing => rcases query.bind with (- | e) | - <;> simp [Database.execute]
  | table rows =>
    rcases query.bind with (- | e) | -
    · simp [Database.execute]
    · simp [Database.execute]
    · cases hrows : (query.select rows).mapM (SQLiteAuditReader.event rendering) <;> simp [Database.execute, hrows]

/-- The id of a cursor is not longer than a text of SQLite may be. -/
def ShortId (rendering : Rendering F) (request : EventRequest) : Prop :=
  ∀ parsed ∈ request.parsed rendering, ∀ encoded, Encodings.encodeUtf8 parsed.2 = some encoded →
    encoded.length ≤ Sqlite.maxLength

/-- Each time that is looked at has a year in UTC; the parameters of a query can
be bound, where there is a table to ask; no row that is read is void; and an event
that a next page would start after has a year in UTC too. -/
structure Tame (service : ReadOnlyQueryService) (rendering : Rendering F) (database : Database) (request : EventRequest) :
    Prop extends InReach service rendering request where
  id : WellFormed service rendering request → database ≠ .unavailable →
    ∀ parsed ∈ request.parsed rendering, ∃ encoded, Encodings.encodeUtf8 parsed.2 = some encoded ∧
      encoded.length ≤ Sqlite.maxInt
  limit : WellFormed service rendering request → database ≠ .unavailable → ShortId rendering request →
    request.limit + 1 < 2 ^ 63
  read : WellFormed service rendering request → ShortId rendering request → ∀ rows, database = .table rows →
    ¬MeetsVoid rendering ((request.asked rendering).select rows)
  last : WellFormed service rendering request → ShortId rendering request → ∀ rows events, database = .table rows →
    ((request.asked rendering).select rows).mapM (SQLiteAuditReader.event rendering) = .ok events →
      request.limit.toNat < events.length →
        ∀ last ∈ (events.take request.limit.toNat).getLast?, last.timestamp.hasUtc = true

/-- The parameters of the query that a request asks. -/
theorem asked_bind (h : 0 < request.limit) :
    (∀ e, (request.asked rendering).bind ≠ .error (.other e)) ↔
      (∀ parsed ∈ request.parsed rendering, ∃ encoded, Encodings.encodeUtf8 parsed.2 = some encoded ∧
          encoded.length ≤ Sqlite.maxInt) ∧
        (ShortId rendering request → request.limit + 1 < 2 ^ 63) := by
  have hpositive : 0 < (request.asked rendering).limit := by
    show 0 < request.limit + 1
    omega
  refine (EventQuery.bind_other hpositive).trans ?_
  simp only [EventRequest.asked, ShortId, Option.forall_mem_map]

theorem asked_bind_ok (hpositive : 0 < request.limit) (hshort : ShortId rendering request)
    (h : ∀ e, (request.asked rendering).bind ≠ .error (.other e)) : (request.asked rendering).bind = .ok () := by
  obtain ⟨hid, hlimit⟩ := (asked_bind hpositive).mp h
  refine (EventQuery.bind_ok (by show 0 < request.limit + 1; omega)).mpr ⟨?_, hlimit hshort⟩
  refine Option.forall_mem_map.mpr fun parsed hparsed => ?_
  obtain ⟨encoded, hencoded, -⟩ := hid parsed hparsed
  exact ⟨encoded, hencoded, hshort parsed hparsed encoded hencoded⟩

theorem short_of_bind (hpositive : 0 < request.limit) (h : (request.asked rendering).bind = .ok ()) :
    ShortId rendering request := by
  obtain ⟨hid, -⟩ := (EventQuery.bind_ok (by show 0 < request.limit + 1; omega)).mp h
  intro parsed hparsed encoded hencoded
  obtain ⟨encoded', hencoded', hlength⟩ := Option.forall_mem_map.mp hid parsed hparsed
  obtain rfl := Option.some.inj (hencoded.symm.trans hencoded')
  exact hlength

/-- A request has a page or an error of a query exactly where it and the table
are tame, and a cursor is decoded or malformed exactly where its time has a year
in UTC. -/
theorem answers_iff (hfloats : Json.Floats.Lawful rendering.toFloats) (service : ReadOnlyQueryService) :
    (∀ database request, Answers (service.listEvents rendering database request) ↔
      Tame service rendering database request) ∧
    ∀ text,
      ((∃ cursor, EventCursor.decode rendering text = .ok cursor) ∨
        ∃ message, EventCursor.decode rendering text = .error (.invalidQuery message)) ↔
      ∀ parsed ∈ EventCursor.parse rendering text, parsed.1.hasUtc = true := by
  refine ⟨fun database request => ?_, fun text => ?_⟩
  · rw [listEvents_answers, query_answers]
    constructor
    · rintro ⟨hreach, hall⟩
      have hread (hformed : WellFormed service rendering request) :=
        hall _ (asked_iff.mpr ⟨hformed,
          ⟨fun time htime => hreach.before hformed.toAdmitted time htime (hformed.before time htime),
            fun time htime => hreach.after hformed.toAdmitted hformed.before time htime (hformed.after time htime),
            hreach.cursor hformed.toTimed⟩, rfl⟩)
      have hbind (hformed : WellFormed service rendering request) (hdatabase : database ≠ .unavailable) :=
        (reader_answers.mp (hread hformed).1).1 hdatabase
      refine ⟨hreach, fun hformed hdatabase => ((asked_bind hformed.positive).mp (hbind hformed hdatabase)).1,
        fun hformed hdatabase => ((asked_bind hformed.positive).mp (hbind hformed hdatabase)).2,
        fun hformed hshort rows hdatabase => ?_, fun hformed hshort rows events hdatabase hevents => ?_⟩
      all_goals
        have hbound := asked_bind_ok hformed.positive hshort (hbind hformed (by rw [hdatabase]; exact nofun))
      · exact (reader_answers.mp (hread hformed).1).2 rows hdatabase hbound
      exact (page_answers hfloats).mp ((hread hformed).2 events (reader_ok_iff.mpr ⟨rows, hdatabase, hbound, hevents⟩))
    · rintro ⟨hreach, hid, hlimit, hreadable, hlast⟩
      refine ⟨hreach, fun query hquery => ?_⟩
      obtain ⟨hformed, -, rfl⟩ := asked_iff.mp hquery
      refine ⟨reader_answers.mpr ⟨fun hdatabase =>
        (asked_bind hformed.positive).mpr ⟨hid hformed hdatabase, hlimit hformed hdatabase⟩,
        fun rows hdatabase hbound => hreadable hformed (short_of_bind hformed.positive hbound) rows hdatabase⟩,
        fun events hevents => ?_⟩
      obtain ⟨rows, hdatabase, hbound, hrows⟩ := reader_ok_iff.mp hevents
      exact (page_answers hfloats).mpr
        (hlast hformed (short_of_bind hformed.positive hbound) rows events hdatabase hrows)
  · unfold EventCursor.decode
    cases EventCursor.parse rendering text with
    | none => simp
    | some parsed =>
      by_cases hutc : parsed.1.hasUtc = true
      · simp [hutc, astimezone_utc hutc]
      · simp [hutc, astimezone_other hutc]

end

/-- The first page, with no filters. -/
def firstPage : EventRequest := ⟨20, none, none, none, none, none⟩

/-- The row of a start of the service. -/
def startRow (eventId timestamp correlation : String) : EventRow where
  eventId := Text.of eventId
  timestamp := Text.of timestamp
  eventType := Text.of "service_started"
  severity := Text.of "info"
  correlation := Text.of correlation
  readerState := none
  controllerState := none
  deliveryStatus := none

/-- Two events of one time, and a void row before them. -/
def startRows : List EventRow :=
  [startRow "d" "2026-01-03T00:00:00+00:00" "\x7b\x7d",
    startRow "c" "2026-01-02T00:00:00+00:00" "\x7b\"attempt\": 2\x7d",
    startRow "b" "2026-01-02T00:00:00+00:00" "\x7b\x7d",
    startRow "a" "2026-01-01T00:00:00+00:00" "\"\""]

/-- The cursor after the event "d". -/
def lastStart : Text := Text.of "WyIyMDI2LTAxLTAzVDAwOjAwOjAwKzAwOjAwIiwiZCJd"

/-- The page after the event "d", of the starts after `after`. -/
def nextStarts (limit : Int) (after : Option DateTime) : EventRequest where
  limit := limit
  cursor := some lastStart
  before := none
  after := after
  eventType := some .serviceStarted
  severity := none

/-- One in the morning of the first of January, an hour ahead of UTC. -/
def newYear : DateTime := ⟨63_902_826_000_000_000, some 3_600_000_000⟩

theorem lastStart_parse :
    EventCursor.parse Rendering.decimals lastStart = some (⟨63_902_995_200_000_000, some 0⟩, Text.of "d") := by
  decide +kernel

theorem nextStarts_parsed (limit : Int) (after : Option DateTime) :
    (nextStarts limit after).parsed Rendering.decimals = some (⟨63_902_995_200_000_000, some 0⟩, Text.of "d") := by
  rw [EventRequest.parsed, nextStarts, Option.bind_some, lastStart_parse]

theorem nextStarts_select :
    ((nextStarts 1 (some newYear)).asked Rendering.decimals).select startRows = (startRows.drop 1).take 2 ∧
      ((nextStarts 2 none).asked Rendering.decimals).select startRows = startRows.drop 1 := by
  have hfirst : (startRows.filter fun row => ((nextStarts 1 (some newYear)).asked Rendering.decimals).filters row &&
      ((nextStarts 1 (some newYear)).asked Rendering.decimals).continues row) = (startRows.drop 1).take 2 := by
    decide +kernel
  have hsecond : (startRows.filter fun row => ((nextStarts 2 none).asked Rendering.decimals).filters row &&
      ((nextStarts 2 none).asked Rendering.decimals).continues row) = startRows.drop 1 := by
    decide +kernel
  have hsorted : (startRows.drop 1).Pairwise fun a b => decide (b.key ≤ a.key) = true := by decide +kernel
  constructor
  · rw [EventQuery.select, EventQuery.sorted, hfirst, List.mergeSort_of_pairwise (hsorted.sublist (List.take_sublist 2 _))]
    decide +kernel
  · rw [EventQuery.select, EventQuery.sorted, hsecond, List.mergeSort_of_pairwise hsorted]
    decide +kernel

/-- The filter leaves out the void row. -/
theorem nextStarts_tame : Tame hundred Rendering.decimals (.table startRows) (nextStarts 1 (some newYear)) := by
  have hcursor : ∀ parsed ∈ (nextStarts 1 (some newYear)).parsed Rendering.decimals,
      parsed = (⟨63_902_995_200_000_000, some 0⟩, Text.of "d") := by
    rw [nextStarts_parsed]
    simp
  have hreads : (((startRows.drop 1).take 2).mapM (SQLiteAuditReader.event Rendering.decimals)).toOption.any
      (fun events => (events.take 1).getLast?.all fun last => last.timestamp.hasUtc) = true := by
    decide +kernel
  obtain ⟨events, hevents, hlast⟩ := (Option.any_eq_true _ _).mp hreads
  constructor
  · constructor
    · exact fun _ => nofun
    · intro _ _ time htime _
      obtain rfl := Option.some.inj htime
      decide
    · intro _ parsed hparsed
      rw [hcursor parsed hparsed]
      decide
  · intro _ _ parsed hparsed
    rw [hcursor parsed hparsed]
    exact ⟨[100], by decide, by decide⟩
  · intro _ _ _
    norm_num [nextStarts]
  · intro _ _ rows hrows
    obtain rfl := Database.table.inj hrows
    rw [nextStarts_select.1, ← mapM_attributeError_iff]
    intro hvoid
    rw [hvoid] at hevents
    cases hevents
  · intro _ _ rows events' hrows hevents' _ last hmem
    obtain rfl := Database.table.inj hrows
    rw [nextStarts_select.1] at hevents'
    rw [hevents'] at hevents
    obtain rfl := Option.some.inj hevents
    have hlastEvent : (events'.take 1).getLast? = some last := hmem
    rw [hlastEvent] at hlast
    exact hlast

theorem loads_emptyText : Json.loads Rendering.decimals.toFloats (Text.of "\"\"") = some (.str []) := rfl

/-- Without the filter the page ends with the void row. -/
theorem nextStarts_void : MeetsVoid Rendering.decimals (((nextStarts 2 none).asked Rendering.decimals).select startRows) := by
  rw [nextStarts_select.2]
  refine ⟨(startRows.drop 1).take 2, startRow "a" "2026-01-01T00:00:00+00:00" "\"\"", [], rfl, fun other hother => ?_,
    ⟨⟨63_902_822_400_000_000, some 0⟩, by decide +kernel, rfl⟩, ⟨.serviceStarted, by decide +kernel⟩,
    ⟨.info, by decide +kernel⟩, loads_emptyText⟩
  have hall : ((startRows.drop 1).take 2).all fun row =>
      (SQLiteAuditReader.event Rendering.decimals row).toOption.isSome = true := by
    decide +kernel
  have hread := List.all_eq_true.mp hall other hother
  cases hevent : SQLiteAuditReader.event Rendering.decimals other with
  | ok read => exact ⟨read, rfl⟩
  | error e => simp [hevent, Except.toOption] at hread

theorem answers_iff_starts :
    Answers (hundred.listEvents Rendering.decimals (.table startRows) (nextStarts 1 (some newYear))) ∧
      ¬Answers (hundred.listEvents Rendering.decimals (.table startRows) (nextStarts 2 none)) := by
  obtain ⟨hanswers, -⟩ := answers_iff Rendering.decimals_lawful hundred
  refine ⟨(hanswers _ _).mpr nextStarts_tame, fun h => ?_⟩
  have htame := (hanswers _ _).mp h
  refine htame.read ⟨⟨⟨by decide, by decide, fun _ => rfl⟩, nofun, nofun, nofun⟩, ?_⟩ ?_ startRows rfl nextStarts_void
  · intro text htext hparse
    obtain rfl := Option.some.inj htext
    rw [lastStart_parse] at hparse
    cases hparse
  · intro parsed hparsed encoded hencoded
    rw [nextStarts_parsed] at hparsed
    obtain rfl := Option.some.inj hparsed
    obtain rfl := Option.some.inj ((show Encodings.encodeUtf8 (Text.of "d") = some [100] by decide).symm.trans hencoded)
    decide

/-- The first hour of the year 1, an hour ahead of UTC, is in no year of UTC. -/
theorem not_always_answers :
    ¬∀ (service : ReadOnlyQueryService) (database : Database) (request : EventRequest),
      Answers (service.listEvents Rendering.decimals database request) := by
  intro h
  exact h hundred (.table []) { firstPage with before := some ⟨0, some 3_600_000_000⟩ }
    (.overflowError "date value out of range") rfl

end Bridgewire
