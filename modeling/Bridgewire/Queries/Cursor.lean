import Bridgewire.Base64
import Bridgewire.Isoformat.Order
import Bridgewire.Json.Beginnings
import Bridgewire.Persistence.Event

/-!
# Event cursors

`EventCursor.encode` and `decode`: a timestamp in UTC and an event id, as JSON
in base64 whose padding is left out.
-/

namespace Bridgewire

/-- What a query raises. -/
inductive QueryError
  | invalidQuery (message : String)
  | queryUnavailable (message : String)
  /-- Any exception of another class. -/
  | other (e : Exn)
  deriving DecidableEq

namespace DateTime

/-- The end of the year 9999. -/
def maxWall : Nat := maxDay * microsecondsPerDay

/-- The instant is in the years that a datetime in UTC can have. -/
def hasUtc (t : DateTime) : Bool := 0 ≤ t.instant && t.instant < maxWall

/-- `astimezone(UTC)` of an aware datetime. -/
def astimezone (t : DateTime) : Except Exn DateTime :=
  if t.hasUtc then .ok ⟨t.instant, some 0⟩ else .error (.overflowError "date value out of range")

end DateTime

structure EventCursor where
  timestamp : DateTime
  eventId : Text
  aware : timestamp.isAware = true

namespace EventCursor

variable {F : Type}

section
variable (rendering : Rendering F)

def toJson (timestamp : DateTime) (eventId : Text) : Json F :=
  .arr [.str (Text.ofChars timestamp.isoformat), .str eventId]

/-- `json.dumps(…, separators=(",", ":")).encode()` -/
def payload (timestamp : DateTime) (eventId : Text) : Option (List Byte) :=
  (Json.dumpsCompact rendering.toFloats (toJson timestamp eventId)).bind fun text =>
    Encodings.encodeUtf8 (Text.ofChars text)

def encode (cursor : EventCursor) : Except Exn (List Char) :=
  match cursor.timestamp.astimezone with
  | .error e => .error e
  | .ok timestamp =>
    match payload rendering timestamp cursor.eventId with
    | some bytes => .ok (Base64.rstrip (Base64.urlsafe_b64encode bytes))
    | none => .error (.valueError "payload cannot be encoded")

/-- The value with its padding. -/
def padded (value : Text) : Text := value ++ Text.ofChars (Base64.padding value.length)

/-- `json.loads(base64.urlsafe_b64decode(value + padding))` -/
def loads (value : Text) : Option (Json F) :=
  ((Base64.urlsafe_b64decode (padded value)).bind Encodings.decodeDetected).bind (Json.loads rendering.toFloats)

def fields : Json F → Option (DateTime × Text)
  | .arr [first, second] =>
    (DateTime.fromisoformat (rendering.str first)).bind fun timestamp =>
      if timestamp.isAware ∧ rendering.str second ≠ [] then some (timestamp, rendering.str second) else none
  | _ => none

/-- The body of the `try`; none for a `ValueError` or a `TypeError`. -/
def parse (value : Text) : Option (DateTime × Text) := (loads rendering value).bind (fields rendering)

def decode (value : Text) : Except QueryError EventCursor :=
  match parse rendering value with
  | none => .error (.invalidQuery "cursor is malformed")
  | some (timestamp, eventId) =>
    match timestamp.astimezone with
    | .ok utc => .ok ⟨⟨utc.wall, some 0⟩, eventId, rfl⟩
    | .error e => .error (.other e)

end

-- ---------------------------------------------------------------------------
-- Layers
-- ---------------------------------------------------------------------------

variable {rendering : Rendering F}

theorem utc_isUtc {t : DateTime} (h : t.hasUtc = true) : DateTime.IsUtc ⟨t.instant, some 0⟩ := by
  obtain ⟨hfirst, hlast⟩ := Bool.and_eq_true_iff.mp h
  exact ⟨of_decide_eq_true hfirst, of_decide_eq_true hlast, rfl⟩

/-- The characters that `json.dumps` writes are bytes of their own. -/
theorem printable_byte {c : Char} (h : Json.isPrintable c = true) : 0 < c.toNat ∧ c.toNat < 128 := by
  obtain ⟨hfirst, hlast⟩ := Bool.and_eq_true_iff.mp h
  have hfirst : ' '.toNat ≤ c.toNat := of_decide_eq_true hfirst
  have hlast : c.toNat ≤ '~'.toNat := of_decide_eq_true hlast
  have hspace : ' '.toNat = 32 := rfl
  have htilde : '~'.toNat = 126 := rfl
  omega

theorem write_ascii (hfloats : Json.Floats.Lawful rendering.toFloats) (value : Json F) :
    ∀ c ∈ Json.write rendering.toFloats [] value, 0 < c.toNat ∧ c.toNat < 128 :=
  fun c hc => printable_byte (Json.write_printable hfloats (by simp) value c hc)

theorem payload_eq (hfloats : Json.Floats.Lawful rendering.toFloats) (timestamp : DateTime) (eventId : Text) :
    payload rendering timestamp eventId =
      some (Encodings.bytesOf (Json.write rendering.toFloats [] (toJson timestamp eventId))) := by
  have hdumps : Json.dumpsCompact rendering.toFloats (toJson timestamp eventId) =
      some (Json.write rendering.toFloats [] (toJson timestamp eventId)) := if_pos rfl
  rw [payload, hdumps, Option.bind_some]
  exact Encodings.encodeUtf8_ascii fun c hc => (write_ascii hfloats _ c hc).2

theorem encode_eq (hfloats : Json.Floats.Lawful rendering.toFloats) {cursor : EventCursor}
    (h : cursor.timestamp.hasUtc = true) :
    ∃ bytes, payload rendering ⟨cursor.timestamp.instant, some 0⟩ cursor.eventId = some bytes ∧
      encode rendering cursor = .ok (Base64.encodeRaw bytes) := by
  have hutc : cursor.timestamp.astimezone = .ok ⟨cursor.timestamp.instant, some 0⟩ := if_pos h
  have hpayload := payload_eq hfloats ⟨cursor.timestamp.instant, some 0⟩ cursor.eventId
  refine ⟨_, hpayload, ?_⟩
  rw [encode, hutc]
  dsimp only
  rw [hpayload]
  exact congrArg Except.ok (Base64.rstrip_encode _)

theorem padded_raw (bytes : List Byte) :
    padded (Text.ofChars (Base64.encodeRaw bytes)) =
      Text.ofChars (Base64.encodeRaw bytes ++ Base64.padding (Base64.encodeRaw bytes).length) := by
  rw [padded, Text.ofChars_append, Text.ofChars, List.length_map]

theorem loads_payload (hfloats : Json.Floats.Lawful rendering.toFloats) {timestamp : DateTime} {eventId : Text}
    {bytes : List Byte} (h : payload rendering timestamp eventId = some bytes) :
    loads rendering (Text.ofChars (Base64.encodeRaw bytes)) = some (toJson timestamp eventId : Json F).joined := by
  rw [payload_eq hfloats] at h
  obtain rfl := Option.some.inj h
  rw [loads, padded_raw, Base64.decode_padded, Option.bind_some,
    Encodings.decodeDetected_ascii (write_ascii hfloats _), Option.bind_some]
  exact Json.loads_write hfloats (by simp) rfl rfl

theorem fields_joined {timestamp : DateTime} (h : DateTime.IsUtc timestamp) {eventId : Text}
    (hid : eventId.joined ≠ []) :
    fields rendering (toJson timestamp eventId : Json F).joined = some (timestamp, eventId.joined) := by
  have hiso : (Text.ofChars timestamp.isoformat).joined = Text.ofChars timestamp.isoformat :=
    Text.joined_of_hasPair (Text.hasPair_ofChars _)
  have haware : timestamp.isAware = true := by rw [DateTime.isAware, h.utc]; rfl
  have hread : DateTime.fromisoformat (Text.ofChars timestamp.isoformat) = some timestamp :=
    DateTime.fromisoformat_isoformat h.representable
  have hstr (text : Text) : rendering.str (.str text) = text := rfl
  simp only [toJson, Json.joined, Json.joinedItems, hiso]
  rw [fields, hstr, hstr, hread, Option.bind_some]
  exact if_pos ⟨haware, hid⟩

/-- What has been encoded is decoded in UTC, with the pairs of surrogates in the id joined. -/
theorem decode_encoded (hfloats : Json.Floats.Lawful rendering.toFloats) {cursor : EventCursor}
    (h : cursor.timestamp.hasUtc = true) (hid : cursor.eventId.joined ≠ []) :
    ∃ text, encode rendering cursor = .ok text ∧ (∀ c ∈ text, Base64.isSafe c = true) ∧
      decode rendering (Text.ofChars text) =
        .ok ⟨⟨cursor.timestamp.instant, some 0⟩, cursor.eventId.joined, rfl⟩ := by
  obtain ⟨bytes, hpayload, hencode⟩ := encode_eq hfloats h
  have hutc := utc_isUtc h
  have hparse : parse rendering (Text.ofChars (Base64.encodeRaw bytes)) =
      some (⟨cursor.timestamp.instant, some 0⟩, cursor.eventId.joined) := by
    rw [parse, loads_payload hfloats hpayload, Option.bind_some, fields_joined hutc hid]
  refine ⟨_, hencode, fun c hc => (Base64.encodeRaw_safe bytes c hc).1, ?_⟩
  have hinstant : (⟨cursor.timestamp.instant, some 0⟩ : DateTime).instant = cursor.timestamp.instant := by
    simp [DateTime.instant]
  have hastimezone : (⟨cursor.timestamp.instant, some 0⟩ : DateTime).astimezone =
      .ok ⟨cursor.timestamp.instant, some 0⟩ := by
    rw [DateTime.astimezone, DateTime.hasUtc, hinstant]
    exact if_pos h
  rw [decode, hparse]
  dsimp only
  rw [hastimezone]

/-- An id without pairs of surrogates comes back as it is, and the timestamp in
UTC; one that was read from a stored text has that text again. -/
theorem decode_encode (hfloats : Json.Floats.Lawful rendering.toFloats) (cursor : EventCursor)
    (h : cursor.timestamp.hasUtc = true) (hid : cursor.eventId ≠ []) (hsingle : cursor.eventId.hasPair = false) :
    ∃ text decoded, encode rendering cursor = .ok text ∧ (∀ c ∈ text, Base64.isSafe c = true) ∧
      decode rendering (Text.ofChars text) = .ok decoded ∧
      decoded.timestamp = ⟨cursor.timestamp.instant, some 0⟩ ∧ decoded.eventId = cursor.eventId ∧
      ∀ stored, DateTime.IsUtc stored →
        DateTime.fromisoformat (Text.ofChars stored.isoformat) = some cursor.timestamp →
        decoded.timestamp.isoformat = stored.isoformat := by
  have hjoined : cursor.eventId.joined = cursor.eventId := Text.joined_of_hasPair hsingle
  obtain ⟨text, hencode, hsafe, hdecode⟩ := decode_encoded hfloats h (by rwa [hjoined])
  refine ⟨text, _, hencode, hsafe, hdecode, rfl, hjoined, fun stored hstored hread => ?_⟩
  rw [DateTime.fromisoformat_isoformat hstored.representable] at hread
  have hsame : (⟨cursor.timestamp.instant, some 0⟩ : DateTime) = stored := by
    rw [← Option.some.inj hread]
    obtain ⟨wall, utcoffset⟩ := stored
    obtain rfl : utcoffset = some 0 := hstored.utc
    simp [DateTime.instant]
  show DateTime.isoformat ⟨cursor.timestamp.instant, some 0⟩ = stored.isoformat
  rw [hsame]

/-- An hour ahead of UTC. -/
def ahead (eventId : Text) : EventCursor := ⟨⟨63_000_000_000_000_000, some 3_600_000_000⟩, eventId, rfl⟩

theorem decode_encode_ahead :
    ∃ text decoded, encode Rendering.decimals (ahead [.char 'a', .surrogate 0]) = .ok text ∧
      decode Rendering.decimals (Text.ofChars text) = .ok decoded ∧
      decoded.timestamp = ⟨62_999_996_400_000_000, some 0⟩ ∧ decoded.eventId = [.char 'a', .surrogate 0] := by
  obtain ⟨text, decoded, hencode, -, hdecode, htimestamp, hid, -⟩ :=
    decode_encode Rendering.decimals_lawful (ahead [.char 'a', .surrogate 0]) (by decide) (by decide) (by decide)
  exact ⟨text, decoded, hencode, hdecode, htimestamp, hid⟩

/-- The id is two surrogates, and comes back as one character. -/
theorem decode_not_always_encoded :
    ¬∀ cursor : EventCursor, cursor.timestamp.hasUtc = true → cursor.eventId ≠ [] →
      ∃ text decoded, encode Rendering.decimals cursor = .ok text ∧
        decode Rendering.decimals (Text.ofChars text) = .ok decoded ∧ decoded.eventId = cursor.eventId := by
  intro h
  obtain ⟨text, decoded, hencode, hdecode, hid⟩ := h (ahead [.surrogate 0x3D, .surrogate 0x600]) (by decide) (by decide)
  obtain ⟨text', hencode', -, hdecode'⟩ := decode_encoded Rendering.decimals_lawful
    (show (ahead [.surrogate 0x3D, .surrogate 0x600]).timestamp.hasUtc = true by decide) (by decide)
  obtain rfl := Except.ok.inj (hencode.symm.trans hencode')
  have hjoined := congrArg EventCursor.eventId (Except.ok.inj (hdecode.symm.trans hdecode'))
  rw [hid] at hjoined
  exact absurd hjoined (by decide)

end EventCursor

end Bridgewire
