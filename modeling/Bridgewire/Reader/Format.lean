import Bridgewire.Runtime.Model

/-!
# The frame format

The accepted frames are the records built of the accepted identifiers, so the
reader and `submit_credential` admit the same identifiers.
-/

namespace Bridgewire

/-- A credential that `parse_credential_identifier` accepts. -/
structure Identifier where
  credential : String
  accepted : parseCredentialIdentifier credential = .ok ⟨credential⟩

/-- `text.encode("ascii")`, for ASCII text. -/
def encodeAscii (text : List Char) : List UInt8 := text.map fun c => c.toNat.toUInt8

/-- `f"{value:02X}"`. -/
def formatHex (value : Nat) : List Char :=
  let digits := (Nat.toDigits 16 value).map Char.toUpper
  List.replicate (2 - digits.length) '0' ++ digits

/-- `build_record`, of an identifier. -/
def buildRecord (identifier : Identifier) : List UInt8 :=
  let data := identifier.credential.toList
  STX :: (encodeAscii data ++ encodeAscii (formatHex (xorPairs 0 data)) ++ [0x0D, 0x0A, ETX])

-- ---------------------------------------------------------------------------
-- Hexadecimal text
-- ---------------------------------------------------------------------------

def IsHex (text : List Char) : Prop := ∀ c ∈ text, c ∈ hexDigits

theorem hexDigit_ascii {c : Char} (h : c ∈ hexDigits) :
    c.toNat.toUInt8 < 0x80 ∧ Char.ofNat c.toNat.toUInt8.toNat = c := by
  have hall : hexDigits.all fun c =>
      c.toNat.toUInt8 < 0x80 && Char.ofNat c.toNat.toUInt8.toNat = c := by decide
  simpa using List.all_eq_true.mp hall c h

theorem formatHex_parseHex {a b : Char} (ha : a ∈ hexDigits) (hb : b ∈ hexDigits) :
    formatHex (parseHex [a, b]) = [a, b] := by
  have hall : hexDigits.all fun a => hexDigits.all fun b => formatHex (parseHex [a, b]) = [a, b] := by
    decide +kernel
  simpa using List.all_eq_true.mp (List.all_eq_true.mp hall a ha) b hb

theorem parseHex_formatHex {value : Nat} (h : value < 256) :
    (formatHex value).length = 2 ∧ IsHex (formatHex value) ∧ parseHex (formatHex value) = value := by
  have hall : ∀ value < 256, (formatHex value).length = 2 ∧ (formatHex value).all (· ∈ hexDigits) ∧
      parseHex (formatHex value) = value := by
    decide +kernel
  simpa [IsHex] using hall value h

theorem parseHex_lt {a b : Char} (ha : a ∈ hexDigits) (hb : b ∈ hexDigits) : parseHex [a, b] < 256 := by
  have hall : hexDigits.all fun a => hexDigits.all fun b => parseHex [a, b] < 256 := by
    decide +kernel
  simpa using List.all_eq_true.mp (List.all_eq_true.mp hall a ha) b hb

theorem xorPairs_lt (checksum : Nat) (hchecksum : checksum < 256) (text : List Char)
    (heven : text.length % 2 = 0) (hhex : IsHex text) : xorPairs checksum text < 256 := by
  fun_induction xorPairs checksum text with
  | case1 => exact hchecksum
  | case2 => simp at heven
  | case3 checksum a b rest ih =>
    have hpair : parseHex [a, b] < 256 := parseHex_lt (hhex a (by simp)) (hhex b (by simp))
    refine ih (Nat.xor_lt_two_pow (n := 8) hchecksum hpair) ?_ fun c hc => hhex c (by simp [hc])
    rw [List.length_cons, List.length_cons] at heven
    omega

theorem decodeAscii_encodeAscii {text : List Char} (h : IsHex text) :
    decodeAscii (encodeAscii text) = some (String.ofList text) := by
  have hascii : (encodeAscii text).all (· < 0x80) = true := by
    simp only [encodeAscii, List.all_map, List.all_eq_true, Function.comp_apply, decide_eq_true_eq]
    exact fun c hc => (hexDigit_ascii (h c hc)).1
  have hchars : (encodeAscii text).map (fun b => Char.ofNat b.toNat) = text := by
    rw [encodeAscii, List.map_map]
    exact (List.map_congr_left fun c hc => (hexDigit_ascii (h c hc)).2).trans (List.map_id _)
  rw [decodeAscii, if_pos hascii, hchars]

theorem encodeAscii_decodeAscii {bytes : List UInt8} {text : String} (h : decodeAscii bytes = some text) :
    encodeAscii text.toList = bytes := by
  unfold decodeAscii at h
  split at h
  · rename_i hascii
    cases h
    rw [encodeAscii, String.toList_ofList, List.map_map]
    refine (List.map_congr_left fun b hb => ?_).trans (List.map_id _)
    have hb : b.toNat < 128 := by simpa [UInt8.lt_iff_toNat_lt] using List.all_eq_true.mp hascii b hb
    have hchar : ∀ n < 128, (Char.ofNat n).toNat = n := by decide
    show (Char.ofNat b.toNat).toNat.toUInt8 = b
    rw [hchar b.toNat hb]
    exact UInt8.ofNat_toNat
  · cases h

-- ---------------------------------------------------------------------------
-- Both directions
-- ---------------------------------------------------------------------------

theorem Identifier.length (identifier : Identifier) : identifier.credential.toList.length = 10 :=
  (parseCredentialIdentifier_ok identifier.accepted).2.1

theorem Identifier.isHex (identifier : Identifier) : IsHex identifier.credential.toList :=
  (parseCredentialIdentifier_ok identifier.accepted).2.2

theorem Identifier.checksum_lt (identifier : Identifier) :
    xorPairs 0 identifier.credential.toList < 256 :=
  xorPairs_lt 0 (by decide) _ (by rw [identifier.length]) identifier.isHex

/-- The middle of three parts. -/
theorem slice_middle {front middle back : List UInt8} {start stop : Nat} (hstart : front.length = start)
    (hstop : start + middle.length = stop) : slice (front ++ (middle ++ back)) start stop = middle := by
  subst hstart hstop
  simp [slice, List.take_append]

/-- A built record is accepted as the identifier it was built of. -/
theorem parseReaderRecord_buildRecord (identifier : Identifier) :
    parseReaderRecord (buildRecord identifier) = .ok ⟨identifier.credential⟩ := by
  have hdata : (encodeAscii identifier.credential.toList).length = 10 := by
    simp [encodeAscii, identifier.length]
  obtain ⟨hlength, hhex, hvalue⟩ := parseHex_formatHex identifier.checksum_lt
  have hsum : (encodeAscii (formatHex (xorPairs 0 identifier.credential.toList))).length = 2 := by
    simpa [encodeAscii] using hlength
  have hdecoded := decodeAscii_encodeAscii identifier.isHex
  have hdecodedSum := decodeAscii_encodeAscii hhex
  generalize hrecord : buildRecord identifier = record
  have hframe : record = [STX] ++ (encodeAscii identifier.credential.toList ++
      (encodeAscii (formatHex (xorPairs 0 identifier.credential.toList)) ++ [0x0D, 0x0A, ETX])) := by
    rw [← hrecord]
    simp [buildRecord]
  have hslice : slice record 1 11 = encodeAscii identifier.credential.toList := by
    rw [hframe]
    exact slice_middle rfl (by rw [hdata])
  have hsliceSum : slice record 11 13 =
      encodeAscii (formatHex (xorPairs 0 identifier.credential.toList)) := by
    rw [hframe, ← List.append_assoc]
    exact slice_middle (by simp [hdata]) (by rw [hsum])
  have hterminator : slice record 13 15 = [0x0D, 0x0A] := by
    rw [hframe, ← List.append_assoc, ← List.append_assoc]
    have hfront : ([STX] ++ encodeAscii identifier.credential.toList ++
        encodeAscii (formatHex (xorPairs 0 identifier.credential.toList))).length = 13 := by
      simp [hdata, hsum]
    have hmiddle : slice (_ ++ ([0x0D, 0x0A] ++ [ETX])) 13 15 = [0x0D, 0x0A] := slice_middle hfront rfl
    exact hmiddle
  have hsize : record.length = recordLength := by simp [hframe, hdata, hsum, recordLength]
  have hlast : record.getLast? = some ETX := by
    rw [hframe, ← List.append_assoc, ← List.append_assoc]
    exact List.getLast?_append_of_ne_nil _ (by simp)
  have hhead : record.head? = some STX := by simp [hframe]
  refine parseReaderRecord_of hsize hhead hlast hterminator (hslice ▸ hdecoded)
    (hsliceSum ▸ hdecodedSum) ?_ ?_ ?_ ?_
  · rw [String.ofList_toList]
    exact identifier.accepted
  · rw [String.toList_ofList]
    exact hlength
  · rw [String.toList_ofList]
    exact hhex
  · rw [String.toList_ofList, String.toList_ofList]
    exact hvalue.symm

/-- An accepted frame is the record built of its identifier. -/
theorem buildRecord_parseReaderRecord {record : List UInt8} {parsed : ParsedRecord}
    (h : parseReaderRecord record = .ok parsed) :
    ∃ identifier : Identifier, identifier.credential = parsed.credential ∧ buildRecord identifier = record := by
  obtain ⟨hlength, -, -, hterminator, data, checksumText, hdata, hchecksumText, hparsed,
    hdigits, hchecksum⟩ := parseReaderRecord_ok h
  obtain ⟨rfl, hten, hhex⟩ := parseCredentialIdentifier_ok hparsed
  obtain ⟨body, rfl, hbody, -, -⟩ := parseReaderRecord_shape h
  have hparts : body = slice (STX :: (body ++ [ETX])) 1 11 ++ slice (STX :: (body ++ [ETX])) 11 13 ++
      [0x0D, 0x0A] := by
    rw [← hterminator, slice_append_slice _ (by decide) (by decide),
      slice_append_slice _ (by decide) (by decide)]
    have hmiddle : slice ([STX] ++ (body ++ [ETX])) 1 15 = body := slice_middle rfl (by rw [hbody])
    exact hmiddle.symm
  have hsum := encodeAscii_decodeAscii hchecksumText
  have htwo : checksumText.toList.length = 2 := by
    have hslice := congrArg List.length hsum
    simpa [encodeAscii, slice, hbody] using hslice
  have hformat : formatHex (xorPairs 0 data.toList) = checksumText.toList := by
    rw [hchecksum]
    obtain ⟨a, b, hab⟩ := List.length_eq_two.mp htwo
    rw [hab] at hdigits ⊢
    exact formatHex_parseHex (hdigits a (by simp)) (hdigits b (by simp))
  refine ⟨⟨data, hparsed⟩, rfl, ?_⟩
  show STX :: (encodeAscii data.toList ++ encodeAscii (formatHex (xorPairs 0 data.toList)) ++ _) = _
  rw [hformat, hsum, encodeAscii_decodeAscii hdata]
  conv => rhs; rw [hparts]
  simp

-- ---------------------------------------------------------------------------
-- No other exception
-- ---------------------------------------------------------------------------

/-- The exceptions of a function that raises `ReaderRecordError`s. -/
inductive Raised
  | reader (error : ReaderRecordError)
  | other
  deriving DecidableEq, Repr

/-- `int(text, 16)` of uppercase digits. Whatever else it makes of other text
is taken to be an exception. -/
def int16 (text : List Char) : Except Raised Nat :=
  if text ≠ [] ∧ text.all (· ∈ hexDigits) then .ok (parseHex text) else .error .other

/-- The loop over the pairs, with an `int` that may raise. -/
def xorPairsRaising (checksum : Nat) : List Char → Except Raised Nat
  | [] => .ok checksum
  | [a] => (int16 [a]).map (checksum ^^^ ·)
  | a :: b :: rest => do xorPairsRaising (checksum ^^^ (← int16 [a, b])) rest

/-- `record[0]`, `record[-1]`. -/
def byteItem (byte : Option UInt8) : Except Raised UInt8 :=
  match byte with
  | some byte => .ok byte
  | none => .error .other

/-- `parse_reader_record`, where indexing and `int` may raise too. -/
def parseReaderRecordRaising (record : List UInt8) : Except Raised ParsedRecord :=
  if record.length ≠ recordLength then .error (.reader ⟨"invalid_length"⟩)
  else do
    let first ← byteItem record.head?
    let last ← byteItem record.getLast?
    if first ≠ STX ∨ last ≠ ETX then .error (.reader ⟨"invalid_framing"⟩)
    else if slice record 13 15 ≠ [0x0D, 0x0A] then .error (.reader ⟨"invalid_terminator"⟩)
    else match decodeAscii (slice record 1 11), decodeAscii (slice record 11 13) with
      | some data, some checksumText => do
        let parsed ← (parseCredentialIdentifier data).mapError .reader
        if checksumText.toList.length ≠ 2 ∨ checksumText.toList.any (· ∉ hexDigits) then
          .error (.reader ⟨"invalid_checksum_encoding"⟩)
        else do
          let checksum ← xorPairsRaising 0 data.toList
          let expected ← int16 checksumText.toList
          if checksum ≠ expected then .error (.reader ⟨"checksum_mismatch"⟩) else pure parsed
      | _, _ => .error (.reader ⟨"invalid_encoding"⟩)

theorem int16_hex {text : List Char} (hne : text ≠ []) (h : IsHex text) : int16 text = .ok (parseHex text) := by
  rw [int16, if_pos]
  exact ⟨hne, by simpa using fun c hc => h c hc⟩

theorem xorPairsRaising_hex (checksum : Nat) {text : List Char} (h : IsHex text) :
    xorPairsRaising checksum text = .ok (xorPairs checksum text) := by
  fun_induction xorPairs checksum text with
  | case1 => rfl
  | case2 checksum a =>
    rw [xorPairsRaising, int16_hex (by simp) h]
    rfl
  | case3 checksum a b rest ih =>
    have hpair : IsHex [a, b] := by
      intro c hc
      exact h c (List.mem_of_mem_take (i := 2) hc)
    rw [xorPairsRaising, int16_hex (by simp) hpair]
    exact ih fun c hc => h c (by simp [hc])

/-- No index is out of range and every `int` is of hexadecimal digits. -/
theorem parseReaderRecordRaising_eq (record : List UInt8) :
    parseReaderRecordRaising record = (parseReaderRecord record).mapError .reader := by
  unfold parseReaderRecordRaising parseReaderRecord
  split
  · rfl
  rename_i hlength
  have hne : record ≠ [] := by
    rintro rfl
    exact hlength (by decide)
  have hfirst := List.head?_eq_some_head hne
  have hlast := List.getLast?_eq_some_getLast hne
  simp only [hfirst, hlast, byteItem, ne_eq, Option.some.injEq]
  show (if _ then _ else _) = _
  split
  · rfl
  split
  · rfl
  cases decodeAscii (slice record 1 11) with
  | none => rfl
  | some data =>
    cases decodeAscii (slice record 11 13) with
    | none => rfl
    | some checksumText =>
      dsimp only
      cases hparsed : parseCredentialIdentifier data with
      | error error => rfl
      | ok parsed =>
        show (if _ then _ else _) = Except.mapError _ (if _ then _ else _)
        split
        · rfl
        rename_i hencoding
        simp only [not_or, not_not, List.any_eq_true, decide_eq_true_eq, not_exists, not_and]
          at hencoding
        have hnonempty : checksumText.toList ≠ [] := by
          intro hnil
          simp [hnil] at hencoding
        rw [xorPairsRaising_hex 0 (parseCredentialIdentifier_ok hparsed).2.2,
          int16_hex hnonempty hencoding.2]
        show (if _ then _ else _) = Except.mapError _ (if _ then _ else _)
        split
        · rfl
        · rfl

-- ---------------------------------------------------------------------------
-- The parser and the direct path
-- ---------------------------------------------------------------------------

/-- What `parse_credential_identifier` accepts is what `submit_credential`
submits as a parsed record. -/
theorem credentialRecord_parsed {credential : String} :
    AccessService.credentialRecord credential = .parsed ⟨credential⟩ ↔
      parseCredentialIdentifier credential = .ok ⟨credential⟩ := by
  unfold AccessService.credentialRecord
  cases h : parseCredentialIdentifier credential with
  | error error => simp
  | ok record =>
    obtain ⟨rfl, -⟩ := parseCredentialIdentifier_ok h
    simp

/-- The parser accepts the records built of identifiers, each as its identifier,
and refuses everything else with a `ReaderRecordError`; the credentials it accepts
are those that `submit_credential` submits as parsed. -/
theorem frames_are_identifiers :
    (∀ credential (h : parseCredentialIdentifier credential = .ok ⟨credential⟩),
      parseReaderRecordRaising (buildRecord ⟨credential, h⟩) = .ok ⟨credential⟩) ∧
    (∀ record parsed, parseReaderRecordRaising record = .ok parsed →
      ∃ h : parseCredentialIdentifier parsed.credential = .ok ⟨parsed.credential⟩,
        record = buildRecord ⟨parsed.credential, h⟩) ∧
    (∀ record, (∃ parsed, parseReaderRecordRaising record = .ok parsed) ∨
      ∃ error, parseReaderRecordRaising record = .error (.reader error)) ∧
    (∀ credential, (∃ record, parseReaderRecordRaising record = .ok ⟨credential⟩) ↔
      AccessService.credentialRecord credential = .parsed ⟨credential⟩) := by
  have haccepts : ∀ identifier : Identifier,
      parseReaderRecordRaising (buildRecord identifier) = .ok ⟨identifier.credential⟩ := by
    intro identifier
    rw [parseReaderRecordRaising_eq, parseReaderRecord_buildRecord]
    rfl
  have hbuilt : ∀ record parsed, parseReaderRecordRaising record = .ok parsed →
      ∃ h : parseCredentialIdentifier parsed.credential = .ok ⟨parsed.credential⟩,
        record = buildRecord ⟨parsed.credential, h⟩ := by
    intro record parsed hparsed
    rw [parseReaderRecordRaising_eq] at hparsed
    cases hrecord : parseReaderRecord record with
    | error error =>
      rw [hrecord] at hparsed
      cases hparsed
    | ok other =>
      rw [hrecord] at hparsed
      cases hparsed
      obtain ⟨⟨credential, haccepted⟩, rfl, hsame⟩ := buildRecord_parseReaderRecord hrecord
      exact ⟨haccepted, hsame.symm⟩
  refine ⟨fun credential h => haccepts ⟨credential, h⟩, hbuilt, ?_, ?_⟩
  · intro record
    rw [parseReaderRecordRaising_eq]
    cases parseReaderRecord record with
    | error error => exact .inr ⟨error, rfl⟩
    | ok parsed => exact .inl ⟨parsed, rfl⟩
  · intro credential
    rw [credentialRecord_parsed]
    constructor
    · rintro ⟨record, hrecord⟩
      exact (hbuilt record _ hrecord).1
    · intro h
      exact ⟨buildRecord ⟨credential, h⟩, haccepts ⟨credential, h⟩⟩

end Bridgewire
