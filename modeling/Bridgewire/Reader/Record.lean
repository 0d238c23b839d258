import Mathlib.Data.List.Basic

/-!
# Reader records

The ID-20LA frame: STX, ten uppercase hexadecimal digits, two checksum
digits, CR, LF, ETX. The checksum is the XOR of the five data bytes.
-/

namespace Bridgewire

def STX : UInt8 := 0x02
def ETX : UInt8 := 0x03
def recordLength : Nat := 16

structure ReaderRecordError where
  reason : String
  deriving DecidableEq, Repr

structure ParsedRecord where
  credential : String
  deriving DecidableEq, Repr

structure MalformedRecord where
  reason : String
  deriving DecidableEq, Repr

inductive RecordResult
  | parsed (record : ParsedRecord)
  | malformed (record : MalformedRecord)
  deriving DecidableEq, Repr

def hexDigits : List Char := "0123456789ABCDEF".toList

def hexDigitValue (digit : Char) : Nat := hexDigits.idxOf digit

/-- `int(text, 16)` of uppercase hexadecimal digits. -/
def parseHex (text : List Char) : Nat := text.foldl (fun value digit => 16 * value + hexDigitValue digit) 0

/-- `checksum ^= int(data[offset : offset + 2], 16)` for every second offset. -/
def xorPairs (checksum : Nat) : List Char → Nat
  | [] => checksum
  | [a] => checksum ^^^ parseHex [a]
  | a :: b :: rest => xorPairs (checksum ^^^ parseHex [a, b]) rest

/-- `bytes.decode("ascii", errors="strict")`; `none` is `UnicodeDecodeError`. -/
def decodeAscii (bytes : List UInt8) : Option String :=
  if bytes.all (· < 0x80) then some (String.ofList (bytes.map fun b => Char.ofNat b.toNat)) else none

/-- `record[start:stop]`. -/
def slice (record : List UInt8) (start stop : Nat) : List UInt8 := (record.take stop).drop start

def parseCredentialIdentifier (credential : String) : Except ReaderRecordError ParsedRecord :=
  if credential.toList.length ≠ 10 ∨ credential.toList.any (· ∉ hexDigits) then
    .error ⟨"invalid_identifier"⟩
  else .ok ⟨credential⟩

def parseReaderRecord (record : List UInt8) : Except ReaderRecordError ParsedRecord :=
  if record.length ≠ recordLength then .error ⟨"invalid_length"⟩
  else if record.head? ≠ some STX ∨ record.getLast? ≠ some ETX then .error ⟨"invalid_framing"⟩
  else if slice record 13 15 ≠ [0x0D, 0x0A] then .error ⟨"invalid_terminator"⟩
  else match decodeAscii (slice record 1 11), decodeAscii (slice record 11 13) with
    | some data, some checksumText =>
      match parseCredentialIdentifier data with
      | .error error => .error error
      | .ok parsed =>
        if checksumText.toList.length ≠ 2 ∨ checksumText.toList.any (· ∉ hexDigits) then
          .error ⟨"invalid_checksum_encoding"⟩
        else if xorPairs 0 data.toList ≠ parseHex checksumText.toList then
          .error ⟨"checksum_mismatch"⟩
        else .ok parsed
    | _, _ => .error ⟨"invalid_encoding"⟩

-- ---------------------------------------------------------------------------
-- What is accepted, and why the rest is not
-- ---------------------------------------------------------------------------

/-- The reasons an exact frame, from its STX to its ETX, can be refused for. -/
def frameReasons : List String :=
  ["invalid_length", "invalid_terminator", "invalid_encoding", "invalid_identifier",
    "invalid_checksum_encoding", "checksum_mismatch"]

theorem parseCredentialIdentifier_error {credential : String} {error : ReaderRecordError}
    (h : parseCredentialIdentifier credential = .error error) :
    error = ⟨"invalid_identifier"⟩ := by
  unfold parseCredentialIdentifier at h
  split at h
  · exact (Except.error.inj h).symm
  · cases h

theorem parseCredentialIdentifier_ok {credential : String} {record : ParsedRecord}
    (h : parseCredentialIdentifier credential = .ok record) :
    record = ⟨credential⟩ ∧ credential.toList.length = 10 ∧ ∀ c ∈ credential.toList, c ∈ hexDigits := by
  unfold parseCredentialIdentifier at h
  split at h
  · cases h
  · rename_i hvalid
    simp only [not_or, not_not, List.any_eq_true, decide_eq_true_eq, not_exists, not_and] at hvalid
    exact ⟨(Except.ok.inj h).symm, hvalid⟩

/-- Everything an accepted frame satisfies, in the order it is checked. -/
theorem parseReaderRecord_ok {record : List UInt8} {parsed : ParsedRecord}
    (h : parseReaderRecord record = .ok parsed) :
    record.length = recordLength ∧ record.head? = some STX ∧ record.getLast? = some ETX ∧
      slice record 13 15 = [0x0D, 0x0A] ∧
      ∃ data checksumText, decodeAscii (slice record 1 11) = some data ∧
        decodeAscii (slice record 11 13) = some checksumText ∧
        parseCredentialIdentifier data = .ok parsed ∧
        (∀ c ∈ checksumText.toList, c ∈ hexDigits) ∧
        xorPairs 0 data.toList = parseHex checksumText.toList := by
  unfold parseReaderRecord at h
  split at h
  · cases h
  rename_i hlength
  split at h
  · cases h
  rename_i hframing
  split at h
  · cases h
  rename_i hterminator
  split at h
  · rename_i data checksumText hdata hchecksumText
    split at h
    · cases h
    rename_i hparsed
    split at h
    · cases h
    rename_i hdigits
    split at h
    · cases h
    rename_i hchecksum
    cases h
    simp only [not_or, not_not, List.any_eq_true, decide_eq_true_eq, not_exists, not_and] at *
    exact ⟨hlength, hframing.1, hframing.2, hterminator, data, checksumText, hdata, hchecksumText,
      hparsed, hdigits.2, hchecksum⟩
  · cases h

/-- And whatever satisfies it is accepted. -/
theorem parseReaderRecord_of {record : List UInt8} {parsed : ParsedRecord} {data checksumText : String}
    (hlength : record.length = recordLength) (hhead : record.head? = some STX)
    (hlast : record.getLast? = some ETX) (hterminator : slice record 13 15 = [0x0D, 0x0A])
    (hdata : decodeAscii (slice record 1 11) = some data)
    (hchecksumText : decodeAscii (slice record 11 13) = some checksumText)
    (hparsed : parseCredentialIdentifier data = .ok parsed) (htwo : checksumText.toList.length = 2)
    (hdigits : ∀ c ∈ checksumText.toList, c ∈ hexDigits)
    (hchecksum : xorPairs 0 data.toList = parseHex checksumText.toList) :
    parseReaderRecord record = .ok parsed := by
  have hencoding : ¬(checksumText.toList.length ≠ 2 ∨ checksumText.toList.any (· ∉ hexDigits)) := by
    simpa [htwo] using hdigits
  rw [parseReaderRecord, if_neg (not_not.mpr hlength), if_neg (by simp [hhead, hlast]),
    if_neg (not_not.mpr hterminator), hdata, hchecksumText]
  simp only [hparsed]
  rw [if_neg hencoding, if_neg (not_not.mpr hchecksum)]

theorem parseReaderRecord_length {record : List UInt8} {parsed : ParsedRecord}
    (h : parseReaderRecord record = .ok parsed) : record.length = recordLength :=
  (parseReaderRecord_ok h).1

theorem parseReaderRecord_error {body : List UInt8} {error : ReaderRecordError}
    (h : parseReaderRecord (STX :: (body ++ [ETX])) = .error error) : error.reason ∈ frameReasons := by
  unfold parseReaderRecord at h
  split at h
  · cases h; simp [frameReasons]
  split at h
  · rename_i hframing
    simp [List.getLast?_cons] at hframing
  split at h
  · cases h; simp [frameReasons]
  split at h
  · split at h
    · rename_i hinvalid
      cases h
      simp [parseCredentialIdentifier_error hinvalid, frameReasons]
    split at h
    · cases h; simp [frameReasons]
    split at h
    · cases h; simp [frameReasons]
    · cases h
  · cases h; simp [frameReasons]

/-- A byte that decodes to a hexadecimal digit is no delimiter. -/
theorem decodeAscii_hex {bytes : List UInt8} {text : String} (h : decodeAscii bytes = some text)
    (hhex : ∀ c ∈ text.toList, c ∈ hexDigits) : STX ∉ bytes ∧ ETX ∉ bytes := by
  unfold decodeAscii at h
  split at h
  · cases h
    simp only [String.toList_ofList, List.mem_map, forall_exists_index, and_imp,
      forall_apply_eq_imp_iff₂] at hhex
    exact ⟨fun hm => absurd (hhex STX hm) (by decide), fun hm => absurd (hhex ETX hm) (by decide)⟩
  · cases h

theorem slice_append_slice (record : List UInt8) {a b c : Nat} (hab : a ≤ b) (hbc : b ≤ c) :
    slice record a b ++ slice record b c = slice record a c := by
  unfold slice
  have htake : record.take b = (record.take c).take b := by rw [List.take_take, Nat.min_eq_left hbc]
  have hdrop : (record.take c).drop b = ((record.take c).drop a).drop (b - a) := by
    rw [List.drop_drop, Nat.add_sub_cancel' hab]
  rw [htake, List.drop_take, hdrop, List.take_append_drop]

/-- An accepted frame has its delimiters at its ends only. -/
theorem parseReaderRecord_shape {record : List UInt8} {parsed : ParsedRecord}
    (h : parseReaderRecord record = .ok parsed) :
    ∃ body, record = STX :: (body ++ [ETX]) ∧ body.length = 14 ∧ STX ∉ body ∧ ETX ∉ body := by
  obtain ⟨hlength, hhead, hlast, hterminator, data, checksumText, hdata, hchecksumText, hparsed,
    hdigits, -⟩ := parseReaderRecord_ok h
  obtain ⟨-, -, hhex⟩ := parseCredentialIdentifier_ok hparsed
  obtain ⟨hdataSTX, hdataETX⟩ := decodeAscii_hex hdata hhex
  obtain ⟨hsumSTX, hsumETX⟩ := decodeAscii_hex hchecksumText hdigits
  have hmiddle : slice record 1 15 = slice record 1 11 ++ slice record 11 13 ++ [0x0D, 0x0A] := by
    rw [← hterminator, slice_append_slice record (by omega) (by omega),
      slice_append_slice record (by omega) (by omega)]
  obtain ⟨rest, rfl⟩ := List.head?_eq_some_iff.mp hhead
  rcases List.eq_nil_or_concat' rest with rfl | ⟨body, last, rfl⟩
  · simp [recordLength] at hlength
  obtain rfl : last = ETX := by simpa [List.getLast?_cons] using hlast
  have hbody : body.length = 14 := by simpa [recordLength] using hlength
  have hslice : slice (STX :: (body ++ [ETX])) 1 15 = body := by simp [slice, hbody]
  rw [hslice] at hmiddle
  refine ⟨body, rfl, hbody, ?_, ?_⟩
  · rw [hmiddle]
    simpa [hdataSTX, hsumSTX] using (by decide : STX ≠ 0x0D ∧ STX ≠ 0x0A)
  · rw [hmiddle]
    simpa [hdataETX, hsumETX] using (by decide : ETX ≠ 0x0D ∧ ETX ≠ 0x0A)

example : parseReaderRecord
    [2, 48, 49, 48, 50, 48, 51, 48, 52, 48, 53, 48, 49, 13, 10, 3] = .ok ⟨"0102030405"⟩ := by
  decide +kernel

end Bridgewire
