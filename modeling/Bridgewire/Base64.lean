import Bridgewire.Encodings
import Mathlib.Data.List.DropRight

/-!
# Base64

The alphabet that is safe in URLs. Decoding leaves out what is not in the
alphabet and stops at the padding; what has been encoded is decoded, with its
padding as it was or taken off and put on again.
-/

namespace Base64

open Encodings (byte)

-- ---------------------------------------------------------------------------
-- Encoding
-- ---------------------------------------------------------------------------

/-- The character of six bits. -/
def char (n : Nat) : Char :=
  if n < 26 then Char.ofNat (n + 65)
  else if n < 52 then Char.ofNat (n + 71)
  else if n < 62 then Char.ofNat (n - 4)
  else if n = 62 then '-'
  else '_'

/-- Without padding. -/
def encodeRaw : List Byte → List Char
  | [] => []
  | [a] => [char (a / 4), char (a % 4 * 16)]
  | [a, b] => [char (a / 4), char (a % 4 * 16 + b / 16), char (b % 16 * 4)]
  | a :: b :: c :: rest =>
    char (a / 4) :: char (a % 4 * 16 + b / 16) :: char (b % 16 * 4 + c / 64) :: char (c % 64) :: encodeRaw rest

/-- As many padding characters as are missing from a multiple of four. -/
def padding (length : Nat) : List Char := List.replicate ((4 - length % 4) % 4) '='

/-- `base64.urlsafe_b64encode` -/
def urlsafe_b64encode (bytes : List Byte) : List Char := encodeRaw bytes ++ padding (encodeRaw bytes).length

/-- `rstrip("=")` -/
def rstrip (text : List Char) : List Char := text.rdropWhile (· = '=')

-- ---------------------------------------------------------------------------
-- Decoding
-- ---------------------------------------------------------------------------

/-- The six bits of a character, of either alphabet. -/
def value (c : Char) : Option Nat :=
  if 'A' ≤ c ∧ c ≤ 'Z' then some (c.toNat - 65)
  else if 'a' ≤ c ∧ c ≤ 'z' then some (c.toNat - 71)
  else if '0' ≤ c ∧ c ≤ '9' then some (c.toNat + 4)
  else if c = '-' ∨ c = '+' then some 62
  else if c = '_' ∨ c = '/' then some 63
  else none

/-- `binascii.a2b_base64` from a position in a quadruple, with the bits left over
and the padding seen. -/
def decodeFrom (quad left pads : Nat) : List Char → Option (List Byte)
  | [] => if quad = 0 then some [] else none
  | c :: rest =>
    if c = '=' then
      if 2 ≤ quad then if 4 ≤ quad + (pads + 1) then some [] else decodeFrom quad left (pads + 1) rest
      else decodeFrom quad left pads rest
    else
      match value c with
      | none => decodeFrom quad left pads rest
      | some v =>
        match quad with
        | 0 => decodeFrom 1 v 0 rest
        | 1 => (decodeFrom 2 (v % 16) 0 rest).map (byte (left * 4 + v / 16) :: ·)
        | 2 => (decodeFrom 3 (v % 4) 0 rest).map (byte (left * 16 + v / 4) :: ·)
        | _ => (decodeFrom 0 0 0 rest).map (byte (left * 64 + v) :: ·)

/-- None for a text that is not of ASCII characters only. -/
def ascii (text : Text) : Option (List Char) :=
  text.mapM fun
    | .char c => if c.toNat < 128 then some c else none
    | .surrogate _ => none

/-- `base64.urlsafe_b64decode`; none for a `ValueError`. -/
def urlsafe_b64decode (text : Text) : Option (List Byte) := (ascii text).bind (decodeFrom 0 0 0)

-- ---------------------------------------------------------------------------
-- The alphabet
-- ---------------------------------------------------------------------------

theorem value_char {n : Nat} (h : n < 64) : value (char n) = some n := by
  have hall : ∀ n < 64, value (char n) = some n := by decide
  exact hall n h

/-- A character of the URL-safe alphabet. -/
def isSafe (c : Char) : Bool := c.isAlphanum || c = '-' || c = '_'

theorem char_safe {n : Nat} (h : n < 64) : isSafe (char n) = true ∧ (char n).toNat < 128 ∧ char n ≠ '=' := by
  have hall : ∀ n < 64, isSafe (char n) = true ∧ (char n).toNat < 128 ∧ char n ≠ '=' := by decide
  exact hall n h

theorem decodeFrom_char {quad left pads n : Nat} (h : n < 64) (rest : List Char) :
    decodeFrom quad left pads (char n :: rest) =
      match quad with
      | 0 => decodeFrom 1 n 0 rest
      | 1 => (decodeFrom 2 (n % 16) 0 rest).map (byte (left * 4 + n / 16) :: ·)
      | 2 => (decodeFrom 3 (n % 4) 0 rest).map (byte (left * 16 + n / 4) :: ·)
      | _ => (decodeFrom 0 0 0 rest).map (byte (left * 64 + n) :: ·) := by
  rw [decodeFrom, if_neg (char_safe h).2.2, value_char h]

-- ---------------------------------------------------------------------------
-- Round trip
-- ---------------------------------------------------------------------------

theorem byte_eq {a : Byte} {n : Nat} (h : n = a) : byte n = a := by
  subst h
  exact Fin.ofNat_val_eq_self a

theorem encodeRaw_safe (bytes : List Byte) :
    ∀ c ∈ encodeRaw bytes, isSafe c = true ∧ c.toNat < 128 ∧ c ≠ '=' := by
  induction bytes using encodeRaw.induct with
  | case1 => simp [encodeRaw]
  | case2 a =>
    simp only [encodeRaw, List.forall_mem_cons]
    exact ⟨char_safe (by omega), char_safe (by omega), by simp⟩
  | case3 a b =>
    simp only [encodeRaw, List.forall_mem_cons]
    exact ⟨char_safe (by omega), char_safe (by omega), char_safe (by omega), by simp⟩
  | case4 a b c rest ih =>
    simp only [encodeRaw, List.forall_mem_cons]
    exact ⟨char_safe (by omega), char_safe (by omega), char_safe (by omega), char_safe (by omega), ih⟩

theorem padding_add_four (length : Nat) : padding (length + 4) = padding length := by
  rw [padding, padding, Nat.add_mod_right]

theorem decodeFrom_encode (bytes : List Byte) :
    decodeFrom 0 0 0 (encodeRaw bytes ++ padding (encodeRaw bytes).length) = some bytes := by
  induction bytes using encodeRaw.induct with
  | case1 => rfl
  | case2 a =>
    have hfirst : byte (a.val / 4 * 4 + a.val % 4 * 16 / 16) = a := byte_eq (by omega)
    simp only [encodeRaw, List.cons_append, List.nil_append, decodeFrom_char (show a.val / 4 < 64 by omega),
      decodeFrom_char (show a.val % 4 * 16 < 64 by omega), hfirst]
    rfl
  | case3 a b =>
    have hfirst : byte (a.val / 4 * 4 + (a.val % 4 * 16 + b.val / 16) / 16) = a := byte_eq (by omega)
    have hsecond : byte ((a.val % 4 * 16 + b.val / 16) % 16 * 16 + b.val % 16 * 4 / 4) = b := byte_eq (by omega)
    simp only [encodeRaw, List.cons_append, List.nil_append, decodeFrom_char (show a.val / 4 < 64 by omega),
      decodeFrom_char (show a.val % 4 * 16 + b.val / 16 < 64 by omega), decodeFrom_char (show b.val % 16 * 4 < 64 by omega), hfirst,
      hsecond]
    rfl
  | case4 a b c rest ih =>
    have hfirst : byte (a.val / 4 * 4 + (a.val % 4 * 16 + b.val / 16) / 16) = a := byte_eq (by omega)
    have hsecond : byte ((a.val % 4 * 16 + b.val / 16) % 16 * 16 + (b.val % 16 * 4 + c.val / 64) / 4) = b := byte_eq (by omega)
    have hthird : byte ((b.val % 16 * 4 + c.val / 64) % 4 * 64 + c.val % 64) = c := byte_eq (by omega)
    simp only [encodeRaw, List.cons_append, List.length_cons, padding_add_four,
      decodeFrom_char (show a.val / 4 < 64 by omega), decodeFrom_char (show a.val % 4 * 16 + b.val / 16 < 64 by omega),
      decodeFrom_char (show b.val % 16 * 4 + c.val / 64 < 64 by omega), decodeFrom_char (show c.val % 64 < 64 by omega), hfirst,
      hsecond, hthird, ih, Option.map_some]

theorem rstrip_replicate {text : List Char} (h : ∀ c ∈ text, c ≠ '=') (count : Nat) :
    rstrip (text ++ List.replicate count '=') = text := by
  induction count with
  | zero =>
    rw [List.replicate_zero, List.append_nil, rstrip, List.rdropWhile_eq_self_iff]
    intro hne
    simpa using h _ (List.getLast_mem hne)
  | succ count ih =>
    rw [List.replicate_succ', ← List.append_assoc, rstrip, List.rdropWhile_concat_pos _ _ _ (by decide)]
    exact ih

/-- The padding is all that is taken off. -/
theorem rstrip_encode (bytes : List Byte) : rstrip (urlsafe_b64encode bytes) = encodeRaw bytes :=
  rstrip_replicate (fun c hc => (encodeRaw_safe bytes c hc).2.2) _

theorem ascii_ofChars {text : List Char} (h : ∀ c ∈ text, c.toNat < 128) : ascii (Text.ofChars text) = some text := by
  induction text with
  | nil => rfl
  | cons c rest ih =>
    obtain ⟨hc, hrest⟩ := List.forall_mem_cons.mp h
    have hih := ih hrest
    unfold ascii at hih ⊢
    simp [List.mapM_cons, hc, hih]

/-- What has been stripped of its padding is decoded when it is padded again. -/
theorem decode_padded (bytes : List Byte) :
    urlsafe_b64decode (Text.ofChars (encodeRaw bytes ++ padding (encodeRaw bytes).length)) = some bytes := by
  have hall : ∀ c ∈ encodeRaw bytes ++ padding (encodeRaw bytes).length, c.toNat < 128 := by
    intro c hc
    rcases List.mem_append.mp hc with hc | hc
    · exact (encodeRaw_safe bytes c hc).2.1
    · rw [List.eq_of_mem_replicate hc]
      decide
  rw [urlsafe_b64decode, ascii_ofChars hall, Option.bind_some, decodeFrom_encode]

end Base64
