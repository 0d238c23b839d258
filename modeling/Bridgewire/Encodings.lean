import Bridgewire.Text

/-!
# Texts as bytes

The encodings that `json.loads` tells apart. Surrogates are let through when
bytes are decoded, and not when a text is encoded. `none` is a `ValueError`.
-/

abbrev Byte := Fin 256

namespace Encodings

-- ---------------------------------------------------------------------------
-- UTF-8
-- ---------------------------------------------------------------------------

def byte (n : Nat) : Byte := Fin.ofNat 256 n

def utf8Char (n : Nat) : List Byte :=
  if n < 0x80 then [byte n]
  else if n < 0x800 then [byte (0xC0 + n / 64), byte (0x80 + n % 64)]
  else if n < 0x10000 then [byte (0xE0 + n / 4096), byte (0x80 + n / 64 % 64), byte (0x80 + n % 64)]
  else
    [byte (0xF0 + n / 262144), byte (0x80 + n / 4096 % 64), byte (0x80 + n / 64 % 64), byte (0x80 + n % 64)]

/-- `str.encode` -/
def encodeUtf8 : Text → Option (List Byte)
  | [] => some []
  | .char c :: rest => (encodeUtf8 rest).map (utf8Char c.toNat ++ ·)
  | .surrogate _ :: _ => none

def isContinuation (b : Byte) : Bool := 0x80 ≤ b.val && b.val < 0xC0

/-- With `surrogatepass`. -/
def decodeUtf8 : List Byte → Option Text
  | [] => some []
  | a :: rest =>
    if a.val < 0x80 then (decodeUtf8 rest).map (CodePoint.ofNat a.val :: ·)
    else
      match rest with
      | b :: rest =>
        if 0xC2 ≤ a.val ∧ a.val < 0xE0 ∧ isContinuation b then
          (decodeUtf8 rest).map (CodePoint.ofNat ((a.val - 0xC0) * 64 + (b.val - 0x80)) :: ·)
        else
          match rest with
          | c :: rest =>
            let n := (a.val - 0xE0) * 4096 + (b.val - 0x80) * 64 + (c.val - 0x80)
            if 0xE0 ≤ a.val ∧ a.val < 0xF0 ∧ isContinuation b ∧ isContinuation c ∧ 0x800 ≤ n then
              (decodeUtf8 rest).map (CodePoint.ofNat n :: ·)
            else
              match rest with
              | d :: rest =>
                let n := (a.val - 0xF0) * 262144 + (b.val - 0x80) * 4096 + (c.val - 0x80) * 64 + (d.val - 0x80)
                if 0xF0 ≤ a.val ∧ isContinuation b ∧ isContinuation c ∧ isContinuation d ∧ 0x10000 ≤ n ∧
                    n < 0x110000 then
                  (decodeUtf8 rest).map (CodePoint.ofNat n :: ·)
                else none
              | [] => none
          | [] => none
      | [] => none

-- ---------------------------------------------------------------------------
-- UTF-16 and UTF-32
-- ---------------------------------------------------------------------------

inductive Endian
  | big
  | little
  deriving DecidableEq, Repr

def Endian.number (endian : Endian) (bytes : List Byte) : Nat :=
  let value (bytes : List Byte) : Nat := bytes.foldl (fun n b => n * 256 + b.val) 0
  match endian with
  | .big => value bytes
  | .little => value bytes.reverse

def units16 (endian : Endian) : List Byte → Option (List Nat)
  | [] => some []
  | a :: b :: rest => (units16 endian rest).map (endian.number [a, b] :: ·)
  | _ => none

def units32 (endian : Endian) : List Byte → Option (List Nat)
  | [] => some []
  | a :: b :: c :: d :: rest => (units32 endian rest).map (endian.number [a, b, c, d] :: ·)
  | _ => none

/-- Surrogates that make up one character are joined, others are let through. -/
def decodeUtf16 (endian : Endian) (bytes : List Byte) : Option Text :=
  (units16 endian bytes).map fun units => Text.joined (units.map CodePoint.ofNat)

def decodeUtf32 (endian : Endian) (bytes : List Byte) : Option Text :=
  (units32 endian bytes).bind fun units =>
    if units.all (· < 0x110000) then some (units.map CodePoint.ofNat) else none

-- ---------------------------------------------------------------------------
-- JSON
-- ---------------------------------------------------------------------------

/-- `b.decode(json.detect_encoding(b), "surrogatepass")` -/
def decodeDetected (bytes : List Byte) : Option Text :=
  match bytes.map Fin.val with
  | 0 :: 0 :: 0xFE :: 0xFF :: _ => decodeUtf32 .big (bytes.drop 4)
  | 0xFF :: 0xFE :: 0 :: 0 :: _ => decodeUtf32 .little (bytes.drop 4)
  | 0xFE :: 0xFF :: _ => decodeUtf16 .big (bytes.drop 2)
  | 0xFF :: 0xFE :: _ => decodeUtf16 .little (bytes.drop 2)
  | 0xEF :: 0xBB :: 0xBF :: _ => decodeUtf8 (bytes.drop 3)
  | a :: b :: c :: d :: _ =>
    if a = 0 then if b = 0 then decodeUtf32 .big bytes else decodeUtf16 .big bytes
    else if b = 0 then if c = 0 ∧ d = 0 then decodeUtf32 .little bytes else decodeUtf16 .little bytes
    else decodeUtf8 bytes
  | [a, b] =>
    if a = 0 then decodeUtf16 .big bytes else if b = 0 then decodeUtf16 .little bytes else decodeUtf8 bytes
  | _ => decodeUtf8 bytes

-- ---------------------------------------------------------------------------
-- ASCII
-- ---------------------------------------------------------------------------

/-- Characters of one byte. -/
def bytesOf (text : List Char) : List Byte := text.map fun c => byte c.toNat

theorem encodeUtf8_ascii {text : List Char} (h : ∀ c ∈ text, c.toNat < 128) :
    encodeUtf8 (Text.ofChars text) = some (bytesOf text) := by
  induction text with
  | nil => rfl
  | cons c rest ih =>
    obtain ⟨hc, hrest⟩ := List.forall_mem_cons.mp h
    have hchar : utf8Char c.toNat = [byte c.toNat] := if_pos hc
    rw [Text.ofChars_cons, encodeUtf8, ih hrest, hchar]
    rfl

theorem val_byte {n : Nat} (h : n < 128) : (byte n).val = n := Nat.mod_eq_of_lt (by omega)

theorem decodeUtf8_ascii {text : List Char} (h : ∀ c ∈ text, c.toNat < 128) :
    decodeUtf8 (bytesOf text) = some (Text.ofChars text) := by
  induction text with
  | nil => rfl
  | cons c rest ih =>
    obtain ⟨hc, hrest⟩ := List.forall_mem_cons.mp h
    have hbyte := val_byte hc
    have hcons : bytesOf (c :: rest) = byte c.toNat :: bytesOf rest := rfl
    rw [hcons, decodeUtf8.eq_def]
    dsimp only
    rw [if_pos (by rw [hbyte]; exact hc), ih hrest, hbyte, CodePoint.ofNat_char]
    rfl

/-- Bytes of ASCII without zeros are taken for UTF-8. -/
theorem decodeDetected_ascii {text : List Char} (h : ∀ c ∈ text, 0 < c.toNat ∧ c.toNat < 128) :
    decodeDetected (bytesOf text) = some (Text.ofChars text) := by
  have hutf8 := decodeUtf8_ascii fun c hc => (h c hc).2
  have hvals : (bytesOf text).map Fin.val = text.map Char.toNat := by
    rw [bytesOf, List.map_map]
    exact List.map_congr_left fun c hc => val_byte (h c hc).2
  have hall : ∀ n ∈ text.map Char.toNat, 0 < n ∧ n < 128 := by
    intro n hn
    obtain ⟨c, hc, rfl⟩ := List.mem_map.mp hn
    exact h c hc
  unfold decodeDetected
  rw [hvals]
  generalize text.map Char.toNat = values at hall
  split
  · exact absurd (hall 0 (by simp)).1 (by decide)
  · exact absurd (hall 0xFF (by simp)).2 (by decide)
  · exact absurd (hall 0xFE (by simp)).2 (by decide)
  · exact absurd (hall 0xFF (by simp)).2 (by decide)
  · exact absurd (hall 0xEF (by simp)).2 (by decide)
  · rename_i a b c d rest _ _ _ _ _
    rw [if_neg (Nat.ne_of_gt (hall a (by simp)).1), if_neg (Nat.ne_of_gt (hall b (by simp)).1)]
    exact hutf8
  · rename_i a b _ _
    rw [if_neg (Nat.ne_of_gt (hall a (by simp)).1), if_neg (Nat.ne_of_gt (hall b (by simp)).1)]
    exact hutf8
  · exact hutf8

end Encodings
