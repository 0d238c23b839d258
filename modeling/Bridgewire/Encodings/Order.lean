import Bridgewire.Encodings
import Mathlib.Data.List.Lex

/-!
# The order of bytes

UTF-8 keeps the order of the code points: texts compared byte by byte are
compared code point by code point, and other texts have other bytes.
-/

namespace Encodings

/-- `utf8Char`, as numbers. -/
def utf8Codes (n : Nat) : List Nat :=
  if n < 0x80 then [n]
  else if n < 0x800 then [0xC0 + n / 64, 0x80 + n % 64]
  else if n < 0x10000 then [0xE0 + n / 4096, 0x80 + n / 64 % 64, 0x80 + n % 64]
  else [0xF0 + n / 262144, 0x80 + n / 4096 % 64, 0x80 + n / 64 % 64, 0x80 + n % 64]

theorem byte_val {n : Nat} (h : n < 256) : (byte n).val = n := Nat.mod_eq_of_lt h

theorem utf8Char_codes {n : Nat} (h : n < 0x110000) : (utf8Char n).map Fin.val = utf8Codes n := by
  unfold utf8Char utf8Codes
  repeat' split
  all_goals simp (disch := omega) only [List.map_cons, List.map_nil, byte_val]

/-- The bytes of the lesser code point come first, whatever follows. -/
theorem utf8Codes_lt {n m : Nat} (h : n < m) (hm : m < 0x110000) (rest rest' : List Nat) :
    utf8Codes n ++ rest < utf8Codes m ++ rest' := by
  unfold utf8Codes
  repeat' split
  all_goals simp only [List.cons_append, List.nil_append, List.cons_lt_cons_iff]
  all_goals omega

/-- What a text that has UTF-8 is compared by. -/
def bytes : Text → List Nat
  | [] => []
  | c :: rest => utf8Codes c.toNat ++ bytes rest

theorem char_lt (c : Char) : c.toNat < 0x110000 := by
  have hvalid := c.valid
  simp only [UInt32.isValidChar, Nat.isValidChar] at hvalid
  have hval : c.val.toNat = c.toNat := rfl
  omega

theorem codePoint_lt (c : CodePoint) : c.toNat < 0x110000 := by
  cases c with
  | char c => exact char_lt c
  | surrogate n =>
    simp only [CodePoint.toNat]
    omega

theorem encodeUtf8_bytes {text : Text} {encoded : List Byte} (h : encodeUtf8 text = some encoded) :
    encoded.map Fin.val = bytes text := by
  induction text generalizing encoded with
  | nil =>
    obtain rfl := Option.some.inj h
    rfl
  | cons c rest ih =>
    cases c with
    | surrogate n => cases h
    | char c =>
      obtain ⟨tail, htail, rfl⟩ := Option.map_eq_some_iff.mp h
      simp [bytes, CodePoint.toNat, ih htail, utf8Char_codes (char_lt c)]

theorem utf8Codes_cons (n : Nat) : ∃ first rest, utf8Codes n = first :: rest := by
  unfold utf8Codes
  repeat' split
  all_goals exact ⟨_, _, rfl⟩

theorem bytes_lt {a b : Text} (h : a.map CodePoint.toNat < b.map CodePoint.toNat) : bytes a < bytes b := by
  induction a generalizing b with
  | nil =>
    cases b with
    | nil => exact absurd h (List.lt_irrefl _)
    | cons d rest' =>
      obtain ⟨first, tail, hcodes⟩ := utf8Codes_cons d.toNat
      rw [bytes, bytes, hcodes]
      exact List.nil_lt_cons _ _
  | cons c rest ih =>
    cases b with
    | nil => cases h
    | cons d rest' =>
      rcases List.cons_lt_cons_iff.mp h with hlt | ⟨heq, hlt⟩
      · exact utf8Codes_lt hlt (codePoint_lt d) _ _
      · rw [bytes, bytes, heq]
        exact List.append_left_lt (ih hlt)

theorem toNat_inj {c d : CodePoint} (h : c.toNat = d.toNat) : c = d := by
  cases c with
  | char c =>
    cases d with
    | char d => rw [Char.ext (UInt32.toNat_inj.mp h)]
    | surrogate n =>
      have hne := CodePoint.not_surrogate c
      simp only [CodePoint.toNat] at h
      omega
  | surrogate n =>
    cases d with
    | char d =>
      have hne := CodePoint.not_surrogate d
      simp only [CodePoint.toNat] at h
      omega
    | surrogate m =>
      simp only [CodePoint.toNat, Nat.add_left_cancel_iff] at h
      rw [Fin.ext h]

theorem codes_inj {a b : Text} (h : a.map CodePoint.toNat = b.map CodePoint.toNat) : a = b :=
  List.map_injective_iff.mpr (fun _ _ => toNat_inj) h

/-- Bytes and code points agree on the order of texts. -/
theorem bytes_lt_iff {a b : Text} : bytes a < bytes b ↔ a.map CodePoint.toNat < b.map CodePoint.toNat := by
  refine ⟨fun h => ?_, bytes_lt⟩
  rcases lt_trichotomy (a.map CodePoint.toNat) (b.map CodePoint.toNat) with hlt | heq | hgt
  · exact hlt
  · rw [codes_inj heq] at h
    exact absurd h (List.lt_irrefl _)
  · exact absurd (bytes_lt hgt) (lt_asymm h)

theorem bytes_inj {a b : Text} (h : bytes a = bytes b) : a = b := by
  refine codes_inj ?_
  rcases lt_trichotomy (a.map CodePoint.toNat) (b.map CodePoint.toNat) with hlt | heq | hgt
  · exact absurd (bytes_lt hlt) (h ▸ List.lt_irrefl _)
  · exact heq
  · exact absurd (bytes_lt hgt) (h ▸ List.lt_irrefl _)

theorem bytes_eq_iff {a b : Text} : bytes a = bytes b ↔ a = b := ⟨bytes_inj, congrArg bytes⟩

end Encodings
