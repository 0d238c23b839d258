import Mathlib.Data.Nat.Bitwise
import Mathlib.InformationTheory.Hamming
import Bridgewire.Reader.Format

/-!
# The distance of the checksum

The six pairs of digits of an accepted frame have parity zero, so two accepted
frames that agree in all pairs but one are the same frame.
-/

namespace Bridgewire

-- ---------------------------------------------------------------------------
-- Parity
-- ---------------------------------------------------------------------------

theorem foldl_xor (checksum : Nat) (values : List Nat) :
    values.foldl (· ^^^ ·) checksum = checksum ^^^ values.foldl (· ^^^ ·) 0 := by
  induction values generalizing checksum with
  | nil => simp
  | cons value values ih =>
    rw [List.foldl_cons, List.foldl_cons, ih (checksum ^^^ value), ih (0 ^^^ value), Nat.zero_xor, Nat.xor_assoc]

/-- One value is determined by the others and the parity. -/
theorem eq_of_parity {xs ys : List Nat} {checksum place : Nat} (hlength : xs.length = ys.length)
    (hparity : xs.foldl (· ^^^ ·) checksum = ys.foldl (· ^^^ ·) checksum)
    (hagree : ∀ i, i ≠ place → xs[i]? = ys[i]?) : xs = ys := by
  induction xs generalizing ys checksum place with
  | nil => exact (List.length_eq_zero_iff.mp hlength.symm).symm
  | cons x xs ih =>
    cases ys with
    | nil => simp at hlength
    | cons y ys =>
      have htails : xs.length = ys.length := by simpa using hlength
      rw [List.foldl_cons, List.foldl_cons] at hparity
      cases place with
      | zero =>
        obtain rfl : xs = ys := List.ext_getElem? fun i => by simpa using hagree (i + 1) (by simp)
        rw [foldl_xor (checksum ^^^ x), foldl_xor (checksum ^^^ y)] at hparity
        rw [Nat.xor_right_injective (Nat.xor_left_injective hparity)]
      | succ place =>
        obtain rfl : x = y := by simpa using hagree 0 (by simp)
        have htail : xs = ys := ih htails hparity fun i hi => by simpa using hagree (i + 1) (by simpa using hi)
        rw [htail]

-- ---------------------------------------------------------------------------
-- The pairs of a frame
-- ---------------------------------------------------------------------------

/-- The pairs of digits of a frame, the last of which is the checksum. -/
def pairs (record : List UInt8) (pair : Fin 6) : List UInt8 := slice record (1 + 2 * pair) (3 + 2 * pair)

def pairValue (pair : List UInt8) : Nat := parseHex (pair.map fun b => Char.ofNat b.toNat)

def pairValues (record : List UInt8) : List Nat := List.ofFn fun pair => pairValue (pairs record pair)

theorem pairs_congr {record other : List UInt8} {pair : Fin 6}
    (h : ∀ i, 1 + 2 * pair.val ≤ i → i < 3 + 2 * pair.val → other[i]? = record[i]?) : pairs other pair = pairs record pair := by
  refine List.ext_getElem? fun i => ?_
  simp only [pairs, slice, List.getElem?_drop, List.getElem?_take]
  split
  · exact h _ (by omega) (by omega)
  · rfl

theorem xorPairs_append {text : List Char} (h : text.length % 2 = 0) (checksum : Nat) (rest : List Char) :
    xorPairs checksum (text ++ rest) = xorPairs (xorPairs checksum text) rest := by
  fun_induction xorPairs checksum text with
  | case1 => rfl
  | case2 => simp at h
  | case3 checksum a b text ih =>
    refine ih ?_
    rw [List.length_cons, List.length_cons] at h
    omega

/-- An accepted frame holds twelve digits of parity zero. -/
theorem parseReaderRecord_digits {record : List UInt8} {parsed : ParsedRecord}
    (h : parseReaderRecord record = .ok parsed) :
    ∃ text, record = STX :: (encodeAscii text ++ [0x0D, 0x0A, ETX]) ∧ text.length = 12 ∧ IsHex text ∧
      xorPairs 0 text = 0 := by
  obtain ⟨identifier, -, rfl⟩ := buildRecord_parseReaderRecord h
  obtain ⟨hlength, hhex, hvalue⟩ := parseHex_formatHex identifier.checksum_lt
  obtain ⟨a, b, hdigits⟩ := List.length_eq_two.mp hlength
  refine ⟨identifier.credential.toList ++ formatHex (xorPairs 0 identifier.credential.toList), ?_, ?_, ?_, ?_⟩
  · simp [buildRecord, encodeAscii]
  · rw [List.length_append, identifier.length, hlength]
  · exact fun c hc => (List.mem_append.mp hc).elim (identifier.isHex c) (hhex c)
  · rw [xorPairs_append (by rw [identifier.length])]
    rw [hdigits] at hvalue ⊢
    rw [xorPairs, xorPairs, hvalue, Nat.xor_self]

/-- A pair of a frame of digits, and its value. -/
theorem pairs_digits {text : List Char} (hlength : text.length = 12) (pair : Fin 6) :
    pairs (STX :: (encodeAscii text ++ [0x0D, 0x0A, ETX])) pair =
      encodeAscii ((text.drop (2 * pair)).take 2) := by
  have hpair := pair.isLt
  refine List.ext_getElem? fun i => ?_
  simp only [pairs, slice, encodeAscii, List.getElem?_drop, List.getElem?_take, List.getElem?_map]
  by_cases hi : i < 2
  · rw [if_pos (by omega), if_pos hi, show 1 + 2 * pair.val + i = (2 * pair.val + i) + 1 by omega,
      List.getElem?_cons_succ, List.getElem?_append_left (by rw [List.length_map]; omega), List.getElem?_map]
  · rw [if_neg (by omega), if_neg hi]
    rfl

theorem pairValue_encodeAscii {text : List Char} (hhex : IsHex text) : pairValue (encodeAscii text) = parseHex text := by
  rw [pairValue, encodeAscii, List.map_map]
  exact congrArg parseHex ((List.map_congr_left fun c hc => (hexDigit_ascii (hhex c hc)).2).trans (List.map_id _))

theorem pairValues_digits {text : List Char} (hlength : text.length = 12) (hhex : IsHex text) :
    pairValues (STX :: (encodeAscii text ++ [0x0D, 0x0A, ETX])) =
      List.ofFn fun pair : Fin 6 => parseHex ((text.drop (2 * pair)).take 2) := by
  refine congrArg List.ofFn (funext fun pair => ?_)
  rw [pairs_digits hlength]
  exact pairValue_encodeAscii fun c hc => hhex c (List.mem_of_mem_drop (List.mem_of_mem_take hc))

/-- The parity of a text is that of its pairs. -/
theorem xorPairs_eq_foldl {text : List Char} (hlength : text.length = 12) (hhex : IsHex text) :
    xorPairs 0 text = (pairValues (STX :: (encodeAscii text ++ [0x0D, 0x0A, ETX]))).foldl (· ^^^ ·) 0 := by
  rw [pairValues_digits hlength hhex]
  match text, hlength with
  | [_, _, _, _, _, _, _, _, _, _, _, _], _ => rfl

/-- Frames at a distance below two agree in all pairs but one. -/
theorem agree_of_hammingDist {record other : List UInt8} (h : hammingDist (pairs record) (pairs other) < 2) :
    ∃ place, ∀ pair, pair ≠ place → pairs record pair = pairs other pair := by
  obtain ⟨place, hplace⟩ := Finset.card_le_one_iff_subset_singleton.mp (Nat.le_of_lt_succ h)
  refine ⟨place, fun pair hpair => ?_⟩
  by_contra hne
  exact hpair (Finset.mem_singleton.mp (hplace (Finset.mem_filter.mpr ⟨Finset.mem_univ _, hne⟩)))

theorem hammingDist_of_agree {record other : List UInt8} (place : Fin 6)
    (h : ∀ pair, pair ≠ place → pairs record pair = pairs other pair) : hammingDist (pairs record) (pairs other) < 2 := by
  refine Nat.lt_succ_of_le (Finset.card_le_one_iff_subset_singleton.mpr ⟨place, fun pair hpair => ?_⟩)
  by_contra hne
  exact (Finset.mem_filter.mp hpair).2 (h pair fun heq => hne (Finset.mem_singleton.mpr heq))

theorem parseHex_inj {text other : List Char} (hlength : text.length = 2) (hlengthOther : other.length = 2)
    (hhex : IsHex text) (hhexOther : IsHex other) (h : parseHex text = parseHex other) : text = other := by
  obtain ⟨a, b, rfl⟩ := List.length_eq_two.mp hlength
  obtain ⟨c, d, rfl⟩ := List.length_eq_two.mp hlengthOther
  rw [← formatHex_parseHex (hhex a (by simp)) (hhex b (by simp)), h,
    formatHex_parseHex (hhexOther c (by simp)) (hhexOther d (by simp))]

/-- A text of digits is determined by the values of its pairs. -/
theorem text_eq_of_pairs {text other : List Char} (hlength : text.length = 12) (hlengthOther : other.length = 12)
    (hhex : IsHex text) (hhexOther : IsHex other)
    (h : ∀ pair : Fin 6, parseHex ((text.drop (2 * pair)).take 2) = parseHex ((other.drop (2 * pair)).take 2)) :
    text = other := by
  refine List.ext_getElem? fun i => ?_
  by_cases hi : i < 12
  · let pair : Fin 6 := ⟨i / 2, by omega⟩
    have hpair : (text.drop (2 * pair)).take 2 = (other.drop (2 * pair)).take 2 := by
      refine parseHex_inj ?_ ?_ (fun c hc => hhex c (List.mem_of_mem_drop (List.mem_of_mem_take hc)))
        (fun c hc => hhexOther c (List.mem_of_mem_drop (List.mem_of_mem_take hc))) (h pair)
      · simp only [List.length_take, List.length_drop, pair]
        omega
      · simp only [List.length_take, List.length_drop, pair]
        omega
    have hdigit := congrArg (·[i % 2]?) hpair
    simp only [List.getElem?_take, List.getElem?_drop, Nat.mod_lt i Nat.two_pos, if_true] at hdigit
    rwa [show 2 * pair.val + i % 2 = i from Nat.div_add_mod i 2] at hdigit
  · rw [List.getElem?_eq_none (by omega), List.getElem?_eq_none (by omega)]

/-- Accepted frames of a distance below two are equal. -/
theorem eq_of_hammingDist {record other : List UInt8} {parsed parsedOther : ParsedRecord}
    (hrecord : parseReaderRecord record = .ok parsed) (hother : parseReaderRecord other = .ok parsedOther)
    (h : hammingDist (pairs record) (pairs other) < 2) : record = other := by
  obtain ⟨text, rfl, hlength, hhex, hparity⟩ := parseReaderRecord_digits hrecord
  obtain ⟨textOther, rfl, hlengthOther, hhexOther, hparityOther⟩ := parseReaderRecord_digits hother
  obtain ⟨place, hplace⟩ := agree_of_hammingDist h
  rw [xorPairs_eq_foldl hlength hhex] at hparity
  rw [xorPairs_eq_foldl hlengthOther hhexOther] at hparityOther
  have hagree : ∀ i, i ≠ place.val → (pairValues (STX :: (encodeAscii text ++ [0x0D, 0x0A, ETX])))[i]? =
      (pairValues (STX :: (encodeAscii textOther ++ [0x0D, 0x0A, ETX])))[i]? := by
    intro i hi
    simp only [pairValues, List.getElem?_ofFn]
    split
    · rw [hplace _ fun heq => hi (congrArg Fin.val heq)]
    · rfl
  have hvalues := eq_of_parity (by rw [pairValues, pairValues, List.length_ofFn, List.length_ofFn])
    (hparity.trans hparityOther.symm) hagree
  rw [pairValues_digits hlength hhex, pairValues_digits hlengthOther hhexOther] at hvalues
  rw [text_eq_of_pairs hlength hlengthOther hhex hhexOther (congrFun (List.ofFn_injective hvalues))]

/-- `other` is `record` with one byte, or both digits of one pair, changed. -/
def IsCorruption (record other : List UInt8) : Prop :=
  other ≠ record ∧ ((∃ position : Nat, ∀ i : Nat, i ≠ position → other[i]? = record[i]?) ∨
    ∃ pair : Fin 6, ∀ i : Nat, i ≠ 1 + 2 * pair.val → i ≠ 2 + 2 * pair.val → other[i]? = record[i]?)

theorem IsCorruption.hammingDist {record other : List UInt8} (h : IsCorruption record other) :
    hammingDist (pairs other) (pairs record) < 2 := by
  obtain ⟨-, ⟨position, hposition⟩ | ⟨place, hplace⟩⟩ := h
  · refine hammingDist_of_agree (Fin.ofNat 6 ((position - 1) / 2)) fun pair hpair => pairs_congr fun i hi hi' => ?_
    refine hposition i fun heq => hpair (Fin.ext ?_)
    rw [Fin.val_ofNat]
    omega
  · refine hammingDist_of_agree place fun pair hpair => pairs_congr fun i hi hi' => ?_
    have hne : pair.val ≠ place.val := fun heq => hpair (Fin.ext heq)
    exact hplace i (by omega) (by omega)

/-- **The checksum has distance two.** Accepted frames that are not the same
differ in two pairs of digits at least; a corrupted frame is rejected. -/
theorem checksum_distance (record other : List UInt8) (parsed : ParsedRecord)
    (haccepted : parseReaderRecord record = .ok parsed) :
    (other ≠ record → (∃ parsedOther, parseReaderRecord other = .ok parsedOther) →
        2 ≤ hammingDist (pairs other) (pairs record)) ∧
      (IsCorruption record other → ∃ error, parseReaderRecord other = .error error) := by
  constructor
  · rintro hne ⟨parsedOther, hother⟩
    by_contra hfew
    exact hne (eq_of_hammingDist hother haccepted (by omega))
  · intro hcorruption
    cases hother : parseReaderRecord other with
    | error error => exact ⟨error, rfl⟩
    | ok parsedOther => exact absurd (eq_of_hammingDist hother haccepted hcorruption.hammingDist) hcorruption.1

/-- A changed digit of the data. -/
theorem checksum_distance_digit :
    ∃ error, parseReaderRecord [2, 49, 49, 48, 50, 48, 51, 48, 52, 48, 53, 48, 49, 13, 10, 3] = .error error :=
  (checksum_distance [2, 48, 49, 48, 50, 48, 51, 48, 52, 48, 53, 48, 49, 13, 10, 3] _ ⟨"0102030405"⟩ (by decide +kernel)).2
    ⟨by decide, .inl ⟨1, fun i hi => by
      match i, hi with
      | 0, _ => rfl
      | i + 2, _ => rfl⟩⟩

end Bridgewire
