import Bridgewire.Isoformat.RoundTrip
import Mathlib.Data.List.Lex

/-!
# The order of the texts

The texts of datetimes in UTC, compared character by character, are in the
order of their instants: every field has a fixed number of digits, and the sign
of the offset comes before the mark of a fraction.
-/

namespace Bridgewire.DateTime

def codes (text : List Char) : List Nat := text.map Char.toNat

theorem codes_append (text text' : List Char) : codes (text ++ text') = codes text ++ codes text' := List.map_append

theorem codes_cons (c : Char) (text : List Char) : codes (c :: text) = c.toNat :: codes text := rfl

theorem length_codes (text : List Char) : (codes text).length = text.length := List.length_map Char.toNat

/-- Of texts of one length the first difference decides. -/
theorem append_lt {front front' : List Nat} (hlength : front.length = front'.length) (h : front < front')
    (back back' : List Nat) : front ++ back < front' ++ back' := by
  induction front generalizing front' with
  | nil =>
    cases front' with
    | nil => exact absurd h (List.lt_irrefl _)
    | cons => cases hlength
  | cons a front ih =>
    cases front' with
    | nil => cases hlength
    | cons b front' =>
      rw [List.cons_append, List.cons_append, List.cons_lt_cons_iff]
      rcases List.cons_lt_cons_iff.mp h with hlt | ⟨rfl, hlt⟩
      · exact .inl hlt
      · exact .inr ⟨rfl, ih (Nat.succ.inj hlength) hlt⟩

theorem digitChar_lt {n m : Nat} (h : n < m) (hm : m < 10) : (Nat.digitChar n).toNat < (Nat.digitChar m).toNat := by
  rw [Nat.toNat_digitChar_of_lt_ten (by omega), Nat.toNat_digitChar_of_lt_ten hm]
  omega

theorem pad_lt {width n m : Nat} (h : n < m) (hm : m < 10 ^ width) : codes (pad width n) < codes (pad width m) := by
  induction width generalizing n m with
  | zero =>
    rw [Nat.pow_zero] at hm
    omega
  | succ width ih =>
    rw [pad, pad, codes_append, codes_append]
    have hfront : m / 10 < 10 ^ width := by
      rw [Nat.pow_succ] at hm
      omega
    rcases Nat.lt_or_ge (n / 10) (m / 10) with hlt | hge
    · exact append_lt (by simp only [length_codes, length_pad]) (ih hlt hfront) _ _
    · have hsame : n / 10 = m / 10 := Nat.le_antisymm (Nat.div_le_div_right h.le) hge
      rw [hsame]
      refine List.append_left_lt (List.cons_lt_cons_iff.mpr (.inl ?_))
      exact digitChar_lt (by omega) (Nat.mod_lt m (by decide))

/-- Two numbers of one width, each with a text after it. -/
theorem pad_append_lt {width n m : Nat} {rest rest' : List Nat} (hm : m < 10 ^ width)
    (h : n < m ∨ n = m ∧ rest < rest') : codes (pad width n) ++ rest < codes (pad width m) ++ rest' := by
  rcases h with hlt | ⟨rfl, hrest⟩
  · exact append_lt (by simp only [length_codes, length_pad]) (pad_lt hlt hm) _ _
  · exact List.append_left_lt hrest

theorem cons_lt {c : Nat} {rest rest' : List Nat} (h : rest < rest') : c :: rest < c :: rest' :=
  List.cons_lt_cons_iff.mpr (.inr ⟨rfl, h⟩)

-- ---------------------------------------------------------------------------
-- Dates and clocks
-- ---------------------------------------------------------------------------

theorem date_lt {date date' : Date} (hdate : Calendar.IsDate date') (hyear : date'.year ≤ 9999)
    (h : Calendar.Earlier date date') : codes (dateText date) < codes (dateText date') := by
  have hyear : date'.year < 10 ^ 4 := Nat.lt_succ_of_le hyear
  have hmonth : date'.month < 10 ^ 2 := Nat.lt_of_le_of_lt hdate.month.2 (by decide)
  have hday : date'.day < 10 ^ 2 := by
    have hle := hdate.day.2
    have hshort := Calendar.daysInMonth_le date'.year date'.month
    omega
  simp only [dateText, codes_append, codes_cons, List.append_assoc, List.cons_append]
  refine pad_append_lt hyear (h.imp_right fun hlater => ⟨hlater.1, cons_lt ?_⟩)
  exact pad_append_lt hmonth (hlater.2.imp_right fun hlast => ⟨hlast.1, cons_lt (pad_lt hlast.2 hday)⟩)

/-- Hours, minutes, seconds and microseconds, compared one after the other. -/
def Clock.Earlier (a b : Clock) : Prop :=
  a.hour < b.hour ∨ a.hour = b.hour ∧ (a.minute < b.minute ∨ a.minute = b.minute ∧
    (a.second < b.second ∨ a.second = b.second ∧ a.microsecond < b.microsecond))

theorem clockOf_earlier {n m : Nat} (h : n % microsecondsPerDay < m % microsecondsPerDay) :
    (clockOf n).Earlier (clockOf m) := by
  simp only [Clock.Earlier, clockOf, fieldsOf]
  generalize n % microsecondsPerDay = time at h
  generalize m % microsecondsPerDay = time' at h
  omega

/-- The text of UTC. -/
def utcText : List Char := "+00:00".toList

theorem fraction_lt {n m : Nat} (h : n < m) (hm : m < 1000000) :
    codes (fraction n ++ utcText) < codes (fraction m ++ utcText) := by
  have hpos : m ≠ 0 := by omega
  have hm' : m < 10 ^ 6 := hm
  simp only [fraction, if_neg hpos]
  split
  · exact List.cons_lt_cons_iff.mpr (.inl (by decide))
  · simp only [List.cons_append, codes_cons, codes_append]
    exact cons_lt (pad_append_lt hm' (.inl h))

theorem clock_lt {clock clock' : Clock} (hvalid : clock'.Valid) (h : clock.Earlier clock') :
    codes (clock.text ++ utcText) < codes (clock'.text ++ utcText) := by
  have hhour : clock'.hour < 10 ^ 2 := Nat.lt_trans hvalid.hour (by decide)
  have hminute : clock'.minute < 10 ^ 2 := Nat.lt_trans hvalid.minute (by decide)
  have hsecond : clock'.second < 10 ^ 2 := Nat.lt_trans hvalid.second (by decide)
  have hfraction : clock.microsecond < clock'.microsecond →
      codes (fraction clock.microsecond) ++ codes utcText < codes (fraction clock'.microsecond) ++ codes utcText := by
    intro hlt
    rw [← codes_append, ← codes_append]
    exact fraction_lt hlt hvalid.microsecond
  simp only [Clock.text, codes_append, codes_cons, List.append_assoc, List.cons_append]
  refine pad_append_lt hhour (h.imp_right fun hlater => ⟨hlater.1, cons_lt ?_⟩)
  refine pad_append_lt hminute (hlater.2.imp_right fun hlater => ⟨hlater.1, cons_lt ?_⟩)
  exact pad_append_lt hsecond (hlater.2.imp_right fun hlast => ⟨hlast.1, hfraction hlast.2⟩)

-- ---------------------------------------------------------------------------
-- Instants
-- ---------------------------------------------------------------------------

/-- A datetime in UTC from the year 1 to the year 9999. -/
structure IsUtc (t : DateTime) : Prop where
  first : 0 ≤ t.wall
  last : t.wall < (maxDay * microsecondsPerDay : Nat)
  utc : t.utcoffset = some 0

theorem IsUtc.representable {t : DateTime} (h : IsUtc t) : Representable t where
  first := h.first
  last := h.last
  offset offset hoffset := by
    obtain rfl : 0 = offset := Option.some.inj (h.utc.symm.trans hoffset)
    exact ⟨by decide, rfl⟩

theorem isoformat_utc {t : DateTime} (h : IsUtc t) :
    codes t.isoformat = codes (dateText (fieldsOf t.wall.toNat).date) ++
      'T'.toNat :: codes ((clockOf t.wall.toNat).text ++ utcText) := by
  have hzone : zoneText t.utcoffset = utcText := by
    rw [h.utc]
    decide
  rw [isoformat_eq, hzone, codes_append, codes_cons]

theorem isoformat_lt {t t' : DateTime} (h : IsUtc t) (h' : IsUtc t') (hlt : t.wall < t'.wall) :
    codes t.isoformat < codes t'.isoformat := by
  rw [isoformat_utc h, isoformat_utc h']
  obtain ⟨n, hn⟩ := Int.eq_ofNat_of_zero_le h.first
  obtain ⟨m, hm⟩ := Int.eq_ofNat_of_zero_le h'.first
  have hlast := h'.last
  rw [hm] at hlast
  rw [hn, hm] at hlt ⊢
  have hlt : n < m := by exact_mod_cast hlt
  have hday : m / microsecondsPerDay < maxDay :=
    Nat.div_lt_of_lt_mul (by rw [Nat.mul_comm]; exact_mod_cast hlast)
  rw [Int.toNat_natCast, Int.toNat_natCast]
  rcases Nat.lt_or_ge (n / microsecondsPerDay) (m / microsecondsPerDay) with hearlier | hge
  · refine append_lt (by simp only [length_codes, length_dateText]) ?_ _ _
    exact date_lt (Calendar.civil_isDate _) (Calendar.yearOf_le hday) ((Calendar.civil_earlier_iff _ _).mpr hearlier)
  · have hsame : n / microsecondsPerDay = m / microsecondsPerDay :=
      Nat.le_antisymm (Nat.div_le_div_right hlt.le) hge
    have hdate : (fieldsOf n).date = (fieldsOf m).date := congrArg Calendar.civil hsame
    rw [hdate]
    refine List.append_left_lt (cons_lt (clock_lt (clockOf_valid m) (clockOf_earlier ?_)))
    have hsplit := Nat.div_add_mod n microsecondsPerDay
    have hsplit' := Nat.div_add_mod m microsecondsPerDay
    rw [hsame] at hsplit
    omega

/-- In UTC the order of the texts is the order of time. -/
theorem isoformat_lt_iff {t t' : DateTime} (h : IsUtc t) (h' : IsUtc t') :
    codes t.isoformat < codes t'.isoformat ↔ t.wall < t'.wall := by
  refine ⟨fun hlt => ?_, isoformat_lt h h'⟩
  rcases lt_trichotomy t.wall t'.wall with hwall | hwall | hwall
  · exact hwall
  · have hsame : t = t' := by
      obtain ⟨wall, utcoffset⟩ := t
      obtain ⟨wall', utcoffset'⟩ := t'
      cases hwall
      cases h.utc.trans h'.utc.symm
      rfl
    rw [hsame] at hlt
    exact absurd hlt (List.lt_irrefl _)
  · exact absurd hlt (lt_asymm (isoformat_lt h' h hwall))

end Bridgewire.DateTime
