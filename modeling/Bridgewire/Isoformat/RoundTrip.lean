import Bridgewire.Isoformat

/-!
# Datetimes are read back

`fromisoformat` of what `isoformat` gives is the datetime, if its offset is a
whole number of seconds.
-/

namespace Bridgewire.DateTime

-- ---------------------------------------------------------------------------
-- Numbers
-- ---------------------------------------------------------------------------

theorem length_pad (width n : Nat) : (pad width n).length = width := by
  induction width generalizing n with
  | zero => rfl
  | succ width ih => rw [pad, List.length_append, ih, List.length_singleton]

theorem digitChar_isDigit (n : Nat) : (Nat.digitChar (n % 10)).isDigit = true := by
  have hall : ∀ d < 10, (Nat.digitChar d).isDigit = true := by decide
  exact hall (n % 10) (Nat.mod_lt n (by decide))

theorem pad_isDigit (width n : Nat) : ∀ c ∈ pad width n, c.isDigit = true := by
  induction width generalizing n with
  | zero => simp [pad]
  | succ width ih =>
    intro c hc
    rcases List.mem_append.mp hc with hc | hc
    · exact ih (n / 10) c hc
    · obtain rfl := List.mem_singleton.mp hc
      exact digitChar_isDigit n

theorem ofDigitChars_pad {width n : Nat} (h : n < 10 ^ width) : Nat.ofDigitChars 10 (pad width n) 0 = n := by
  induction width generalizing n with
  | zero =>
    obtain rfl : n = 0 := by simpa using h
    rfl
  | succ width ih =>
    have hfront : n / 10 < 10 ^ width := by
      rw [Nat.pow_succ] at h
      omega
    rw [pad, Nat.ofDigitChars_append, ih hfront, Nat.ofDigitChars_cons_digitChar_of_lt_ten (Nat.mod_lt n (by decide)),
      Nat.ofDigitChars_nil]
    omega

theorem digits_pad {width n : Nat} (h : n < 10 ^ width) (rest : List Char) :
    digits width (pad width n ++ rest) = some (n, rest) := by
  have htake : (pad width n ++ rest).take width = pad width n := List.take_left' (length_pad width n)
  have hdrop : (pad width n ++ rest).drop width = rest := List.drop_left' (length_pad width n)
  have hfront : (pad width n).length = width ∧ (pad width n).all Char.isDigit = true :=
    ⟨length_pad width n, List.all_eq_true.mpr (pad_isDigit width n)⟩
  unfold digits
  simp only [htake, hdrop]
  rw [if_pos hfront, ofDigitChars_pad h]

/-- No digit is a separator or ends a clock's text. -/
theorem digit_other {c d : Char} (h : c.isDigit = true) (hd : d.isDigit = false) : c ≠ d := by
  rintro rfl
  rw [h] at hd
  cases hd

-- ---------------------------------------------------------------------------
-- Clocks
-- ---------------------------------------------------------------------------

structure Clock.Valid (clock : Clock) : Prop where
  hour : clock.hour < 24
  minute : clock.minute < 60
  second : clock.second < 60
  microsecond : clock.microsecond < 1000000

def Clock.text (clock : Clock) : List Char :=
  pad 2 clock.hour ++ ':' :: pad 2 clock.minute ++ ':' :: pad 2 clock.second ++ fraction clock.microsecond

theorem readFraction_fraction {microsecond : Nat} (h : microsecond < 1000000) :
    readFraction (fraction microsecond) = some microsecond := by
  by_cases hzero : microsecond = 0
  · subst hzero
    rfl
  · have hnonempty : pad 6 microsecond ≠ [] := List.ne_nil_of_length_pos (by rw [length_pad]; decide)
    have hdigits : (pad 6 microsecond).all Char.isDigit = true := List.all_eq_true.mpr (pad_isDigit 6 microsecond)
    have htake : (pad 6 microsecond ++ List.replicate 6 '0').take 6 = pad 6 microsecond :=
      List.take_left' (length_pad 6 microsecond)
    rw [fraction, if_neg hzero, readFraction, if_pos ⟨.inl rfl, hnonempty, hdigits⟩, htake, ofDigitChars_pad h]

theorem readClock_text {clock : Clock} (h : clock.Valid) : readClock clock.text = some clock := by
  have hhour : clock.hour < 10 ^ 2 := Nat.lt_trans h.hour (by decide)
  have hminute : clock.minute < 10 ^ 2 := Nat.lt_trans h.minute (by decide)
  have hsecond : clock.second < 10 ^ 2 := Nat.lt_trans h.second (by decide)
  simp only [Clock.text, readClock, readMinutes, readSeconds, List.append_assoc, List.cons_append, digits_pad hhour,
    digits_pad hminute, digits_pad hsecond, separator, readFraction_fraction h.microsecond, Option.bind_eq_bind,
    Option.bind_some, List.head?_cons, decide_true, if_true, reduceCtorEq, if_false, Option.pure_def]

theorem clock_ends (clock : Clock) : ∀ c ∈ clock.text, endsClock c = false := by
  have hother {c : Char} (h : c.isDigit = true) : endsClock c = false := by
    simp [endsClock, digit_other h (show '+'.isDigit = false from rfl), digit_other h (show '-'.isDigit = false from rfl),
      digit_other h (show 'Z'.isDigit = false from rfl)]
  have hpad (width n : Nat) : ∀ c ∈ pad width n, endsClock c = false := fun c hc => hother (pad_isDigit width n c hc)
  have hfraction : ∀ c ∈ fraction clock.microsecond, endsClock c = false := by
    unfold fraction
    split
    · simp
    · exact List.forall_mem_cons.mpr ⟨rfl, hpad 6 _⟩
  simp only [Clock.text, List.forall_mem_append, List.forall_mem_cons]
  exact ⟨⟨⟨hpad 2 _, rfl, hpad 2 _⟩, rfl, hpad 2 _⟩, hfraction⟩

-- ---------------------------------------------------------------------------
-- Offsets
-- ---------------------------------------------------------------------------

/-- The offset of a `timezone` that has no fraction of a second. -/
structure WholeOffset (offset : Int) : Prop where
  bound : offset.natAbs < 86400000000
  whole : offset.natAbs % 1000000 = 0

def offsetSign (offset : Int) : Char := if offset < 0 then '-' else '+'

def offsetClock (offset : Int) : List Char :=
  pad 2 (offset.natAbs / 3600000000) ++ ':' :: pad 2 (offset.natAbs / 60000000 % 60) ++
    if offset.natAbs % 60000000 = 0 then [] else ':' :: pad 2 (offset.natAbs % 60000000 / 1000000)

theorem offsetText_eq {offset : Int} (h : WholeOffset offset) :
    offsetText offset = offsetSign offset :: offsetClock offset := by
  have hfraction : fraction (offset.natAbs % 60000000 % 1000000) = [] := by
    have hzero : offset.natAbs % 60000000 % 1000000 = 0 := by
      have hwhole := h.whole
      omega
    rw [hzero]
    rfl
  unfold offsetText offsetSign offsetClock
  simp only [hfraction, List.append_nil, List.cons_append]

theorem readClock_offset {offset : Int} (h : WholeOffset offset) :
    readClock (offsetClock offset) = some ⟨offset.natAbs / 3600000000, offset.natAbs / 60000000 % 60,
      offset.natAbs % 60000000 / 1000000, 0⟩ := by
  have hbound := h.bound
  have hhour : offset.natAbs / 3600000000 < 10 ^ 2 := by omega
  have hminute : offset.natAbs / 60000000 % 60 < 10 ^ 2 := by omega
  have hsecond : offset.natAbs % 60000000 / 1000000 < 10 ^ 2 := by omega
  have hend (width n : Nat) (hn : n < 10 ^ width) : digits width (pad width n) = some (n, []) := by
    have hdigits := digits_pad hn []
    rwa [List.append_nil] at hdigits
  unfold offsetClock
  by_cases hzero : offset.natAbs % 60000000 = 0
  · have hnone : offset.natAbs % 60000000 / 1000000 = 0 := by omega
    rw [if_pos hzero, List.append_nil, hnone]
    simp only [readClock, readMinutes, readSeconds, digits_pad hhour, hend 2 _ hminute, separator, Option.bind_eq_bind,
      Option.bind_some, List.head?_cons, decide_true, if_true, reduceCtorEq, if_false]
  · rw [if_neg hzero]
    simp only [readClock, readMinutes, readSeconds, List.append_assoc, List.cons_append, digits_pad hhour,
      digits_pad hminute, hend 2 _ hsecond, separator, readFraction, Option.bind_eq_bind, Option.bind_some,
      List.head?_cons, decide_true, if_true, reduceCtorEq, if_false, Option.pure_def]

theorem readOffset_clock {offset : Int} (h : WholeOffset offset) :
    readOffset (offsetSign offset) (offsetClock offset) = some offset := by
  have hbound := h.bound
  have hwhole := h.whole
  have hday : offset.natAbs < microsecondsPerDay := hbound
  have hmicroseconds : (offset.natAbs / 3600000000 * 3600 + offset.natAbs / 60000000 % 60 * 60 +
      offset.natAbs % 60000000 / 1000000) * 1000000 + 0 = offset.natAbs := by omega
  rw [readOffset, readClock_offset h, Option.bind_eq_bind, Option.bind_some]
  simp only [hmicroseconds, if_pos hday]
  split
  · have hzero : offset = 0 := by omega
    rw [hzero]
  · unfold offsetSign
    split
    · rw [if_pos rfl]
      congr 1
      omega
    · rw [if_neg (by decide)]
      congr 1
      omega

-- ---------------------------------------------------------------------------
-- Times
-- ---------------------------------------------------------------------------

def zoneText (utcoffset : Option Int) : List Char :=
  match utcoffset with
  | none => []
  | some offset => offsetText offset

theorem readTime_text {clock : Clock} (h : clock.Valid) {utcoffset : Option Int}
    (hoffset : ∀ offset, utcoffset = some offset → WholeOffset offset) :
    readTime (clock.text ++ zoneText utcoffset) = some (clock, utcoffset) := by
  have hends : ∀ c ∈ clock.text, (!endsClock c) = true := fun c hc => by rw [clock_ends clock c hc]; rfl
  rw [readTime, List.takeWhile_append_of_pos hends, List.dropWhile_append_of_pos hends]
  cases utcoffset with
  | none =>
    rw [zoneText, List.takeWhile_nil, List.dropWhile_nil, List.append_nil, readClock_text h]
    rfl
  | some offset =>
    have hwhole := hoffset offset rfl
    have hsign : endsClock (offsetSign offset) = true ∧ offsetSign offset ≠ 'Z' := by
      unfold offsetSign
      split <;> decide
    have hstops : (!endsClock (offsetSign offset)) = false := by rw [hsign.1]; rfl
    rw [zoneText, offsetText_eq hwhole, List.takeWhile_cons, List.dropWhile_cons]
    simp only [hstops, Bool.false_eq_true, if_false, List.append_nil, readClock_text h, Option.bind_eq_bind,
      Option.bind_some, hsign.2, readOffset_clock hwhole, Option.pure_def]

-- ---------------------------------------------------------------------------
-- Dates
-- ---------------------------------------------------------------------------

def dateText (date : Date) : List Char := pad 4 date.year ++ '-' :: pad 2 date.month ++ '-' :: pad 2 date.day

theorem isDate_civil {n : Nat} (h : n < maxDay) : isDate (Calendar.civil n) = true := by
  obtain ⟨hyear, ⟨hpos, hle⟩, hday, hdays⟩ := Calendar.civil_isDate n
  have hlast : (Calendar.civil n).year ≤ 9999 := Calendar.yearOf_le h
  simp only [isDate, Bool.and_eq_true, decide_eq_true_eq]
  exact ⟨⟨⟨⟨⟨hyear, hlast⟩, hpos⟩, hle⟩, hday⟩, hdays⟩

theorem readDate_dateText {n : Nat} (h : n < maxDay) : readDate (dateText (Calendar.civil n)) = some n := by
  obtain ⟨-, ⟨-, hmonth⟩, -, hday⟩ := Calendar.civil_isDate n
  have hlast : (Calendar.civil n).year < 10 ^ 4 := Nat.lt_succ_of_le (Calendar.yearOf_le h)
  have hmonth : (Calendar.civil n).month < 10 ^ 2 := Nat.lt_of_le_of_lt hmonth (by decide)
  have hdays : (Calendar.civil n).day < 10 ^ 2 := by
    have hshort := Calendar.daysInMonth_le (Calendar.civil n).year (Calendar.civil n).month
    omega
  have hfirst (rest : List Char) : (pad 2 (Calendar.civil n).month ++ rest).head? ≠ some 'W' := by
    intro hhead
    have hdigit : Nat.digitChar ((Calendar.civil n).month / 10 % 10) = 'W' := Option.some.inj hhead
    exact absurd (hdigit ▸ digitChar_isDigit ((Calendar.civil n).month / 10)) (by decide)
  have hend : digits 2 (pad 2 (Calendar.civil n).day) = some ((Calendar.civil n).day, []) := by
    have hdigits := digits_pad hdays []
    rwa [List.append_nil] at hdigits
  have hsame : (⟨(Calendar.civil n).year, (Calendar.civil n).month, (Calendar.civil n).day⟩ : Date) = Calendar.civil n := rfl
  simp only [dateText, readDate, List.append_assoc, List.cons_append, digits_pad hlast, digits_pad hmonth, separator,
    hfirst, hend, readMonth, hsame, isDate_civil h, Calendar.dayOf_civil, Option.bind_eq_bind, Option.bind_some,
    List.head?_cons, decide_true, if_true, if_false, and_self]

-- ---------------------------------------------------------------------------
-- Datetimes
-- ---------------------------------------------------------------------------

/-- The datetimes there are, with offsets of whole seconds: from the year 1 to the year 9999. -/
structure Representable (t : DateTime) : Prop where
  first : 0 ≤ t.wall
  last : t.wall < (maxDay * microsecondsPerDay : Nat)
  offset : ∀ offset, t.utcoffset = some offset → WholeOffset offset

def clockOf (wall : Nat) : Clock :=
  ⟨(fieldsOf wall).hour, (fieldsOf wall).minute, (fieldsOf wall).second, (fieldsOf wall).microsecond⟩

theorem isoformat_eq (t : DateTime) :
    t.isoformat = dateText (fieldsOf t.wall.toNat).date ++ 'T' :: ((clockOf t.wall.toNat).text ++ zoneText t.utcoffset) := by
  unfold isoformat Fields.text dateText Clock.text zoneText
  cases t.utcoffset <;> simp only [clockOf, List.append_assoc, List.cons_append]

theorem clockOf_valid (wall : Nat) : (clockOf wall).Valid := by
  have htime := Nat.mod_lt wall (show 0 < microsecondsPerDay by decide)
  simp only [microsecondsPerDay] at htime
  refine ⟨?_, ?_, ?_, ?_⟩
  all_goals
    simp only [clockOf, fieldsOf, microsecondsPerDay]
    omega

/-- A wall reading from its day and its time of day. -/
theorem wall_eq (wall : Nat) :
    wall / microsecondsPerDay * microsecondsPerDay + (clockOf wall).hour * 3600000000 +
      (clockOf wall).minute * 60000000 + (clockOf wall).second * 1000000 + (clockOf wall).microsecond = wall := by
  simp only [clockOf, fieldsOf, microsecondsPerDay]
  omega

theorem asChars_ofChars (text : List Char) : asChars (Text.ofChars text) = some text := by
  induction text with
  | nil => rfl
  | cons c rest ih =>
    rw [asChars] at ih ⊢
    simp [List.mapM_cons, ih]

theorem length_dateText (date : Date) : (dateText date).length = 10 := by
  simp [dateText, length_pad]

/-- The date of such a text is ten characters long. -/
theorem separatorAt_isoformat (date : Date) (rest : List Char) :
    separatorAt (Text.ofChars (dateText date ++ 'T' :: rest)) = 10 := by
  have hlength : (Text.ofChars (dateText date ++ 'T' :: rest)).length ≠ 7 := by
    simp only [Text.ofChars, List.length_map, List.length_append, List.length_cons, length_dateText]
    omega
  have hdash : (Text.ofChars (dateText date ++ 'T' :: rest))[4]? = some (.char '-') := rfl
  have hmonth : (Text.ofChars (dateText date ++ 'T' :: rest))[5]? ≠ some (.char 'W') := by
    intro hweek
    have hdigit : Nat.digitChar (date.month / 10 % 10) = 'W' := CodePoint.char.inj (Option.some.inj hweek)
    exact absurd (hdigit ▸ digitChar_isDigit (date.month / 10)) (by decide)
  rw [separatorAt, if_neg hlength, if_pos hdash, if_neg hmonth]

/-- The date and the time are read one by one. -/
theorem fromisoformat_text {date time : List Char} (hlength : date.length = 10)
    (hat : separatorAt (Text.ofChars (date ++ 'T' :: time)) = 10) {day : Nat} (hdate : readDate date = some day)
    {clock : Clock} (hvalid : clock.Valid) {utcoffset : Option Int} (htime : readTime time = some (clock, utcoffset)) :
    fromisoformat (Text.ofChars (date ++ 'T' :: time)) =
      some ⟨(day * microsecondsPerDay + clock.hour * 3600000000 + clock.minute * 60000000 + clock.second * 1000000 +
        clock.microsecond : Nat), utcoffset⟩ := by
  have hlong : (Text.ofChars (date ++ 'T' :: time)).length = 11 + time.length := by
    simp only [Text.ofChars, List.length_map, List.length_append, List.length_cons, hlength]
    omega
  have htake : (Text.ofChars (date ++ 'T' :: time)).take 10 = Text.ofChars date := by
    rw [Text.ofChars_append]
    exact List.take_left' (by simpa [Text.ofChars] using hlength)
  have hdrop : (Text.ofChars (date ++ 'T' :: time)).drop 11 = Text.ofChars time := by
    have hsplit : Text.ofChars (date ++ 'T' :: time) = Text.ofChars (date ++ ['T']) ++ Text.ofChars time := by simp
    rw [hsplit]
    exact List.drop_left' (by simp [Text.ofChars, hlength])
  rw [fromisoformat, if_neg (by omega), hat, htake, hdrop, asChars_ofChars, asChars_ofChars]
  simp only [Option.bind_eq_bind, Option.bind_some, hdate, htime, if_pos (And.intro hvalid.hour
    (And.intro hvalid.minute hvalid.second))]
  rw [if_neg (by omega)]
  norm_cast

/-- What is written is read. -/
theorem fromisoformat_isoformat {t : DateTime} (h : Representable t) :
    fromisoformat (Text.ofChars t.isoformat) = some t := by
  obtain ⟨wall, hwall⟩ := Int.eq_ofNat_of_zero_le h.first
  have hlast := h.last
  rw [hwall] at hlast
  have hday : wall / microsecondsPerDay < maxDay :=
    Nat.div_lt_of_lt_mul (by rw [Nat.mul_comm]; exact_mod_cast hlast)
  have htext := isoformat_eq t
  rw [hwall, Int.toNat_natCast] at htext
  have hdate : readDate (dateText (fieldsOf wall).date) = some (wall / microsecondsPerDay) := readDate_dateText hday
  rw [htext, fromisoformat_text (length_dateText _) (separatorAt_isoformat _ _) hdate (clockOf_valid wall)
    (readTime_text (clockOf_valid wall) h.offset), wall_eq]
  obtain ⟨_, _⟩ := t
  cases hwall
  rfl

end Bridgewire.DateTime
