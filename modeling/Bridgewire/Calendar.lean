import Mathlib.Data.Nat.Basic
import Mathlib.Tactic.IntervalCases

/-!
# The Gregorian calendar

Days are counted from the first of January of the year 1, which is day 0.
`civil` is a day's date, `dayOf` the day of a date.
-/

structure Date where
  year : Nat
  month : Nat
  day : Nat
  deriving DecidableEq, Repr

namespace Calendar

def isLeap (year : Nat) : Bool := year % 4 = 0 && (year % 100 ≠ 0 || year % 400 = 0)

/-- The days before a year. -/
def daysBeforeYear (year : Nat) : Nat :=
  (year - 1) * 365 + (year - 1) / 4 - (year - 1) / 100 + (year - 1) / 400

def daysInMonth (year month : Nat) : Nat :=
  match month with
  | 2 => if isLeap year then 29 else 28
  | 4 | 6 | 9 | 11 => 30
  | _ => 31

/-- The days of a year before a month. -/
def daysBeforeMonth (year month : Nat) : Nat :=
  let february := if isLeap year then 29 else 28
  match month with
  | 0 | 1 => 0
  | 2 => 31
  | 3 => 31 + february
  | 4 => 62 + february
  | 5 => 92 + february
  | 6 => 123 + february
  | 7 => 153 + february
  | 8 => 184 + february
  | 9 => 215 + february
  | 10 => 245 + february
  | 11 => 276 + february
  | _ => 306 + february

def dayOf (date : Date) : Nat :=
  daysBeforeYear date.year + daysBeforeMonth date.year date.month + (date.day - 1)

/-- The year of a day, through the cycles of 400, 100 and 4 years. The last day of a cycle
belongs to its last year, which is the longer one. -/
def yearOf (n : Nat) : Nat :=
  let n400 := n % 146097
  let century := min 3 (n400 / 36524)
  let n100 := n400 - century * 36524
  let n4 := n100 % 1461
  400 * (n / 146097) + 100 * century + 4 * (n100 / 1461) + min 3 (n4 / 365) + 1

/-- The month of a day of a year. -/
def monthOf (year n : Nat) : Nat :=
  ((List.range 12).filter fun month => daysBeforeMonth year (month + 1) ≤ n).length

def civil (n : Nat) : Date :=
  let year := yearOf n
  let n := n - daysBeforeYear year
  let month := monthOf year n
  ⟨year, month, n - daysBeforeMonth year month + 1⟩

-- ---------------------------------------------------------------------------
-- Years
-- ---------------------------------------------------------------------------

def daysInYear (year : Nat) : Nat := if isLeap year then 366 else 365

/-- A year is in a cycle of 400 years, a century and a cycle of 4 years of it. -/
theorem exists_cycle {year : Nat} (h : 1 ≤ year) :
    ∃ a b c d, b ≤ 3 ∧ c ≤ 24 ∧ d ≤ 3 ∧ year = 400 * a + 100 * b + 4 * c + d + 1 := by
  refine ⟨(year - 1) / 400, (year - 1) % 400 / 100, (year - 1) % 100 / 4, (year - 1) % 4, ?_, ?_, ?_, ?_⟩
  all_goals omega

theorem daysBeforeYear_cycle {a b c d : Nat} (hb : b ≤ 3) (hc : c ≤ 24) (hd : d ≤ 3) :
    daysBeforeYear (400 * a + 100 * b + 4 * c + d + 1) = 146097 * a + 36524 * b + 1461 * c + 365 * d := by
  have h4 : (400 * a + 100 * b + 4 * c + d) / 4 = 100 * a + 25 * b + c := by omega
  have h100 : (400 * a + 100 * b + 4 * c + d) / 100 = 4 * a + b := by omega
  have h400 : (400 * a + 100 * b + 4 * c + d) / 400 = a := by omega
  rw [daysBeforeYear, Nat.add_sub_cancel, h4, h100, h400]
  omega

theorem isLeap_cycle {a b c d : Nat} (hb : b ≤ 3) (hc : c ≤ 24) (hd : d ≤ 3) :
    isLeap (400 * a + 100 * b + 4 * c + d + 1) = decide (d = 3 ∧ (c ≠ 24 ∨ b = 3)) := by
  have h4 : (400 * a + 100 * b + 4 * c + d + 1) % 4 = (d + 1) % 4 := by omega
  have h100 : (400 * a + 100 * b + 4 * c + d + 1) % 100 = (4 * c + d + 1) % 100 := by omega
  have h400 : (400 * a + 100 * b + 4 * c + d + 1) % 400 = (100 * b + 4 * c + d + 1) % 400 := by omega
  rw [isLeap, h4, h100, h400, Bool.eq_iff_iff]
  simp only [Bool.and_eq_true, Bool.or_eq_true, decide_eq_true_eq]
  constructor
  · omega
  · omega

theorem daysBeforeYear_succ {year : Nat} (h : 1 ≤ year) :
    daysBeforeYear (year + 1) = daysBeforeYear year + daysInYear year := by
  obtain ⟨a, b, c, d, hb, hc, hd, rfl⟩ := exists_cycle h
  rw [daysInYear, isLeap_cycle hb hc hd, daysBeforeYear_cycle hb hc hd]
  by_cases hlast : d = 3
  · subst hlast
    by_cases hcycle : c = 24
    · subst hcycle
      by_cases hcentury : b = 3
      · subst hcentury
        have hnext := daysBeforeYear_cycle (a := a + 1) (Nat.zero_le 3) (Nat.zero_le 24) (Nat.zero_le 3)
        have hsame : 400 * a + 100 * 3 + 4 * 24 + 3 + 1 + 1 = 400 * (a + 1) + 100 * 0 + 4 * 0 + 0 + 1 := by omega
        rw [hsame, hnext, if_pos (by decide)]
        omega
      · have hnext := daysBeforeYear_cycle (a := a) (show b + 1 ≤ 3 by omega) (Nat.zero_le 24) (Nat.zero_le 3)
        have hsame : 400 * a + 100 * b + 4 * 24 + 3 + 1 + 1 = 400 * a + 100 * (b + 1) + 4 * 0 + 0 + 1 := by omega
        rw [hsame, hnext, if_neg (by simpa using hcentury)]
        omega
    · have hnext := daysBeforeYear_cycle (a := a) hb (show c + 1 ≤ 24 by omega) (Nat.zero_le 3)
      have hsame : 400 * a + 100 * b + 4 * c + 3 + 1 + 1 = 400 * a + 100 * b + 4 * (c + 1) + 0 + 1 := by omega
      rw [hsame, hnext, if_pos (by simpa using .inl hcycle)]
      omega
  · have hnext := daysBeforeYear_cycle (a := a) hb hc (show d + 1 ≤ 3 by omega)
    have hsame : 400 * a + 100 * b + 4 * c + d + 1 + 1 = 400 * a + 100 * b + 4 * c + (d + 1) + 1 := by omega
    rw [hsame, hnext, if_neg (by simpa using fun hd => absurd hd hlast)]
    omega

theorem daysBeforeYear_mono {year year' : Nat} (hyear : 1 ≤ year) (h : year ≤ year') :
    daysBeforeYear year ≤ daysBeforeYear year' := by
  induction year', h using Nat.le_induction with
  | base => exact le_rfl
  | succ later hlater ih =>
    rw [daysBeforeYear_succ (Nat.le_trans hyear hlater)]
    omega

theorem yearOf_pos (n : Nat) : 1 ≤ yearOf n := Nat.le_add_left 1 _

/-- The centuries, cycles of 4 years and years of a day in its cycle of 400 years, and the day of its year. -/
theorem day_cycle {n : Nat} (h : n < 146097) :
    ∃ b c d day, b ≤ 3 ∧ c ≤ 24 ∧ d ≤ 3 ∧ n = 36524 * b + 1461 * c + 365 * d + day ∧
      (day < 365 ∨ day = 365 ∧ d = 3 ∧ (c ≠ 24 ∨ b = 3)) ∧
      min 3 (n / 36524) = b ∧ (n - b * 36524) / 1461 = c ∧ min 3 ((n - b * 36524) % 1461 / 365) = d := by
  refine ⟨_, _, _, (n - min 3 (n / 36524) * 36524) % 1461 -
    365 * min 3 ((n - min 3 (n / 36524) * 36524) % 1461 / 365), ?_, ?_, ?_, ?_, ?_, rfl, rfl, rfl⟩
  all_goals omega

/-- A day is in its year. -/
theorem daysBeforeYear_yearOf (n : Nat) :
    daysBeforeYear (yearOf n) ≤ n ∧ n < daysBeforeYear (yearOf n) + daysInYear (yearOf n) := by
  have hn := Nat.div_add_mod n 146097
  obtain ⟨b, c, d, day, hb, hc, hd, hday, hlast, hcentury, hcycle, hyear⟩ :=
    day_cycle (Nat.mod_lt n (show 0 < 146097 by decide))
  have hsame : yearOf n = 400 * (n / 146097) + 100 * b + 4 * c + d + 1 := by
    simp only [yearOf, hcentury, hcycle, hyear]
  rw [hsame, daysBeforeYear_cycle hb hc hd, daysInYear, isLeap_cycle hb hc hd]
  refine ⟨by omega, ?_⟩
  split
  · omega
  · rename_i hcommon
    have hshort : day < 365 := hlast.resolve_right fun hleap => hcommon (decide_eq_true hleap.2)
    omega

theorem yearOf_le {n : Nat} (h : n < 3652059) : yearOf n ≤ 9999 := by
  have hyear := (daysBeforeYear_yearOf n).1
  by_contra hlarge
  have hmono := daysBeforeYear_mono (show 1 ≤ 10000 by decide) (show 10000 ≤ yearOf n by omega)
  have hlast : daysBeforeYear 10000 = 3652059 := by decide
  omega

-- ---------------------------------------------------------------------------
-- Months
-- ---------------------------------------------------------------------------

theorem daysInMonth_le (year month : Nat) : daysInMonth year month ≤ 31 := by
  unfold daysInMonth
  split
  · split <;> decide
  all_goals decide

theorem daysBeforeMonth_succ (year : Nat) {month : Nat} (hpos : 1 ≤ month) (h : month < 12) :
    daysBeforeMonth year (month + 1) = daysBeforeMonth year month + daysInMonth year month := by
  cases hleap : isLeap year
  · simp only [daysBeforeMonth, daysInMonth, hleap]
    interval_cases month <;> rfl
  · simp only [daysBeforeMonth, daysInMonth, hleap]
    interval_cases month <;> rfl

theorem daysBeforeMonth_last (year : Nat) :
    daysBeforeMonth year 12 + daysInMonth year 12 = daysInYear year := by
  cases hleap : isLeap year <;> simp [daysBeforeMonth, daysInMonth, daysInYear, hleap]

theorem daysBeforeMonth_mono (year : Nat) {month month' : Nat} (hpos : 1 ≤ month) (h : month ≤ month') (hle : month' ≤ 12) :
    daysBeforeMonth year month ≤ daysBeforeMonth year month' := by
  induction month', h using Nat.le_induction with
  | base => exact le_rfl
  | succ later hlater ih =>
    rw [daysBeforeMonth_succ year (Nat.le_trans hpos hlater) (by omega)]
    have hearlier := ih (by omega)
    omega

/-- The months that have begun by a day. -/
theorem monthOf_eq {year month n : Nat} (hpos : 1 ≤ month) (hle : month ≤ 12)
    (hbegun : daysBeforeMonth year month ≤ n)
    (hnext : month < 12 → n < daysBeforeMonth year (month + 1)) : monthOf year n = month := by
  have hiff : ∀ i ∈ List.range 12, decide (daysBeforeMonth year (i + 1) ≤ n) = decide (i < month) := by
    intro i hi
    have hi := List.mem_range.mp hi
    rw [decide_eq_decide]
    constructor
    · intro hbegins
      by_contra hlater
      have hmono := daysBeforeMonth_mono year (show 1 ≤ month + 1 by omega)
        (show month + 1 ≤ i + 1 by omega) (by omega)
      have hbefore := hnext (by omega)
      omega
    · intro hlt
      exact Nat.le_trans (daysBeforeMonth_mono year (by omega) (show i + 1 ≤ month by omega) hle) hbegun
  rw [monthOf, List.filter_congr hiff]
  interval_cases month <;> rfl

theorem exists_month {year n : Nat} (h : n < daysInYear year) :
    ∃ month, 1 ≤ month ∧ month ≤ 12 ∧ daysBeforeMonth year month ≤ n ∧
      n < daysBeforeMonth year month + daysInMonth year month := by
  by_contra hnone
  have hall : ∀ month, 1 ≤ month → month ≤ 12 → daysBeforeMonth year month ≤ n := by
    intro month hpos
    induction month, hpos using Nat.le_induction with
    | base => exact fun _ => Nat.zero_le n
    | succ month hpos ih =>
      intro hle
      by_contra hlater
      rw [daysBeforeMonth_succ year hpos (by omega)] at hlater
      exact hnone ⟨month, hpos, by omega, ih (by omega), by omega⟩
  have hlast := hall 12 (by decide) le_rfl
  have hyear := daysBeforeMonth_last year
  exact hnone ⟨12, by decide, le_rfl, hlast, by omega⟩

theorem monthOf_spec (year : Nat) {n : Nat} (h : n < daysInYear year) :
    1 ≤ monthOf year n ∧ monthOf year n ≤ 12 ∧ daysBeforeMonth year (monthOf year n) ≤ n ∧
      n < daysBeforeMonth year (monthOf year n) + daysInMonth year (monthOf year n) := by
  obtain ⟨month, hpos, hle, hbegun, hends⟩ := exists_month h
  have hmonth : monthOf year n = month := by
    refine monthOf_eq hpos hle hbegun fun hlt => ?_
    rw [daysBeforeMonth_succ year hpos hlt]
    exact hends
  rw [hmonth]
  exact ⟨hpos, hle, hbegun, hends⟩

-- ---------------------------------------------------------------------------
-- Dates
-- ---------------------------------------------------------------------------

structure IsDate (date : Date) : Prop where
  year : 1 ≤ date.year
  month : 1 ≤ date.month ∧ date.month ≤ 12
  day : 1 ≤ date.day ∧ date.day ≤ daysInMonth date.year date.month

/-- A date is in its month, and its month in its year. -/
theorem dayOf_month {date : Date} (h : IsDate date) :
    daysBeforeYear date.year + daysBeforeMonth date.year date.month ≤ dayOf date ∧
      dayOf date < daysBeforeYear date.year + daysBeforeMonth date.year date.month +
        daysInMonth date.year date.month := by
  have hday := h.day
  unfold dayOf
  omega

theorem month_in_year (year : Nat) {month : Nat} (hpos : 1 ≤ month) (hle : month ≤ 12) :
    daysBeforeMonth year month + daysInMonth year month ≤ daysInYear year := by
  have hlast := daysBeforeMonth_last year
  rcases Nat.lt_or_eq_of_le hle with hlt | rfl
  · rw [← daysBeforeMonth_succ year hpos hlt]
    have hmono := daysBeforeMonth_mono year (show 1 ≤ month + 1 by omega) hlt le_rfl
    omega
  · omega

/-- The days of a year that have gone by. -/
theorem month_of_year (n : Nat) :
    1 ≤ (civil n).month ∧ (civil n).month ≤ 12 ∧
      daysBeforeMonth (civil n).year (civil n).month ≤ n - daysBeforeYear (civil n).year ∧
      n - daysBeforeYear (civil n).year <
        daysBeforeMonth (civil n).year (civil n).month + daysInMonth (civil n).year (civil n).month := by
  obtain ⟨hyear, hend⟩ := daysBeforeYear_yearOf n
  exact monthOf_spec (yearOf n) (by omega)

theorem civil_day (n : Nat) :
    (civil n).day = n - daysBeforeYear (civil n).year - daysBeforeMonth (civil n).year (civil n).month + 1 := rfl

theorem civil_isDate (n : Nat) : IsDate (civil n) := by
  obtain ⟨hpos, hle, hbegun, hends⟩ := month_of_year n
  have hday := civil_day n
  exact ⟨yearOf_pos n, ⟨hpos, hle⟩, by omega, by omega⟩

theorem dayOf_civil (n : Nat) : dayOf (civil n) = n := by
  have hyear : daysBeforeYear (civil n).year ≤ n := (daysBeforeYear_yearOf n).1
  obtain ⟨-, -, hbegun, -⟩ := month_of_year n
  have hday := civil_day n
  unfold dayOf
  omega

/-- Year, month and day, compared one after the other. -/
def Earlier (a b : Date) : Prop :=
  a.year < b.year ∨ a.year = b.year ∧ (a.month < b.month ∨ a.month = b.month ∧ a.day < b.day)

theorem dayOf_lt {a b : Date} (ha : IsDate a) (hb : IsDate b) (h : Earlier a b) : dayOf a < dayOf b := by
  obtain ⟨-, hbefore⟩ := dayOf_month ha
  obtain ⟨hafter, -⟩ := dayOf_month hb
  have hin := month_in_year a.year ha.month.1 ha.month.2
  obtain ⟨year, month, day⟩ := a
  obtain ⟨year', month', day'⟩ := b
  rcases h with hyear | ⟨rfl, hmonth | ⟨rfl, hday⟩⟩
  · have hsucc := daysBeforeYear_succ ha.year
    have hmono := daysBeforeYear_mono (Nat.le_add_left 1 year) hyear
    dsimp only at *
    omega
  · have hlt : month < 12 := Nat.lt_of_lt_of_le hmonth hb.month.2
    have hsucc := daysBeforeMonth_succ year ha.month.1 hlt
    have hmono := daysBeforeMonth_mono year (Nat.le_add_left 1 month) hmonth hb.month.2
    dsimp only at *
    omega
  · have hpos := ha.day
    unfold dayOf
    dsimp only at *
    omega

theorem earlier_trichotomy (a b : Date) : Earlier a b ∨ a = b ∨ Earlier b a := by
  obtain ⟨year, month, day⟩ := a
  obtain ⟨year', month', day'⟩ := b
  simp only [Earlier, Date.mk.injEq]
  omega

theorem dayOf_lt_iff {a b : Date} (ha : IsDate a) (hb : IsDate b) : dayOf a < dayOf b ↔ Earlier a b := by
  refine ⟨fun hlt => ?_, dayOf_lt ha hb⟩
  rcases earlier_trichotomy a b with h | rfl | h
  · exact h
  · exact absurd hlt (Nat.lt_irrefl _)
  · exact absurd hlt (Nat.lt_asymm (dayOf_lt hb ha h))

theorem civil_dayOf {date : Date} (h : IsDate date) : civil (dayOf date) = date := by
  have hday := dayOf_civil (dayOf date)
  have hcivil := civil_isDate (dayOf date)
  rcases earlier_trichotomy (civil (dayOf date)) date with hlt | heq | hlt
  · exact absurd (dayOf_lt hcivil h hlt) (by omega)
  · exact heq
  · exact absurd (dayOf_lt h hcivil hlt) (by omega)

/-- Later days have later dates. -/
theorem civil_earlier_iff (n m : Nat) : Earlier (civil n) (civil m) ↔ n < m := by
  rw [← dayOf_lt_iff (civil_isDate n) (civil_isDate m), dayOf_civil, dayOf_civil]

end Calendar
