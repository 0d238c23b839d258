import Bridgewire.Calendar
import Bridgewire.Python
import Bridgewire.Text

/-!
# The texts of datetimes

`datetime.isoformat` and `datetime.fromisoformat`. A `wall` counts from the
beginning of the year 1. `none` is a `ValueError`.
-/

namespace Bridgewire.DateTime

/-- As many decimal digits of a number, with leading zeros. -/
def pad (width n : Nat) : List Char :=
  match width with
  | 0 => []
  | width + 1 => pad width (n / 10) ++ [Nat.digitChar (n % 10)]

/-- The date and the time of day of a wall reading. -/
structure Fields where
  date : Date
  hour : Nat
  minute : Nat
  second : Nat
  microsecond : Nat
  deriving DecidableEq, Repr

def microsecondsPerDay : Nat := 86400000000

def fieldsOf (wall : Nat) : Fields :=
  let time := wall % microsecondsPerDay
  { date := Calendar.civil (wall / microsecondsPerDay)
    hour := time / 3600000000
    minute := time / 60000000 % 60
    second := time / 1000000 % 60
    microsecond := time % 1000000 }

/-- The fraction of a second, which is left out where it is zero. -/
def fraction (microsecond : Nat) : List Char :=
  if microsecond = 0 then [] else '.' :: pad 6 microsecond

def Fields.text (fields : Fields) : List Char :=
  pad 4 fields.date.year ++ '-' :: pad 2 fields.date.month ++ '-' :: pad 2 fields.date.day ++
    'T' :: pad 2 fields.hour ++ ':' :: pad 2 fields.minute ++ ':' :: pad 2 fields.second ++
    fraction fields.microsecond

/-- `_format_offset` -/
def offsetText (offset : Int) : List Char :=
  let n := offset.natAbs
  let seconds := n % 60000000
  (if offset < 0 then '-' else '+') :: pad 2 (n / 3600000000) ++ ':' :: pad 2 (n / 60000000 % 60) ++
    if seconds = 0 then [] else ':' :: pad 2 (seconds / 1000000) ++ fraction (seconds % 1000000)

/-- Of a datetime whose wall reading is not before the year 1. -/
def isoformat (t : DateTime) : List Char :=
  (fieldsOf t.wall.toNat).text ++
    match t.utcoffset with
    | none => []
    | some offset => offsetText offset

-- ---------------------------------------------------------------------------
-- Reading
-- ---------------------------------------------------------------------------

/-- As many ASCII digits as asked for, and what follows them. -/
def digits (count : Nat) (text : List Char) : Option (Nat × List Char) :=
  let front := text.take count
  if front.length = count ∧ front.all Char.isDigit then some (Nat.ofDigitChars 10 front 0, text.drop count) else none

/-- A separator, where the text has been written with them. -/
def separator (c : Char) (separated : Bool) (text : List Char) : Option (List Char) :=
  if separated then
    match text with
    | [] => none
    | first :: rest => if first = c then some rest else none
  else some text

structure Clock where
  hour : Nat
  minute : Nat
  second : Nat
  microsecond : Nat
  deriving DecidableEq, Repr

/-- The digits after a decimal mark, of which those after the sixth do not count. -/
def readFraction : List Char → Option Nat
  | [] => some 0
  | mark :: rest =>
    if (mark = '.' ∨ mark = ',') ∧ rest ≠ [] ∧ rest.all Char.isDigit then
      some (Nat.ofDigitChars 10 ((rest ++ List.replicate 6 '0').take 6) 0)
    else none

def readSeconds (separated : Bool) (hour minute : Nat) (text : List Char) : Option Clock :=
  if text = [] then some ⟨hour, minute, 0, 0⟩
  else do
    let text ← separator ':' separated text
    let (second, rest) ← digits 2 text
    let microsecond ← readFraction rest
    return ⟨hour, minute, second, microsecond⟩

def readMinutes (separated : Bool) (hour : Nat) (text : List Char) : Option Clock :=
  if text = [] then some ⟨hour, 0, 0, 0⟩
  else do
    let text ← separator ':' separated text
    let (minute, rest) ← digits 2 text
    readSeconds separated hour minute rest

/-- `HH[:?MM[:?SS[{.,}f+]]]` -/
def readClock (text : List Char) : Option Clock := do
  let (hour, rest) ← digits 2 text
  readMinutes (rest.head? = some ':') hour rest

/-- A difference of less than a second is none, as in the C implementation. -/
def readOffset (sign : Char) (text : List Char) : Option Int := do
  let clock ← readClock text
  let seconds := clock.hour * 3600 + clock.minute * 60 + clock.second
  let offset := seconds * 1000000 + clock.microsecond
  if seconds = 0 then some 0
  else if offset < microsecondsPerDay then some (if sign = '-' then -(offset : Int) else offset)
  else none

def endsClock (c : Char) : Bool := c = '+' || c = '-' || c = 'Z'

def readTime (text : List Char) : Option (Clock × Option Int) := do
  let clock ← readClock (text.takeWhile fun c => !endsClock c)
  match text.dropWhile fun c => !endsClock c with
  | [] => some (clock, none)
  | sign :: rest =>
    if sign = 'Z' then if rest = [] then some (clock, some 0) else none
    else do
      let offset ← readOffset sign rest
      return (clock, some offset)

def isDate (date : Date) : Bool :=
  1 ≤ date.year && date.year ≤ 9999 && 1 ≤ date.month && date.month ≤ 12 && 1 ≤ date.day &&
    date.day ≤ Calendar.daysInMonth date.year date.month

/-- The days before the year 10000. -/
def maxDay : Nat := 3652059

/-- The day of an ISO week, whose first day is the Monday before the first Thursday of the year. -/
def weekDay (year week day : Nat) : Option Nat :=
  let newYear := Calendar.daysBeforeYear year
  let weekday := newYear % 7
  let monday := newYear - weekday + if weekday > 3 then 7 else 0
  let long := weekday = 3 || weekday = 2 && Calendar.isLeap year
  let n := monday + (week - 1) * 7 + (day - 1)
  if 1 ≤ year ∧ year ≤ 9999 ∧ 1 ≤ week ∧ (week ≤ 52 ∨ week = 53 ∧ long) ∧ 1 ≤ day ∧ day ≤ 7 ∧ n < maxDay then some n
  else none

def readWeek (separated : Bool) (year : Nat) (text : List Char) : Option Nat := do
  let (week, rest) ← digits 2 text
  if rest = [] then weekDay year week 1
  else do
    let rest ← separator '-' separated rest
    let (day, rest) ← digits 1 rest
    if rest = [] then weekDay year week day else none

def readMonth (separated : Bool) (year : Nat) (text : List Char) : Option Nat := do
  let (month, rest) ← digits 2 text
  let rest ← separator '-' separated rest
  let (day, rest) ← digits 2 rest
  if rest = [] ∧ isDate ⟨year, month, day⟩ then some (Calendar.dayOf ⟨year, month, day⟩) else none

/-- The day of `YYYY-?MM-?DD` or `YYYY-?Www(-?D)?` -/
def readDate (text : List Char) : Option Nat := do
  let (year, rest) ← digits 4 text
  let separated : Bool := rest.head? = some '-'
  let rest ← separator '-' separated rest
  if rest.head? = some 'W' then readWeek separated year rest.tail else readMonth separated year rest

def isDigit : CodePoint → Bool
  | .char c => c.isDigit
  | .surrogate _ => false

/-- Where the date ends; any character may separate it from the time. -/
def separatorAt (text : Text) : Nat :=
  if text.length = 7 then 7
  else if text[4]? = some (.char '-') then
    if text[5]? = some (.char 'W') then
      if text[8]? = some (.char '-') then if (text[10]?.map isDigit).getD false then 8 else 10
      else 8
    else 10
  else if text[4]? = some (.char 'W') then
    let pos := 7 + ((text.drop 7).takeWhile isDigit).length
    if pos < 9 then pos else if pos % 2 = 0 then 7 else 8
  else 8

def asChars (text : Text) : Option (List Char) :=
  text.mapM fun
    | .char c => some c
    | .surrogate _ => none

/-- `datetime.fromisoformat` -/
def fromisoformat (text : Text) : Option DateTime :=
  if text.length < 7 then none
  else do
    let date ← asChars (text.take (separatorAt text))
    let day ← readDate date
    if text.length ≤ separatorAt text then some ⟨day * microsecondsPerDay, none⟩
    else do
      let time ← asChars (text.drop (separatorAt text + 1))
      let (clock, offset) ← readTime time
      if clock.hour < 24 ∧ clock.minute < 60 ∧ clock.second < 60 then
        some ⟨day * microsecondsPerDay + clock.hour * 3600000000 + clock.minute * 60000000 + clock.second * 1000000 +
          clock.microsecond, offset⟩
      else none

end Bridgewire.DateTime
