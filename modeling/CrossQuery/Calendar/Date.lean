import CrossQuery.Text.Numeral

/-!
# Calendar dates

Dates of the proleptic Gregorian calendar. A date carries the proof that its month and day exist,
so every `Date` is one that can be written and read.
-/

set_option autoImplicit false

namespace CrossQuery

/-- Whether a year has 366 days. -/
def isLeapYear (year : Int) : Bool :=
  year % 4 == 0 && (year % 100 != 0 || year % 400 == 0)

/-- The number of days of a month; months beyond December have none. -/
def daysInMonth (year : Int) (month : Nat) : Nat :=
  if month = 2 then (if isLeapYear year then 29 else 28)
  else if month = 4 ∨ month = 6 ∨ month = 9 ∨ month = 11 then 30
  else if 1 ≤ month ∧ month ≤ 12 then 31
  else 0

/-- Whether a year, month and day name a date in the supported range of years. -/
def isDate (year : Int) (month day : Nat) : Bool :=
  -262143 ≤ year && year ≤ 262142 && 1 ≤ month && month ≤ 12 && 1 ≤ day &&
    day ≤ daysInMonth year month

structure Date where
  year : Int
  month : Nat
  day : Nat
  valid : isDate year month day = true
deriving DecidableEq

namespace Date

def of? (year : Int) (month day : Nat) : Option Date :=
  if valid : isDate year month day = true then some ⟨year, month, day, valid⟩ else none

theorem of?_self (date : Date) : of? date.year date.month date.day = some date := by
  simp [of?, date.valid]

protected def compare (left right : Date) : Ordering :=
  (Ord.compare left.year right.year).then
    ((Ord.compare left.month right.month).then (Ord.compare left.day right.day))

/-- The day after a date; the last date has none. -/
def next? (date : Date) : Option Date :=
  if date.day < daysInMonth date.year date.month then
    of? date.year date.month (date.day + 1)
  else if date.month < 12 then
    of? date.year (date.month + 1) 1
  else
    of? (date.year + 1) 1 1

/-- The day before a date; the first date has none. -/
def previous? (date : Date) : Option Date :=
  if 1 < date.day then
    of? date.year date.month (date.day - 1)
  else if 1 < date.month then
    of? date.year (date.month - 1) (daysInMonth date.year (date.month - 1))
  else
    of? (date.year - 1) 12 31

/-- A year: four digits from 0 to 9999, otherwise a sign and at least four digits. -/
def writeYear (year : Int) : List Char :=
  if 0 ≤ year ∧ year ≤ 9999 then Text.writePadded 4 year.toNat
  else (if year < 0 then '-' else '+') :: Text.writePadded 4 year.natAbs

/-- A date as year, month and day with hyphens between them. -/
def write (date : Date) : List Char :=
  writeYear date.year ++ '-' :: (Text.writePadded 2 date.month ++
    '-' :: Text.writePadded 2 date.day)

end Date

end CrossQuery
