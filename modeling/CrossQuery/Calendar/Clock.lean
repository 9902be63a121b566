import CrossQuery.Text.Numeral

/-!
# Times of day

A time of day to the nanosecond. A leap second is the second 60 of its minute, so the order of
times is the order of their parts.
-/

set_option autoImplicit false

namespace CrossQuery

/-- Whether hour, minute, second and nanosecond name a time of day. -/
def isTimeOfDay (hour minute second nano : Nat) : Bool :=
  hour < 24 && minute < 60 && second ≤ 60 && nano < 1000000000

structure TimeOfDay where
  hour : Nat
  minute : Nat
  second : Nat
  nano : Nat
  valid : isTimeOfDay hour minute second nano = true
deriving DecidableEq

namespace TimeOfDay

def midnight : TimeOfDay := ⟨0, 0, 0, 0, rfl⟩

/-- The time with the given parts, if there is one. -/
def of? (hour minute second nano : Nat) : Option TimeOfDay :=
  if valid : isTimeOfDay hour minute second nano = true then
    some ⟨hour, minute, second, nano, valid⟩
  else none

theorem of?_self (time : TimeOfDay) :
    of? time.hour time.minute time.second time.nano = some time := by
  simp [of?, time.valid]

protected def compare (left right : TimeOfDay) : Ordering :=
  (Ord.compare left.hour right.hour).then
    ((Ord.compare left.minute right.minute).then
      ((Ord.compare left.second right.second).then (Ord.compare left.nano right.nano)))

/-- The fraction of a second: nothing if it is zero, else a point and three, six or nine digits,
the fewest that say it. -/
def writeFraction (nano : Nat) : List Char :=
  if nano = 0 then []
  else if nano % 1000000 = 0 then '.' :: Text.writePadded 3 (nano / 1000000)
  else if nano % 1000 = 0 then '.' :: Text.writePadded 6 (nano / 1000)
  else '.' :: Text.writePadded 9 nano

/-- A time as hour, minute and second with colons between them, and the fraction. -/
def write (time : TimeOfDay) : List Char :=
  Text.writePadded 2 time.hour ++ ':' :: (Text.writePadded 2 time.minute ++
    ':' :: (Text.writePadded 2 time.second ++ writeFraction time.nano))

end TimeOfDay

end CrossQuery
