import CrossQuery.Calendar.Clock
import CrossQuery.Calendar.Date

/-!
# Timestamps

A date with a time of day. A timestamp without a zone is local to nobody in particular; a moment
is a timestamp in universal time.
-/

set_option autoImplicit false

namespace CrossQuery

structure Timestamp where
  date : Date
  time : TimeOfDay
deriving DecidableEq

namespace Timestamp

protected def compare (left right : Timestamp) : Ordering :=
  (left.date.compare right.date).then (left.time.compare right.time)

/-- The canonical text: date and time with a `T` between them. -/
def write (timestamp : Timestamp) : List Char :=
  timestamp.date.write ++ 'T' :: timestamp.time.write

/-- The timestamp a number of minutes earlier. The shift is less than a day either way. -/
def minus? (timestamp : Timestamp) (minutes : Int) : Option Timestamp := do
  let total : Int := timestamp.time.hour * 60 + timestamp.time.minute - minutes
  let date ←
    if total < 0 then timestamp.date.previous?
    else if total < 1440 then some timestamp.date
    else timestamp.date.next?
  let within := (total % 1440).toNat
  let time ← TimeOfDay.of? (within / 60) (within % 60) timestamp.time.second timestamp.time.nano
  some ⟨date, time⟩

end Timestamp

/-- A moment, as a timestamp in universal time. -/
structure Moment where
  universal : Timestamp
deriving DecidableEq

namespace Moment

protected def compare (left right : Moment) : Ordering :=
  left.universal.compare right.universal

/-- A moment for display: date and time with a blank between them, and the zone. -/
def write (moment : Moment) : List Char :=
  moment.universal.date.write ++ ' ' :: (moment.universal.time.write ++ " UTC".toList)

/-- A moment as date and time with a `T` between them, and its offset. -/
def writeWithOffset (moment : Moment) : List Char :=
  moment.universal.write ++ "+00:00".toList

end Moment

end CrossQuery
