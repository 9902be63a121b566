import CrossQuery.Calendar.Timestamp
import CrossQuery.Text.Blank

/-!
# Reading dates and times

Numbers need no leading zeros and may have blanks before them. A year without a sign has at most
four digits. A timestamp has a `T` or blanks between date and time, and a date by itself means its
midnight.
-/

set_option autoImplicit false

namespace CrossQuery.Calendar

/-- The number of the digits at the front of a text, of which `most` are read at most and one at
least, and the rest. -/
def readNumber? (most : Nat) (text : List Char) : Option (Nat × List Char) :=
  let digits := (text.take most).takeWhile Text.isDecimalDigit
  (Text.readNat? digits).map fun number => (number, text.drop digits.length)

/-- A year, after blanks. A sign lifts the limit on its digits. -/
def readYear? (text : List Char) : Option (Int × List Char) :=
  match Text.trimLeft text with
  | '-' :: rest =>
    (readNumber? rest.length rest).map fun (year, rest) => (-(year : Int), rest)
  | '+' :: rest => (readNumber? rest.length rest).map fun (year, rest) => ((year : Int), rest)
  | text => (readNumber? 4 text).map fun (year, rest) => ((year : Int), rest)

/-- A number of at most two digits, after blanks. -/
def readPair? (text : List Char) : Option (Nat × List Char) :=
  readNumber? 2 (Text.trimLeft text)

/-- The text behind a character that must come next. -/
def expect? (c : Char) : List Char → Option (List Char)
  | first :: rest => if first = c then some rest else none
  | [] => none

def readDatePart? (text : List Char) : Option (Date × List Char) := do
  let (year, rest) ← readYear? text
  let rest ← expect? '-' rest
  let (month, rest) ← readPair? rest
  let rest ← expect? '-' rest
  let (day, rest) ← readPair? rest
  some (← Date.of? year month day, rest)

/-- The nanoseconds of the digits behind a point. Digits beyond the ninth are skipped. -/
def readNanos? (text : List Char) : Option (Nat × List Char) := do
  let digits := (text.take 9).takeWhile Text.isDecimalDigit
  let number ← Text.readNat? digits
  some (number * Nat.pow 10 (9 - digits.length),
    (text.drop digits.length).dropWhile Text.isDecimalDigit)

/-- The fraction of a second, if a point begins one. -/
def readFraction? : List Char → Option (Nat × List Char)
  | '.' :: rest => readNanos? rest
  | text => some (0, text)

def readTimePart? (text : List Char) : Option (TimeOfDay × List Char) := do
  let (hour, rest) ← readPair? text
  let rest ← expect? ':' rest
  let (minute, rest) ← readPair? rest
  let rest ← expect? ':' rest
  let (second, rest) ← readPair? rest
  let (nano, rest) ← readFraction? rest
  some (← TimeOfDay.of? hour minute second nano, rest)

/-- The value of a part that takes up the whole text. -/
def whole? {α : Type} : Option (α × List Char) → Option α
  | some (value, []) => some value
  | _ => none

/-- A date and a time with a `T` between them. -/
def readMarked? (text : List Char) : Option Timestamp := do
  let (date, rest) ← readDatePart? text
  let rest ← expect? 'T' rest
  let time ← whole? (readTimePart? rest)
  some ⟨date, time⟩

/-- A date and a time with nothing but blanks between them, of which there may be none. -/
def readSpaced? (text : List Char) : Option Timestamp := do
  let (date, rest) ← readDatePart? text
  let time ← whole? (readTimePart? rest)
  some ⟨date, time⟩

/-- The date of a text, with blanks around it. -/
def readDate? (text : List Char) : Option Date :=
  whole? (readDatePart? (Text.trim text))

def readTime? (text : List Char) : Option TimeOfDay :=
  whole? (readTimePart? text)

def readTimestamp? (text : List Char) : Option Timestamp :=
  let text := Text.trim text
  (readMarked? text).orElse fun _ =>
    (readSpaced? text).orElse fun _ =>
      (readDate? text).map fun date => ⟨date, .midnight⟩

/-- Exactly so many digits at the front of a text. -/
def readDigits? (count : Nat) (text : List Char) : Option (Nat × List Char) :=
  let digits := (text.take count).takeWhile Text.isDecimalDigit
  if digits.length = count then
    (Text.readNat? digits).map fun number => (number, text.drop count)
  else none

/-- The minutes of an offset from universal time: a `Z`, or a sign with hours and minutes. -/
def readOffset? : List Char → Option Int
  | ['Z'] | ['z'] => some 0
  | sign :: rest => do
    let negative ←
      if sign = '+' then some false
      else if sign = '-' ∨ sign = '−' then some true
      else none
    let (hours, rest) ← readDigits? 2 rest
    let rest ← expect? ':' rest
    let minutes ← whole? (readDigits? 2 rest)
    if hours < 24 ∧ minutes < 60 then
      let total : Int := hours * 60 + minutes
      some (if negative then -total else total)
    else none
  | [] => none

/-- The moment of a text that gives every part its full width, and an offset. -/
def readMoment? (text : List Char) : Option Moment := do
  let (year, rest) ← readDigits? 4 text
  let rest ← expect? '-' rest
  let (month, rest) ← readDigits? 2 rest
  let rest ← expect? '-' rest
  let (day, rest) ← readDigits? 2 rest
  let rest ←
    match rest with
    | c :: rest => if c = 'T' ∨ c = 't' ∨ c = ' ' then some rest else none
    | [] => none
  let (hour, rest) ← readDigits? 2 rest
  let rest ← expect? ':' rest
  let (minute, rest) ← readDigits? 2 rest
  let rest ← expect? ':' rest
  let (second, rest) ← readDigits? 2 rest
  let (nano, rest) ← readFraction? rest
  let offset ← readOffset? rest
  let date ← Date.of? year month day
  let time ← TimeOfDay.of? hour minute second nano
  let universal ← Timestamp.minus? ⟨date, time⟩ offset
  some ⟨universal⟩

end CrossQuery.Calendar
