import CrossQuery.Calendar.Date
import CrossQuery.Decimal.Binary
import CrossQuery.Decimal.Reading
import CrossQuery.Json
import CrossQuery.Text.Numeral
import CrossQuery.Text.Search
import CrossQuery.Toml.Text

/-!
# Numbers and moments in TOML

Integers of four bases, floats, and dates and times, which are kept as their texts.
-/

set_option autoImplicit false

namespace CrossQuery.Toml

/-- The value of a digit in a base. -/
def digitIn? (base : Nat) (c : Char) : Option Nat :=
  (hexValue? c).filter fun digit => digit < base

/-- Whether a character may stand in digits of a base, between which single underscores may
stand. -/
def isDigitText (base : Nat) (c : Char) : Bool :=
  (digitIn? base c).isSome || c == '_'

/-- Digits without the underscores, each of which must stand between two digits. -/
def withoutUnderscores? (text : List Char) : Option (List Char) :=
  let parts := Text.splitAt '_' text
  if parts.any List.isEmpty then none else some parts.flatten

/-- Digits of a base with what follows, without underscores, and at least one. -/
def readDigits? (base : Nat) (text : List Char) : Option (List Char × List Char) := do
  let digits ← withoutUnderscores? (text.takeWhile (isDigitText base))
  return (digits, text.dropWhile (isDigitText base))

def numberOf (base : Nat) (digits : List Char) : Nat :=
  digits.foldl (fun number c => base * number + (digitIn? base c).getD 0) 0

/-- An integer, which must fit 64 bits. -/
def integer? (value : Int) : Option Json :=
  if -9223372036854775808 ≤ value ∧ value < 9223372036854775808 then some (.whole value) else none

/-- An integer in another base than ten, behind the mark of the base. -/
def readBased? (base : Nat) (text : List Char) : Option (Json × List Char) := do
  let (digits, rest) ← readDigits? base text
  return (← integer? (numberOf base digits), rest)

/-- A sign, if there is one, and whether it is a minus. -/
def readSign : List Char → Bool × List Char
  | '-' :: rest => (true, rest)
  | '+' :: rest => (false, rest)
  | rest => (false, rest)

/-- The fraction of a float, with its point. -/
def readFraction? : List Char → Option (List Char × List Char)
  | '.' :: rest => (readDigits? 10 rest).map fun (digits, rest) => ('.' :: digits, rest)
  | rest => some ([], rest)

/-- The exponent of a float, with its mark. -/
def readExponent? : List Char → Option (List Char × List Char)
  | 'e' :: rest | 'E' :: rest => do
    let (negative, rest) := readSign rest
    let (digits, rest) ← readDigits? 10 rest
    return ('e' :: (if negative then '-' :: digits else digits), rest)
  | rest => some ([], rest)

/-- A float of its text. One too great for a float is refused, unless it is negative. -/
def float? (text : List Char) : Option Json := do
  let value ← Decimal.readFloat? (String.ofList text)
  if Decimal.Binary.ofFloat value = .infinite false then none
  return .real value

/-- A number in base ten: an integer, or a float if a fraction or exponent follows. -/
def readDecimal? (negative : Bool) (text : List Char) : Option (Json × List Char) := do
  let (digits, rest) ← readDigits? 10 text
  if digits.length > 1 && digits.head? == some '0' then none
  let (fraction, rest) ← readFraction? rest
  let (exponent, rest) ← readExponent? rest
  if fraction.isEmpty && exponent.isEmpty then
    let number : Int := numberOf 10 digits
    return (← integer? (if negative then -number else number), rest)
  else
    let unsigned := digits ++ fraction ++ exponent
    return (← float? (if negative then '-' :: unsigned else unsigned), rest)

def readNumber? : List Char → Option (Json × List Char)
  | '0' :: 'x' :: rest => readBased? 16 rest
  | '0' :: 'o' :: rest => readBased? 8 rest
  | '0' :: 'b' :: rest => readBased? 2 rest
  | text =>
    match readSign text with
    | (negative, 'i' :: 'n' :: 'f' :: rest) =>
      some (.real (if negative then -Decimal.infinity else Decimal.infinity), rest)
    | (_, 'n' :: 'a' :: 'n' :: rest) => some (.real Decimal.quietNaN, rest)
    | (negative, rest) => readDecimal? negative rest

/-- A number of exactly so many digits. -/
def readFixed? (count : Nat) (text : List Char) : Option (Nat × List Char) :=
  let digits := text.take count
  if digits.length == count && digits.all Text.isDecimalDigit then
    (Text.readNat? digits).map fun number => (number, text.drop count)
  else none

def expect? (c : Char) : List Char → Option (List Char)
  | first :: rest => if first == c then some rest else none
  | [] => none

def skipDate? (text : List Char) : Option (List Char) := do
  let (year, rest) ← readFixed? 4 text
  let (month, rest) ← readFixed? 2 (← expect? '-' rest)
  let (day, rest) ← readFixed? 2 (← expect? '-' rest)
  if isDate year month day then some rest else none

/-- What follows a time of day, with a fraction if a point follows the seconds. -/
def skipTime? (text : List Char) : Option (List Char) := do
  let (hour, rest) ← readFixed? 2 text
  let (minute, rest) ← readFixed? 2 (← expect? ':' rest)
  let (second, rest) ← readFixed? 2 (← expect? ':' rest)
  if hour > 23 || minute > 59 || second > 60 then none
  match rest with
  | '.' :: rest =>
    if (rest.takeWhile Text.isDecimalDigit).isEmpty then none
    else some (rest.dropWhile Text.isDecimalDigit)
  | rest => some rest

/-- What follows the offset of a moment. -/
def skipOffset? : List Char → Option (List Char)
  | 'Z' :: rest | 'z' :: rest => some rest
  | sign :: rest => do
    if sign != '+' && sign != '-' then none
    let (hour, rest) ← readFixed? 2 rest
    let (minute, rest) ← readFixed? 2 (← expect? ':' rest)
    if hour > 23 || minute > 59 then none else some rest
  | [] => none

/-- What follows a time behind a date, with an offset or without. A blank that no time follows
ends the date. -/
def skipTimeOfDate? (text : List Char) : Option (List Char) :=
  let timed (rest : List Char) : Option (List Char) :=
    (skipTime? rest).map fun rest => (skipOffset? rest).getD rest
  match text with
  | 'T' :: rest | 't' :: rest => timed rest
  | ' ' :: rest => some ((timed rest).getD text)
  | rest => some rest

/-- A date, a time or both, as an object of its text. -/
def readMoment? (text : List Char) : Option (Json × List Char) := do
  let rest ←
    match skipDate? text with
    | some rest => skipTimeOfDate? rest
    | none => skipTime? text
  let written := text.take (text.length - rest.length)
  return (.object [("moment", .string (String.ofList written))], rest)

/-- A scalar that is not a text. -/
def readScalar? : List Char → Option (Json × List Char)
  | 't' :: 'r' :: 'u' :: 'e' :: rest => some (.bool true, rest)
  | 'f' :: 'a' :: 'l' :: 's' :: 'e' :: rest => some (.bool false, rest)
  | text =>
    match readMoment? text with
    | some found => some found
    | none => readNumber? text

end CrossQuery.Toml
