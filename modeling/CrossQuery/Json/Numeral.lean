import CrossQuery.Json
import CrossQuery.Text.Numeral

/-!
# Numbers of JSON texts

The number that a literal stands for. A literal without fraction and exponent that fits 64 bits is
whole. Any other is a float: its leading digits are collected in 64 bits, and the power of ten
that is left over is applied by one floating-point operation, or by several beyond the range of
the powers. A literal beyond the largest float has no number.
-/

set_option autoImplicit false

namespace CrossQuery.Json

/-- The parts of a number literal. The lists hold digit values, most significant first. -/
structure Numeral where
  negative : Bool
  integer : List Nat
  /-- The digits behind the point; none if there is no point. -/
  fraction : List Nat
  /-- The sign and the digits of the exponent. -/
  exponent : Option (Bool × List Nat)

/-- Whether a literal is written as an integer. -/
def Numeral.isInteger (numeral : Numeral) : Bool :=
  numeral.fraction.isEmpty && numeral.exponent.isNone

/-- The largest number that collected digits may reach. -/
def significandBound : Nat := 18446744073709551615

/-- The number of digits after those collected in `sofar`, as far as it fits the bound, and the
digits that are left over. -/
def collectDigits : Nat → List Nat → Nat × List Nat
  | sofar, [] => (sofar, [])
  | sofar, digit :: rest =>
    if sofar * 10 + digit > significandBound then
      (sofar, digit :: rest)
    else
      collectDigits (sofar * 10 + digit) rest

/-- The float nearest to a power of ten. -/
def powerOfTen (exponent : Nat) : Float :=
  Float.ofScientific 1 false exponent

/-- A float multiplied by a power of ten; infinite results are none. Divisors beyond the powers of
a float are applied step by step, `fuel` times at most. -/
def scaleByTen : Nat → Float → Int → Option Float
  | 0, value, _ => some value
  | fuel + 1, value, exponent =>
    if 0 ≤ exponent then
      if exponent ≤ 308 then
        let scaled := value * powerOfTen exponent.toNat
        if scaled.isInf then none else some scaled
      else if value == 0 then some value
      else none
    else if -308 ≤ exponent then
      some (value / powerOfTen (-exponent).toNat)
    else if value == 0 then some value
    else scaleByTen fuel (value / powerOfTen 308) (exponent + 308)

def exponentBound : Nat := 2147483647

def withSign (negative : Bool) (value : Float) : Float :=
  if negative then -value else value

def Numeral.real? (numeral : Numeral) : Option Float :=
  let (leading, ignored) := collectDigits 0 numeral.integer
  let (significand, dropped) := collectDigits leading numeral.fraction
  let point : Int := ignored.length - (numeral.fraction.length - dropped.length)
  let start := Float.ofNat significand
  match numeral.exponent with
  | none => (scaleByTen 8 start point).map (withSign numeral.negative)
  | some (below, digits) =>
    let exponent := digits.foldl (fun sofar digit => sofar * 10 + digit) 0
    if exponent > exponentBound then
      if significand ≠ 0 ∧ below = false then none else some (withSign numeral.negative 0)
    else
      let shift : Int := if below then -exponent else exponent
      (scaleByTen 8 start (point + shift)).map (withSign numeral.negative)

def Numeral.value? (numeral : Numeral) : Option Json :=
  let (significand, rest) := collectDigits 0 numeral.integer
  if numeral.isInteger && rest.isEmpty then
    if !numeral.negative then
      some (.whole significand)
    else if significand = 0 then
      some (.real (-0.0))
    else if significand ≤ 9223372036854775808 then
      some (.whole (-significand))
    else
      some (.real (-(Float.ofNat significand)))
  else
    numeral.real?.map .real

/-- The digit values at the front of a text, and the rest. -/
def spanDigitValues : List Char → List Nat × List Char
  | [] => ([], [])
  | c :: rest =>
    match Text.digitValue? c with
    | some digit =>
      let (digits, after) := spanDigitValues rest
      (digit :: digits, after)
    | none => ([], c :: rest)

/-- The digits behind a point, if the text begins with one. At least one digit is required. -/
def readFraction? : List Char → Option (List Nat × List Char)
  | '.' :: rest =>
    match spanDigitValues rest with
    | ([], _) => none
    | (digits, after) => some (digits, after)
  | text => some ([], text)

/-- The digits behind an exponent mark and its sign. At least one digit is required. -/
def readExponentDigits? (below : Bool) (text : List Char) :
    Option (Option (Bool × List Nat) × List Char) :=
  match spanDigitValues text with
  | ([], _) => none
  | (digits, after) => some (some (below, digits), after)

/-- The exponent at the front of a text, if the text begins with its mark. -/
def readExponent? : List Char → Option (Option (Bool × List Nat) × List Char)
  | mark :: rest =>
    if mark = 'e' ∨ mark = 'E' then
      match rest with
      | '-' :: digits => readExponentDigits? true digits
      | '+' :: digits => readExponentDigits? false digits
      | digits => readExponentDigits? false digits
    else
      some (none, mark :: rest)
  | [] => some (none, [])

/-- The unsigned literal at the front of a text. A leading zero stands alone. -/
def readNumeral? (negative : Bool) (text : List Char) : Option (Numeral × List Char) :=
  match spanDigitValues text with
  | ([], _) => none
  | (0 :: _ :: _, _) => none
  | (integer, rest) => do
    let (fraction, rest) ← readFraction? rest
    let (exponent, rest) ← readExponent? rest
    some (⟨negative, integer, fraction, exponent⟩, rest)

end CrossQuery.Json
