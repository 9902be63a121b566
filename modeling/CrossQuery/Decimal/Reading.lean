import CrossQuery.Text.Numeral

/-!
# Reading floats

The float nearest to a decimal numeral: digits with an optional point among them, at least one
digit, an optional exponent and an optional sign. Infinity and what is not a number have names.
-/

set_option autoImplicit false

namespace CrossQuery.Decimal

/-- The decimal `digits * 10 ^ exponent` of an unsigned numeral. -/
structure Written where
  digits : Nat
  exponent : Int

/-- The value of a run of digits. -/
def valueOfDigits (digits : List Char) : Nat :=
  digits.foldl (fun sofar c => sofar * 10 + (c.toNat - 48)) 0

/-- The exponent of a numeral: nothing, or a mark, an optional sign and digits. -/
def readExponent? : List Char → Option Int
  | [] => some 0
  | mark :: rest =>
    if mark = 'e' ∨ mark = 'E' then Text.readInt? rest else none

/-- An unsigned numeral. -/
def readWritten? (text : List Char) : Option Written :=
  let (before, rest) := Text.spanDigits text
  let (after, rest) :=
    match rest with
    | '.' :: rest => Text.spanDigits rest
    | rest => ([], rest)
  if before.isEmpty && after.isEmpty then
    none
  else
    (readExponent? rest).map fun exponent =>
      ⟨valueOfDigits (before ++ after), exponent - after.length⟩

/-- The exponent of ten beyond which every decimal of so many digits is zero or infinite. -/
def exponentReach (digits : Nat) : Int :=
  digits.log2 + 400

/-- The float nearest to a decimal. -/
def Written.toFloat (written : Written) : Float :=
  let reach := exponentReach written.digits
  let exponent := max (-reach) (min reach written.exponent)
  if 0 ≤ exponent then
    Float.ofScientific written.digits false exponent.toNat
  else
    Float.ofScientific written.digits true (-exponent).toNat

def Written.toFloat32 (written : Written) : Float32 :=
  let reach := exponentReach written.digits
  let exponent := max (-reach) (min reach written.exponent)
  if 0 ≤ exponent then
    Float32.ofScientific written.digits false exponent.toNat
  else
    Float32.ofScientific written.digits true (-exponent).toNat

inductive FloatText where
  | notANumber
  | infinite (negative : Bool)
  | decimal (negative : Bool) (written : Written)

/-- The text of a float without its sign. Names are read without regard to case. -/
def readUnsigned? (negative : Bool) (text : List Char) : Option FloatText :=
  let name := String.ofList (text.map Char.toLower)
  if name = "nan" then some .notANumber
  else if name = "inf" ∨ name = "infinity" then some (.infinite negative)
  else (readWritten? text).map (.decimal negative)

def readFloatText? : List Char → Option FloatText
  | '-' :: rest => readUnsigned? true rest
  | '+' :: rest => readUnsigned? false rest
  | text => readUnsigned? false text

def infinity : Float := Float.ofBits 0x7FF0000000000000

def quietNaN : Float := Float.ofBits 0x7FF8000000000000

def infinity32 : Float32 := Float32.ofBits 0x7F800000

def quietNaN32 : Float32 := Float32.ofBits 0x7FC00000

def FloatText.toFloat : FloatText → Float
  | .notANumber => quietNaN
  | .infinite negative => if negative then -infinity else infinity
  | .decimal negative written => if negative then -written.toFloat else written.toFloat

def FloatText.toFloat32 : FloatText → Float32
  | .notANumber => quietNaN32
  | .infinite negative => if negative then -infinity32 else infinity32
  | .decimal negative written => if negative then -written.toFloat32 else written.toFloat32

/-- The 64-bit float of a numeral, which has no sign and is no name. -/
def readNumeral? (text : String) : Option Float :=
  (readWritten? text.toList).map Written.toFloat

def readFloat? (text : String) : Option Float :=
  (readFloatText? text.toList).map FloatText.toFloat

def readFloat32? (text : String) : Option Float32 :=
  (readFloatText? text.toList).map FloatText.toFloat32

end CrossQuery.Decimal
