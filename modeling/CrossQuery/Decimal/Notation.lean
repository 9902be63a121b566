import CrossQuery.Decimal.Shortest
import CrossQuery.Text.Numeral

/-!
# Layout of decimals

Where a shortest decimal puts its point and when it is written with an exponent. The library
writes floats in three forms, and each is one `Notation`.
-/

set_option autoImplicit false

namespace CrossQuery.Decimal

/-- The decisions of one written form of floats. -/
structure Notation where
  /-- The exponents of the leading digit that are written without an exponent mark. -/
  isPlain : Int → Bool
  /-- Whether a whole number keeps a zero behind its point. -/
  keepsPoint : Bool
  /-- Whether a positive exponent carries a plus sign. -/
  signsExponent : Bool
  tie : Tie

/-- Floats in a JSON text: plain from 0.00001 up to 16 digits before the point, otherwise with a
signed exponent. -/
def Notation.document : Notation :=
  ⟨fun exponent => -5 ≤ exponent && exponent ≤ 15, true, true, .toEven⟩

/-- Floats as literals of a statement: plain from 0.0001 up to 16 digits before the point. -/
def Notation.literal : Notation :=
  ⟨fun exponent => -4 ≤ exponent && exponent ≤ 15, true, false, .upward⟩

/-- Floats as they are displayed: never with an exponent, whole numbers without a point. -/
def Notation.display : Notation :=
  ⟨fun _ => true, false, false, .upward⟩

/-- The digits of a decimal with the point at its place. -/
def plainText (keepsPoint : Bool) (decimal : Scaled) : List Char :=
  let digits := Text.writeNat decimal.digits
  let before : Int := digits.length + decimal.exponent
  if decimal.exponent ≥ 0 then
    digits ++ List.replicate decimal.exponent.toNat '0' ++ (if keepsPoint then ['.', '0'] else [])
  else if before > 0 then
    digits.take before.toNat ++ '.' :: digits.drop before.toNat
  else
    ['0', '.'] ++ List.replicate (-before).toNat '0' ++ digits

/-- One digit, the other digits behind a point, and the exponent of the first. -/
def exponentText (signsExponent : Bool) (decimal : Scaled) : List Char :=
  let digits := Text.writeNat decimal.digits
  let exponent : Int := digits.length + decimal.exponent - 1
  let mantissa :=
    match digits with
    | first :: second :: rest => first :: '.' :: second :: rest
    | short => short
  let sign := if signsExponent && exponent ≥ 0 then ['+'] else []
  mantissa ++ 'e' :: sign ++ Text.writeInt exponent

def Notation.magnitudeText (form : Notation) (magnitude : Magnitude) : List Char :=
  let decimal := magnitude.shortest form.tie
  let leading : Int := (Text.writeNat decimal.digits).length + decimal.exponent - 1
  if form.isPlain leading then
    plainText form.keepsPoint decimal
  else
    exponentText form.signsExponent decimal

/-- The text of a number without its sign; what is not a number is `NaN`. -/
def Notation.unsignedText (form : Notation) : Binary → List Char
  | .notANumber => ['N', 'a', 'N']
  | .infinite _ => ['i', 'n', 'f']
  | .finite _ magnitude => form.magnitudeText magnitude

/-- Whether a number is written with a minus sign. Negative zero is. -/
def Binary.isNegative : Binary → Bool
  | .notANumber => false
  | .infinite negative => negative
  | .finite negative _ => negative

/-- The text of a number in the given form. -/
def Notation.text (form : Notation) (number : Binary) : List Char :=
  if number.isNegative then '-' :: form.unsignedText number else form.unsignedText number

def Notation.floatText (form : Notation) (value : Float) : String :=
  String.ofList (form.text (.ofFloat value))

/-- The text of a 32-bit float in the given form, with the digits that identify it among those. -/
def Notation.float32Text (form : Notation) (value : Float32) : String :=
  String.ofList (form.text (.ofFloat32 value))

example : Notation.document.floatText 1e16 = "1e+16" := by decide +kernel
example : Notation.literal.floatText 1e-7 = "1e-7" := by decide +kernel
example : Notation.display.floatText 1e16 = "10000000000000000" := by decide +kernel

end CrossQuery.Decimal
