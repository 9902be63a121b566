/-!
# Binary floats as exact numbers

A float of 32 or 64 bits, taken apart into a sign and a magnitude `mantissa * 2 ^ exponent`.
Whatever is printed of a float, or made of it as an integer, is computed from these naturals.
-/

set_option autoImplicit false

namespace CrossQuery.Decimal

/-- A finite magnitude `mantissa * 2 ^ exponent`. -/
structure Magnitude where
  mantissa : Nat
  exponent : Int
  /-- The gap to the value below is half the gap to the value above. -/
  narrowBelow : Bool
deriving DecidableEq

/-- The number that the bits of a float stand for. -/
inductive Binary where
  | notANumber
  | infinite (negative : Bool)
  | finite (negative : Bool) (magnitude : Magnitude)
deriving DecidableEq

/-- The number of a bit pattern with the given widths of its fraction and exponent. -/
def Binary.ofBits (fractionBits exponentBits bits : Nat) : Binary :=
  let fraction := bits % Nat.pow 2 fractionBits
  let exponent := bits / Nat.pow 2 fractionBits % Nat.pow 2 exponentBits
  let negative := bits / Nat.pow 2 (fractionBits + exponentBits) % 2 == 1
  let least : Int := 2 - Nat.pow 2 (exponentBits - 1) - fractionBits
  if exponent + 1 == Nat.pow 2 exponentBits then
    if fraction == 0 then .infinite negative else .notANumber
  else if exponent == 0 then
    .finite negative ⟨fraction, least, false⟩
  else
    .finite negative
      ⟨Nat.pow 2 fractionBits + fraction, least + exponent - 1, fraction == 0 && exponent > 1⟩

def Binary.ofFloat (value : Float) : Binary :=
  .ofBits 52 11 value.toBits.toNat

def Binary.ofFloat32 (value : Float32) : Binary :=
  .ofBits 23 8 value.toBits.toNat

/-- The magnitude without its fractional part. -/
def Magnitude.floor (magnitude : Magnitude) : Nat :=
  if magnitude.exponent < 0 then
    magnitude.mantissa / Nat.pow 2 (-magnitude.exponent).toNat
  else
    magnitude.mantissa * Nat.pow 2 magnitude.exponent.toNat

/-- Whether the magnitude is a whole number. -/
def Magnitude.isWhole (magnitude : Magnitude) : Bool :=
  magnitude.exponent ≥ 0 || magnitude.mantissa % Nat.pow 2 (-magnitude.exponent).toNat == 0

/-- A natural with the sign of a float. -/
def signed (negative : Bool) (magnitude : Nat) : Int :=
  if negative then -(magnitude : Int) else magnitude

/-- The integer that a float is equal to, if there is one. -/
def wholeOfFloat? (value : Float) : Option Int :=
  match Binary.ofFloat value with
  | .finite negative magnitude =>
    if magnitude.isWhole then some (signed negative magnitude.floor) else none
  | _ => none

/-- The integer nearest to a float on the side of zero, within the given bounds. Values outside
them, and the infinities, become the bound on their side; what is not a number becomes zero. -/
def clampedTruncation (lowest highest : Int) (value : Float) : Int :=
  match Binary.ofFloat value with
  | .notANumber => 0
  | .infinite negative => if negative then lowest else highest
  | .finite negative magnitude => max lowest (min highest (signed negative magnitude.floor))

end CrossQuery.Decimal
