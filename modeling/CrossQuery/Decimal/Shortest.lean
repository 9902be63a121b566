import CrossQuery.Decimal.Binary

/-!
# Shortest decimals

The decimal with the fewest digits that reads back to a given float, and of those the one nearest
to it. The search is exact: it works on natural numbers only.
-/

set_option autoImplicit false

namespace CrossQuery.Decimal

/-- A decimal, of the value `digits * 10 ^ exponent`. -/
structure Scaled where
  digits : Nat
  exponent : Int
deriving DecidableEq

/-- Which of two equally near decimals is taken. -/
inductive Tie where
  | toEven
  | upward
deriving DecidableEq

/-- The order of `a * 10 ^ i` and `n * 2 ^ j`. -/
def compareScaled (a : Nat) (i : Int) (n : Nat) (j : Int) : Ordering :=
  compare (a * Nat.pow 10 i.toNat * Nat.pow 2 (-j).toNat)
    (n * Nat.pow 2 j.toNat * Nat.pow 10 (-i).toNat)

/-- Whether a decimal lies among the reals that round to the magnitude. The ends of that interval
belong to it exactly when the mantissa is even. -/
def Magnitude.readsBack (magnitude : Magnitude) (decimal : Scaled) : Bool :=
  let below := if magnitude.narrowBelow then 4 * magnitude.mantissa - 1 else 4 * magnitude.mantissa - 2
  let above := 4 * magnitude.mantissa + 2
  let closed := magnitude.mantissa % 2 == 0
  let low := compareScaled decimal.digits decimal.exponent below (magnitude.exponent - 2)
  let high := compareScaled decimal.digits decimal.exponent above (magnitude.exponent - 2)
  (low == .gt || (closed && low == .eq)) && (high == .lt || (closed && high == .eq))

/-- The least power of ten above a positive magnitude. -/
def Magnitude.scale (magnitude : Magnitude) : Int :=
  let estimate := Int.fdiv ((magnitude.mantissa.log2 + magnitude.exponent) * 30103) 100000
  let candidates := [estimate - 1, estimate, estimate + 1, estimate + 2]
  (candidates.find? fun power =>
    compareScaled 1 power magnitude.mantissa magnitude.exponent == .gt).getD (estimate + 3)

/-- The multiple of `10 ^ power` at or just below the magnitude, counted in that unit. -/
def Magnitude.floorAt (magnitude : Magnitude) (power : Int) : Nat :=
  (magnitude.mantissa * Nat.pow 2 magnitude.exponent.toNat * Nat.pow 10 (-power).toNat) /
    (Nat.pow 10 power.toNat * Nat.pow 2 (-magnitude.exponent).toNat)

/-- The neighbour on the grid of `10 ^ power` that reads back; of two, the nearer. -/
def Magnitude.onGrid? (tie : Tie) (magnitude : Magnitude) (power : Int) : Option Scaled :=
  let floor := magnitude.floorAt power
  let lower : Scaled := ⟨floor, power⟩
  let upper : Scaled := ⟨floor + 1, power⟩
  match magnitude.readsBack lower, magnitude.readsBack upper with
  | false, false => none
  | true, false => some lower
  | false, true => some upper
  | true, true =>
    match compareScaled (2 * floor + 1) power magnitude.mantissa (magnitude.exponent + 1) with
    | .gt => some lower
    | .lt => some upper
    | .eq =>
      match tie with
      | .upward => some upper
      | .toEven => some (if floor % 2 == 0 then lower else upper)

/-- The exact decimal expansion of a magnitude. -/
def Magnitude.expansion (magnitude : Magnitude) : Scaled :=
  ⟨magnitude.mantissa * Nat.pow 2 magnitude.exponent.toNat * Nat.pow 5 (-magnitude.exponent).toNat,
    min magnitude.exponent 0⟩

/-- A decimal without the zeros at its end; `fuel` bounds how many are dropped. -/
def stripZeros : Nat → Scaled → Scaled
  | 0, decimal => decimal
  | fuel + 1, decimal =>
    if decimal.digits % 10 == 0 then
      stripZeros fuel ⟨decimal.digits / 10, decimal.exponent + 1⟩
    else
      decimal

/-- The shortest decimal of a positive magnitude: the first grid, from coarse to fine, on which a
neighbour reads back. Zero is the decimal zero. -/
def Magnitude.shortest (tie : Tie) (magnitude : Magnitude) : Scaled :=
  if magnitude.mantissa = 0 then
    ⟨0, 0⟩
  else
    let scale := magnitude.scale
    let found := (List.range' 1 17).findSome? fun (places : Nat) =>
      magnitude.onGrid? tie (scale - Int.ofNat places)
    stripZeros 400 (found.getD magnitude.expansion)

end CrossQuery.Decimal
