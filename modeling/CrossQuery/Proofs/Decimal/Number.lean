import Mathlib.Algebra.Order.Ring.Int
import CrossQuery.Cell.Order

/-!
# Floats that are numbers

Two floats are in an order unless one of them is not a number. The opposite of a number is one, and
so is whatever a numeral says.
-/

set_option autoImplicit false

namespace CrossQuery.Decimal

open Float (Model)
open Float.Model (UnpackedFloat Format)
open Float.Model.UnpackedFloat

/-! ## What packing keeps -/

section Packing

variable {spec : Format} {sign : Sign} {left right : UnpackedFloat}

/-- What is not a number has the greatest exponent and some fraction. -/
theorem isNaN_unpack (bits : BitVec spec.numBits) :
    (unpack spec bits).isNaN =
      (unpackExponent bits == -1#_ && unpackMantissa bits != 0#_) := by
  unfold unpack
  dsimp only
  by_cases top : unpackExponent bits = -1#_
  · by_cases whole : unpackMantissa bits = 0#_
    · rw [if_pos top, if_pos whole, top, whole, bne_self_eq_false, Bool.and_false]
      rfl
    · rw [if_pos top, if_neg whole, top, bne_iff_ne.mpr whole, beq_self_eq_true]
      rfl
  · rw [if_neg top, beq_false_of_ne top, Bool.false_and]
    by_cases low : unpackExponent bits = 0#_
    · rw [if_pos low]
      by_cases whole : unpackMantissa bits = 0#_
      · rw [dif_pos whole]
        rfl
      · rw [dif_neg whole]
        rfl
    · rw [if_neg low]
      rfl

theorem isNaN_packComponents (sign : Sign) (exponent : BitVec spec.exponentBits)
    (mantissa : BitVec spec.mantissaBitsWithoutImplicit) :
    (unpack spec (packComponents spec sign exponent mantissa)).isNaN =
      (exponent == -1#_ && mantissa != 0#_) := by
  rw [isNaN_unpack, unpackExponent_packComponents, unpackMantissa_packComponents]

theorem isNaN_packedInfinity (sign : Sign) :
    (unpack spec (packedInfinity spec sign)).isNaN = false := by
  rw [packedInfinity, isNaN_packComponents]
  simp

/-- Packing a number never yields what is not one. -/
theorem isNaN_pack (value : UnpackedFloat) (isNumber : value.isNaN = false) :
    (unpack spec (pack spec value)).isNaN = false := by
  fun_cases pack spec value with
  | case1 => cases isNumber
  | case2 sign => exact isNaN_packedInfinity sign
  | case3 sign =>
      rw [packedZero, isNaN_packComponents]
      simp
  | case4 sign => exact isNaN_packedInfinity sign
  | case5 sign mantissa exponent positive bits biased small normal =>
      have low : BitVec.ofNat spec.exponentBits biased ≠ -1#_ := by
        have least : biased < 2 ^ spec.exponentBits - 1 := by omega
        have kept : biased % 2 ^ spec.exponentBits = biased := Nat.mod_eq_of_lt (by omega)
        intro top
        have same := congrArg BitVec.toNat top
        rw [BitVec.neg_one_eq_allOnes, BitVec.toNat_allOnes, BitVec.toNat_ofNat, kept] at same
        omega
      rw [isNaN_packComponents, beq_false_of_ne low, Bool.false_and]
  | case6 =>
      have low : (0#(spec.exponentBits)) ≠ -1#_ := by
        have positive := spec.he
        intro top
        have same := congrArg BitVec.toNat top
        rw [BitVec.neg_one_eq_allOnes, BitVec.toNat_allOnes, BitVec.toNat_ofNat,
          Nat.zero_mod] at same
        have two := Nat.one_lt_two_pow (Nat.pos_iff_ne_zero.mp positive)
        omega
      rw [isNaN_packComponents, beq_false_of_ne low, Bool.false_and]

theorem isNaN_dite {condition : Prop} [Decidable condition] {yes : condition → UnpackedFloat}
    {no : ¬condition → UnpackedFloat} (whenYes : ∀ holds, (yes holds).isNaN = false)
    (whenNo : ∀ fails, (no fails).isNaN = false) : (dite condition yes no).isNaN = false := by
  by_cases holds : condition
  · rw [dif_pos holds]
    exact whenYes holds
  · rw [dif_neg holds]
    exact whenNo holds

theorem isNaN_ite {condition : Prop} [Decidable condition] {yes no : UnpackedFloat}
    (whenYes : yes.isNaN = false) (whenNo : no.isNaN = false) :
    (if condition then yes else no).isNaN = false :=
  isNaN_dite (fun _ => whenYes) fun _ => whenNo

theorem isNaN_roundWithAccuracy (sign : Sign) (mantissa : Nat) (exponent : Int)
    (accuracy : Accuracy) :
    (roundWithAccuracy spec sign mantissa exponent accuracy).isNaN = false := by
  unfold roundWithAccuracy
  exact isNaN_dite (fun _ => rfl) fun _ => rfl

theorem isNaN_normalize (mantissa exponent : Int) (sign : Sign) :
    (UnpackedFloat.normalize spec mantissa exponent sign).isNaN = false := by
  unfold UnpackedFloat.normalize
  split
  · exact isNaN_roundWithAccuracy _ _ _ _
  · rfl
  · exact isNaN_roundWithAccuracy _ _ _ _

/-- The product of a number with a finite one that is not zero. -/
theorem isNaN_mul (isNumber : left.isNaN = false) (sign : Sign) (mantissa : Nat) (exponent : Int)
    (positive : 0 < mantissa) :
    (mul spec left (.finite sign mantissa exponent positive)).isNaN = false := by
  cases left with
  | notANumber => cases isNumber
  | infinity => rfl
  | zero => rfl
  | finite => exact isNaN_roundWithAccuracy _ _ _ _

/-- The quotient of a number by a finite one that is not zero. -/
theorem isNaN_div (isNumber : left.isNaN = false) (sign : Sign) (mantissa : Nat) (exponent : Int)
    (positive : 0 < mantissa) :
    (div spec left (.finite sign mantissa exponent positive)).isNaN = false := by
  cases left with
  | notANumber => cases isNumber
  | infinity => rfl
  | zero => rfl
  | finite => exact isNaN_roundWithAccuracy _ _ _ _

theorem isNaN_ofScientific (digits : Nat) (exponent : Int) :
    (ofScientific spec digits exponent).isNaN = false := by
  unfold ofScientific
  refine isNaN_dite (fun _ => rfl) fun _ => isNaN_ite rfl (isNaN_ite rfl (isNaN_ite ?_ ?_))
  · exact isNaN_mul rfl _ _ _ _
  · exact isNaN_div rfl _ _ _ _

theorem isSome_compare (leftNumber : left.isNaN = false) (rightNumber : right.isNaN = false) :
    (left.compare right).isSome = true := by
  cases left with
  | notANumber => cases leftNumber
  | infinity leftSign =>
      cases right with
      | notANumber => cases rightNumber
      | infinity => rfl
      | _ => cases leftSign <;> rfl
  | zero =>
      cases right with
      | notANumber => cases rightNumber
      | infinity rightSign => cases rightSign <;> rfl
      | zero => rfl
      | finite rightSign => cases rightSign <;> rfl
  | finite leftSign =>
      cases right with
      | notANumber => cases rightNumber
      | infinity rightSign => cases leftSign <;> cases rightSign <;> rfl
      | zero => cases leftSign <;> rfl
      | finite rightSign => cases leftSign <;> cases rightSign <;> rfl

theorem compare_swap (left right : UnpackedFloat) :
    right.compare left = (left.compare right).map Ordering.swap := by
  cases left with
  | notANumber => cases right <;> rfl
  | infinity leftSign =>
      cases right with
      | infinity rightSign => cases leftSign <;> cases rightSign <;> rfl
      | _ => cases leftSign <;> rfl
  | zero =>
      cases right with
      | infinity rightSign => cases rightSign <;> rfl
      | finite rightSign => cases rightSign <;> rfl
      | _ => rfl
  | finite leftSign leftMantissa leftExponent =>
      cases right with
      | notANumber => rfl
      | infinity rightSign => cases leftSign <;> cases rightSign <;> rfl
      | zero => cases leftSign <;> rfl
      | finite rightSign rightMantissa rightExponent =>
          have magnitudes :
              (compare rightExponent leftExponent).then (compare rightMantissa leftMantissa) =
                ((compare leftExponent rightExponent).then
                  (compare leftMantissa rightMantissa)).swap := by
            rw [Ordering.swap_then, Std.OrientedOrd.eq_swap (a := rightExponent),
              Std.OrientedOrd.eq_swap (a := rightMantissa)]
          cases leftSign with
          | positive =>
              cases rightSign with
              | positive => exact congrArg some magnitudes
              | negative => rfl
          | negative =>
              cases rightSign with
              | positive => rfl
              | negative => exact congrArg some (congrArg Ordering.swap magnitudes)

end Packing

/-! ## Floats -/

section Floats

variable {left right value : Float}

theorem lt_iff : left < right ↔ left.toModel.unpack.compare right.toModel.unpack = some .lt := by
  rw [← beq_iff_eq (a := left.toModel.unpack.compare right.toModel.unpack)]
  exact decide_eq_true_iff

theorem beq_iff : (left == right) = true ↔
    left.toModel.unpack.compare right.toModel.unpack = some .eq := by
  rw [← beq_iff_eq (a := left.toModel.unpack.compare right.toModel.unpack)]
  exact Iff.rfl

/-- Two numbers are in an order. -/
theorem isSome_compareFloats (leftNumber : left.isNaN = false) (rightNumber : right.isNaN = false) :
    (Cell.compareFloats left right).isSome = true := by
  obtain ⟨ordering, found⟩ :=
    Option.isSome_iff_exists.mp (isSome_compare leftNumber rightNumber)
  have swapped := compare_swap left.toModel.unpack right.toModel.unpack
  rw [found] at swapped
  unfold Cell.compareFloats
  cases ordering with
  | lt => rw [if_pos (lt_iff.mpr found), Option.isSome_some]
  | gt =>
      have less : right < left := lt_iff.mpr swapped
      rw [if_pos less]
      split <;> rfl
  | eq =>
      have equal : (left == right) = true := beq_iff.mpr found
      rw [if_pos equal]
      split
      · rfl
      · split <;> rfl

theorem isNaN_neg (isNumber : value.isNaN = false) : (-value).isNaN = false := by
  refine isNaN_pack _ ?_
  have unpacked : value.toModel.unpack.isNaN = false := isNumber
  cases shape : value.toModel.unpack with
  | notANumber =>
      rw [shape] at unpacked
      cases unpacked
  | _ => rfl

/-- Whole numbers of 64 bits are numbers. -/
theorem isNaN_toFloat (number : UInt64) : number.toFloat.isNaN = false :=
  isNaN_pack _ (isNaN_normalize _ _ _)

/-- The powers of ten of the table are exact. -/
theorem exists_powerOfTen (place : Fin Float.exactlyRepresentablePowersOfTen.size) :
    ∃ mantissa exponent positive,
      Float.exactlyRepresentablePowersOfTen[place].toModel.unpack =
        .finite .positive mantissa exponent positive ∧ 2 ^ 52 ≤ mantissa ∧
          mantissa * 2 ^ exponent.toNat = 10 ^ place.val * 2 ^ (-exponent).toNat := by
  have exactly : (match Float.exactlyRepresentablePowersOfTen[place].toModel.unpack with
      | .finite .positive mantissa exponent _ => decide (2 ^ 52 ≤ mantissa ∧
        mantissa * 2 ^ exponent.toNat = 10 ^ place.val * 2 ^ (-exponent).toNat)
      | _ => false) = true := by
    revert place
    decide +kernel
  cases isPower : Float.exactlyRepresentablePowersOfTen[place].toModel.unpack with
  | finite sign mantissa exponent positive =>
      rw [isPower] at exactly
      cases sign with
      | positive => exact ⟨mantissa, exponent, positive, isPower, of_decide_eq_true exactly⟩
      | negative => cases exactly
  | _ =>
      rw [isPower] at exactly
      cases exactly

/-- A decimal with few digits is read by one exact multiplication or division, any other decimal by
way of its exact value. -/
theorem cases_ofScientific (digits : Nat) (negative : Bool) (places : Nat) :
    (digits < 2 ^ 53 ∧ ∃ power exponent positive, 2 ^ 52 ≤ power ∧
      power * 2 ^ exponent.toNat = 10 ^ places * 2 ^ (-exponent).toNat ∧
        Float.ofScientific digits negative places = .ofModel (.pack (if negative then
          div Format.binary64 digits.toUInt64.toFloat.toModel.unpack
            (.finite .positive power exponent positive)
          else mul Format.binary64 digits.toUInt64.toFloat.toModel.unpack
            (.finite .positive power exponent positive)))) ∨
      Float.ofScientific digits negative places = .ofModel (.pack (ofScientific Format.binary64
        digits (if negative then -places else places))) := by
  by_cases small : digits < 2 ^ 53 ∧ places ≤ 22
  · have listed : places < Float.exactlyRepresentablePowersOfTen.size :=
      Nat.lt_of_le_of_lt small.2 (by decide)
    obtain ⟨power, exponent, positive, isPower, large, same⟩ := exists_powerOfTen ⟨places, listed⟩
    change Float.exactlyRepresentablePowersOfTen[places].toModel.unpack = _ at isPower
    refine .inl ⟨small.1, power, exponent, positive, large, same, ?_⟩
    rw [Float.ofScientific, dif_pos small, ← isPower]
    cases negative <;> rfl
  · right
    rw [Float.ofScientific, dif_neg small]
    cases negative with
    | false => rfl
    | true =>
        exact congrArg (fun exponent => Float.ofModel (Float.Model.ofScientific digits exponent))
          Int.negOfNat_eq

/-- What a decimal says is a number, though it may be infinite. -/
theorem isNaN_ofScientific_float (digits : Nat) (negative : Bool) (places : Nat) :
    (Float.ofScientific digits negative places).isNaN = false := by
  rcases cases_ofScientific digits negative places with
    ⟨-, power, exponent, positive, -, -, same⟩ | same
  · have digitsNumber := isNaN_toFloat digits.toUInt64
    rw [same]
    refine isNaN_pack _ (isNaN_ite ?_ ?_)
    · exact isNaN_div digitsNumber _ _ _ _
    · exact isNaN_mul digitsNumber _ _ _ _
  · rw [same]
    exact isNaN_pack _ (isNaN_ofScientific _ _)

theorem isNaN_ofInt (number : Int) : (Float.ofInt number).isNaN = false := by
  cases number with
  | ofNat number => exact isNaN_ofScientific_float _ _ _
  | negSucc below => exact isNaN_neg (isNaN_ofScientific_float _ _ _)

theorem Written.isNaN_toFloat (written : Written) : written.toFloat.isNaN = false := by
  unfold Written.toFloat
  dsimp only
  split
  · exact isNaN_ofScientific_float _ _ _
  · exact isNaN_ofScientific_float _ _ _

theorem isNaN_of_isFinite (isFinite : value.isFinite = true) : value.isNaN = false := by
  have unpacked : value.toModel.unpack.isFinite = true := isFinite
  change value.toModel.unpack.isNaN = false
  cases shape : value.toModel.unpack with
  | notANumber =>
      rw [shape] at unpacked
      cases unpacked
  | _ => rfl

end Floats

end CrossQuery.Decimal
