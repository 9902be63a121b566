import Mathlib
import CrossQuery.Decimal.Notation
import CrossQuery.Proofs.Decimal.Number

/-!
# Bits of floats

The bits of a float are those of its sign, its exponent and its digits. A finite float is a zero, or it
has a magnitude of its own, which packing and unpacking keep. What has no sign is packed without one.
-/

set_option autoImplicit false

namespace CrossQuery.Decimal

open Float.Model (UnpackedFloat Format)
open Float.Model.UnpackedFloat

/-! ## Digits and exponents -/

theorem finite_congr {sign : Sign} {mantissa other : Nat} {exponent place : Int}
    {positive : 0 < mantissa} {otherPositive : 0 < other} (sameMantissa : mantissa = other)
    (sameExponent : exponent = place) :
    UnpackedFloat.finite sign mantissa exponent positive =
      .finite sign other place otherPositive := by
  subst sameMantissa sameExponent
  rfl

theorem toNat_one_append (digits : BitVec 52) : (1#1 ++ digits).toNat = 2 ^ 52 + digits.toNat := by
  rw [BitVec.toNat_append, ← Nat.shiftLeft_add_eq_or_of_lt digits.isLt]
  rfl

section

variable {sign : Sign} {exponent : BitVec 11} {digits : BitVec 52}

theorem pos_of_normal (digits : BitVec 52) : 0 < 2 ^ 52 + digits.toNat :=
  Nat.add_pos_left (by decide) _

theorem unpack_normal (low : exponent ≠ -1#11) (some : exponent ≠ 0#11) :
    unpack Format.binary64 (packComponents Format.binary64 sign exponent digits) =
      .finite sign (2 ^ 52 + digits.toNat) (exponent.toNat - 1075) (pos_of_normal digits) := by
  unfold unpack
  simp only [unpackExponent_packComponents, unpackMantissa_packComponents,
    unpackSign_packComponents, Sign.ofBitVec_toBitVec]
  rw [if_neg low, if_neg some]
  exact finite_congr (toNat_one_append digits) rfl

theorem unpack_subnormal (positive : 0 < digits.toNat) :
    unpack Format.binary64 (packComponents Format.binary64 sign 0#11 digits) =
      .finite sign digits.toNat (-1074) positive := by
  have some : digits ≠ 0#52 := by
    rintro rfl
    exact absurd positive (by decide)
  have low : 0#11 ≠ -1#11 := by decide
  unfold unpack
  simp only [unpackExponent_packComponents, unpackMantissa_packComponents,
    unpackSign_packComponents, Sign.ofBitVec_toBitVec]
  rw [if_neg low, if_true, dif_neg some]
  exact finite_congr rfl rfl

/-- Bits are packed again from what they are unpacked to, unless that is no number. -/
theorem pack_unpack_packComponents (low : exponent ≠ -1#11) :
    pack Format.binary64 (unpack Format.binary64
      (packComponents Format.binary64 sign exponent digits)) =
        packComponents Format.binary64 sign exponent digits := by
  rw [pack_unpack, isNaNBits, unpackExponent_packComponents, if_neg]
  exact fun isNaN => low (of_decide_eq_true isNaN).1

theorem pack_normal (low : exponent ≠ -1#11) (some : exponent ≠ 0#11) :
    pack Format.binary64
        (.finite sign (2 ^ 52 + digits.toNat) (exponent.toNat - 1075) (pos_of_normal digits)) =
      packComponents Format.binary64 sign exponent digits := by
  rw [← unpack_normal low some, pack_unpack_packComponents low]

theorem pack_subnormal (positive : 0 < digits.toNat) :
    pack Format.binary64 (.finite sign digits.toNat (-1074) positive) =
      packComponents Format.binary64 sign 0#11 digits := by
  rw [← unpack_subnormal positive, pack_unpack_packComponents (by decide)]

theorem toNat_packComponents :
    (packComponents Format.binary64 sign exponent digits).toNat =
      (sign.toBitVec.toNat * 2 ^ 11 + exponent.toNat) * 2 ^ 52 + digits.toNat := by
  rw [packComponents, BitVec.toNat_append, BitVec.toNat_append,
    ← Nat.shiftLeft_add_eq_or_of_lt digits.isLt, ← Nat.shiftLeft_add_eq_or_of_lt exponent.isLt,
    Nat.shiftLeft_eq, Nat.shiftLeft_eq]

theorem fraction_packComponents :
    (packComponents Format.binary64 sign exponent digits).toNat % Nat.pow 2 52 = digits.toNat := by
  have fits := digits.isLt
  rw [toNat_packComponents, Nat.pow_eq]
  omega

theorem place_packComponents :
    (packComponents Format.binary64 sign exponent digits).toNat / Nat.pow 2 52 % Nat.pow 2 11 =
      exponent.toNat := by
  have fits := digits.isLt
  have below := exponent.isLt
  rw [toNat_packComponents, Nat.pow_eq, Nat.pow_eq]
  omega

theorem sign_packComponents :
    (packComponents Format.binary64 sign exponent digits).toNat / Nat.pow 2 (52 + 11) % 2 =
      sign.toBitVec.toNat := by
  have fits := digits.isLt
  have below := exponent.isLt
  have isSign := sign.toBitVec.isLt
  rw [toNat_packComponents, Nat.pow_eq]
  omega

theorem ofBits_packComponents (low : exponent ≠ -1#11) :
    Binary.ofBits 52 11 (packComponents Format.binary64 sign exponent digits).toNat =
      .finite (sign == .negative)
        (if exponent = 0#11 then ⟨digits.toNat, -1074, false⟩
        else ⟨2 ^ 52 + digits.toNat, exponent.toNat - 1075,
          digits.toNat == 0 && exponent.toNat > 1⟩) := by
  have notTop : exponent.toNat ≠ 2047 := fun top => low (BitVec.eq_of_toNat_eq top)
  have negative : (sign.toBitVec.toNat == 1) = (sign == .negative) := by
    cases sign <;> rfl
  unfold Binary.ofBits
  simp only [fraction_packComponents, place_packComponents, sign_packComponents, negative]
  rw [if_neg fun top => notTop (Nat.succ.inj (eq_of_beq top))]
  by_cases zero : exponent = 0#11
  · rw [if_pos zero, zero]
    rfl
  · have some : exponent.toNat ≠ 0 := fun none => zero (BitVec.eq_of_toNat_eq none)
    have place : (2 - 1024 - 52 : Int) + exponent.toNat - 1 = exponent.toNat - 1075 := by omega
    rw [if_neg zero, if_neg fun none => some (eq_of_beq none), Binary.finite.injEq,
      Magnitude.mk.injEq]
    exact ⟨rfl, rfl, place, rfl⟩

end

/-! ## Magnitudes -/

/-- A magnitude with as many digits as a float of 64 bits keeps. -/
structure Magnitude.Canonical (magnitude : Magnitude) : Prop where
  positive : 0 < magnitude.mantissa
  fits : magnitude.mantissa < 2 ^ 53
  least : -1074 ≤ magnitude.exponent
  most : magnitude.exponent ≤ 971
  normal : 2 ^ 52 ≤ magnitude.mantissa ∨ magnitude.exponent = -1074
  narrow : magnitude.narrowBelow = true ↔
    magnitude.mantissa = 2 ^ 52 ∧ -1074 < magnitude.exponent

/-- A magnitude is unpacked from the float that it is packed into. -/
theorem Magnitude.Canonical.unpack_pack {magnitude : Magnitude} (canonical : magnitude.Canonical)
    (sign : Sign) :
    (Float.Model.pack (.finite sign magnitude.mantissa magnitude.exponent
      canonical.positive)).unpack =
        .finite sign magnitude.mantissa magnitude.exponent canonical.positive := by
  change unpack Format.binary64 (pack Format.binary64 _) = _
  have fits := canonical.fits
  have least := canonical.least
  have most := canonical.most
  by_cases large : 2 ^ 52 ≤ magnitude.mantissa
  · obtain ⟨place, isPlace⟩ : ∃ place : BitVec 11, (place.toNat : Int) = magnitude.exponent + 1075 :=
      ⟨.ofNat 11 (magnitude.exponent + 1075).toNat, by rw [BitVec.toNat_ofNat]; omega⟩
    obtain ⟨digits, isMantissa⟩ : ∃ digits : BitVec 52, 2 ^ 52 + digits.toNat = magnitude.mantissa :=
      ⟨.ofNat 52 (magnitude.mantissa - 2 ^ 52), by rw [BitVec.toNat_ofNat]; omega⟩
    have low : place ≠ -1#11 := by
      rintro rfl
      have top : (-1#11).toNat = 2047 := rfl
      omega
    have some : place ≠ 0#11 := by
      rintro rfl
      have none : (0#11).toNat = 0 := rfl
      omega
    have parts : UnpackedFloat.finite sign magnitude.mantissa magnitude.exponent
        canonical.positive = .finite sign (2 ^ 52 + digits.toNat) (place.toNat - 1075)
          (pos_of_normal digits) := finite_congr isMantissa.symm (by omega)
    rw [parts, pack_normal low some, unpack_normal low some]
  · obtain ⟨digits, isMantissa⟩ : ∃ digits : BitVec 52, digits.toNat = magnitude.mantissa :=
      ⟨.ofNat 52 magnitude.mantissa, by rw [BitVec.toNat_ofNat]; omega⟩
    have positive : 0 < digits.toNat := isMantissa.symm ▸ canonical.positive
    have parts : UnpackedFloat.finite sign magnitude.mantissa magnitude.exponent
        canonical.positive = .finite sign digits.toNat (-1074) positive :=
      finite_congr isMantissa.symm (canonical.normal.resolve_left large)
    rw [parts, pack_subnormal positive, unpack_subnormal positive]

/-- A float is packed from what its bits are. -/
theorem eq_ofModel_pack {value : Float} {unpacked : UnpackedFloat}
    (same : pack Format.binary64 unpacked = value.toModel.toBits.toBitVec) :
    value = .ofModel (.pack unpacked) := by
  obtain ⟨⟨bits, valid⟩⟩ := value
  have equal : bits = UInt64.ofBitVec (pack Format.binary64 unpacked) := by
    rw [same]
  subst equal
  rfl

theorem unpackExponent_ne_top {bits : BitVec Format.binary64.numBits}
    (isFinite : (UnpackedFloat.unpack Format.binary64 bits).isFinite = true) :
    unpackExponent bits ≠ -1#_ := by
  intro top
  unfold UnpackedFloat.unpack at isFinite
  dsimp only at isFinite
  rw [if_pos top] at isFinite
  split at isFinite <;> cases isFinite

/-- A finite float is a zero or has a magnitude of its own. -/
theorem cases_ofFloat {value : Float} (isFinite : value.isFinite = true) :
    ∃ sign magnitude, Binary.ofFloat value = .finite (sign == .negative) magnitude ∧
      (magnitude.mantissa = 0 ∧ value = .ofModel (.pack (.zero sign)) ∨
        ∃ canonical : magnitude.Canonical, value = .ofModel (.pack (.finite sign magnitude.mantissa
          magnitude.exponent canonical.positive))) := by
  have low := unpackExponent_ne_top isFinite
  obtain ⟨sign, place, digits, parts⟩ : ∃ sign place digits,
      packComponents Format.binary64 sign place digits = value.toModel.toBits.toBitVec :=
    ⟨_, _, _, packComponents_unpackSign_unpackExponent_unpackMantissa _⟩
  rw [← parts, unpackExponent_packComponents] at low
  have read : Binary.ofFloat value = _ := parts ▸ ofBits_packComponents low
  refine ⟨sign, _, read, ?_⟩
  have below : digits.toNat < 2 ^ 52 := digits.isLt
  by_cases zero : place = 0#11
  · rw [if_pos zero]
    subst zero
    rcases Nat.eq_zero_or_pos digits.toNat with none | some
    · refine .inl ⟨none, eq_ofModel_pack ?_⟩
      rw [← parts, show digits = 0#52 from BitVec.eq_of_toNat_eq none]
      rfl
    · refine .inr ⟨⟨some, Nat.lt_trans below (by decide), le_refl (-1074), ?_, .inr rfl, ?_⟩,
        eq_ofModel_pack ?_⟩
      · change (-1074 : Int) ≤ 971
        decide
      · simp
      · rw [← parts]
        exact pack_subnormal some
  · rw [if_neg zero]
    have some : place.toNat ≠ 0 := fun none => zero (BitVec.eq_of_toNat_eq none)
    have notTop : place.toNat ≠ 2047 := fun top => low (BitVec.eq_of_toNat_eq top)
    have most : place.toNat < 2 ^ 11 := place.isLt
    refine .inr ⟨⟨pos_of_normal digits, ?_, ?_, ?_, .inl (Nat.le_add_right _ _), ?_⟩,
      eq_ofModel_pack ?_⟩
    · change 2 ^ 52 + digits.toNat < 2 ^ 53
      omega
    · change -1074 ≤ (place.toNat : Int) - 1075
      omega
    · change (place.toNat : Int) - 1075 ≤ 971
      omega
    · simp only [Bool.and_eq_true, beq_iff_eq, decide_eq_true_eq]
      omega
    · rw [← parts]
      exact pack_normal low zero

theorem ofFloat_of_isFinite {value : Float} (isFinite : value.isFinite = true) :
    ∃ negative magnitude, Binary.ofFloat value = .finite negative magnitude := by
  obtain ⟨_, _, parts, _⟩ := cases_ofFloat isFinite
  exact ⟨_, _, parts⟩

/-! ## Floats without a sign -/

/-- What is not negative, as far as it has a sign. -/
def IsUnsigned : UnpackedFloat → Prop
  | .notANumber => True
  | .infinity sign => sign = .positive
  | .zero sign => sign = .positive
  | .finite sign _ _ _ => sign = .positive

section

variable {spec : Format} {left right unpacked : UnpackedFloat}

theorem isUnsigned_roundWithAccuracy (mantissa : Nat) (exponent : Int) (accuracy : Accuracy) :
    IsUnsigned (roundWithAccuracy spec .positive mantissa exponent accuracy) := by
  unfold UnpackedFloat.roundWithAccuracy
  dsimp only
  split <;> rfl

theorem isUnsigned_normalize (number : Nat) (exponent : Int) :
    IsUnsigned (UnpackedFloat.normalize spec number exponent .positive) := by
  unfold UnpackedFloat.normalize
  split
  · next below => exact absurd (Int.compare_eq_lt.mp below) (by omega)
  · rfl
  · exact isUnsigned_roundWithAccuracy _ _ _

theorem isUnsigned_mul (isLeft : IsUnsigned left) (isRight : IsUnsigned right) :
    IsUnsigned (mul spec left right) := by
  cases left <;> cases right <;> cases isLeft <;> cases isRight <;>
    first | trivial | exact isUnsigned_roundWithAccuracy _ _ _

theorem isUnsigned_div (isLeft : IsUnsigned left) (isRight : IsUnsigned right) :
    IsUnsigned (div spec left right) := by
  cases left <;> cases right <;> cases isLeft <;> cases isRight <;>
    first | trivial | exact isUnsigned_roundWithAccuracy _ _ _

theorem isUnsigned_ofScientific (digits : Nat) (exponent : Int) :
    IsUnsigned (ofScientific spec digits exponent) := by
  unfold UnpackedFloat.ofScientific
  split
  · rfl
  · split
    · rfl
    · split
      · rfl
      · split
        · exact isUnsigned_mul rfl rfl
        · exact isUnsigned_div rfl rfl

/-- What has no sign is packed without one. -/
theorem exists_pack_of_isUnsigned (isUnsigned : IsUnsigned unpacked) :
    ∃ exponent mantissa, pack spec unpacked = packComponents spec .positive exponent mantissa := by
  fun_cases pack spec unpacked with
  | case1 => exact ⟨_, _, rfl⟩
  | case2 sign =>
      cases isUnsigned
      exact ⟨_, _, rfl⟩
  | case3 sign =>
      cases isUnsigned
      exact ⟨_, _, rfl⟩
  | case4 sign =>
      cases isUnsigned
      exact ⟨_, _, rfl⟩
  | case5 sign =>
      cases isUnsigned
      exact ⟨_, _, rfl⟩
  | case6 sign =>
      cases isUnsigned
      exact ⟨_, _, rfl⟩

theorem isUnsigned_unpack_pack (isUnsigned : IsUnsigned unpacked) :
    IsUnsigned (unpack spec (pack spec unpacked)) := by
  obtain ⟨exponent, mantissa, same⟩ := @exists_pack_of_isUnsigned spec _ isUnsigned
  rw [same]
  unfold unpack
  simp only [unpackSign_packComponents, Sign.ofBitVec_toBitVec]
  split
  · split <;> trivial
  · split
    · split <;> rfl
    · rfl

end

section

variable {unpacked : UnpackedFloat}

theorem isNegative_of_isUnsigned (isUnsigned : IsUnsigned unpacked) :
    (Binary.ofFloat (.ofModel (.pack unpacked))).isNegative = false := by
  obtain ⟨exponent, mantissa, same⟩ := @exists_pack_of_isUnsigned Format.binary64 _ isUnsigned
  change (Binary.ofBits 52 11 (pack Format.binary64 unpacked).toNat).isNegative = false
  unfold Binary.ofBits
  simp only [same, sign_packComponents]
  split
  · split <;> rfl
  · split <;> rfl

theorem isNegative_ofScientific (digits : Nat) (negative : Bool) (places : Nat) :
    (Binary.ofFloat (Float.ofScientific digits negative places)).isNegative = false := by
  rcases cases_ofScientific digits negative places with
    ⟨-, power, exponent, positive, -, -, same⟩ | same
  · have isNumber : IsUnsigned digits.toUInt64.toFloat.toModel.unpack :=
      isUnsigned_unpack_pack (isUnsigned_normalize _ _)
    rw [same]
    apply isNegative_of_isUnsigned
    split
    · exact isUnsigned_div isNumber rfl
    · exact isUnsigned_mul isNumber rfl
  · rw [same]
    exact isNegative_of_isUnsigned (isUnsigned_ofScientific _ _)

/-- A numeral without a sign is read as a float without one. -/
theorem Written.isNegative_toFloat (written : Written) :
    (Binary.ofFloat written.toFloat).isNegative = false := by
  unfold Written.toFloat
  dsimp only
  split
  · exact isNegative_ofScientific _ _ _
  · exact isNegative_ofScientific _ _ _

end

/-- A numeral of zeros is read as zero. -/
theorem Written.toFloat_of_zero {written : Written} (none : written.digits = 0) :
    written.toFloat = .ofModel (.pack (.zero .positive)) := by
  have isZero : (Nat.toUInt64 0).toFloat.toModel.unpack = .zero .positive := rfl
  have reads : ∀ negative places,
      Float.ofScientific 0 negative places = .ofModel (.pack (.zero .positive)) := by
    intro negative places
    rcases cases_ofScientific 0 negative places with ⟨-, _, _, _, -, -, same⟩ | same
    · rw [same, isZero]
      cases negative <;> rfl
    · rw [same]
      rfl
  unfold Written.toFloat
  dsimp only
  rw [none]
  split
  · exact reads _ _
  · exact reads _ _

end CrossQuery.Decimal
