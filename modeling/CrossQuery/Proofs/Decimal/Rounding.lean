import CrossQuery.Proofs.Decimal.Packing

/-!
# Rounding of decimals

A magnitude covers the numbers that lie nearer to it than to its neighbours. A numeral whose number
a magnitude covers is read as the float of that magnitude: the sums that reading does are exact but
for one rounding at their end.
-/

set_option autoImplicit false

namespace CrossQuery.Decimal

open Float.Model (UnpackedFloat Format totalExponent)
open Float.Model.UnpackedFloat

/-! ## Digits that are cut off -/

/-- A number by its whole part, the half behind it and a rest, of which only is kept whether there
is one. -/
def Represents (extended : ExtendedMantissa) (number : ℚ) : Prop :=
  ∃ rest : ℚ, number = extended.mantissa + (if extended.roundBit then 1 / 2 else 0) + rest ∧
    0 ≤ rest ∧ rest < 1 / 2 ∧ (rest = 0 ↔ extended.stickyBit = false)

/-- The natural that a number is rounded to. A number in the middle of two goes to the even one. -/
structure RoundsTo (number : ℚ) (whole : Nat) : Prop where
  least : whole - 1 / 2 ≤ number
  most : number ≤ whole + 1 / 2
  even : number = whole - 1 / 2 ∨ number = whole + 1 / 2 → whole % 2 = 0

variable {extended : ExtendedMantissa} {number : ℚ} {mantissa whole : Nat}

theorem Represents.bounds (represents : Represents extended number) :
    (extended.mantissa : ℚ) ≤ number ∧ number < extended.mantissa + 1 := by
  obtain ⟨rest, same, least, most, -⟩ := represents
  split at same <;> constructor <;> linarith

/-- What an accuracy says of the part of a number that stands behind its whole part. -/
def CutsOff : Accuracy → ℚ → Prop
  | .exact, rest => rest = 0
  | .inexact .lt, rest => 0 < rest ∧ rest < 1 / 2
  | .inexact .eq, rest => rest = 1 / 2
  | .inexact .gt, rest => 1 / 2 < rest ∧ rest < 1

theorem represents_of_cutsOff {accuracy : Accuracy} {rest : ℚ} (cutsOff : CutsOff accuracy rest) :
    Represents (.ofMantissaAndAccuracy mantissa accuracy) (mantissa + rest) := by
  unfold CutsOff at cutsOff
  split at cutsOff
  · exact ⟨0, by simp [ExtendedMantissa.ofMantissaAndAccuracy, cutsOff], le_refl 0, by norm_num,
      by simp [ExtendedMantissa.ofMantissaAndAccuracy]⟩
  · exact ⟨_, by simp [ExtendedMantissa.ofMantissaAndAccuracy], cutsOff.1.le, cutsOff.2,
      by simp [ExtendedMantissa.ofMantissaAndAccuracy, cutsOff.1.ne']⟩
  · exact ⟨0, by simp [ExtendedMantissa.ofMantissaAndAccuracy, cutsOff], le_refl 0, by norm_num,
      by simp [ExtendedMantissa.ofMantissaAndAccuracy]⟩
  · have more : ¬(rest - 1 / 2 = 0) := by linarith
    exact ⟨rest - 1 / 2, by simp [ExtendedMantissa.ofMantissaAndAccuracy], by linarith,
      by linarith, by simpa [ExtendedMantissa.ofMantissaAndAccuracy] using more⟩

theorem represents_exact (mantissa : Nat) :
    Represents (.ofMantissaAndAccuracy mantissa .exact) mantissa := by
  have represents := @represents_of_cutsOff mantissa .exact 0 rfl
  rwa [add_zero] at represents

/-- The accuracy of a fraction compares twice its dividend with its divisor. -/
theorem cutsOff_fraction {left divisor : Nat} (small : left < divisor) :
    CutsOff (accuracyOfFraction left divisor) (left / divisor) := by
  have above : (0 : ℚ) < divisor := by exact_mod_cast Nat.zero_lt_of_lt small
  unfold accuracyOfFraction
  split
  · next none =>
      rw [none, Nat.cast_zero, zero_div]
      rfl
  · next some =>
      rcases Nat.lt_trichotomy (2 * left) divisor with less | same | greater
      · rw [Nat.compare_eq_lt.mpr less]
        refine ⟨div_pos (by exact_mod_cast Nat.pos_of_ne_zero some) above, ?_⟩
        rw [div_lt_div_iff₀ above (by norm_num)]
        exact_mod_cast (by omega : left * 2 < 1 * divisor)
      · rw [Nat.compare_eq_eq.mpr same]
        refine (div_eq_div_iff above.ne' (by norm_num)).mpr ?_
        exact_mod_cast (by omega : left * 2 = 1 * divisor)
      · rw [Nat.compare_eq_gt.mpr greater]
        refine ⟨?_, (div_lt_one above).mpr (by exact_mod_cast small)⟩
        rw [div_lt_div_iff₀ (by norm_num) above]
        exact_mod_cast (by omega : 1 * divisor < left * 2)

theorem represents_fraction {divisor : Nat} (dividend : Nat) (positive : 0 < divisor) :
    Represents (.ofMantissaAndAccuracy (dividend / divisor)
      (accuracyOfFraction (dividend % divisor) divisor)) (dividend / divisor) := by
  have above : (0 : ℚ) < divisor := by exact_mod_cast positive
  have parts : (dividend : ℚ) / divisor =
      ((dividend / divisor : Nat) : ℚ) + ((dividend % divisor : Nat) : ℚ) / divisor := by
    rw [div_eq_iff above.ne', add_mul, div_mul_cancel₀ _ above.ne']
    exact_mod_cast (Nat.div_add_mod' dividend divisor).symm
  rw [parts]
  exact represents_of_cutsOff (cutsOff_fraction (Nat.mod_lt _ positive))

theorem Represents.shiftRightOne (represents : Represents extended number) :
    Represents extended.shiftRightOne (number / 2) := by
  obtain ⟨rest, same, least, most, none⟩ := represents
  have halves : (extended.mantissa : ℚ) / 2 =
      ((extended.mantissa / 2 : Nat) : ℚ) + ((extended.mantissa % 2 : Nat) : ℚ) / 2 := by
    have parts := Nat.div_add_mod extended.mantissa 2
    have parts : (2 * ((extended.mantissa / 2 : Nat) : ℚ)) + ((extended.mantissa % 2 : Nat) : ℚ) =
        extended.mantissa := by exact_mod_cast parts
    linarith
  have bit : ((extended.mantissa % 2 : Nat) : ℚ) / 2 =
      if extended.shiftRightOne.roundBit then 1 / 2 else 0 := by
    rcases Nat.mod_two_eq_zero_or_one extended.mantissa with even | odd
    · simp [ExtendedMantissa.shiftRightOne, even]
    · simp [ExtendedMantissa.shiftRightOne, odd]
  refine ⟨(if extended.roundBit then 1 / 2 else 0) / 2 + rest / 2, ?_, ?_, ?_, ?_⟩
  · rw [← bit, same]
    change _ = ((extended.mantissa / 2 : Nat) : ℚ) + _ + _
    linarith
  · split <;> linarith
  · split <;> linarith
  · cases round : extended.roundBit with
    | false => simp [ExtendedMantissa.shiftRightOne, round, none]
    | true =>
        have some : ¬(1 / 2 / 2 + rest / 2 = 0) := by linarith
        simpa [ExtendedMantissa.shiftRightOne, round] using some

theorem Represents.shiftRight (represents : Represents extended number) (places : Nat) :
    Represents (extended >>> places) (number / 2 ^ places) := by
  change Represents (places.repeat ExtendedMantissa.shiftRightOne extended) _
  induction places with
  | zero => simpa [Nat.repeat] using represents
  | succ places ih =>
      rw [Nat.repeat, pow_succ, ← div_div]
      exact ih.shiftRightOne

/-- Rounding takes a number to the natural nearest to it. -/
theorem Represents.roundedMantissa (represents : Represents extended number)
    (rounds : RoundsTo number whole) : extended.roundedMantissa = whole := by
  obtain ⟨rest, same, least, most, none⟩ := represents
  obtain ⟨mantissa, roundBit, stickyBit⟩ := extended
  obtain ⟨near, far, even⟩ := rounds
  change number = mantissa + (if roundBit then 1 / 2 else 0) + rest at same
  change rest = 0 ↔ stickyBit = false at none
  have upper : (whole : ℚ) ≤ number + 1 / 2 := by linarith
  have lower : number - 1 / 2 ≤ whole := by linarith
  -- The half bit says on which side of the middle the number is, and the sticky bit tells the
  -- middle itself, which alone needs the parity.
  cases roundBit with
  | false =>
      have same : number = mantissa + rest := by simpa using same
      have below : (whole : ℚ) < mantissa + 1 := by linarith
      have above : (mantissa : ℚ) < whole + 1 := by linarith
      have equal : mantissa = whole := by
        have below : whole < mantissa + 1 := by exact_mod_cast below
        have above : mantissa < whole + 1 := by exact_mod_cast above
        omega
      cases stickyBit <;> exact equal
  | true =>
      have same : number = mantissa + 1 / 2 + rest := by simpa using same
      have below : whole < mantissa + 2 := by
        have less : (whole : ℚ) < mantissa + 2 := by linarith
        exact_mod_cast less
      cases stickyBit with
      | false =>
          have middle : number = mantissa + 1 / 2 := by rw [same, none.mpr rfl, add_zero]
          have above : mantissa ≤ whole := by
            have less : (mantissa : ℚ) ≤ whole := by linarith
            exact_mod_cast less
          change mantissa + mantissa % 2 = whole
          rcases Nat.eq_or_lt_of_le above with rfl | more
          · have isEven := even (.inr middle)
            omega
          · obtain rfl : whole = mantissa + 1 := by omega
            have isEven := even (.inl (by rw [middle]; push_cast; ring))
            omega
      | true =>
          have more : 0 < rest := lt_of_le_of_ne least fun zero => by simpa using none.mp zero.symm
          have above : mantissa < whole := by
            have less : (mantissa : ℚ) < whole := by linarith
            exact_mod_cast less
          change mantissa + 1 = whole
          omega

/-! ## Magnitudes and the numbers that are rounded to them -/

def Magnitude.value (magnitude : Magnitude) : ℚ :=
  magnitude.mantissa * 2 ^ magnitude.exponent

/-- The numbers that are rounded to a magnitude. The ends are among them if the mantissa is even. -/
structure Magnitude.Covers (magnitude : Magnitude) (number : ℚ) : Prop where
  least : magnitude.mantissa - (if magnitude.narrowBelow then 1 / 4 else 1 / 2) ≤
    number / 2 ^ magnitude.exponent
  most : number / 2 ^ magnitude.exponent ≤ magnitude.mantissa + 1 / 2
  even : number / 2 ^ magnitude.exponent =
        magnitude.mantissa - (if magnitude.narrowBelow then 1 / 4 else 1 / 2) ∨
      number / 2 ^ magnitude.exponent = magnitude.mantissa + 1 / 2 →
    magnitude.mantissa % 2 = 0

theorem targetExponent_eq (mantissa : Nat) (exponent : Int) :
    Format.binary64.targetExponent (totalExponent mantissa exponent) =
      max (mantissa.log2 + exponent - 52) (-1074) := by
  have digits : Format.binary64.mantissaBits = 53 := rfl
  have least : Format.binary64.minExponent = -1074 := rfl
  rw [Format.targetExponent, digits, least, totalExponent]
  omega

/-- A mantissa that fits is left as it is. -/
theorem shiftToTargetExponent_of_fits {exponent : Int} (fits : mantissa < 2 ^ 53)
    (least : -1074 ≤ exponent) :
    shiftToTargetExponent Format.binary64 mantissa exponent .exact =
      (⟨mantissa, false, false⟩, exponent) := by
  have digits : mantissa.log2 ≤ 52 := by
    by_cases zero : mantissa = 0
    · simp [zero]
    · exact Nat.le_of_lt_succ ((Nat.log2_lt zero).mpr fits)
  have stays : (Format.binary64.targetExponent (totalExponent mantissa exponent) - exponent).toNat =
      0 := by
    rw [targetExponent_eq]
    omega
  simp only [shiftToTargetExponent, shiftToExponent, stays]
  exact congrArg _ (Int.add_zero exponent)

/-- A mantissa that rounding has made one digit too long loses the zero at its end. -/
theorem shiftToTargetExponent_of_carry {exponent : Int} (least : -1074 ≤ exponent) :
    shiftToTargetExponent Format.binary64 (2 ^ 53) exponent .exact =
      (⟨2 ^ 52, false, false⟩, exponent + 1) := by
  have once : (Format.binary64.targetExponent (totalExponent (2 ^ 53) exponent) - exponent).toNat =
      1 := by
    rw [targetExponent_eq, Nat.log2_two_pow]
    omega
  simp only [shiftToTargetExponent, shiftToExponent, once]
  rfl

variable {magnitude : Magnitude}

theorem Magnitude.Covers.roundsTo (covers : magnitude.Covers number) :
    RoundsTo (number / 2 ^ magnitude.exponent) magnitude.mantissa := by
  have narrower : (if magnitude.narrowBelow then 1 / 4 else 1 / 2 : ℚ) ≤ 1 / 2 := by
    split <;> norm_num
  refine ⟨by linarith [covers.least], covers.most, ?_⟩
  rintro (low | high)
  · exact covers.even (.inl (by linarith [covers.least]))
  · exact covers.even (.inr high)

/-- A number just below a power of two is rounded on the finer grid. -/
theorem Magnitude.Covers.roundsTo_below (covers : magnitude.Covers number)
    (canonical : magnitude.Canonical) (narrow : magnitude.narrowBelow = true)
    (below : number / 2 ^ magnitude.exponent < 2 ^ 52) :
    RoundsTo (number / 2 ^ (magnitude.exponent - 1)) (2 ^ 53) := by
  have least := covers.least
  rw [(canonical.narrow.mp narrow).1, if_pos narrow] at least
  have double : number / 2 ^ (magnitude.exponent - 1) = number / 2 ^ magnitude.exponent * 2 := by
    rw [zpow_sub_one₀ (by norm_num), div_mul_eq_div_div, div_inv_eq_mul]
  rw [double]
  push_cast at least
  refine ⟨?_, ?_, fun _ => by norm_num⟩ <;> push_cast <;> linarith

theorem mantissa_ofMantissaAndAccuracy (mantissa : Nat) (accuracy : Accuracy) :
    (ExtendedMantissa.ofMantissaAndAccuracy mantissa accuracy).mantissa = mantissa := by
  cases accuracy with
  | exact => rfl
  | inexact half => cases half <;> rfl

theorem div_zpow_eq (number : ℚ) (exponent finer : Int) :
    number / 2 ^ exponent = number / 2 ^ finer / 2 ^ (exponent - finer) := by
  rw [div_div, ← zpow_add₀ (by norm_num), add_sub_cancel]

/-- The place of the last digit that is kept of a number. -/
theorem Represents.placed {exponent : Int} {accuracy : Accuracy}
    (represents : Represents (.ofMantissaAndAccuracy mantissa accuracy) (number / 2 ^ exponent))
    (enough : exponent ≤ -1074 ∨ 2 ^ 52 ≤ mantissa) :
    ∃ place, Format.binary64.targetExponent (totalExponent mantissa exponent) = place ∧
      exponent ≤ place ∧ -1074 ≤ place ∧ number / 2 ^ place < 2 ^ 53 ∧
        (place = -1074 ∨ 2 ^ 52 ≤ number / 2 ^ place) := by
  obtain ⟨least, most⟩ := represents.bounds
  rw [mantissa_ofMantissaAndAccuracy] at least most
  refine ⟨_, targetExponent_eq mantissa exponent, ?_, le_max_right _ _, ?_, ?_⟩
  · rcases enough with low | many
    · omega
    · have digits : 52 ≤ mantissa.log2 := (Nat.le_log2 (by omega)).mpr many
      omega
  · generalize isPlace : max ((mantissa.log2 : Int) + exponent - 52) (-1074) = place
    have below : (mantissa : ℚ) + 1 ≤ 2 ^ (mantissa.log2 + 1) := by
      exact_mod_cast Nat.lt_log2_self
    rw [div_zpow_eq number place exponent, div_lt_iff₀ (by positivity)]
    calc number / 2 ^ exponent < mantissa + 1 := most
      _ ≤ 2 ^ (mantissa.log2 + 1) := below
      _ = 2 ^ ((mantissa.log2 + 1 : Nat) : Int) := (zpow_natCast 2 _).symm
      _ ≤ 2 ^ (53 + (place - exponent)) := zpow_le_zpow_right₀ (by norm_num) (by omega)
      _ = 2 ^ 53 * 2 ^ (place - exponent) := by rw [zpow_add₀ (by norm_num)]; rfl
  · generalize isPlace : max ((mantissa.log2 : Int) + exponent - 52) (-1074) = place
    rcases Int.lt_or_le place (-1073) with low | high
    · exact .inl (by omega)
    · right
      have some : mantissa ≠ 0 := by
        rintro rfl
        rw [Nat.log2_zero] at isPlace
        omega
      have above : (2 : ℚ) ^ mantissa.log2 ≤ mantissa := by
        exact_mod_cast Nat.log2_self_le some
      rw [div_zpow_eq number place exponent, le_div_iff₀ (by positivity)]
      calc (2 : ℚ) ^ 52 * 2 ^ (place - exponent) = 2 ^ (52 + (place - exponent)) := by
            rw [zpow_add₀ (by norm_num)]
            rfl
        _ = 2 ^ (mantissa.log2 : Int) := by
            congr 1
            omega
        _ = 2 ^ mantissa.log2 := zpow_natCast 2 _
        _ ≤ mantissa := above
        _ ≤ number / 2 ^ exponent := least

theorem Magnitude.Covers.lt_of_coarse {place : Int} (covers : magnitude.Covers number)
    (canonical : magnitude.Canonical) (coarse : magnitude.exponent < place) :
    number / 2 ^ place < 2 ^ 52 := by
  have fits : (magnitude.mantissa : ℚ) + 1 ≤ 2 ^ 53 := by exact_mod_cast canonical.fits
  have double : (2 : ℚ) ^ (1 : Int) ≤ 2 ^ (place - magnitude.exponent) :=
    zpow_le_zpow_right₀ (by norm_num) (by omega)
  rw [div_zpow_eq number place magnitude.exponent, div_lt_iff₀ (by positivity)]
  rw [zpow_one] at double
  linarith [covers.most]

/-- Only a number just below a power of two is rounded on a finer grid than the one of its
magnitude. -/
theorem Magnitude.Covers.carries {place : Int} (covers : magnitude.Covers number)
    (canonical : magnitude.Canonical) (least : -1074 ≤ place) (finer : place < magnitude.exponent)
    (below : number / 2 ^ place < 2 ^ 53) :
    magnitude.narrowBelow = true ∧ number / 2 ^ magnitude.exponent < 2 ^ 52 ∧
      place = magnitude.exponent - 1 := by
  have coarsen := div_zpow_eq number magnitude.exponent place
  have normal : (2 : ℚ) ^ 52 ≤ magnitude.mantissa := by
    exact_mod_cast canonical.normal.resolve_right (by omega)
  have under : number / 2 ^ magnitude.exponent < 2 ^ 52 := by
    have double : (2 : ℚ) ^ (1 : Int) ≤ 2 ^ (magnitude.exponent - place) :=
      zpow_le_zpow_right₀ (by norm_num) (by omega)
    rw [coarsen, div_lt_iff₀ (by positivity)]
    rw [zpow_one] at double
    linarith
  have rounds := covers.roundsTo.least
  have whole : magnitude.mantissa = 2 ^ 52 := by
    have small : (magnitude.mantissa : ℚ) < 2 ^ 52 + 1 := by linarith
    have small : magnitude.mantissa < 2 ^ 52 + 1 := by exact_mod_cast small
    have large : 2 ^ 52 ≤ magnitude.mantissa := by exact_mod_cast normal
    omega
  refine ⟨canonical.narrow.mpr ⟨whole, by omega⟩, under, ?_⟩
  by_contra further
  have four : (2 : ℚ) ^ (2 : Int) ≤ 2 ^ (magnitude.exponent - place) :=
    zpow_le_zpow_right₀ (by norm_num) (by omega)
  have reached : number / 2 ^ magnitude.exponent < 2 ^ 51 := by
    rw [coarsen, div_lt_iff₀ (by positivity)]
    norm_num at four
    linarith
  linarith

/-- A number that a magnitude covers is rounded to it, from any approximation with enough digits. -/
theorem Magnitude.Covers.roundWithAccuracy {exponent : Int} {accuracy : Accuracy}
    (covers : magnitude.Covers number) (canonical : magnitude.Canonical)
    (represents : Represents (.ofMantissaAndAccuracy mantissa accuracy) (number / 2 ^ exponent))
    (enough : exponent ≤ -1074 ∨ 2 ^ 52 ≤ mantissa) :
    roundWithAccuracy Format.binary64 .positive mantissa exponent accuracy =
      .finite .positive magnitude.mantissa magnitude.exponent canonical.positive := by
  obtain ⟨place, isPlace, coarser, least, below, above⟩ := represents.placed enough
  have shifted : shiftToTargetExponent Format.binary64 mantissa exponent accuracy =
      (ExtendedMantissa.ofMantissaAndAccuracy mantissa accuracy >>> (place - exponent).toNat,
        place) := by
    simp only [shiftToTargetExponent, isPlace, shiftToExponent]
    exact congrArg _ (by omega)
  have kept := represents.shiftRight (place - exponent).toNat
  rw [← zpow_natCast, Int.toNat_of_nonneg (by omega), ← div_zpow_eq] at kept
  unfold UnpackedFloat.roundWithAccuracy
  rw [shifted]
  dsimp only
  -- The grid of the number is that of the magnitude, unless rounding carries into the next power
  -- of two: then it is one place finer, and the carry makes up for it.
  rcases Int.lt_trichotomy place magnitude.exponent with finer | same | coarse
  · obtain ⟨narrow, under, rfl⟩ := covers.carries canonical least finer below
    rw [kept.roundedMantissa (covers.roundsTo_below canonical narrow under),
      shiftToTargetExponent_of_carry least]
    have whole := (canonical.narrow.mp narrow).1
    simp [whole]
  · subst same
    rw [kept.roundedMantissa covers.roundsTo, shiftToTargetExponent_of_fits canonical.fits least]
    exact dif_neg canonical.positive.ne'
  · exact absurd (above.resolve_left (by have := canonical.least; omega))
      (not_le.mpr (covers.lt_of_coarse canonical coarse))

/-! ## Products and quotients -/

section

variable {left right : Nat} {leftExponent rightExponent : Int}

theorem Magnitude.Covers.mul (canonical : magnitude.Canonical)
    (covers : magnitude.Covers (left * 2 ^ leftExponent * (right * 2 ^ rightExponent)))
    (enough : 2 ^ 52 ≤ left * right) (leftPositive : 0 < left) (rightPositive : 0 < right) :
    UnpackedFloat.mul Format.binary64 (.finite .positive left leftExponent leftPositive)
        (.finite .positive right rightExponent rightPositive) =
      .finite .positive magnitude.mantissa magnitude.exponent canonical.positive := by
  refine covers.roundWithAccuracy canonical ?_ (.inr enough)
  have scaled : (left * 2 ^ leftExponent * (right * 2 ^ rightExponent) : ℚ) /
      2 ^ (leftExponent + rightExponent) = ((left * right : Nat) : ℚ) := by
    rw [zpow_add₀ (by norm_num)]
    field_simp
    push_cast
    ring
  rw [scaled]
  exact represents_exact _

theorem Magnitude.Covers.div (canonical : magnitude.Canonical)
    (covers : magnitude.Covers (left * 2 ^ leftExponent / (right * 2 ^ rightExponent)))
    (leftPositive : 0 < left) (rightPositive : 0 < right) :
    UnpackedFloat.div Format.binary64 (.finite .positive left leftExponent leftPositive)
        (.finite .positive right rightExponent rightPositive) =
      .finite .positive magnitude.mantissa magnitude.exponent canonical.positive := by
  unfold UnpackedFloat.div divCore
  dsimp only
  generalize isPlace : min (leftExponent - rightExponent) (Format.binary64.targetExponent
    (totalExponent left leftExponent - totalExponent right rightExponent)) = place
  refine covers.roundWithAccuracy canonical ?_ ?_
  · have above : (0 : ℚ) < right := by exact_mod_cast rightPositive
    have scaled : (left * 2 ^ leftExponent / (right * 2 ^ rightExponent) : ℚ) / 2 ^ place =
        ((left <<< (leftExponent - rightExponent - place).toNat : Nat) : ℚ) / right := by
      rw [Nat.shiftLeft_eq]
      push_cast
      rw [← zpow_natCast, Int.toNat_of_nonneg (by omega), zpow_sub₀ (by norm_num),
        zpow_sub₀ (by norm_num)]
      field_simp
    rw [scaled]
    exact represents_fraction _ rightPositive
  · rcases Int.lt_or_le (-1074) place with normal | low
    · right
      have digits : Format.binary64.mantissaBits = 53 := rfl
      have bottom : Format.binary64.minExponent = -1074 := rfl
      simp only [Format.targetExponent, totalExponent, digits, bottom] at isPlace
      have least := Nat.log2_self_le leftPositive.ne'
      have most : right < 2 ^ (right.log2 + 1) := Nat.lt_log2_self
      rw [Nat.le_div_iff_mul_le rightPositive, Nat.shiftLeft_eq]
      generalize isShift : (leftExponent - rightExponent - place).toNat = shift
      calc 2 ^ 52 * right ≤ 2 ^ 52 * 2 ^ (right.log2 + 1) := Nat.mul_le_mul_left _ most.le
        _ = 2 ^ (53 + right.log2) := by rw [← Nat.pow_add]; congr 1; omega
        _ ≤ 2 ^ (left.log2 + shift) := Nat.pow_le_pow_right (by decide) (by omega)
        _ = 2 ^ left.log2 * 2 ^ shift := Nat.pow_add _ _ _
        _ ≤ left * 2 ^ shift := Nat.mul_le_mul_right _ least
    · exact .inl low

end

/-! ## Decimals -/

/-- What a magnitude covers is in the range of the floats. -/
theorem Magnitude.Covers.inRange (covers : magnitude.Covers number)
    (canonical : magnitude.Canonical) : 2 ^ (-1075 : Int) ≤ number ∧ number < 2 ^ (1024 : Int) := by
  have rounds := covers.roundsTo
  have some : (1 : ℚ) ≤ magnitude.mantissa := by exact_mod_cast canonical.positive
  have fits : (magnitude.mantissa : ℚ) + 1 ≤ 2 ^ 53 := by exact_mod_cast canonical.fits
  have unit : (0 : ℚ) < 2 ^ magnitude.exponent := by positivity
  have half := (le_div_iff₀ unit).mp rounds.least
  have whole := (div_le_iff₀ unit).mp rounds.most
  constructor
  · calc (2 : ℚ) ^ (-1075 : Int) = 2 ^ (-1 : Int) * 2 ^ (-1074 : Int) :=
          zpow_add₀ (by norm_num) (-1) (-1074)
      _ = 1 / 2 * 2 ^ (-1074 : Int) := by rw [zpow_neg_one, one_div]
      _ ≤ 1 / 2 * 2 ^ magnitude.exponent := by
          gcongr
          · norm_num
          · exact canonical.least
      _ ≤ (magnitude.mantissa - 1 / 2) * 2 ^ magnitude.exponent := by
          gcongr
          linarith
      _ ≤ number := half
  · calc number ≤ (magnitude.mantissa + 1 / 2) * 2 ^ magnitude.exponent := whole
      _ < 2 ^ 53 * 2 ^ magnitude.exponent := by
          gcongr
          linarith
      _ ≤ 2 ^ 53 * 2 ^ (971 : Int) := by
          gcongr
          · norm_num
          · exact canonical.most
      _ = 2 ^ (1024 : Int) := by rw [← zpow_natCast, ← zpow_add₀ (by norm_num)]; rfl

theorem two_zpow_three_mul (exponent : Int) : (2 : ℚ) ^ (3 * exponent) = 8 ^ exponent := by
  rw [zpow_mul]
  norm_num

theorem two_zpow_le_ten_zpow {exponent : Int} (upward : 0 ≤ exponent) :
    (2 : ℚ) ^ (3 * exponent) ≤ 10 ^ exponent := by
  rw [two_zpow_three_mul]
  exact zpow_le_zpow_left₀ upward (by norm_num) (by norm_num)

theorem ten_zpow_le_two_zpow {exponent : Int} (downward : exponent ≤ 0) :
    (10 : ℚ) ^ exponent ≤ 2 ^ (3 * exponent) := by
  have upward := two_zpow_le_ten_zpow (Int.neg_nonneg_of_nonpos downward)
  rw [Int.mul_neg, zpow_neg, zpow_neg] at upward
  exact (inv_le_inv₀ (by positivity) (by positivity)).mp upward

/-- The decimals that a magnitude covers have exponents within reach. -/
theorem Magnitude.Covers.exponent_bounds {digits : Nat} {exponent : Int}
    (covers : magnitude.Covers (digits * 10 ^ exponent)) (canonical : magnitude.Canonical)
    (some : 0 < digits) : -((digits.log2 : Int) + 400) ≤ exponent ∧ exponent ≤ 400 := by
  obtain ⟨least, most⟩ := covers.inRange canonical
  constructor
  · by_contra small
    have below : (digits : ℚ) ≤ 2 ^ ((digits.log2 + 1 : Nat) : Int) := by
      rw [zpow_natCast]
      exact_mod_cast Nat.lt_log2_self.le
    refine absurd least (not_le.mpr ?_)
    calc (digits : ℚ) * 10 ^ exponent ≤ 2 ^ ((digits.log2 + 1 : Nat) : Int) * 2 ^ (3 * exponent) :=
          mul_le_mul below (ten_zpow_le_two_zpow (by omega)) (by positivity) (by positivity)
      _ = 2 ^ (((digits.log2 + 1 : Nat) : Int) + 3 * exponent) := (zpow_add₀ (by norm_num) _ _).symm
      _ < 2 ^ (-1075 : Int) := zpow_lt_zpow_right₀ (by norm_num) (by omega)
  · by_contra large
    have above : (1 : ℚ) ≤ digits := by exact_mod_cast some
    refine absurd most (not_lt.mpr ?_)
    calc (2 : ℚ) ^ (1024 : Int) ≤ 2 ^ (3 * exponent) :=
          zpow_le_zpow_right₀ (by norm_num) (by omega)
      _ ≤ 10 ^ exponent := two_zpow_le_ten_zpow (by omega)
      _ ≤ digits * 10 ^ exponent := le_mul_of_one_le_left (by positivity) above

theorem Magnitude.Covers.ofScientific {digits : Nat} {exponent : Int}
    (covers : magnitude.Covers (digits * 10 ^ exponent)) (canonical : magnitude.Canonical)
    (some : 0 < digits) :
    UnpackedFloat.ofScientific Format.binary64 digits exponent =
      .finite .positive magnitude.mantissa magnitude.exponent canonical.positive := by
  obtain ⟨least, most⟩ := covers.exponent_bounds canonical some
  have notHuge : ¬(exponent > 2 ^ Format.binary64.exponentBits) := by
    change ¬(exponent > 2 ^ 11)
    omega
  have notTiny : ¬(exponent < -((2 ^ Format.binary64.exponentBits : Int) + digits.log2)) := by
    change ¬(exponent < -(2 ^ 11 + (digits.log2 : Int)))
    omega
  unfold UnpackedFloat.ofScientific
  rw [dif_neg some.ne', if_neg notHuge, if_neg notTiny]
  split
  · next upward =>
      have scaled : (digits * 10 ^ exponent : ℚ) =
          ((digits <<< 53 : Nat) : ℚ) * 2 ^ (-53 : Int) *
            (((10 ^ exponent.toNat : Nat) : ℚ) * 2 ^ (0 : Int)) := by
        rw [Nat.shiftLeft_eq]
        push_cast
        rw [← zpow_natCast 10, Int.toNat_of_nonneg upward]
        ring
      have enough : 2 ^ 52 ≤ digits <<< 53 * 10 ^ exponent.toNat := by
        rw [Nat.shiftLeft_eq]
        have power : 1 ≤ 10 ^ exponent.toNat := Nat.one_le_pow _ _ (by decide)
        calc 2 ^ 52 ≤ 1 * 2 ^ 53 * 1 := by decide
          _ ≤ digits * 2 ^ 53 * 10 ^ exponent.toNat :=
            Nat.mul_le_mul (Nat.mul_le_mul_right _ some) power
      rw [scaled] at covers
      exact covers.mul canonical enough _ _
  · next downward =>
      have scaled : (digits * 10 ^ exponent : ℚ) =
          (digits : ℚ) * 2 ^ (0 : Int) /
            (((10 ^ (-exponent).toNat : Nat) : ℚ) * 2 ^ (0 : Int)) := by
        push_cast
        rw [← zpow_natCast 10, Int.toNat_of_nonneg (by omega), zpow_neg, mul_one, mul_one,
          div_inv_eq_mul]
      rw [scaled] at covers
      exact covers.div canonical _ _

/-! ## Floats -/

/-- A magnitude covers itself. -/
theorem Magnitude.covers_value (magnitude : Magnitude) : magnitude.Covers magnitude.value := by
  have unit : (2 : ℚ) ^ magnitude.exponent ≠ 0 := by positivity
  have whole : magnitude.value / 2 ^ magnitude.exponent = magnitude.mantissa :=
    mul_div_cancel_right₀ _ unit
  have gap : (0 : ℚ) < if magnitude.narrowBelow then 1 / 4 else 1 / 2 := by split <;> norm_num
  refine ⟨?_, ?_, ?_⟩
  · rw [whole]
    linarith
  · rw [whole]
    linarith
  · rw [whole]
    rintro (low | high) <;> exfalso <;> linarith

/-- The magnitude of a natural, with as many zeros behind its digits as there is place for. -/
def Magnitude.ofNat (number : Nat) : Magnitude :=
  ⟨number * 2 ^ (52 - number.log2), -((52 - number.log2 : Nat) : Int),
    number * 2 ^ (52 - number.log2) == 2 ^ 52⟩

theorem Magnitude.value_ofNat (number : Nat) : (ofNat number).value = number := by
  rw [value, ofNat, zpow_neg, zpow_natCast]
  push_cast
  rw [mul_inv_cancel_right₀ (by positivity)]

section

variable {number : Nat} (some : 0 < number) (fits : number < 2 ^ 53)

include some fits

theorem Magnitude.mantissa_ofNat :
    2 ^ 52 ≤ (ofNat number).mantissa ∧ (ofNat number).mantissa < 2 ^ 53 := by
  have digits : number.log2 < 53 := (Nat.log2_lt some.ne').mpr fits
  constructor
  · calc 2 ^ 52 = 2 ^ number.log2 * 2 ^ (52 - number.log2) := by
          rw [← Nat.pow_add]
          congr 1
          omega
      _ ≤ number * 2 ^ (52 - number.log2) := Nat.mul_le_mul_right _ (Nat.log2_self_le some.ne')
  · calc number * 2 ^ (52 - number.log2) < 2 ^ (number.log2 + 1) * 2 ^ (52 - number.log2) :=
          Nat.mul_lt_mul_of_pos_right Nat.lt_log2_self (Nat.two_pow_pos _)
      _ = 2 ^ 53 := by
          rw [← Nat.pow_add]
          congr 1
          omega

theorem Magnitude.canonical_ofNat : (ofNat number).Canonical := by
  obtain ⟨large, small⟩ := mantissa_ofNat some fits
  refine ⟨Nat.lt_of_lt_of_le (by decide) large, small, ?_, ?_, .inl large, ?_⟩
  · change -1074 ≤ -((52 - number.log2 : Nat) : Int)
    omega
  · change -((52 - number.log2 : Nat) : Int) ≤ 971
    omega
  · change (number * 2 ^ (52 - number.log2) == 2 ^ 52) = true ↔
      _ ∧ -1074 < -((52 - number.log2 : Nat) : Int)
    rw [beq_iff_eq]
    exact ⟨fun same => ⟨same, by omega⟩, And.left⟩

theorem normalize_ofNat : UnpackedFloat.normalize Format.binary64 number 0 .positive =
    .finite .positive (Magnitude.ofNat number).mantissa (Magnitude.ofNat number).exponent
      (Magnitude.canonical_ofNat some fits).positive := by
  have digits : number.log2 < 53 := (Nat.log2_lt some.ne').mpr fits
  have positive : compare (number : Int) 0 = .gt := Int.compare_eq_gt.mpr (by omega)
  have place : Format.binary64.targetExponent (totalExponent number 0) =
      -((52 - number.log2 : Nat) : Int) := by
    rw [targetExponent_eq]
    omega
  have shift : (0 - -((52 - number.log2 : Nat) : Int)).toNat = 52 - number.log2 := by omega
  unfold UnpackedFloat.normalize
  rw [positive]
  dsimp only
  rw [Int.toNat_natCast, UnpackedFloat.round, place, decreaseExponent, shift, Nat.shiftLeft_eq,
    Int.zero_sub]
  refine (Magnitude.ofNat number).covers_value.roundWithAccuracy (Magnitude.canonical_ofNat some fits)
    ?_ (.inr (Magnitude.mantissa_ofNat some fits).1)
  have whole : (Magnitude.ofNat number).value / 2 ^ (-((52 - number.log2 : Nat) : Int)) =
      ((number * 2 ^ (52 - number.log2) : Nat) : ℚ) := mul_div_cancel_right₀ _ (by positivity)
  rw [whole]
  exact represents_exact _

/-- A natural of at most 53 digits is a float. -/
theorem unpack_toFloat : number.toUInt64.toFloat.toModel.unpack =
    .finite .positive (Magnitude.ofNat number).mantissa (Magnitude.ofNat number).exponent
      (Magnitude.canonical_ofNat some fits).positive := by
  have word : number.toUInt64.toNat = number :=
    UInt64.toNat_ofNat_of_lt (Nat.lt_trans fits (by decide))
  rw [← (Magnitude.canonical_ofNat some fits).unpack_pack, ← normalize_ofNat some fits]
  change (Float.Model.pack (UnpackedFloat.normalize Format.binary64
    (number.toUInt64.toNat : Int) 0 .positive)).unpack = _
  rw [word]

end

/-- A power with an integer exponent as a quotient of two with natural exponents. -/
theorem zpow_eq_div {base : ℚ} (some : base ≠ 0) (exponent : Int) :
    base ^ exponent = base ^ exponent.toNat / base ^ (-exponent).toNat := by
  rw [← zpow_natCast, ← zpow_natCast, ← zpow_sub₀ some, Int.toNat_sub_toNat_neg]

/-- The float of a decimal is the magnitude that covers it. -/
theorem Magnitude.Covers.ofScientific_float {digits places : Nat} {negative : Bool}
    (covers : magnitude.Covers (digits * 10 ^ (if negative then -places else places : Int)))
    (canonical : magnitude.Canonical) (some : 0 < digits) :
    Float.ofScientific digits negative places = .ofModel (.pack (.finite .positive
      magnitude.mantissa magnitude.exponent canonical.positive)) := by
  rcases cases_ofScientific digits negative places with
    ⟨small, power, exponent, positive, large, isPower, same⟩ | same
  · have powerValue : (power : ℚ) * 2 ^ exponent = 10 ^ places := by
      have whole : (power : ℚ) * 2 ^ exponent.toNat = 10 ^ places * 2 ^ (-exponent).toNat := by
        exact_mod_cast isPower
      rw [zpow_eq_div (by norm_num), mul_div_assoc', whole, mul_div_cancel_right₀ _ (by positivity)]
    rw [same, unpack_toFloat some small]
    refine congrArg _ (congrArg _ ?_)
    rw [← Magnitude.value_ofNat digits] at covers
    have digitsPositive := (Magnitude.canonical_ofNat some small).positive
    cases negative with
    | true =>
        rw [if_pos rfl, zpow_neg, zpow_natCast, ← powerValue, ← div_eq_mul_inv] at covers
        exact covers.div canonical digitsPositive positive
    | false =>
        rw [if_neg Bool.false_ne_true, zpow_natCast, ← powerValue] at covers
        have enough : 2 ^ 52 ≤ (Magnitude.ofNat digits).mantissa * power :=
          Nat.le_trans (Magnitude.mantissa_ofNat some small).1 (Nat.le_mul_of_pos_right _ positive)
        exact covers.mul canonical enough digitsPositive positive
  · rw [same, covers.ofScientific canonical some]

def Written.value (written : Written) : ℚ :=
  written.digits * 10 ^ written.exponent

/-- A numeral is read as the float of the magnitude that covers it. -/
theorem Magnitude.Covers.toFloat {written : Written} (covers : magnitude.Covers written.value)
    (canonical : magnitude.Canonical) (some : 0 < written.digits) :
    written.toFloat = .ofModel (.pack (.finite .positive magnitude.mantissa magnitude.exponent
      canonical.positive)) := by
  obtain ⟨least, most⟩ := covers.exponent_bounds canonical some
  have within : max (-exponentReach written.digits)
      (min (exponentReach written.digits) written.exponent) = written.exponent := by
    rw [exponentReach]
    omega
  unfold Written.toFloat
  dsimp only
  rw [within]
  split
  · next upward =>
      refine ofScientific_float ?_ canonical some
      rw [if_neg Bool.false_ne_true, Int.toNat_of_nonneg upward]
      exact covers
  · next downward =>
      refine ofScientific_float ?_ canonical some
      rw [if_pos rfl, Int.toNat_of_nonneg (by omega), neg_neg]
      exact covers

end CrossQuery.Decimal
