import CrossQuery.Proofs.Decimal.Rounding

/-!
# Shortest decimals

The shortest decimal of a magnitude is rounded to that magnitude, so what is written of a float keeps
its value: comparing a decimal with the ends of the interval around a magnitude is comparing numbers,
and a decimal on no grid of 17 digits is the magnitude itself.
-/

set_option autoImplicit false

namespace CrossQuery.Decimal

def Scaled.value (decimal : Scaled) : ℚ :=
  decimal.digits * 10 ^ decimal.exponent

variable {magnitude : Magnitude}

/-! ## Comparing decimals with magnitudes -/

section

variable {digits count : Nat} {exponent place : Int}

theorem compareScaled_lt_iff : compareScaled digits exponent count place = .lt ↔
    (digits * 10 ^ exponent : ℚ) < count * 2 ^ place := by
  rw [zpow_eq_div (by norm_num), zpow_eq_div (by norm_num), mul_div_assoc', mul_div_assoc',
    div_lt_div_iff₀ (by positivity) (by positivity), compareScaled, Nat.compare_eq_lt]
  exact_mod_cast Iff.rfl

theorem compareScaled_eq_iff : compareScaled digits exponent count place = .eq ↔
    (digits * 10 ^ exponent : ℚ) = count * 2 ^ place := by
  rw [zpow_eq_div (by norm_num), zpow_eq_div (by norm_num), mul_div_assoc', mul_div_assoc',
    div_eq_div_iff (by positivity) (by positivity), compareScaled, Nat.compare_eq_eq]
  exact_mod_cast Iff.rfl

theorem compareScaled_gt_iff : compareScaled digits exponent count place = .gt ↔
    (count * 2 ^ place : ℚ) < digits * 10 ^ exponent := by
  rw [zpow_eq_div (by norm_num), zpow_eq_div (by norm_num), mul_div_assoc', mul_div_assoc',
    div_lt_div_iff₀ (by positivity) (by positivity), compareScaled, Nat.compare_eq_gt]
  exact_mod_cast Iff.rfl

end

/-! ## Decimals that read back -/

/-- A decimal that reads back is covered. -/
theorem Magnitude.covers_of_readsBack {decimal : Scaled} (positive : 0 < magnitude.mantissa)
    (reads : magnitude.readsBack decimal = true) : magnitude.Covers decimal.value := by
  have unit : (0 : ℚ) < 2 ^ magnitude.exponent := by positivity
  have quarter : (2 : ℚ) ^ (magnitude.exponent - 2) = 2 ^ magnitude.exponent / 4 := by
    rw [zpow_sub₀ (by norm_num)]
    norm_num
  have below : (((if magnitude.narrowBelow then 4 * magnitude.mantissa - 1
      else 4 * magnitude.mantissa - 2 : Nat) : ℚ)) * 2 ^ (magnitude.exponent - 2) =
      (magnitude.mantissa - if magnitude.narrowBelow then 1 / 4 else 1 / 2) *
        2 ^ magnitude.exponent := by
    rw [quarter]
    split <;> rw [Nat.cast_sub (by omega)] <;> push_cast <;> ring
  have above : ((4 * magnitude.mantissa + 2 : Nat) : ℚ) * 2 ^ (magnitude.exponent - 2) =
      (magnitude.mantissa + 1 / 2) * 2 ^ magnitude.exponent := by
    rw [quarter]
    push_cast
    ring
  simp only [readsBack, Bool.and_eq_true, Bool.or_eq_true, beq_iff_eq, compareScaled_gt_iff,
    compareScaled_eq_iff, compareScaled_lt_iff, below, above] at reads
  obtain ⟨atLeast, atMost⟩ := reads
  rw [← lt_div_iff₀ unit, ← div_eq_iff unit.ne'] at atLeast
  rw [← div_lt_iff₀ unit, ← div_eq_iff unit.ne'] at atMost
  change _ < decimal.value / _ ∨ _ ∧ decimal.value / _ = _ at atLeast
  change decimal.value / _ < _ ∨ _ ∧ decimal.value / _ = _ at atMost
  refine ⟨?_, ?_, ?_⟩
  · exact atLeast.elim le_of_lt fun closed => closed.2.ge
  · exact atMost.elim le_of_lt fun closed => closed.2.le
  · rintro (low | high)
    · exact (atLeast.resolve_left (not_lt.mpr low.le)).1
    · exact (atMost.resolve_left (not_lt.mpr high.ge)).1

theorem Magnitude.readsBack_of_onGrid? {tie : Tie} {power : Int} {decimal : Scaled}
    (found : magnitude.onGrid? tie power = some decimal) : magnitude.readsBack decimal = true := by
  unfold onGrid? at found
  dsimp only at found
  split at found
  · cases found
  · next lower _ =>
      cases found
      exact lower
  · next _ upper =>
      cases found
      exact upper
  · next lower upper =>
      split at found
      · cases found
        exact lower
      · cases found
        exact upper
      · split at found
        · cases found
          exact upper
        · cases found
          split
          · exact lower
          · exact upper

/-- The expansion of a magnitude is exact. -/
theorem Magnitude.value_expansion (magnitude : Magnitude) :
    magnitude.expansion.value = magnitude.value := by
  have tenth : (10 : ℚ) ^ min magnitude.exponent 0 =
      1 / (2 ^ (-magnitude.exponent).toNat * 5 ^ (-magnitude.exponent).toNat) := by
    rw [show min magnitude.exponent 0 = -((-magnitude.exponent).toNat : Int) by omega, zpow_neg,
      zpow_natCast, ← mul_pow, one_div]
    norm_num
  rw [Scaled.value, expansion, tenth, value, zpow_eq_div (by norm_num)]
  simp only [Nat.pow_eq]
  push_cast
  field_simp

theorem value_stripZeros (fuel : Nat) (decimal : Scaled) :
    (stripZeros fuel decimal).value = decimal.value := by
  induction fuel generalizing decimal with
  | zero => rfl
  | succ fuel ih =>
      rw [stripZeros]
      split
      · next whole =>
          have ten : ((decimal.digits / 10 : Nat) : ℚ) * 10 = decimal.digits := by
            exact_mod_cast Nat.div_mul_cancel (Nat.dvd_of_mod_eq_zero (eq_of_beq whole))
          rw [ih, Scaled.value, Scaled.value, zpow_add_one₀ (by norm_num), ← ten]
          ring
      · rfl

/-! ## The shortest decimal -/

/-- The shortest decimal of a magnitude is rounded to it. -/
theorem Magnitude.covers_shortest (tie : Tie) (positive : 0 < magnitude.mantissa) :
    magnitude.Covers (magnitude.shortest tie).value := by
  rw [shortest, if_neg positive.ne', value_stripZeros]
  cases found : (List.range' 1 17).findSome? fun (places : Nat) =>
      magnitude.onGrid? tie (magnitude.scale - Int.ofNat places) with
  | none =>
      rw [Option.getD_none, value_expansion]
      exact magnitude.covers_value
  | some decimal =>
      obtain ⟨_, _, isOn⟩ := List.exists_of_findSome?_eq_some found
      exact covers_of_readsBack positive (readsBack_of_onGrid? isOn)

/-- A numeral with the value of the shortest decimal of a float is read as the float. -/
theorem toFloat_of_shortest {value : Float} {written : Written} (tie : Tie)
    (isFinite : value.isFinite = true) (parts : Binary.ofFloat value = .finite false magnitude)
    (same : written.value = (magnitude.shortest tie).value) : written.toFloat = value := by
  obtain ⟨sign, _, isValue, cases⟩ := cases_ofFloat isFinite
  obtain ⟨unsigned, rfl⟩ := Binary.finite.inj (isValue.symm.trans parts)
  have positive : sign = .positive := by
    cases sign with
    | positive => rfl
    | negative => cases unsigned
  subst positive
  rcases cases with ⟨zero, rfl⟩ | ⟨canonical, rfl⟩
  · rw [Magnitude.shortest, if_pos zero, Scaled.value, Nat.cast_zero, zero_mul, Written.value,
      mul_eq_zero] at same
    have none := same.resolve_right (by positivity)
    exact written.toFloat_of_zero (by exact_mod_cast none)
  · have covers := same ▸ Magnitude.covers_shortest tie canonical.positive
    have above := (covers.inRange canonical).1
    refine covers.toFloat canonical (Nat.pos_of_ne_zero fun none => ?_)
    rw [Written.value, none, Nat.cast_zero, zero_mul] at above
    exact absurd above (not_le.mpr (by positivity))

end CrossQuery.Decimal
