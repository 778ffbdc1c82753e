import ProcureFoundation.Foundation.ExactDecimals

/-!
# Rounded differences

A remaining amount and a leakage are differences rounded to four decimals. The arithmetic raises
when the result has more than 28 digits, and between amounts of four decimals what it returns is
exact.
-/

namespace ProcureFoundation.Rebate

variable {minuend subtrahend : ℚ} {difference : Numeric 4} {amount start finish : Money}

def roundedDifference (minuend subtrahend : ℚ) : Except String (Numeric 4) :=
  ((Number.finite minuend).sub (.finite subtrahend)).bind fun difference => difference.quantize 4

theorem value_eq_mul_zpow (amount : Money) : amount.value = amount.units * (10 : ℚ) ^ (-4 : ℤ) := by
  rw [FixedPoint.value, zpow_neg, div_eq_mul_inv]
  rfl

theorem value_lt_iff : start.value < finish.value ↔ start.units < finish.units := by
  rw [FixedPoint.value, FixedPoint.value, div_lt_div_iff_of_pos_right (by positivity), Int.cast_lt]

theorem roundedDifference_eq_ok (h : roundedDifference minuend subtrahend = .ok difference) :
    ∃ amount : Money, difference = .number amount ∧
      amount = FixedPoint.quantize 4 (contextRound (minuend - subtrahend)) ∧
      |amount.units| < 10 ^ 28 := by
  rw [roundedDifference, Number.sub, Number.neg, Number.add,
    Number.ofContext, ← sub_eq_add_neg] at h
  split at h
  · rw [Except.bind, Number.quantize] at h
    split at h
    · rename_i hDigits
      exact ⟨_, (Except.ok.inj h).symm, rfl, hDigits⟩
    · cases h
  · cases h

theorem roundedDifference_of_digits (hDigits : (finish - start).Digits) :
    roundedDifference finish.value start.value = .ok (.number (finish - start)) := by
  have hSub := Number.sub_number hDigits
  rw [FixedPoint.number, FixedPoint.number] at hSub
  rw [roundedDifference, hSub]
  exact Number.quantize_number hDigits

/-- What is returned of two amounts of four decimals is their difference. -/
theorem roundedDifference_exact (h : roundedDifference finish.value start.value = .ok (.number amount)) :
    amount = finish - start := by
  obtain ⟨_, hAmount, rfl, hDigits⟩ := roundedDifference_eq_ok h
  have hScaled : |contextRound (finish.value - start.value) * 10 ^ 4| < ((10 ^ 28 : ℤ) : ℚ) := by
    rw [FixedPoint.quantize] at hDigits
    exact ((abs_roundHalfEven_lt_iff (by norm_num)).mp hDigits).trans (sub_lt_self _ (by norm_num))
  have hRounded : |contextRound (finish.value - start.value)| <
      ((10 ^ 28 : ℤ) : ℚ) * 10 ^ (-4 : ℤ) := by
    rw [abs_mul, abs_of_pos (by positivity : (0 : ℚ) < 10 ^ 4)] at hScaled
    rw [zpow_neg, ← div_eq_mul_inv, lt_div_iff₀ (by positivity)]
    exact hScaled
  have hExact := (abs_contextRound_lt_iff (by norm_num) (by norm_num) le_rfl).mp hRounded
  have hDifference : (finish - start).Digits := by
    rw [← FixedPoint.value_sub, value_eq_mul_zpow, abs_mul,
      abs_of_pos (by positivity : (0 : ℚ) < 10 ^ (-4 : ℤ)),
      mul_lt_mul_iff_left₀ (by positivity)] at hExact
    exact_mod_cast hExact.trans (sub_lt_self _ (by norm_num))
  rw [roundedDifference_of_digits hDifference] at h
  exact (Numeric.number.inj (Except.ok.inj h)).symm

theorem roundedDifference_of_small (h : |minuend - subtrahend| ≤ 10 ^ (15 : ℤ)) :
    roundedDifference minuend subtrahend =
    .ok (.number (FixedPoint.quantize 4 (contextRound (minuend - subtrahend)))) := by
  have hContext : |contextRound (minuend - subtrahend)| < 10 ^ (16 : ℤ) := abs_contextRound_lt h
  have hSub : (Number.finite minuend).sub (.finite subtrahend) =
      .ok (.finite (contextRound (minuend - subtrahend))) := by
    rw [Number.sub, Number.neg, Number.add, ← sub_eq_add_neg]
    exact Number.ofContext_of_abs_lt (hContext.trans (by norm_num))
  have hScaled : |contextRound (minuend - subtrahend) * 10 ^ 4| ≤ 10 ^ 27 := by
    have hFactor : (10 : ℚ) ^ (16 : ℤ) * 10 ^ 4 ≤ 10 ^ 27 := by norm_num
    rw [abs_mul, abs_of_pos (by positivity : (0 : ℚ) < 10 ^ 4)]
    exact (mul_le_mul_of_nonneg_right hContext.le (by positivity)).trans hFactor
  rw [roundedDifference, hSub]
  exact Number.quantize_finite hScaled

end ProcureFoundation.Rebate
