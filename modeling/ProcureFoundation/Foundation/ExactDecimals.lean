import ProcureFoundation.Foundation.DecimalArithmetic
import ProcureFoundation.Foundation.RoundingBounds

/-!
# Exact decimals

On fixed-point numbers the arithmetic context adds and subtracts exactly while the result has at
most 28 digits, and quantizing to their own scale returns them.
-/

namespace ProcureFoundation

variable {scale : ℕ} {x y : FixedPoint scale} {q : ℚ}

theorem abs_contextRound_lt {k : ℤ} (h : |q| ≤ 10 ^ k) : |contextRound q| < 10 ^ (k + 1) := by
  have hPower : ((10 ^ 28 : ℤ) : ℚ) * 10 ^ (k - 27) = 10 ^ (k + 1) := by
    rw [Int.cast_pow, Int.cast_ofNat, ← zpow_natCast, ← zpow_add₀ (by norm_num)]
    congr 1
    push_cast
    ring
  have hUnit : (0 : ℚ) < 10 ^ (k - 27) := zpow_pos (by norm_num) _
  have hBound : (10 : ℚ) ^ k = 10 ^ 27 * 10 ^ (k - 27) := by
    rw [← zpow_natCast, ← zpow_add₀ (by norm_num)]
    congr 1
    push_cast
    ring
  rw [← hPower]
  refine (abs_contextRound_lt_iff (by norm_num) (by norm_num) le_rfl).mpr (h.trans_lt ?_)
  rw [hBound]
  exact mul_lt_mul_of_pos_right (by norm_num) hUnit

/-- A rounded number has at most 28 digits. -/
theorem exists_digits (q : ℚ) : ∃ n k : ℤ, |n| < 10 ^ 28 ∧ contextRound q = n * 10 ^ k := by
  by_cases hq : q = 0
  · refine ⟨0, 0, by norm_num, ?_⟩
    rw [hq, contextRound, zero_div, ← Int.cast_zero, roundHalfEven_intCast, Int.cast_zero, zero_mul,
      zero_mul]
  · have hBound : |roundHalfEven (q / 10 ^ (Int.log 10 |q| - 27))| ≤ 10 ^ 28 :=
      abs_roundHalfEven_le (by exact_mod_cast (scaled_bounds hq).2.le)
    obtain hLess | hFull := hBound.lt_or_eq
    · exact ⟨_, _, hLess, rfl⟩
    · have hCarry : ∀ n : ℤ, |n| = 10 ^ 28 →
          ∃ m : ℤ, |m| < 10 ^ 28 ∧ (n : ℚ) * 10 ^ (Int.log 10 |q| - 27) =
            m * 10 ^ (Int.log 10 |q| - 26) := by
        intro n hn
        have hPower : (10 : ℚ) ^ (Int.log 10 |q| - 26) = 10 * 10 ^ (Int.log 10 |q| - 27) := by
          rw [← zpow_one_add₀ (by norm_num)]
          congr 1
          omega
        obtain rfl | rfl := (abs_eq (by norm_num)).mp hn
        · exact ⟨10 ^ 27, by norm_num, by rw [hPower]; push_cast; ring⟩
        · exact ⟨-10 ^ 27, by norm_num, by rw [hPower]; push_cast; ring⟩
      obtain ⟨m, hm, hSame⟩ := hCarry _ hFull
      exact ⟨m, _, hm, hSame⟩

namespace FixedPoint

def Digits (x : FixedPoint scale) : Prop := |x.units| < 10 ^ 28

instance (x : FixedPoint scale) : Decidable x.Digits :=
  inferInstanceAs (Decidable (|x.units| < 10 ^ 28))

def number (x : FixedPoint scale) : Number := .finite x.value

theorem contextRound_value (h : x.Digits) : contextRound x.value = x.value := by
  have hValue : x.value = (x.units : ℚ) * 10 ^ (-scale : ℤ) := by
    rw [value, zpow_neg, zpow_natCast, div_eq_mul_inv]
  rw [hValue]
  exact contextRound_of_digits h

end FixedPoint

namespace Number

theorem ofContext_cases (q : ℚ) : ofContext q = .ok (.finite (contextRound q)) ∨
    ofContext q = .error "Overflow" := by
  unfold ofContext
  split
  · exact .inl rfl
  · exact .inr rfl

theorem ofContext_of_abs_lt_zpow {k : ℤ} (hk : k ≤ 1000000) (h : |contextRound q| < 10 ^ k) :
    ofContext q = .ok (.finite (contextRound q)) := by
  refine if_pos ?_
  by_cases hZero : contextRound q = 0
  · rw [hZero]
    simp
  · have hLog := (Int.lt_zpow_iff_log_lt (by norm_num : 1 < 10) (x := k) (abs_pos.mpr hZero)).mp
      (by exact_mod_cast h)
    omega

theorem ofContext_of_abs_lt (h : |contextRound q| < 10 ^ 28) :
    ofContext q = .ok (.finite (contextRound q)) :=
  @ofContext_of_abs_lt_zpow q 28 (by norm_num) (by exact_mod_cast h)

theorem ofContext_value (h : x.Digits) : ofContext x.value = .ok x.number := by
  have hRound := FixedPoint.contextRound_value h
  have hBound : |contextRound x.value| < 10 ^ 28 := by
    have hUnits : |(x.units : ℚ)| < 10 ^ 28 := by exact_mod_cast h
    rw [hRound, FixedPoint.value, abs_div, abs_of_pos (by positivity : (0 : ℚ) < 10 ^ scale)]
    exact (div_le_self (abs_nonneg _) (one_le_pow₀ (by norm_num))).trans_lt hUnits
  rw [ofContext_of_abs_lt hBound, hRound]
  rfl

theorem add_number (h : (x + y).Digits) : x.number.add y.number = .ok (x + y).number := by
  rw [← ofContext_value h, FixedPoint.value_add]
  rfl

theorem sub_number (h : (x - y).Digits) : x.number.sub y.number = .ok (x - y).number := by
  rw [← ofContext_value h, FixedPoint.value_sub, sub_eq_add_neg]
  rfl

theorem quantize_number (h : x.Digits) : x.number.quantize scale = .ok (.number x) := by
  rw [FixedPoint.number, quantize, FixedPoint.quantize_value]
  exact if_pos h

theorem quantize_finite (h : |q * 10 ^ scale| ≤ 10 ^ 27) :
    (finite q).quantize scale = .ok (.number (FixedPoint.quantize scale q)) := by
  refine if_pos ?_
  have hUnits : |(FixedPoint.quantize scale q).units| ≤ 10 ^ 27 :=
    abs_roundHalfEven_le (by exact_mod_cast h)
  exact hUnits.trans_lt (by norm_num)

/-- What the context has rounded is quantized while it is below the first number of too many digits.
-/
theorem quantize_contextRound (h : |contextRound q| * 10 ^ scale < 10 ^ 28) :
    (finite (contextRound q)).quantize scale =
      .ok (.number (FixedPoint.quantize scale (contextRound q))) := by
  refine if_pos ?_
  obtain ⟨n, k, hn, hDigits⟩ := exists_digits q
  have hScaled : contextRound q * 10 ^ scale = n * 10 ^ (k + scale) := by
    rw [hDigits, zpow_add₀ (by norm_num), zpow_natCast, mul_assoc]
  have hBound : |(n : ℚ) * 10 ^ (k + scale)| < 10 ^ 28 := by
    rwa [← hScaled, abs_mul, abs_of_pos (by positivity : (0 : ℚ) < 10 ^ scale)]
  rw [FixedPoint.quantize, hScaled]
  obtain hWhole | hFraction := le_or_gt 0 (k + scale)
  · obtain ⟨m, hm⟩ := Int.eq_ofNat_of_zero_le hWhole
    rw [hm, zpow_natCast] at hBound ⊢
    have hInteger : (n : ℚ) * 10 ^ m = ((n * 10 ^ m : ℤ) : ℚ) := by push_cast; ring
    rw [hInteger] at hBound ⊢
    rw [roundHalfEven_intCast]
    exact_mod_cast hBound
  · have hTenth : (10 : ℚ) ^ (k + scale) ≤ 10 ^ (-1 : ℤ) :=
      zpow_le_zpow_right₀ (by norm_num) (by omega)
    have hCast : |(n : ℚ)| ≤ 10 ^ 28 := by exact_mod_cast hn.le
    have hSmall : |(n : ℚ) * 10 ^ (k + scale)| ≤ ((10 ^ 27 : ℤ) : ℚ) := by
      rw [abs_mul, abs_of_pos (zpow_pos (by norm_num) (k + scale) : (0 : ℚ) < _)]
      refine (mul_le_mul hCast hTenth (zpow_pos (by norm_num) _).le (by norm_num)).trans ?_
      norm_num
    exact (abs_roundHalfEven_le hSmall).trans_lt (by norm_num)

end Number

end ProcureFoundation
