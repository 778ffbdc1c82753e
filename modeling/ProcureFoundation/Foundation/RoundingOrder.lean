import ProcureFoundation.Foundation.RoundingBounds

/-!
# Order of rounded numbers

Two numbers round alike exactly when no midpoint separates them, where a midpoint counts to its even
neighbour. A positive number below one of 28 digits stays below it when the context rounds it. A
quotient of a small denominator keeps its distance to every midpoint, so that the rounding of the
context does not show after the next one.
-/

namespace ProcureFoundation

variable {q x y : ℚ} {n k : ℤ}

theorem roundHalfEven_le_of_lt (h : q < n + 1 / 2) : roundHalfEven q ≤ n := by
  have hNear := (abs_le.mp (roundHalfEven_spec q).1).2
  have hBelow : (roundHalfEven q : ℚ) < n + 1 := by linarith
  exact Int.lt_add_one_iff.mp (by exact_mod_cast hBelow)

theorem le_roundHalfEven_of_lt (h : n - 1 / 2 < q) : n ≤ roundHalfEven q := by
  have hNear := (abs_le.mp (roundHalfEven_spec q).1).1
  have hAbove : (n : ℚ) < roundHalfEven q + 1 := by linarith
  exact Int.lt_add_one_iff.mp (by exact_mod_cast hAbove)

/-- No midpoint between two integers lies between the numbers. -/
def NoMidpointBetween (x y : ℚ) : Prop :=
  ∀ n : ℤ, n % 2 = 0 → (x < n - 1 / 2 ↔ y < n - 1 / 2) ∧ (n + 1 / 2 < x ↔ n + 1 / 2 < y)

theorem NoMidpointBetween.symm (h : NoMidpointBetween x y) : NoMidpointBetween y x :=
  fun n hEven => ⟨(h n hEven).1.symm, (h n hEven).2.symm⟩

theorem NoMidpointBetween.not_lt (h : NoMidpointBetween x y) :
    ¬roundHalfEven x < roundHalfEven y := by
  intro hLess
  have hBelow : ∀ n : ℤ, n % 2 = 0 → roundHalfEven x < n → roundHalfEven y < n := by
    intro n hEven hx
    exact (roundHalfEven_lt_iff hEven).mpr ((h n hEven).1.mp ((roundHalfEven_lt_iff hEven).mp hx))
  have hAbove : ∀ n : ℤ, n % 2 = 0 → n < roundHalfEven y → n < roundHalfEven x := by
    intro n hEven hy
    exact (lt_roundHalfEven_iff hEven).mpr ((h n hEven).2.mpr ((lt_roundHalfEven_iff hEven).mp hy))
  obtain hEven | hOdd := Int.emod_two_eq_zero_or_one (roundHalfEven y)
  · exact lt_irrefl _ (hBelow _ hEven hLess)
  · obtain hEvenLow | hOddLow := Int.emod_two_eq_zero_or_one (roundHalfEven x)
    · exact lt_irrefl _ (hAbove _ hEvenLow hLess)
    · have hBetween := hBelow (roundHalfEven x + 1) (by omega) (by omega)
      omega

theorem roundHalfEven_eq_iff : roundHalfEven x = roundHalfEven y ↔ NoMidpointBetween x y := by
  constructor
  · intro h n hEven
    rw [← roundHalfEven_lt_iff hEven, ← roundHalfEven_lt_iff hEven, ← lt_roundHalfEven_iff hEven,
      ← lt_roundHalfEven_iff hEven, h]
    exact ⟨Iff.rfl, Iff.rfl⟩
  · intro h
    exact le_antisymm (not_lt.mp h.symm.not_lt) (not_lt.mp h.not_lt)

theorem FixedPoint.quantize_eq_iff {s : ℕ} :
    FixedPoint.quantize s x = FixedPoint.quantize s y ↔ NoMidpointBetween (x * 10 ^ s)
    (y * 10 ^ s) := by
  rw [FixedPoint.quantize, FixedPoint.quantize, FixedPoint.mk.injEq, roundHalfEven_eq_iff]

theorem roundHalfEven_mono (h : x ≤ y) : roundHalfEven x ≤ roundHalfEven y := by
  obtain rfl | hLess := h.eq_or_lt
  · exact le_rfl
  · have hHigh := (abs_le.mp (roundHalfEven_spec x).1).2
    have hLow := (abs_le.mp (roundHalfEven_spec y).1).1
    have hNext : (roundHalfEven x : ℚ) < roundHalfEven y + 1 := by linarith
    exact Int.lt_add_one_iff.mp (by exact_mod_cast hNext)

theorem FixedPoint.value_quantize_mono {s : ℕ} (h : x ≤ y) :
    (FixedPoint.quantize s x).value ≤ (FixedPoint.quantize s y).value := by
  have hScale : (0 : ℚ) < 10 ^ s := by positivity
  have hUnits := roundHalfEven_mono (mul_le_mul_of_nonneg_right h hScale.le)
  exact div_le_div_of_nonneg_right (Int.cast_le.mpr hUnits) hScale.le

theorem roundHalfEven_unique (hNear : |(n : ℚ) - q| ≤ 1 / 2)
    (hTie : |(n : ℚ) - q| = 1 / 2 → n % 2 = 0) : roundHalfEven q = n := by
  obtain ⟨hRoundNear, hRoundTie⟩ := roundHalfEven_spec q
  obtain hStrict | hHalf := hNear.lt_or_eq
  · exact roundHalfEven_eq hStrict
  · obtain hRoundStrict | hRoundHalf := hRoundNear.lt_or_eq
    · have hClose : |((roundHalfEven q - n : ℤ) : ℚ)| < 1 := by
        rw [Int.cast_sub, ← sub_sub_sub_cancel_right _ _ q]
        exact (abs_sub _ _).trans_lt (by linarith)
      have hZero : |roundHalfEven q - n| < 1 := by exact_mod_cast hClose
      rw [Int.abs_lt_one_iff] at hZero
      exact sub_eq_zero.mp hZero
    · have hEven := hTie hHalf
      have hRoundEven := hRoundTie hRoundHalf
      have hClose : |((roundHalfEven q - n : ℤ) : ℚ)| ≤ 1 := by
        rw [Int.cast_sub, ← sub_sub_sub_cancel_right _ _ q]
        exact (abs_sub _ _).trans (by linarith)
      have hUnit : |roundHalfEven q - n| ≤ 1 := by exact_mod_cast hClose
      rw [abs_le] at hUnit
      omega

theorem roundHalfEven_neg (q : ℚ) : roundHalfEven (-q) = -roundHalfEven q := by
  obtain ⟨hNear, hTie⟩ := roundHalfEven_spec q
  have hMirror : |((-roundHalfEven q : ℤ) : ℚ) - -q| = |(roundHalfEven q : ℚ) - q| := by
    rw [Int.cast_neg, neg_sub_neg, abs_sub_comm]
  refine roundHalfEven_unique (hMirror ▸ hNear) fun hHalf => ?_
  have hEven := hTie (hMirror ▸ hHalf)
  omega

theorem contextRound_le_of_digits (hq : 0 < q) (hDigits : |n| < 10 ^ 28) (h : q ≤ n * 10 ^ k) :
    contextRound q ≤ n * 10 ^ k := by
  have hUnit : (0 : ℚ) < 10 ^ (Int.log 10 |q| - 27) := zpow_pos (by norm_num) _
  have hGrid : (0 : ℚ) < 10 ^ k := zpow_pos (by norm_num) _
  obtain hCoarse | hFine := lt_or_ge k (Int.log 10 |q| - 27)
  · -- a number of more digits before the point is larger
    have hStep := ten_mul_zpow_le hCoarse
    have hLow := (scaled_bounds hq.ne').1
    rw [abs_div, abs_of_pos hUnit, le_div_iff₀ hUnit, abs_of_pos hq] at hLow
    have hDigitsCast : (|n| : ℚ) < 10 ^ 28 := by exact_mod_cast hDigits
    have hBelow := mul_lt_mul_of_pos_right ((le_abs_self (n : ℚ)).trans_lt hDigitsCast) hGrid
    rw [abs_of_pos hq] at hStep
    linarith
  · obtain ⟨shift, hShift⟩ := Int.le.dest hFine
    have hPower : (10 : ℚ) ^ k = 10 ^ shift * 10 ^ (Int.log 10 |q| - 27) := by
      rw [← zpow_natCast, ← zpow_add₀ (by norm_num), add_comm, hShift]
    have hScaled : q / 10 ^ (Int.log 10 |q| - 27) ≤ ((n * 10 ^ shift : ℤ) : ℚ) := by
      rw [div_le_iff₀ hUnit, Int.cast_mul, Int.cast_pow, Int.cast_ofNat, mul_assoc, ← hPower]
      exact h
    have hRound : (roundHalfEven (q / 10 ^ (Int.log 10 |q| - 27)) : ℚ) ≤
        ((n * 10 ^ shift : ℤ) : ℚ) := by
      exact_mod_cast roundHalfEven_le hScaled
    calc contextRound q
        ≤ ((n * 10 ^ shift : ℤ) : ℚ) * 10 ^ (Int.log 10 |q| - 27) :=
          mul_le_mul_of_nonneg_right hRound hUnit.le
      _ = n * 10 ^ k := by
        rw [Int.cast_mul, Int.cast_pow, Int.cast_ofNat, mul_assoc, ← hPower]

theorem contextRound_zero : contextRound 0 = 0 := by
  have hZero := @contextRound_of_digits 0 0 (by norm_num)
  rwa [Int.cast_zero, zero_mul] at hZero

theorem contextRound_neg (q : ℚ) : contextRound (-q) = -contextRound q := by
  rw [contextRound, contextRound, abs_neg, neg_div, roundHalfEven_neg, Int.cast_neg, neg_mul]

theorem abs_contextRound_le_of_digits (hDigits : |n| < 10 ^ 28) (h : |q| ≤ n * 10 ^ k) :
    |contextRound q| ≤ n * 10 ^ k := by
  obtain hNeg | rfl | hPos := lt_trichotomy q 0
  · have hBound := contextRound_le_of_digits (neg_pos.mpr hNeg) hDigits (abs_of_neg hNeg ▸ h)
    rw [← abs_neg, ← contextRound_neg, abs_of_nonneg (contextRound_nonneg (neg_nonneg.mpr hNeg.le))]
    exact hBound
  · rw [contextRound_zero]
    exact h
  · rw [abs_of_nonneg (contextRound_nonneg hPos.le)]
    exact contextRound_le_of_digits hPos hDigits (abs_of_pos hPos ▸ h)

theorem FixedPoint.abs_value_quantize_sub_le (s : ℕ) (q : ℚ) :
    |(FixedPoint.quantize s q).value - q| ≤ 1 := by
  have hPower : (1 : ℚ) ≤ 10 ^ s := one_le_pow₀ (by norm_num)
  have hScaled : (FixedPoint.quantize s q).value - q = (roundHalfEven (q * 10 ^ s) - q * 10 ^ s) /
      10 ^ s := by
    rw [FixedPoint.quantize, FixedPoint.value]
    field_simp
  rw [hScaled, abs_div, abs_of_pos (by linarith : (0 : ℚ) < 10 ^ s), div_le_one (by linarith)]
  exact (roundHalfEven_spec _).1.trans (by linarith)

/-- The context changes a number by less than the number itself. -/
theorem abs_contextRound_le (q : ℚ) : |contextRound q| ≤ 2 * |q| := by
  by_cases hq : q = 0
  · rw [hq, contextRound_zero, abs_zero, mul_zero]
  · have hUnit : (0 : ℚ) < 10 ^ (Int.log 10 |q| - 27) := zpow_pos (by norm_num) _
    have hLow := (scaled_bounds hq).1
    have hNear := (roundHalfEven_spec (q / 10 ^ (Int.log 10 |q| - 27))).1
    have hRound : |(roundHalfEven (q / 10 ^ (Int.log 10 |q| - 27)) : ℚ)| ≤
        2 * |q / 10 ^ (Int.log 10 |q| - 27)| := by
      have hTriangle := abs_sub_abs_le_abs_sub (roundHalfEven (q / 10 ^ (Int.log 10 |q| - 27)) : ℚ)
        (q / 10 ^ (Int.log 10 |q| - 27))
      linarith
    calc |contextRound q|
        = |(roundHalfEven (q / 10 ^ (Int.log 10 |q| - 27)) : ℚ)| * 10 ^ (Int.log 10 |q| - 27) := by
          rw [contextRound, abs_mul, abs_of_pos hUnit]
      _ ≤ 2 * |q / 10 ^ (Int.log 10 |q| - 27)| * 10 ^ (Int.log 10 |q| - 27) :=
        mul_le_mul_of_nonneg_right hRound hUnit.le
      _ = 2 * |q| := by
          rw [abs_div, abs_of_pos hUnit, mul_assoc, div_mul_cancel₀ _ hUnit.ne']

/-- The context is off by at most half a unit of the last of its 28 digits. -/
theorem abs_contextRound_sub_le (h : |q| < 10 ^ k) : |contextRound q - q| ≤ 10 ^ (k - 28) / 2 := by
  by_cases hq : q = 0
  · rw [hq, contextRound_zero, sub_zero, abs_zero]
    positivity
  · have hUnit : (0 : ℚ) < 10 ^ (Int.log 10 |q| - 27) := zpow_pos (by norm_num) _
    have hLog : Int.log 10 |q| < k :=
      (Int.lt_zpow_iff_log_lt (by norm_num) (abs_pos.mpr hq)).mp (by exact_mod_cast h)
    have hGrid : (10 : ℚ) ^ (Int.log 10 |q| - 27) ≤ 10 ^ (k - 28) :=
      zpow_le_zpow_right₀ (by norm_num) (by omega)
    have hNear := (roundHalfEven_spec (q / 10 ^ (Int.log 10 |q| - 27))).1
    have hError : contextRound q - q =
        (roundHalfEven (q / 10 ^ (Int.log 10 |q| - 27)) - q / 10 ^ (Int.log 10 |q| - 27)) *
          10 ^ (Int.log 10 |q| - 27) := by
      rw [contextRound, sub_mul, div_mul_cancel₀ _ hUnit.ne']
    rw [hError, abs_mul, abs_of_pos hUnit]
    calc _ ≤ 1 / 2 * (10 : ℚ) ^ (Int.log 10 |q| - 27) := mul_le_mul_of_nonneg_right hNear hUnit.le
      _ ≤ 10 ^ (k - 28) / 2 := by linarith

namespace FixedPoint

variable {scale : ℕ} {d : ℤ}

/-- A number near a quotient rounds as the quotient does: a quotient that is no midpoint keeps a
distance to each. -/
theorem quantize_eq_of_near (hPositive : 0 < d) (hNear : |y - n / d| * (2 * d * 10 ^ scale) < 1)
    (hMidpoint : ∀ j : ℤ, (n / d : ℚ) * 10 ^ scale = j + 1 / 2 → y = n / d) :
    quantize scale y = quantize scale (n / d) := by
  by_cases hSame : ∃ j : ℤ, (n / d : ℚ) * 10 ^ scale = j + 1 / 2
  · obtain ⟨j, hj⟩ := hSame
    rw [hMidpoint j hj]
  · have hd : (0 : ℚ) < d := Int.cast_pos.mpr hPositive
    have hScale : (0 : ℚ) < 10 ^ scale := by positivity
    -- twice the distance to a midpoint is a whole number of parts of the denominator
    have hApart : ∀ j : ℤ, 1 ≤ |(n / d : ℚ) * 10 ^ scale - (j + 1 / 2)| * (2 * d) := by
      intro j
      have hParts : ((n / d : ℚ) * 10 ^ scale - (j + 1 / 2)) * (2 * d) =
          ((2 * n * 10 ^ scale - (2 * j + 1) * d : ℤ) : ℚ) := by
        push_cast
        field_simp
      have hNonzero : (2 * n * 10 ^ scale - (2 * j + 1) * d : ℤ) ≠ 0 := by
        intro hZero
        rw [hZero, Int.cast_zero, mul_eq_zero, sub_eq_zero] at hParts
        exact hSame ⟨j, hParts.resolve_right (by positivity)⟩
      rw [← abs_of_pos (by positivity : (0 : ℚ) < 2 * d), ← abs_mul, hParts, ← Int.cast_abs]
      exact_mod_cast Int.one_le_abs hNonzero
    have hClose : |y * 10 ^ scale - n / d * 10 ^ scale| * (2 * d) < 1 := by
      rw [← sub_mul, abs_mul, abs_of_pos hScale]
      linarith
    have hSide : ∀ j : ℤ, |y * 10 ^ scale - n / d * 10 ^ scale| <
        |(n / d : ℚ) * 10 ^ scale - (j + 1 / 2)| :=
      fun j => lt_of_mul_lt_mul_right (hClose.trans_le (hApart j)) (by positivity)
    rw [quantize_eq_iff]
    intro m _
    have hLow := hSide (m - 1)
    have hHigh := hSide m
    push_cast at hLow
    rw [lt_abs, abs_lt, abs_lt] at hLow hHigh
    constructor
    · constructor
      · intro h
        obtain hLow | hLow := hLow <;> linarith
      · intro h
        obtain hLow | hLow := hLow <;> linarith
    · constructor
      · intro h
        obtain hHigh | hHigh := hHigh <;> linarith
      · intro h
        obtain hHigh | hHigh := hHigh <;> linarith



/-- A percentage of small denominators is rounded to six decimals as if the context had not rounded
it before. -/
theorem quantize_contextRound_div (hPositive : 0 < d) (hSmall : d < 10 ^ 18)
    (h : |(n / d : ℚ)| < 1000) : quantize 6 (contextRound (n / d)) = quantize 6 (n / d) := by
  have hError : |contextRound (n / d) - n / d| ≤ 10 ^ (3 - 28 : ℤ) / 2 :=
    abs_contextRound_sub_le (by norm_num; exact h)
  have hd : (d : ℚ) < 10 ^ 18 := by exact_mod_cast hSmall
  have hdPositive : (0 : ℚ) < d := Int.cast_pos.mpr hPositive
  refine quantize_eq_of_near hPositive ?_ fun j hj => ?_
  · have hBound := mul_le_mul_of_nonneg_right hError (by positivity : (0 : ℚ) ≤ 2 * d * 10 ^ 6)
    norm_num at hBound ⊢
    linarith
  · have hDigits : (n / d : ℚ) = ((5 * (2 * j + 1) : ℤ) : ℚ) * 10 ^ (-7 : ℤ) := by
      push_cast
      norm_num at hj ⊢
      linarith
    rw [hDigits, abs_mul] at h
    rw [hDigits]
    refine contextRound_of_digits ?_
    norm_num at h
    have hUnits : |((5 * (2 * j + 1) : ℤ) : ℚ)| < 10 ^ 28 := by
      push_cast
      rw [abs_mul]
      norm_num
      linarith
    exact_mod_cast hUnits

end FixedPoint
end ProcureFoundation
