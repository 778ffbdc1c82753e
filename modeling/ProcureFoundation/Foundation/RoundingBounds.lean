import ProcureFoundation.Foundation.FixedPoint

/-!
# Bounds of rounded numbers

A number rounds below an even bound exactly when it is below the last midpoint in front of it,
as the midpoint itself goes to the bound. Numbers of at most 28 digits are not rounded by the
arithmetic context.
-/

namespace ProcureFoundation

variable {q : ℚ} {n m k : ℤ}

/-- The rounded number is at most one half away, and even at one half. -/
theorem roundHalfEven_spec (q : ℚ) :
    |(roundHalfEven q : ℚ) - q| ≤ 1 / 2 ∧
      (|(roundHalfEven q : ℚ) - q| = 1 / 2 → roundHalfEven q % 2 = 0) := by
  have hFloor := Int.floor_le q
  have hCeil := Int.lt_floor_add_one q
  have hDown : |(⌊q⌋ : ℚ) - q| = q - ⌊q⌋ := by
    rw [abs_sub_comm, abs_of_nonneg (by linarith)]
  have hUp : |((⌊q⌋ + 1 : ℤ) : ℚ) - q| = 1 - (q - ⌊q⌋) := by
    rw [Int.cast_add, Int.cast_one, abs_of_nonneg (by linarith)]
    ring
  unfold roundHalfEven
  dsimp only
  split
  · rename_i hLow
    rw [hDown]
    exact ⟨hLow.le, fun hTie => absurd hTie hLow.ne⟩
  · rename_i hNotLow
    split
    · rename_i hHigh
      rw [hUp]
      exact ⟨by linarith, fun hTie => absurd hTie (by linarith)⟩
    · split
      · rename_i hNotHigh hEven
        rw [hDown]
        exact ⟨not_lt.mp hNotHigh, fun _ => hEven⟩
      · rename_i hOdd
        rw [hUp]
        exact ⟨by linarith, fun _ => by omega⟩

theorem roundHalfEven_eq (h : |(n : ℚ) - q| < 1 / 2) : roundHalfEven q = n := by
  obtain ⟨hLow, hHigh⟩ := abs_le.mp (roundHalfEven_spec q).1
  obtain ⟨hAbove, hBelow⟩ := abs_lt.mp h
  have hUp : (roundHalfEven q : ℚ) < n + 1 := by linarith
  have hDown : (n : ℚ) < roundHalfEven q + 1 := by linarith
  have hUpInt : roundHalfEven q < n + 1 := by exact_mod_cast hUp
  have hDownInt : n < roundHalfEven q + 1 := by exact_mod_cast hDown
  omega

/-- Two parts of an integer round to it, unless they end in one half and it is odd. -/
theorem roundHalfEven_add_complement (q : ℚ) (n : ℤ) :
    roundHalfEven q + roundHalfEven (n - q) = n ↔ ¬(n % 2 = 1 ∧ ∃ k : ℤ, 2 * q = 2 * k + 1) := by
  obtain ⟨hNear, hTie⟩ := roundHalfEven_spec q
  obtain hStrict | hHalf := hNear.lt_or_eq
  · have hComplement : roundHalfEven (n - q) = n - roundHalfEven q := by
      refine roundHalfEven_eq ?_
      rw [Int.cast_sub, show (n - roundHalfEven q - (n - q) : ℚ) =
        -(roundHalfEven q - q) by ring, abs_neg]
      exact hStrict
    refine iff_of_true (by omega) ?_
    rintro ⟨-, k, hk⟩
    obtain ⟨hLow, hHigh⟩ := abs_lt.mp hStrict
    have hBelow : (roundHalfEven q : ℚ) < k + 1 := by linarith
    have hAbove : (k : ℚ) < roundHalfEven q := by linarith
    have hBelowInt : roundHalfEven q < k + 1 := by exact_mod_cast hBelow
    have hAboveInt : k < roundHalfEven q := by exact_mod_cast hAbove
    omega
  · obtain ⟨hOtherNear, hOtherTie⟩ := roundHalfEven_spec (n - q)
    obtain ⟨k, hk⟩ : ∃ k : ℤ, 2 * q = 2 * k + 1 := by
      obtain hUp | hDown := (abs_eq (by norm_num)).mp hHalf
      · refine ⟨roundHalfEven q - 1, ?_⟩
        push_cast
        linarith
      · exact ⟨roundHalfEven q, by linarith⟩
    have hOtherHalf : |(roundHalfEven (n - q) : ℚ) - (n - q)| = 1 / 2 := by
      by_contra hNe
      obtain ⟨hLow, hHigh⟩ := abs_lt.mp (lt_of_le_of_ne hOtherNear hNe)
      have hBelow : (roundHalfEven (n - q) : ℚ) < n - k := by linarith
      have hAbove : (n : ℚ) - k - 1 < roundHalfEven (n - q) := by linarith
      have hBelowInt : roundHalfEven (n - q) < n - k := by exact_mod_cast hBelow
      have hAboveInt : n - k - 1 < roundHalfEven (n - q) := by exact_mod_cast hAbove
      omega
    have hEven := hTie hHalf
    have hOtherEven := hOtherTie hOtherHalf
    have hSum : |((roundHalfEven q + roundHalfEven (n - q) : ℤ) : ℚ) - n| ≤ 1 := by
      rw [Int.cast_add, show (roundHalfEven q + roundHalfEven (n - q) - n : ℚ) =
        roundHalfEven q - q + (roundHalfEven (n - q) - (n - q)) by ring]
      refine (abs_add_le _ _).trans ?_
      linarith
    have hSumInt : |roundHalfEven q + roundHalfEven (n - q) - n| ≤ 1 := by exact_mod_cast hSum
    obtain ⟨hLow, hHigh⟩ := abs_le.mp hSumInt
    constructor
    · rintro hEq ⟨hOdd, -⟩
      omega
    · intro hNot
      have hNotOdd : ¬n % 2 = 1 := fun hOdd => hNot ⟨hOdd, k, hk⟩
      omega

theorem roundHalfEven_le (h : q ≤ n) : roundHalfEven q ≤ n := by
  have hNear := (abs_le.mp (roundHalfEven_spec q).1).2
  have hBelow : (roundHalfEven q : ℚ) < n + 1 := by linarith
  exact_mod_cast Int.lt_add_one_iff.mp (by exact_mod_cast hBelow)

theorem le_roundHalfEven (h : n ≤ q) : n ≤ roundHalfEven q := by
  have hNear := (abs_le.mp (roundHalfEven_spec q).1).1
  have hAbove : (n : ℚ) < roundHalfEven q + 1 := by linarith
  exact_mod_cast Int.lt_add_one_iff.mp (by exact_mod_cast hAbove)

theorem abs_roundHalfEven_le (h : |q| ≤ n) : |roundHalfEven q| ≤ n := by
  obtain ⟨hLow, hHigh⟩ := abs_le.mp h
  exact abs_le.mpr ⟨le_roundHalfEven (by exact_mod_cast hLow), roundHalfEven_le hHigh⟩

theorem le_abs_roundHalfEven (h : n ≤ |q|) : n ≤ |roundHalfEven q| := by
  obtain hHigh | hLow := le_abs.mp h
  · exact le_abs.mpr (.inl (le_roundHalfEven hHigh))
  · have hNeg : q ≤ (-n : ℤ) := by
      rw [Int.cast_neg]
      linarith
    exact le_abs.mpr (.inr (by linarith [roundHalfEven_le hNeg]))

theorem roundHalfEven_lt_iff (hEven : n % 2 = 0) : roundHalfEven q < n ↔ q < n - 1 / 2 := by
  obtain ⟨hNear, hTie⟩ := roundHalfEven_spec q
  obtain ⟨hLow, hHigh⟩ := abs_le.mp hNear
  constructor
  · intro h
    have hBelow : (roundHalfEven q : ℚ) ≤ n - 1 := by exact_mod_cast Int.le_sub_one_iff.mpr h
    refine lt_of_le_of_ne (by linarith) fun hEq => ?_
    have hRound : (roundHalfEven q : ℚ) = n - 1 := le_antisymm hBelow (by linarith)
    have hRoundInt : roundHalfEven q = n - 1 := by exact_mod_cast hRound
    have hHalf : |(roundHalfEven q : ℚ) - q| = 1 / 2 := by
      rw [hRound, hEq]
      norm_num
    have hRoundEven := hTie hHalf
    omega
  · intro h
    have hBelow : (roundHalfEven q : ℚ) < n := by linarith
    exact_mod_cast hBelow

theorem lt_roundHalfEven_iff (hEven : n % 2 = 0) : n < roundHalfEven q ↔ n + 1 / 2 < q := by
  obtain ⟨hNear, hTie⟩ := roundHalfEven_spec q
  obtain ⟨hLow, hHigh⟩ := abs_le.mp hNear
  constructor
  · intro h
    have hAbove : (n : ℚ) + 1 ≤ roundHalfEven q := by exact_mod_cast Int.add_one_le_iff.mpr h
    refine lt_of_le_of_ne (by linarith) fun hEq => ?_
    have hRound : (roundHalfEven q : ℚ) = n + 1 := le_antisymm (by linarith) hAbove
    have hRoundInt : roundHalfEven q = n + 1 := by exact_mod_cast hRound
    have hHalf : |(roundHalfEven q : ℚ) - q| = 1 / 2 := by
      rw [hRound, ← hEq]
      norm_num
    have hRoundEven := hTie hHalf
    omega
  · intro h
    have hAbove : (n : ℚ) < roundHalfEven q := by linarith
    exact_mod_cast hAbove

theorem abs_roundHalfEven_lt_iff (hEven : n % 2 = 0) : |roundHalfEven q| < n ↔ |q| < n - 1 / 2 := by
  rw [abs_lt, abs_lt, roundHalfEven_lt_iff hEven, lt_roundHalfEven_iff (by omega), Int.cast_neg,
    neg_sub]
  constructor
  · rintro ⟨hLow, hHigh⟩
    exact ⟨by linarith, hHigh⟩
  · rintro ⟨hLow, hHigh⟩
    exact ⟨by linarith, hHigh⟩

theorem abs_roundHalfAway_lt_iff : |roundHalfAway q| < n ↔ |q| < n - 1 / 2 := by
  have hPositive : ∀ {r : ℚ}, 0 ≤ r → (|⌊r + 1 / 2⌋| < n ↔ r < n - 1 / 2) := by
    intro r hr
    rw [abs_of_nonneg (Int.floor_nonneg.mpr (by linarith)), Int.floor_lt]
    constructor <;> intro h <;> linarith
  unfold roundHalfAway
  split
  · rename_i hNonneg
    rw [hPositive hNonneg, abs_of_nonneg hNonneg]
  · rename_i hNeg
    rw [abs_neg, hPositive (by linarith), abs_of_neg (not_le.mp hNeg)]

section Context

theorem contextRound_nonneg (h : 0 ≤ q) : 0 ≤ contextRound q := by
  have hUnit : (0 : ℚ) < 10 ^ (Int.log 10 |q| - 27) := zpow_pos (by norm_num) _
  have hScaled : ((0 : ℤ) : ℚ) ≤ q / 10 ^ (Int.log 10 |q| - 27) := by
    rw [Int.cast_zero]
    exact div_nonneg h hUnit.le
  exact mul_nonneg (by exact_mod_cast le_roundHalfEven hScaled) hUnit.le

theorem abs_contextRound (q : ℚ) : |contextRound q| =
    |roundHalfEven (q / 10 ^ (Int.log 10 |q| - 27))| * (10 : ℚ) ^ (Int.log 10 |q| - 27) := by
  rw [contextRound, abs_mul, abs_of_pos (zpow_pos (by norm_num : (0 : ℚ) < 10) _), Int.cast_abs]

/-- Scaled by the exponent of the context a number has 28 digits before the point. -/
theorem scaled_bounds (hq : q ≠ 0) : (10 : ℚ) ^ 27 ≤ |q / 10 ^ (Int.log 10 |q| - 27)| ∧
    |q / 10 ^ (Int.log 10 |q| - 27)| < (10 : ℚ) ^ 28 := by
  have hPos : 0 < |q| := abs_pos.mpr hq
  have hLow := Int.zpow_log_le_self (by norm_num : 1 < 10) hPos
  have hHigh := Int.lt_zpow_succ_log_self (by norm_num : 1 < 10) |q|
  have hUnit : (0 : ℚ) < 10 ^ (Int.log 10 |q| - 27) := zpow_pos (by norm_num) _
  rw [abs_div, abs_of_pos hUnit, le_div_iff₀ hUnit,
    div_lt_iff₀ hUnit, ← zpow_natCast, ← zpow_natCast,
    ← zpow_add₀ (by norm_num), ← zpow_add₀ (by norm_num)]
  push_cast at hLow hHigh ⊢
  constructor
  · rwa [show (27 : ℤ) + (Int.log 10 |q| - 27) = Int.log 10 |q| by ring]
  · rwa [show (28 : ℤ) + (Int.log 10 |q| - 27) = Int.log 10 |q| + 1 by ring]

theorem ten_mul_zpow_le {j k : ℤ} (h : j < k) : 10 * (10 : ℚ) ^ j ≤ 10 ^ k := by
  rw [← zpow_one_add₀ (by norm_num)]
  exact zpow_le_zpow_right₀ (by norm_num) (by omega)

/-- Rounded by the context a number stays below an even number of 28 digits exactly when it is
below the midpoint in front of that. -/
theorem abs_contextRound_lt_iff (hEven : m % 2 = 0) (hLow : 10 ^ 27 < m) (hHigh : m ≤ 10 ^ 28) :
    |contextRound q| < m * 10 ^ k ↔ |q| < (m - 1 / 2) * 10 ^ k := by
  have hLowCast : (10 : ℚ) ^ 27 + 1 ≤ m := by exact_mod_cast Int.add_one_le_iff.mpr hLow
  have hHighCast : (m : ℚ) ≤ 10 ^ 28 := by exact_mod_cast hHigh
  have hUnit : (0 : ℚ) < 10 ^ k := zpow_pos (by norm_num) _
  by_cases hq : q = 0
  · rw [hq]
    refine iff_of_true ?_ ?_
    · rw [contextRound, zero_div, ← Int.cast_zero, roundHalfEven_intCast, Int.cast_zero, zero_mul,
        abs_zero]
      positivity
    · rw [abs_zero]
      exact mul_pos (by linarith) hUnit
  · obtain ⟨hScaledLow, hScaledHigh⟩ := scaled_bounds hq
    have hOwnUnit : (0 : ℚ) < 10 ^ (Int.log 10 |q| - 27) := zpow_pos (by norm_num) _
    have hAbs : |q| = |q / 10 ^ (Int.log 10 |q| - 27)| * 10 ^ (Int.log 10 |q| - 27) := by
      rw [abs_div, abs_of_pos hOwnUnit, div_mul_cancel₀ _ hOwnUnit.ne']
    rw [abs_contextRound]
    obtain hExponent | hExponent | hExponent := lt_trichotomy (Int.log 10 |q| - 27) k
    · -- the number has fewer digits before the point than the bound
      have hStep := ten_mul_zpow_le hExponent
      have hRoundInt : |roundHalfEven (q / 10 ^ (Int.log 10 |q| - 27))| ≤ (10 : ℤ) ^ 28 :=
        abs_roundHalfEven_le (by exact_mod_cast hScaledHigh.le)
      have hRound : ((|roundHalfEven (q / 10 ^ (Int.log 10 |q| - 27))| : ℤ) : ℚ) ≤ 10 ^ 28 := by
        exact_mod_cast hRoundInt
      refine iff_of_true ?_ ?_
      · have hLeft := mul_le_mul_of_nonneg_right hRound hOwnUnit.le
        have hRight := mul_lt_mul_of_pos_right (show (10 : ℚ) ^ 27 < m by linarith) hUnit
        linarith
      · have hLeft := mul_lt_mul_of_pos_right hScaledHigh hOwnUnit
        have hRight := mul_lt_mul_of_pos_right (show (10 : ℚ) ^ 27 < m - 1 / 2 by linarith) hUnit
        rw [hAbs]
        linarith
    · rw [hExponent, mul_lt_mul_iff_left₀ hUnit, ← div_lt_iff₀ hUnit, Int.cast_lt,
        abs_roundHalfEven_lt_iff hEven, abs_div, abs_of_pos hUnit]
    · -- and here more
      have hStep := ten_mul_zpow_le hExponent
      have hRoundInt : (10 : ℤ) ^ 27 ≤ |roundHalfEven (q / 10 ^ (Int.log 10 |q| - 27))| :=
        le_abs_roundHalfEven (by exact_mod_cast hScaledLow)
      have hRound : (10 : ℚ) ^ 27 ≤
          ((|roundHalfEven (q / 10 ^ (Int.log 10 |q| - 27))| : ℤ) : ℚ) := by
        exact_mod_cast hRoundInt
      have hBound := mul_le_mul_of_nonneg_right hHighCast hUnit.le
      refine iff_of_false (not_lt.mpr ?_) (not_lt.mpr ?_)
      · have hLeft := mul_le_mul_of_nonneg_right hRound hOwnUnit.le
        linarith
      · have hLeft := mul_le_mul_of_nonneg_right hScaledLow hOwnUnit.le
        rw [hAbs]
        linarith

/-- A number of at most 28 digits is returned as it is. -/
theorem contextRound_of_digits (h : |n| < 10 ^ 28) : contextRound (n * 10 ^ k) = n * 10 ^ k := by
  by_cases hn : n = 0
  · rw [hn, contextRound, Int.cast_zero, zero_mul, zero_div, ← Int.cast_zero, roundHalfEven_intCast,
      Int.cast_zero, zero_mul]
  · have hUnit : (0 : ℚ) < 10 ^ k := zpow_pos (by norm_num) _
    have hq : (n : ℚ) * 10 ^ k ≠ 0 := mul_ne_zero (Int.cast_ne_zero.mpr hn) hUnit.ne'
    have hExponent : Int.log 10 |(n : ℚ) * 10 ^ k| - 27 ≤ k := by
      have hDigits : (|n| : ℚ) < 10 ^ 28 := by exact_mod_cast h
      have hBound : |(n : ℚ) * 10 ^ k| < (10 : ℚ) ^ (k + 28) := by
        rw [abs_mul, abs_of_pos hUnit, zpow_add₀ (by norm_num), mul_comm]
        exact mul_lt_mul_of_pos_left (by exact_mod_cast hDigits) hUnit
      have hLog := (Int.lt_zpow_iff_log_lt (by norm_num : 1 < 10) (abs_pos.mpr hq)).mp
        (by exact_mod_cast hBound)
      omega
    obtain ⟨shift, hShift⟩ := Int.le.dest hExponent
    have hOwnUnit : (10 : ℚ) ^ (Int.log 10 |(n : ℚ) * 10 ^ k| - 27) ≠ 0 :=
      zpow_ne_zero _ (by norm_num)
    have hScaled : (n : ℚ) * 10 ^ k / 10 ^ (Int.log 10 |(n : ℚ) * 10 ^ k| - 27) =
        ((n * 10 ^ shift : ℤ) : ℚ) := by
      rw [div_eq_iff hOwnUnit, Int.cast_mul, Int.cast_pow, Int.cast_ofNat,
        mul_assoc, ← zpow_natCast, ← zpow_add₀ (by norm_num), add_comm, hShift]
    rw [contextRound]
    rw [hScaled, roundHalfEven_intCast, ← hScaled, div_mul_cancel₀ _ hOwnUnit]

namespace FixedPoint

variable {s : ℕ}

theorem contextRound_sub {x y : FixedPoint s} (h : |x.units - y.units| < 10 ^ 28) :
    contextRound (x.value - y.value) = x.value - y.value := by
  have hValue : x.value - y.value = ((x.units - y.units : ℤ) : ℚ) * 10 ^ (-s : ℤ) := by
    rw [value, value, ← sub_div, zpow_neg, zpow_natCast, div_eq_mul_inv, Int.cast_sub]
  rw [hValue, contextRound_of_digits h]

end FixedPoint

end Context

end ProcureFoundation
