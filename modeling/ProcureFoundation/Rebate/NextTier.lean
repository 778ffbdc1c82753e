import ProcureFoundation.Foundation.RoundingOrder
import ProcureFoundation.Rebate.TierLookup

/-!
# Progress to the next tier

The remaining amount is rounded to four decimals and a threshold need not have four. What the
function returns is never too large, and it leads to the tier when the threshold is an amount of
four decimals.
-/

namespace ProcureFoundation.Rebate

variable {spend threshold : ℚ} {bands : List RebateBand}

/-- Four-decimal amounts below the rounded difference are below the difference. -/
theorem lt_of_lt_remaining {spend earlier amount : Money} (hBeyond : spend.value < threshold)
    (hRemaining : roundedDifference threshold spend.value = .ok (.number amount))
    (hEarlier : earlier.value < spend.value + amount.value) : earlier.value < threshold := by
  obtain ⟨_, hAmount, rfl, hDigits⟩ := roundedDifference_eq_ok hRemaining
  rw [Numeric.number.inj hAmount] at hEarlier
  by_contra hReached
  have hDifference : (earlier - spend).value <
      (FixedPoint.quantize 4 (contextRound (threshold - spend.value))).value := by
    rw [FixedPoint.value_sub]
    linarith
  have hPositive : (0 : Money).value < (earlier - spend).value := by
    rw [FixedPoint.value_sub, FixedPoint.value_zero]
    linarith
  have hAbove := value_lt_iff.mp hDifference
  have hZero := value_lt_iff.mp hPositive
  have hUnits : |(earlier - spend).units| < 10 ^ 28 := by
    change 0 < (earlier - spend).units at hZero
    rw [abs_of_pos hZero]
    exact hAbove.trans_le ((le_abs_self _).trans hDigits.le)
  have hContext : contextRound (threshold - spend.value) ≤ (earlier - spend).value := by
    rw [value_eq_mul_zpow (earlier - spend)]
    refine contextRound_le_of_digits (sub_pos.mpr hBeyond) hUnits ?_
    rw [← value_eq_mul_zpow (earlier - spend), FixedPoint.value_sub]
    linarith
  have hRounded : (FixedPoint.quantize 4 (contextRound (threshold - spend.value))).units ≤
      (earlier - spend).units := by
    refine roundHalfEven_le ?_
    rw [← FixedPoint.value_mul]
    exact mul_le_mul_of_nonneg_right hContext (by positivity)
  exact absurd hAbove hRounded.not_gt

section Agreement

/-- What the pair says about the lookup at other spends. -/
structure AgreesWithLookup (spend : Money) (bands : List RebateBand) (threshold : ℚ)
    (remaining : Money) : Prop where
  next : IsNextThreshold spend.value bands threshold
  earlier : ∀ other : Money, other.value < spend.value + remaining.value →
    ∀ best, bestBand other.value bands = some best → best.thresholdSpend ≠ threshold
  reaches : ∀ amount : Money, amount.value = threshold → spend + remaining = amount ∧
    ∃ best, best.thresholdSpend = threshold ∧ ∀ rebateType : RebateType, rebateType.banded →
      ∀ flatRatePct fixedAmount, calculateExpectedRebate amount.value rebateType flatRatePct
        (some bands) fixedAmount = amountAt amount.value best

theorem calculateProgressToNextTier_cases (hNonempty : bands ≠ []) (spend : ℚ) :
    (∀ band ∈ bands, band.thresholdSpend ≤ spend) ∧ calculateProgressToNextTier spend bands =
      .ok (none, none) ∨
    ∃ threshold, IsNextThreshold spend bands threshold ∧ calculateProgressToNextTier spend bands =
      (roundedDifference threshold spend).map fun remaining =>
        (some threshold, some remaining) := by
  by_cases hNext : ∃ band ∈ bands, spend < band.thresholdSpend
  · obtain ⟨threshold, hThreshold⟩ := exists_nextThreshold hNext
    exact .inr ⟨threshold, hThreshold, calculateProgressToNextTier_of_next hThreshold⟩
  · have hReached : ∀ band ∈ bands, band.thresholdSpend ≤ spend := by
      intro band hMem
      exact not_lt.mp fun hBeyond => hNext ⟨band, hMem, hBeyond⟩
    exact .inl ⟨hReached, calculateProgressToNextTier_of_reached hNonempty hReached⟩

theorem IsNextThreshold.agrees {spend amount : Money}
    (h : IsNextThreshold spend.value bands threshold)
    (hRemaining : roundedDifference threshold spend.value = .ok (.number amount)) :
    AgreesWithLookup spend bands threshold amount where
  next := h
  earlier other hOther best hBest hThreshold := by
    have hReached := (isTopBand_of_bestBand hBest).reached
    rw [hThreshold] at hReached
    exact absurd (lt_of_lt_remaining h.beyond hRemaining hOther) hReached.not_gt
  reaches next hNext := by
    subst hNext
    have hExact := roundedDifference_exact hRemaining
    obtain ⟨band, hMem, hBand⟩ := h.attained
    have hTop : IsTopBand next.value bands band := by
      refine ⟨hMem, hBand.le, ?_⟩
      intro other hOther hReached
      rw [hBand]
      exact hReached
    obtain ⟨best, hBest⟩ := hTop.exists_bestBand
    refine ⟨?_, best, ((isTopBand_of_bestBand hBest).thresholdSpend_eq hTop).trans hBand, ?_⟩
    · rw [hExact]
      change (⟨spend.units + (next.units - spend.units)⟩ : Money) = next
      rw [add_sub_cancel]
    · intro rebateType hType flatRatePct fixedAmount
      rw [calculateExpectedRebate_banded hType (List.ne_nil_of_mem hMem), hBest]
      rfl

theorem progress_agrees (spend : Money) (bands : List RebateBand) (hNonempty : bands ≠ []) :
    (calculateProgressToNextTier spend.value bands = .ok (none, none) ↔
      ∀ band ∈ bands, band.thresholdSpend ≤ spend.value) ∧
    (∀ threshold remaining, calculateProgressToNextTier spend.value bands =
      .ok (some threshold, some remaining) →
      ∃ amount, remaining = .number amount ∧ AgreesWithLookup spend bands threshold amount) ∧
    ∀ next : Money, IsNextThreshold spend.value bands next.value → (next - spend).Digits →
      calculateProgressToNextTier spend.value bands = .ok (some next.value, some (.number (next - spend))) := by
  refine ⟨?_, ?_, ?_⟩
  · constructor
    · intro hNone band hMem
      obtain ⟨hReached, -⟩ | ⟨threshold, hNext, hPair⟩ :=
        calculateProgressToNextTier_cases hNonempty spend.value
      · exact hReached band hMem
      · rw [hPair] at hNone
        cases hRemaining : roundedDifference threshold spend.value with
        | error message =>
          rw [hRemaining] at hNone
          cases hNone
        | ok remaining =>
          rw [hRemaining] at hNone
          cases hNone
    · exact calculateProgressToNextTier_of_reached hNonempty
  · intro threshold remaining hReturned
    obtain ⟨-, hNone⟩ | ⟨next, hNext, hPair⟩ :=
      calculateProgressToNextTier_cases hNonempty spend.value
    · rw [hNone] at hReturned
      cases hReturned
    · rw [hPair] at hReturned
      cases hRemaining : roundedDifference next spend.value with
      | error message =>
        rw [hRemaining] at hReturned
        cases hReturned
      | ok amount =>
        rw [hRemaining] at hReturned
        cases hReturned
        obtain ⟨amount, rfl, -⟩ := roundedDifference_eq_ok hRemaining
        exact ⟨amount, rfl, hNext.agrees hRemaining⟩
  · intro next hNext hDigits
    rw [calculateProgressToNextTier_of_next hNext, roundedDifference_of_digits hDigits]
    rfl

/-- A second tier from 500 000. -/
theorem progress_agrees_secondTier :
    calculateProgressToNextTier (⟨4000000000⟩ : Money).value [⟨0, 1 / 100⟩, ⟨(⟨5000000000⟩ : Money).value, 2 / 100⟩] =
      .ok (some (⟨5000000000⟩ : Money).value, some (.number ⟨1000000000⟩)) := by
  refine (progress_agrees _ _ (List.cons_ne_nil _ _)).2.2 ⟨5000000000⟩
    ⟨⟨_, List.mem_cons_of_mem _ List.mem_cons_self, rfl⟩, by decide +kernel, ?_⟩ (by decide)
  decide +kernel

/-- A threshold of five decimals is missed by half of the last one. -/
theorem remaining_misses_threshold :
    calculateProgressToNextTier (⟨500000⟩ : Money).value [⟨10000005 / 100000, 1 / 100⟩] =
      .ok (some (10000005 / 100000), some (.number ⟨500000⟩)) ∧
    ¬(10000005 / 100000 : ℚ) ≤ (⟨500000⟩ : Money).value + (⟨500000⟩ : Money).value := by
  decide +kernel

end Agreement

end ProcureFoundation.Rebate
