import ProcureFoundation.Rebate.TierLookup

/-!
# Tiers and marginal sums

The methodology pays each tier's rate on the part of the spend in that tier. The code pays the rate
of the highest band reached on all of the spend, as its unit test expects, which is more by a step
for every band reached.
-/

namespace ProcureFoundation.Rebate

open MarginalSums

variable {spend : ℚ} {bands : List RebateBand} {best : RebateBand}

def earnedByTier (spend : ℚ) (bands : List RebateBand) : ℚ :=
  marginalSum RebateBand.thresholdSpend RebateBand.ratePct spend
    (ascending RebateBand.thresholdSpend bands)

/-- The bands reached, lowest first. -/
def reachedBands (spend : ℚ) (bands : List RebateBand) : List RebateBand :=
  reached RebateBand.thresholdSpend spend (ascending RebateBand.thresholdSpend bands)

def topRate (spend : ℚ) (bands : List RebateBand) : ℚ :=
  lastRate RebateBand.ratePct 0 (reachedBands spend bands)

/-- The threshold of each band reached times the change of the rate there. -/
def thresholdSteps (spend : ℚ) (bands : List RebateBand) : ℚ :=
  stepSum RebateBand.thresholdSpend RebateBand.ratePct 0 (reachedBands spend bands)

theorem mem_reachedBands : best ∈ reachedBands spend bands ↔
    best ∈ bands ∧ best.thresholdSpend ≤ spend := by
  rw [reachedBands, reached, List.mem_filter, (perm_ascending bands).mem_iff, decide_eq_true_iff]

theorem earnedByTier_eq (spend : ℚ) (bands : List RebateBand) :
    earnedByTier spend bands = spend * topRate spend bands - thresholdSteps spend bands :=
  marginalSum_eq (pairwise_ascending bands)

/-- The last band reached is the one the lookup chooses. -/
theorem topRate_eq_of_bestBand (hDistinct : (bands.map RebateBand.thresholdSpend).Nodup)
    (hBest : bestBand spend bands = some best) : topRate spend bands = best.ratePct := by
  have hTop := isTopBand_of_bestBand hBest
  have hMem := mem_reachedBands.mpr ⟨hTop.mem, hTop.reached⟩
  rw [topRate, lastRate_eq_getLast?]
  cases hLast : (reachedBands spend bands).getLast? with
  | none =>
    rw [List.getLast?_eq_none_iff.mp hLast] at hMem
    exact absurd hMem List.not_mem_nil
  | some last =>
    have hLastMem := mem_reachedBands.mp (List.mem_of_getLast? hLast)
    have hSorted : (reachedBands spend bands).Pairwise fun a b =>
        a.thresholdSpend ≤ b.thresholdSpend :=
      (pairwise_ascending bands).filter _
    have hSame : last.thresholdSpend = best.thresholdSpend :=
      le_antisymm (hTop.highest last hLastMem.1 hLastMem.2) (low_le_getLast hSorted hLast best hMem)
    rw [List.inj_on_of_nodup_map hDistinct hLastMem.1 hTop.mem hSame]
    rfl

theorem reachedBands_eq_nil (hNone : bestBand spend bands = none) :
    reachedBands spend bands = [] := by
  refine List.eq_nil_iff_forall_not_mem.mpr ?_
  intro band hMem
  obtain ⟨hIn, hReached⟩ := mem_reachedBands.mp hMem
  exact bestBand_eq_none hNone band hIn hReached

/-- What the lookup pays, next to what the tiers earn. The product has 28 digits, and so has the
result. -/
structure PaysTopRate (spend : ℚ) (bands : List RebateBand) (outcome : Except String Money) :
    Prop where
  unreached : (∀ band ∈ bands, ¬band.thresholdSpend ≤ spend) → outcome = .ok 0 ∧
    earnedByTier spend bands = 0
  top : ∀ band, IsTopBand spend bands band →
    outcome = quantizeCurrency (contextRound (spend * band.ratePct)) ∧
      spend * band.ratePct = earnedByTier spend bands + thresholdSteps spend bands
  fromZero : (∀ band ∈ bands, band.thresholdSpend ≤ spend → band.thresholdSpend = 0) →
    outcome = quantizeCurrency (contextRound (earnedByTier spend bands))

theorem quantizeCurrency_zero : quantizeCurrency (contextRound 0) = .ok 0 := by decide +kernel

theorem tiered_pays_topRate (spend : ℚ) (bands : List RebateBand) (hNonempty : bands ≠ [])
    (hDistinct : (bands.map RebateBand.thresholdSpend).Nodup) (flatRatePct fixedAmount : Option ℚ) :
    PaysTopRate spend bands
      (calculateExpectedRebate spend .tiered flatRatePct (some bands) fixedAmount) := by
  have hOutcome :=
    @calculateExpectedRebate_banded spend bands .tiered flatRatePct fixedAmount (.inl rfl) hNonempty
  have hTop : ∀ band, IsTopBand spend bands band → bestBand spend bands = some band := by
    intro band hBand
    obtain ⟨best, hBest⟩ := hBand.exists_bestBand
    have hSame := hBand.thresholdSpend_eq (isTopBand_of_bestBand hBest)
    rw [hBest, List.inj_on_of_nodup_map hDistinct hBand.mem (isTopBand_of_bestBand hBest).mem hSame]
  have hEarned := earnedByTier_eq spend bands
  constructor
  · intro hNone
    have hBest : bestBand spend bands = none := by
      cases hBest : bestBand spend bands with
      | none => rfl
      | some best =>
        have hBand := isTopBand_of_bestBand hBest
        exact absurd hBand.reached (hNone best hBand.mem)
    rw [topRate, thresholdSteps, reachedBands_eq_nil hBest, lastRate, stepSum, mul_zero, sub_zero]
      at hEarned
    rw [hOutcome, hBest]
    exact ⟨rfl, hEarned⟩
  · intro band hBand
    rw [hOutcome, hTop band hBand, hEarned, topRate_eq_of_bestBand hDistinct (hTop band hBand),
      sub_add_cancel]
    exact ⟨rfl, rfl⟩
  · intro hZero
    have hSteps : thresholdSteps spend bands = 0 :=
      stepSum_eq_zero fun band hBand =>
        hZero band (mem_reachedBands.mp hBand).1 (mem_reachedBands.mp hBand).2
    rw [hSteps, sub_zero] at hEarned
    rw [hOutcome, hEarned]
    cases hBest : bestBand spend bands with
    | none =>
      rw [topRate, reachedBands_eq_nil hBest, lastRate, mul_zero, quantizeCurrency_zero]
      rfl
    | some best =>
      rw [topRate_eq_of_bestBand hDistinct hBest]
      rfl

section Samples

/-- One per cent, from a million two and a half and from five million four. -/
def supplierBands : List RebateBand := [⟨0, 1 / 100⟩, ⟨1000000, 25 / 1000⟩, ⟨5000000, 4 / 100⟩]

theorem ascending_supplierBands :
    ascending RebateBand.thresholdSpend supplierBands = supplierBands := by
  refine List.mergeSort_of_pairwise ?_
  decide +kernel

theorem reachedBands_supplierBands :
    reachedBands 2500000 supplierBands = [⟨0, 1 / 100⟩, ⟨1000000, 25 / 1000⟩] := by
  rw [reachedBands, ascending_supplierBands]
  decide +kernel

/-- On half a million all of the spend lies in the first tier. -/
theorem firstTier_marginal : calculateExpectedRebate 500000 .tiered none (some supplierBands) none =
    quantizeCurrency (contextRound (earnedByTier 500000 supplierBands)) := by
  refine (tiered_pays_topRate 500000 supplierBands (List.cons_ne_nil _ _)
    (by decide +kernel) none none).fromZero ?_
  decide +kernel

/-- The second tier is paid on the first million too. -/
theorem secondTier_paid_throughout :
    calculateExpectedRebate 2500000 .tiered none (some supplierBands) none = .ok (roundCurrency 62500) ∧
    roundCurrency (earnedByTier 2500000 supplierBands) = roundCurrency 47500 ∧
    ¬calculateExpectedRebate 2500000 .tiered none (some supplierBands) none =
      .ok (roundCurrency (earnedByTier 2500000 supplierBands)) := by
  have hPaid : calculateExpectedRebate 2500000 .tiered none (some supplierBands) none =
      .ok (roundCurrency 62500) := by
    decide +kernel
  have hEarned : earnedByTier 2500000 supplierBands = 47500 := by
    rw [earnedByTier_eq, topRate, thresholdSteps, reachedBands_supplierBands]
    decide +kernel
  rw [hPaid, hEarned]
  exact ⟨rfl, rfl, by decide +kernel⟩

end Samples

end ProcureFoundation.Rebate
