import ProcureFoundation.Foundation.RoundingOrder
import ProcureFoundation.PriceReview.FreshFigures

/-!
# Margin impact of a price movement

The methodology's money impact is the movement of the cost times the annual quantity. The code
multiplies the quantity with the movement of the margin percentages, which stays the same when all
prices are scaled.
-/

namespace ProcureFoundation.PriceReview

open Outcome

variable {line : PriceReviewLine ℚ} {oldCost newCost sellingPrice quantity : ℚ}

def marginImpact (sellingPrice oldCost newCost quantity : ℚ) : Money :=
  calculateAnnualImpact (roundedMarginPct sellingPrice newCost - roundedMarginPct sellingPrice oldCost).value quantity

/-- The methodology's amount, in either direction. -/
def IsMarginValueImpact (impact : Option Money) (oldCost newCost quantity : ℚ) : Prop :=
  impact = some (roundCurrency ((newCost - oldCost) * quantity)) ∨
    impact = some (roundCurrency ((oldCost - newCost) * quantity))

def StoresMarginValueImpact (line : PriceReviewLine ℚ) (oldCost newCost quantity : ℚ) : Prop :=
  ∃ after, calculateLineMovement line = .ok after ∧
    IsMarginValueImpact after.figures.annualMarginImpact oldCost newCost quantity

/-- The line with every price in another unit of money. -/
def PriceReviewLine.scaled (factor : ℚ) (line : PriceReviewLine ℚ) : PriceReviewLine ℚ :=
  { line with
    old := line.old.map (factor * ·)
    new := line.new.map (factor * ·)
    sellingPrice := line.sellingPrice.map (factor * ·) }

section Stored

theorem calculate_marginImpact (hLive : line.matchStatus.isLive = true)
    (hCosts : comparison line = some (oldCost, newCost))
    (hSelling : line.sellingPrice = some sellingPrice) (hNonzero : sellingPrice ≠ 0)
    (hQuantity : line.annualQuantity = some quantity) :
    ∃ after, calculateLineMovement line = .ok after ∧
      after.figures.annualMarginImpact =
        some (marginImpact sellingPrice oldCost newCost quantity) := by
  have hBasis : line.comparisonBasis ≠ .unitMismatch := by
    intro hMismatch
    rw [comparison_of_unitMismatch hMismatch] at hCosts
    cases hCosts
  have hMargin : ∀ cost, calculateGrossMargin sellingPrice cost =
      .ok (roundedMarginPct sellingPrice cost) :=
    fun _ => calculateGrossMargin_of_ne hNonzero
  have hCompared : line.comparedPrices line.comparisonBasis = some (oldCost, newCost) := by
    rw [comparison, if_neg hBasis] at hCosts
    exact hCosts
  rw [calculateLineMovement, hLive, Bool.not_true, if_neg Bool.false_ne_true]
  dsimp only
  rw [if_neg hBasis, hCompared]
  dsimp only
  rw [hSelling, hQuantity]
  unfold applyMargins
  dsimp only
  rw [hMargin oldCost, hMargin newCost]
  exact ⟨_, rfl, rfl⟩

theorem stores_iff (hLive : line.matchStatus.isLive = true)
    (hCosts : comparison line = some (oldCost, newCost))
    (hSelling : line.sellingPrice = some sellingPrice) (hNonzero : sellingPrice ≠ 0)
    (hQuantity : line.annualQuantity = some quantity) :
    StoresMarginValueImpact line oldCost newCost quantity ↔
      IsMarginValueImpact (some (marginImpact sellingPrice oldCost newCost quantity)) oldCost
        newCost quantity := by
  obtain ⟨after, hAfter, hImpact⟩ := calculate_marginImpact hLive hCosts hSelling hNonzero hQuantity
  constructor
  · rintro ⟨other, hOther, hMethodology⟩
    obtain rfl := Except.ok.inj (hOther.symm.trans hAfter)
    rwa [hImpact] at hMethodology
  · intro hMethodology
    exact ⟨after, hAfter, hImpact ▸ hMethodology⟩

theorem comparison_scaled (hCosts : comparison line = some (oldCost, newCost)) (factor : ℚ) :
    comparison (line.scaled factor) = some (factor * oldCost, factor * newCost) := by
  have hBasis : (line.scaled factor).comparisonBasis = line.comparisonBasis :=
    determineComparisonBasis_map (factor * ·) _ _ _ _
  rw [comparison, hBasis]
  rw [comparison] at hCosts
  split at hCosts
  · cases hCosts
  · rename_i hComparable
    rw [if_neg hComparable]
    obtain ⟨cmpOld, hOld, hCosts⟩ := Option.bind_eq_some_iff.mp hCosts
    obtain ⟨cmpNew, hNew, hCosts⟩ := Option.map_eq_some_iff.mp hCosts
    obtain ⟨rfl, rfl⟩ := Prod.mk.inj hCosts
    unfold PriceReviewLine.comparedPrices
    split at hOld
    · rename_i hNormalized
      rw [if_pos hNormalized] at hNew
      simp only [if_pos hNormalized, PriceReviewLine.scaled, ListSide.map, hOld, hNew,
        Option.map_some, Option.bind_some]
    · rename_i hRaw
      rw [if_neg hRaw] at hNew
      simp only [if_neg hRaw, PriceReviewLine.scaled, ListSide.map, hOld, hNew, Option.map_some,
        Option.bind_some]

end Stored

section Bounds

variable {factor : ℚ}

/-- The margins do not grow with the unit of money. -/
theorem abs_roundedMarginPct_scaled (hFactor : 0 < factor) (cost : ℚ) :
    |(roundedMarginPct (factor * sellingPrice) (factor * cost)).value| ≤
      4 * |(sellingPrice - cost) / sellingPrice| + 1 := by
  have hRound := FixedPoint.abs_value_quantize_sub_le 6
    (contextRound (contextRound (factor * sellingPrice - factor * cost) / (factor * sellingPrice)))
  have hOuter :=
    abs_contextRound_le (contextRound (factor * sellingPrice - factor * cost) / (factor * sellingPrice))
  have hInner := abs_contextRound_le (factor * sellingPrice - factor * cost)
  have hQuotient : |contextRound (factor * sellingPrice - factor * cost) /
    (factor * sellingPrice)| ≤
      2 * |(sellingPrice - cost) / sellingPrice| := by
    rw [abs_div]
    refine (div_le_div_of_nonneg_right hInner (abs_nonneg _)).trans_eq ?_
    rw [← mul_sub, abs_mul, abs_mul, abs_div, mul_div_assoc,
      mul_div_mul_left _ _ (abs_pos.mpr hFactor.ne').ne']
  have hTriangle :=
    abs_sub_abs_le_abs_sub (roundedMarginPct (factor * sellingPrice) (factor * cost)).value
      (contextRound (contextRound (factor * sellingPrice - factor * cost) / (factor * sellingPrice)))
  rw [roundedMarginPct, roundPercentage] at hTriangle ⊢
  linarith

theorem exists_impact_bound (sellingPrice oldCost newCost quantity : ℚ) :
    ∃ bound, ∀ factor : ℚ, 0 < factor →
    |(marginImpact (factor * sellingPrice) (factor * oldCost) (factor * newCost) quantity).value| ≤
      bound := by
  refine ⟨2 * ((4 * |(sellingPrice - newCost) / sellingPrice| + 1 +
    (4 * |(sellingPrice - oldCost) / sellingPrice| + 1)) *
    |quantity|) + 1, ?_⟩
  intro factor hFactor
  have hNew := @abs_roundedMarginPct_scaled sellingPrice factor hFactor newCost
  have hOld := @abs_roundedMarginPct_scaled sellingPrice factor hFactor oldCost
  rw [marginImpact, calculateAnnualImpact, roundCurrency, FixedPoint.value_sub]
  generalize (roundedMarginPct (factor * sellingPrice) (factor * newCost)).value = newPct at hNew ⊢
  generalize (roundedMarginPct (factor * sellingPrice) (factor * oldCost)).value = oldPct at hOld ⊢
  have hRound :=
    FixedPoint.abs_value_quantize_sub_le 4 (contextRound ((newPct - oldPct) * quantity))
  have hContext := abs_contextRound_le ((newPct - oldPct) * quantity)
  have hProduct : |(newPct - oldPct) * quantity| ≤
    (4 * |(sellingPrice - newCost) / sellingPrice| + 1 +
      (4 * |(sellingPrice - oldCost) / sellingPrice| + 1)) * |quantity| := by
    rw [abs_mul]
    exact mul_le_mul_of_nonneg_right ((abs_sub _ _).trans (add_le_add hNew hOld)) (abs_nonneg _)
  have hTriangle :=
    abs_sub_abs_le_abs_sub (FixedPoint.quantize 4 (contextRound ((newPct - oldPct) * quantity))).value
      (contextRound ((newPct - oldPct) * quantity))
  linarith

/-- The methodology's amount grows with the unit of money. -/
theorem exists_impact_above {difference : ℚ} (hDifference : difference * quantity ≠ 0) (bound : ℚ) :
    ∃ factor : ℚ, 0 < factor ∧
    bound < |(roundCurrency (factor * difference * quantity)).value| := by
  have hPositive : 0 < |difference * quantity| := abs_pos.mpr hDifference
  refine ⟨(|bound| + 2) / |difference * quantity|, div_pos (by positivity) hPositive, ?_⟩
  have hFactor : |(|bound| + 2) / |difference * quantity| * difference * quantity| =
      |bound| + 2 := by
    rw [mul_assoc, abs_mul, abs_div, abs_abs, div_mul_cancel₀ _ hPositive.ne']
    exact abs_of_pos (by positivity)
  have hRound :=
    FixedPoint.abs_value_quantize_sub_le 4
      ((|bound| + 2) / |difference * quantity| * difference * quantity)
  rw [abs_sub_comm] at hRound
  have hTriangle :=
    abs_sub_abs_le_abs_sub ((|bound| + 2) / |difference * quantity| * difference * quantity)
      (FixedPoint.quantize 4 ((|bound| + 2) / |difference * quantity| * difference * quantity)).value
  rw [roundCurrency]
  have hBound := le_abs_self bound
  linarith

end Bounds

section Scales

theorem marginImpact_of_constant (sellingPrice cost quantity : ℚ) :
    marginImpact sellingPrice cost cost quantity = 0 := by
  rw [marginImpact, FixedPoint.value_sub, sub_self, calculateAnnualImpact, zero_mul,
    contextRound_zero]
  exact (congrArg roundCurrency FixedPoint.value_zero.symm).trans (FixedPoint.quantize_value 0)

theorem marginImpact_of_no_quantity (sellingPrice oldCost newCost : ℚ) :
    marginImpact sellingPrice oldCost newCost 0 = 0 := by
  rw [marginImpact, calculateAnnualImpact, mul_zero, contextRound_zero]
  exact (congrArg roundCurrency FixedPoint.value_zero.symm).trans (FixedPoint.quantize_value 0)

theorem roundCurrency_neg (q : ℚ) : |(roundCurrency (-q)).value| = |(roundCurrency q).value| := by
  rw [roundCurrency, roundCurrency, FixedPoint.quantize, FixedPoint.quantize, neg_mul,
    roundHalfEven_neg, FixedPoint.value, FixedPoint.value, Int.cast_neg, neg_div, abs_neg]

/-- The stored impact is the methodology's exactly when no midpoint of the fourth decimal lies
between the quantity times the movement of the margins and the quantity times the movement of the
cost, in one direction or the other; and it is in every unit of money exactly when nothing moves. -/
theorem margin_impact_iff (hLive : line.matchStatus.isLive = true)
    (hCosts : comparison line = some (oldCost, newCost))
    (hSelling : line.sellingPrice = some sellingPrice) (hPositive : 0 < sellingPrice)
    (hQuantity : line.annualQuantity = some quantity) :
    (StoresMarginValueImpact line oldCost newCost quantity ↔
      ∃ direction ∈ [newCost - oldCost, oldCost - newCost], NoMidpointBetween
        (contextRound
          ((roundedMarginPct sellingPrice newCost - roundedMarginPct sellingPrice oldCost).value *
            quantity) *
          10 ^ 4) (direction * quantity * 10 ^ 4)) ∧
    ((∀ factor : ℚ, 0 < factor →
        StoresMarginValueImpact (line.scaled factor) (factor * oldCost)
        (factor * newCost) quantity) ↔
      newCost = oldCost ∨ quantity = 0) := by
  have hScaled : ∀ factor : ℚ, 0 < factor →
      (StoresMarginValueImpact (line.scaled factor) (factor * oldCost) (factor * newCost) quantity ↔
        IsMarginValueImpact
          (some (marginImpact (factor * sellingPrice) (factor * oldCost) (factor * newCost) quantity))
          (factor * oldCost) (factor * newCost) quantity) := by
    intro factor hFactor
    exact stores_iff hLive (comparison_scaled hCosts factor) (congrArg (Option.map (factor * ·)) hSelling)
      (mul_pos hFactor hPositive).ne' hQuantity
  constructor
  · rw [stores_iff hLive hCosts hSelling hPositive.ne' hQuantity, IsMarginValueImpact,
      Option.some.injEq,
      Option.some.injEq, marginImpact, calculateAnnualImpact, roundCurrency, roundCurrency,
      roundCurrency,
      FixedPoint.quantize_eq_iff, FixedPoint.quantize_eq_iff, List.exists_mem_cons_iff,
      List.exists_mem_cons_iff]
    simp only [List.not_mem_nil, false_and, exists_false, or_false]
  constructor
  · intro hAll
    by_contra hMoves
    obtain ⟨hCost, hSome⟩ := not_or.mp hMoves
    obtain ⟨bound, hBound⟩ := exists_impact_bound sellingPrice oldCost newCost quantity
    obtain ⟨factor, hFactor, hAbove⟩ :=
      exists_impact_above (mul_ne_zero (sub_ne_zero.mpr hCost) hSome) bound
    have hBelow := hBound factor hFactor
    obtain hSame | hSame := (hScaled factor hFactor).mp (hAll factor hFactor)
    · rw [Option.some.inj hSame, ← mul_sub] at hBelow
      exact absurd hAbove hBelow.not_gt
    · rw [Option.some.inj hSame, ← mul_sub, ← neg_sub newCost oldCost, mul_neg, neg_mul,
        roundCurrency_neg] at hBelow
      exact absurd hAbove hBelow.not_gt
  · intro hStill factor hFactor
    refine (hScaled factor hFactor).mpr (.inl (congrArg some ?_))
    have hNothing : (factor * newCost - factor * oldCost) * quantity = 0 := by
      obtain rfl | rfl := hStill
      · rw [sub_self, zero_mul]
      · rw [mul_zero]
    rw [hNothing]
    refine Eq.trans ?_
      ((congrArg roundCurrency FixedPoint.value_zero.symm).trans (FixedPoint.quantize_value 0)).symm
    obtain rfl | rfl := hStill
    · exact marginImpact_of_constant _ _ _
    · exact marginImpact_of_no_quantity _ _ _

end Scales

section Samples

/-- A line sold at 20 whose cost moves from 10 to 12, with a thousand bought a year. -/
def soldLine : PriceReviewLine ℚ where
  old := { ListSide.empty with price := some 10 }
  new := { ListSide.empty with price := some 12 }
  matchStatus := .matched
  matchMethod := .manualOverride
  matchConfidence := none
  matchConfirmedByUserId := none
  annualQuantity := some 1000
  quantitySource := some .manual
  quantityConfidence := some .low
  sellingPrice := some 20
  targetPrice := none
  finalNegotiatedPrice := none
  figures := Figures.none

theorem soldLine_unequal_in_some_unit : ¬∀ factor : ℚ, 0 < factor →
    StoresMarginValueImpact (soldLine.scaled factor) (factor * 10) (factor * 12) 1000 := by
  intro hAll
  obtain hSame | hNone :=
    ((@margin_impact_iff soldLine 10 12 20 1000 rfl (by decide +kernel) rfl (by norm_num) rfl).2.mp hAll)
  · exact absurd hSame (by norm_num)
  · exact absurd hNone (by norm_num)

/-- A hundred is stored where the methodology has two thousand. -/
theorem soldLine_impact_is_no_amount : ∃ after, calculateLineMovement soldLine = .ok after ∧
    after.figures.annualMarginImpact = some ⟨-1000000⟩ ∧ roundCurrency ((12 - 10) * 1000) =
      ⟨20000000⟩ ∧
    ¬IsMarginValueImpact after.figures.annualMarginImpact 10 12 1000 := by
  obtain ⟨after, hAfter, hImpact⟩ := @exists_of_any _ _ (calculateLineMovement soldLine)
    (fun after => decide (after.figures.annualMarginImpact = some ⟨-1000000⟩)) (by decide +kernel)
  have hStored := of_decide_eq_true hImpact
  refine ⟨after, hAfter, hStored, by decide +kernel, ?_⟩
  rw [hStored, IsMarginValueImpact]
  decide +kernel

end Samples

end ProcureFoundation.PriceReview
