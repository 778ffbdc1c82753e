import ProcureFoundation.CapitalInvestment.InternalRate
import ProcureFoundation.Foundation.RoundingBounds

/-!
# How near the reported rate is

The search ends at the first midpoint at which the value is below the tolerance, however far from
the rate that is: of small or late flows the value is small over a wide range of rates. Where it is
small near the rate only, the rate that is reported is near. No flows with a rate in the bracket are
so at every scale: scaled down enough, the middle of the bracket is reported.
-/

namespace ProcureFoundation.CapitalInvestment

def errorBound : ℚ := 2 / 1000000

def calculateIrrByDefault (cashFlows : List ℚ) : Option Rate :=
  calculateIrr cashFlows defaultIterations defaultTolerance

/-- A reported rate is near the only rate at which the value of the given flows is zero. -/
def ReportsRateOf (reported cashFlows : List ℚ) : Prop :=
  ∀ rate, calculateIrrByDefault reported = some rate →
    ∃ root, IsIrr cashFlows root ∧ (∀ other, IsIrr cashFlows other → other = root) ∧
      |(rate.value : ℝ) - root| < errorBound

/-- If the signs of the flows change once and their rate lies in the bracket, the value is small
only near it. -/
def SmallOnlyNear (cashFlows : List ℚ) : Prop :=
  countSignChanges cashFlows = 1 → ∀ root, IsIrr cashFlows root → lowestRate ≤ root →
    root ≤ highestRate →
    ∀ r : ℚ, lowestRate ≤ r → r ≤ highestRate → (3 / 2000000 : ℝ) ≤ |r - root| →
      defaultTolerance ≤ |npvAtRate r cashFlows|

section Nearness

variable {cashFlows : List ℚ} {factor : ℚ}

theorem bracketAfter_within (i : ℕ) :
    lowestRate ≤ (bracketAfter cashFlows i).low ∧ (bracketAfter cashFlows i).high ≤
      highestRate := by
  induction i with
  | zero => exact ⟨le_rfl, le_rfl⟩
  | succ i ih =>
    obtain ⟨hLow, hHigh⟩ := mid_between (@proper_bracketAfter cashFlows i).order
    rw [bracketAfter_succ, narrow]
    split
    · exact ⟨ih.1.trans hLow.le, ih.2⟩
    · exact ⟨ih.1, hHigh.le.trans ih.2⟩

theorem roundRate_near {point : ℚ} {root : ℝ} (hNear : |(point : ℝ) - root| < 3 / 2000000) :
    |((roundRate point).value : ℝ) - root| < errorBound := by
  have hRounded : |(roundRate point).value - point| ≤ 1 / 2000000 := by
    have hUnit := (roundHalfEven_spec (point * 10 ^ 6)).1
    have hScaled : (roundHalfEven (point * 10 ^ 6) : ℚ) - point * 10 ^ 6 =
        ((roundRate point).value - point) * 10 ^ 6 := by
      rw [sub_mul, FixedPoint.value_mul]
      rfl
    rw [hScaled, abs_mul, abs_of_pos (by norm_num : (0 : ℚ) < 10 ^ 6)] at hUnit
    linarith
  have hRoundedReal : |((roundRate point).value : ℝ) - point| ≤ 1 / 2000000 := by
    have hCast : ((|(roundRate point).value - point| : ℚ) : ℝ) ≤ ((1 / 2000000 : ℚ) : ℝ) :=
      Rat.cast_le.mpr hRounded
    push_cast at hCast
    exact hCast
  calc |((roundRate point).value : ℝ) - root|
      ≤ |((roundRate point).value : ℝ) - point| + |(point : ℝ) - root| := abs_sub_le _ _ _
    _ < 1 / 2000000 + 3 / 2000000 := add_lt_add_of_le_of_lt hRoundedReal hNear
    _ = errorBound := by norm_num [errorBound]

theorem reportsRateOf_of_smallOnlyNear {reported : List ℚ}
    (hSame : ∀ r, IsIrr reported r ↔ IsIrr cashFlows r) (h : SmallOnlyNear reported) :
    ReportsRateOf reported cashFlows := by
  intro rate hRate
  obtain ⟨hOne, i, hEnters, -, hSmall, rfl⟩ := calculateIrr_eq_some_iff.mp hRate
  obtain ⟨root, hRoot, hOnly⟩ := existsUnique_isIrr hOne
  have hEncloses := (bracketed_iff hOne hRoot).mp hEnters.bracketed
  refine ⟨root, (hSame root).mp hRoot, fun other hOther =>
    hOnly other ((hSame other).mpr hOther), ?_⟩
  obtain ⟨hLow, hHigh⟩ := mid_between (@proper_bracketAfter reported i).order
  obtain ⟨hLowest, hHighest⟩ := @bracketAfter_within reported i
  refine roundRate_near (not_le.mp fun hFar => hSmall.not_ge ?_)
  exact h hOne root hRoot hEncloses.low hEncloses.high _ (hLowest.trans hLow.le)
    (hHigh.le.trans hHighest) hFar

/-- Later and larger or smaller by one factor. -/
def delayedAndScaled (zeros : ℕ) (factor : ℚ) (cashFlows : List ℚ) : List ℚ :=
  List.replicate zeros 0 ++ cashFlows.map (factor * ·)

theorem realNpv_delayedAndScaled (zeros : ℕ) (factor : ℚ) (r : ℝ) :
    realNpv (delayedAndScaled zeros factor cashFlows) r =
    (1 + r)⁻¹ ^ zeros * (factor * realNpv cashFlows r) := by
  have hMap : (delayedAndScaled zeros factor cashFlows).map (Rat.castHom ℝ) =
      List.replicate zeros 0 ++ (cashFlows.map (Rat.castHom ℝ)).map ((factor : ℝ) * ·) := by
    rw [delayedAndScaled, List.map_append, List.map_replicate, map_zero, List.map_map, List.map_map]
    refine congrArg _ (List.map_congr_left fun cf _ => ?_)
    exact map_mul (Rat.castHom ℝ) factor cf
  rw [realNpv, hMap, npvAtRate_replicate_zero, npvAtRate_mul]
  rfl

theorem isIrr_delayedAndScaled_iff (zeros : ℕ) (hFactor : 0 < factor) (r : ℝ) :
    IsIrr (delayedAndScaled zeros factor cashFlows) r ↔ IsIrr cashFlows r := by
  have hReal : (factor : ℝ) ≠ 0 := by exact_mod_cast hFactor.ne'
  constructor
  · rintro ⟨hAbove, hZero⟩
    rw [realNpv_delayedAndScaled] at hZero
    have hDiscount := pow_ne_zero zeros (inv_pos_of_rate hAbove).ne'
    exact ⟨hAbove,
      (mul_eq_zero.mp ((mul_eq_zero.mp hZero).resolve_left hDiscount)).resolve_left hReal⟩
  · rintro ⟨hAbove, hZero⟩
    refine ⟨hAbove, ?_⟩
    rw [realNpv_delayedAndScaled, hZero, mul_zero, mul_zero]

theorem countSignChanges_delayedAndScaled (zeros : ℕ) (hFactor : 0 < factor) :
    countSignChanges (delayedAndScaled zeros factor cashFlows) = countSignChanges cashFlows := by
  have hNonzero : (delayedAndScaled zeros factor cashFlows).filter (· ≠ 0) =
      (cashFlows.filter (· ≠ 0)).map (factor * ·) := by
    have hZeros : (List.replicate zeros (0 : ℚ)).filter (· ≠ 0) = [] := by
      refine List.filter_eq_nil_iff.mpr fun cf hcf => ?_
      rw [(List.mem_replicate.mp hcf).2]
      decide
    rw [delayedAndScaled, List.filter_append, hZeros, List.nil_append, List.filter_map]
    refine congrArg _ (List.filter_congr fun cf _ => ?_)
    simp only [Function.comp_apply, ne_eq, mul_eq_zero, hFactor.ne', false_or]
  unfold countSignChanges
  dsimp only
  rw [hNonzero, List.length_map, ← List.map_tail, List.zip_map, List.filter_map, List.length_map]
  simp only [Function.comp_def, Prod.map_fst, Prod.map_snd, mul_pos_iff_of_pos_left hFactor]

/-- Scaled down, the flows are small in the middle of the bracket, and the search ends there. -/
theorem exists_scale_reporting_middle (hOne : countSignChanges cashFlows = 1) {root : ℝ}
    (hRoot : IsIrr cashFlows root) (hLow : lowestRate ≤ root) (hHigh : root ≤ highestRate) :
    ∃ factor, 0 < factor ∧ calculateIrrByDefault (delayedAndScaled 0 factor cashFlows) =
      some (roundRate ((lowestRate + highestRate) / 2)) := by
  let value := |npvAtRate ((lowestRate + highestRate) / 2) cashFlows|
  have hValue : 0 ≤ value := abs_nonneg _
  have hTolerance : 0 < defaultTolerance := by norm_num [defaultTolerance]
  have hFactor : 0 < defaultTolerance / (value + 1) := div_pos hTolerance (by linarith)
  refine ⟨defaultTolerance / (value + 1), hFactor, ?_⟩
  have hScaledOne := (countSignChanges_delayedAndScaled 0 hFactor).trans hOne
  have hScaledRoot := (isIrr_delayedAndScaled_iff 0 hFactor root).mpr hRoot
  refine calculateIrr_eq_some_iff.mpr
    ⟨hScaledOne, 0, ⟨(bracketed_iff hScaledOne hScaledRoot).mpr ⟨hLow, hHigh⟩,
    Nat.zero_le _, fun i hi => absurd hi (Nat.not_lt_zero i)⟩, by decide, ?_, rfl⟩
  have hNpv : npvAtRate ((lowestRate + highestRate) / 2)
      (delayedAndScaled 0 (defaultTolerance / (value + 1)) cashFlows) =
        defaultTolerance / (value + 1) * npvAtRate ((lowestRate + highestRate) / 2) cashFlows :=
    npvAtRate_mul _
  change |npvAtRate ((lowestRate + highestRate) / 2) _| < _
  rw [hNpv, abs_mul, abs_of_pos hFactor, div_mul_eq_mul_div, div_lt_iff₀ (by linarith)]
  exact mul_lt_mul_of_pos_left (lt_add_one value) hTolerance

/-- The rate reported for flows, or for the same flows delayed and scaled, is near their only rate
where their value is small only there. Of flows with a rate in the bracket no more holds: scaled by
every factor they report it only if it is the middle of the bracket. -/
theorem reported_rate_near (cashFlows : List ℚ) :
    (SmallOnlyNear cashFlows → ReportsRateOf cashFlows cashFlows) ∧
    (∀ zeros factor, 0 < factor → SmallOnlyNear (delayedAndScaled zeros factor cashFlows) →
      ReportsRateOf (delayedAndScaled zeros factor cashFlows) cashFlows) ∧
    ((∀ zeros factor, 0 < factor →
      ReportsRateOf (delayedAndScaled zeros factor cashFlows) cashFlows) →
      countSignChanges cashFlows = 1 → ∀ root, IsIrr cashFlows root → lowestRate ≤ root →
        root ≤ highestRate →
        |(((lowestRate + highestRate) / 2 : ℚ) : ℝ) - root| < errorBound) := by
  refine ⟨reportsRateOf_of_smallOnlyNear fun _ => Iff.rfl, fun zeros factor hFactor =>
    reportsRateOf_of_smallOnlyNear (isIrr_delayedAndScaled_iff zeros hFactor), ?_⟩
  intro hAll hOne root hRoot hLow hHigh
  obtain ⟨factor, hFactor, hReported⟩ := exists_scale_reporting_middle hOne hRoot hLow hHigh
  obtain ⟨other, hOther, -, hNear⟩ := hAll 0 factor hFactor _ hReported
  obtain rfl := (existsUnique_isIrr hOne).unique hOther hRoot
  have hMiddle : (roundRate ((lowestRate + highestRate) / 2)).value =
    (lowestRate + highestRate) / 2 := by decide +kernel
  rwa [hMiddle] at hNear

theorem isIrr_tenPercent : IsIrr [-100, 110] ((1 / 10 : ℚ) : ℝ) := by
  refine ⟨by norm_num, ?_⟩
  rw [realNpv_cast, Rat.cast_eq_zero]
  decide +kernel

theorem smallOnlyNear_tenPercent : SmallOnlyNear [-100, 110] := by
  intro hOne root hRoot _ _ r hLow hHigh hFar
  obtain rfl := (existsUnique_isIrr hOne).unique hRoot isIrr_tenPercent
  have hCast : ((3 / 2000000 : ℚ) : ℝ) ≤ ((|r - 1 / 10| : ℚ) : ℝ) := by
    push_cast at hFar ⊢
    exact hFar
  have hDistance : 3 / 2000000 ≤ |r - 1 / 10| := Rat.cast_le.mp hCast
  have hPos : 0 < 1 + r := by
    rw [lowestRate] at hLow
    linarith
  have hBelow : 1 + r ≤ 101 := by
    rw [highestRate] at hHigh
    linarith
  have hNpv : npvAtRate r [-100, 110] = -(100 * (r - 1 / 10)) / (1 + r) := by
    rw [npvAtRate_eq, powerSum, powerSum, powerSum]
    field_simp
    ring
  rw [hNpv, abs_div, abs_neg, abs_mul, abs_of_pos hPos, le_div_iff₀ hPos, defaultTolerance]
  norm_num
  linarith

theorem reported_rate_near_tenPercent : ReportsRateOf [-100, 110] [-100, 110] :=
  (reported_rate_near [-100, 110]).1 smallOnlyNear_tenPercent

/-- Flows of a few hundred millionths with the rate 1 are reported as 49.50005. -/
theorem not_forall_rates_near :
    calculateIrrByDefault [-1 / 100000000, 2 / 100000000] = some ⟨49500050⟩ ∧
    ¬ReportsRateOf [-1 / 100000000, 2 / 100000000] [-1 / 100000000, 2 / 100000000] := by
  have hReported : calculateIrrByDefault [-1 / 100000000, 2 / 100000000] = some ⟨49500050⟩ := by
    decide +kernel
  refine ⟨hReported, fun h => ?_⟩
  have hRoot : IsIrr [-1 / 100000000, 2 / 100000000] ((1 : ℚ) : ℝ) := by
    refine ⟨by norm_num, ?_⟩
    rw [realNpv_cast, Rat.cast_eq_zero]
    decide +kernel
  obtain ⟨root, -, hOnly, hNear⟩ := h _ hReported
  rw [← hOnly _ hRoot] at hNear
  have hRational : |(⟨49500050⟩ : Rate).value - 1| < errorBound := by exact_mod_cast hNear
  revert hRational
  decide +kernel

end Nearness

end ProcureFoundation.CapitalInvestment
