import ProcureFoundation.PriceReview.FreshFigures
import ProcureFoundation.PriceReview.StoredRows

/-!
# Figures and the columns that hold them

The columns of a line bound its figures, while relative changes and margins are unbounded in the
prices they are calculated from. An update completes exactly when its own amounts and the
figures that follow from them stay below the limits of their columns.
-/

namespace ProcureFoundation.PriceReview

open Matching Outcome

/-- The least magnitude that rounds to 1000 as a percentage of six decimals. -/
def percentageLimit : ℚ := 1000 - 5 / 10 ^ 7 - 5 / 10 ^ 26

/-- The least magnitude that rounds to 10¹⁴ when it is assigned to a money column. -/
def amountLimit : ℚ := 10 ^ 14 - 5 / 10 ^ 5

/-- The least magnitude that rounds to 10¹⁴ as a calculated amount of four decimals. -/
def impactLimit : ℚ := 10 ^ 14 - 5 / 10 ^ 5 - 5 / 10 ^ 15

structure MarginsFit (sellingPrice cmpOld cmpNew : ℚ) (annualQuantity : Option ℚ) : Prop where
  nonzero : sellingPrice ≠ 0
  oldMargin : |contextRound (sellingPrice - cmpOld) / sellingPrice| < percentageLimit
  newMargin : |contextRound (sellingPrice - cmpNew) / sellingPrice| < percentageLimit
  movement : |(roundedMarginPct sellingPrice cmpNew).value - (roundedMarginPct sellingPrice
    cmpOld).value| < 1000
  impact : ∀ quantity, annualQuantity = some quantity →
    |((roundedMarginPct sellingPrice cmpNew).value - (roundedMarginPct sellingPrice cmpOld).value) *
      quantity| < impactLimit

/-- What the prices of a comparison, the quantity and the selling price must satisfy. -/
structure ComparisonFits (cmpOld cmpNew : ℚ) (annualQuantity sellingPrice : Option ℚ) : Prop where
  percentage : cmpOld ≠ 0 → |(cmpNew - cmpOld) / cmpOld| < percentageLimit
  impact : ∀ quantity, annualQuantity = some quantity → |(cmpNew - cmpOld) * quantity| < impactLimit
  margins : ∀ price, sellingPrice = some price → MarginsFit price cmpOld cmpNew annualQuantity

/-- A line that is calculated compares prices whose figures fit, if it compares any. -/
def MovementFits (line : PriceReviewLine ℚ) : Prop :=
  line.matchStatus.isLive = true → ∀ cmpOld cmpNew, comparison line = some (cmpOld, cmpNew) →
    ComparisonFits cmpOld cmpNew line.annualQuantity line.sellingPrice

/-- What a quantity update must satisfy on a row. -/
structure QuantityFits (row : LineRow) (payload : ManualQuantityUpdate) : Prop where
  quantity : payload.annualQuantity < amountLimit
  sellingPrice : ∀ price, payload.sellingPrice = some price → |price| < amountLimit
  movement : MovementFits (withQuantity row payload)

/-- What a decision must satisfy on a row; one that takes the line out of the comparison nothing. -/
def DecisionFits (userId : ℕ) (row : LineRow) (candidate : Option LineRow) : MatchAction → Prop
  | .confirm => MovementFits (confirmed userId row).load
  | .chooseDifferent => ∀ other, candidate = some other →
    MovementFits (repaired userId row other).load
  | .markNew | .markDiscontinued | .ignore => True

section Decidable

variable (cmpOld cmpNew price : ℚ) (annualQuantity sellingPrice : Option ℚ)
  (line : PriceReviewLine ℚ)

instance : Decidable (MarginsFit price cmpOld cmpNew annualQuantity) :=
  decidable_of_iff (price ≠ 0 ∧ |contextRound (price - cmpOld) / price| < percentageLimit ∧
      |contextRound (price - cmpNew) / price| < percentageLimit ∧
      |(roundedMarginPct price cmpNew).value - (roundedMarginPct price cmpOld).value| < 1000 ∧
        ∀ quantity ∈ annualQuantity,
        |((roundedMarginPct price cmpNew).value - (roundedMarginPct price cmpOld).value) *
          quantity| < impactLimit)
    ⟨fun h => ⟨h.1, h.2.1, h.2.2.1, h.2.2.2.1, h.2.2.2.2⟩,
      fun h => ⟨h.nonzero, h.oldMargin, h.newMargin, h.movement, h.impact⟩⟩

instance : Decidable (ComparisonFits cmpOld cmpNew annualQuantity sellingPrice) :=
  decidable_of_iff ((cmpOld ≠ 0 → |(cmpNew - cmpOld) / cmpOld| < percentageLimit) ∧
      (∀ quantity ∈ annualQuantity, |(cmpNew - cmpOld) * quantity| < impactLimit) ∧
      ∀ price ∈ sellingPrice, MarginsFit price cmpOld cmpNew annualQuantity)
    ⟨fun h => ⟨h.1, h.2.1, h.2.2⟩, fun h => ⟨h.percentage, h.impact, h.margins⟩⟩

instance : Decidable (MovementFits line) :=
  decidable_of_iff (line.matchStatus.isLive = true → ∀ prices ∈ comparison line,
      ComparisonFits prices.1 prices.2 line.annualQuantity line.sellingPrice)
    ⟨fun h hLive _ _ hPrices => h hLive _ hPrices, fun h hLive prices hPrices =>
      h hLive prices.1 prices.2 hPrices⟩

instance (row : LineRow) (payload : ManualQuantityUpdate) : Decidable (QuantityFits row payload) :=
  decidable_of_iff (payload.annualQuantity < amountLimit ∧
    (∀ price ∈ payload.sellingPrice, |price| < amountLimit) ∧
      MovementFits (withQuantity row payload))
    ⟨fun h => ⟨h.1, h.2.1, h.2.2⟩, fun h => ⟨h.quantity, h.sellingPrice, h.movement⟩⟩

end Decidable

variable {x y : ℚ} {old new : Money}

theorem fits_roundPercentage :
    fitsNumeric 9 (some (roundPercentage (contextRound x))) = true ↔ |x| < percentageLimit := by
  have hUnits : |contextRound x * 10 ^ 6| < ((10 ^ 9 : ℤ) : ℚ) - 1 / 2 ↔
      |contextRound x| < (9999999995000000000000000000 : ℤ) * 10 ^ (-25 : ℤ) := by
    rw [abs_mul, abs_of_pos (by positivity : (0 : ℚ) < 10 ^ 6)]
    norm_num
    constructor <;> intro h <;> linarith
  change decide (|roundHalfEven (contextRound x * 10 ^ 6)| < 10 ^ 9) = true ↔ _
  rw [decide_eq_true_iff, abs_roundHalfEven_lt_iff (by norm_num), hUnits,
    abs_contextRound_lt_iff (by norm_num)
    (by norm_num) (by norm_num), percentageLimit]
  norm_num

theorem fits_roundCurrency : fitsNumeric 18 (some (roundCurrency (contextRound x))) = true ↔
    |x| < impactLimit := by
  have hUnits : |contextRound x * 10 ^ 4| < ((10 ^ 18 : ℤ) : ℚ) - 1 / 2 ↔
      |contextRound x| < (9999999999999999995000000000 : ℤ) * 10 ^ (-14 : ℤ) := by
    rw [abs_mul, abs_of_pos (by positivity : (0 : ℚ) < 10 ^ 4)]
    norm_num
    constructor <;> intro h <;> linarith
  change decide (|roundHalfEven (contextRound x * 10 ^ 4)| < 10 ^ 18) = true ↔ _
  rw [decide_eq_true_iff, abs_roundHalfEven_lt_iff (by norm_num), hUnits,
    abs_contextRound_lt_iff (by norm_num)
    (by norm_num) (by norm_num), impactLimit]
  norm_num

theorem fits_assign : fitsNumeric 18 (some (FixedPoint.assign 4 x)) = true ↔ |x| < amountLimit := by
  change decide (|roundHalfAway (x * 10 ^ 4)| < 10 ^ 18) = true ↔ _
  rw [decide_eq_true_iff, abs_roundHalfAway_lt_iff, abs_mul,
    abs_of_pos (by positivity : (0 : ℚ) < 10 ^ 4), amountLimit]
  norm_num
  constructor <;> intro h <;> linarith

/-- A stored price: not negative, and within its column. -/
structure PriceOf (amount : ℚ) (price : Money) : Prop where
  value : amount = price.value
  nonneg : 0 ≤ price.units
  fits : price.units < 10 ^ 18

theorem calculatePriceChange_eq {cmpOld cmpNew : ℚ} (hOld : PriceOf cmpOld old)
    (hNew : PriceOf cmpNew new) :
    contextRound (cmpNew - cmpOld) = cmpNew - cmpOld ∧ calculatePriceChange cmpOld cmpNew =
      new - old ∧ (new - old).value = cmpNew - cmpOld := by
  have hDigits : |new.units - old.units| < 10 ^ 28 := by
    rw [abs_lt]
    constructor <;> linarith [hOld.nonneg, hOld.fits, hNew.nonneg, hNew.fits]
  have hValue : (new - old).value = cmpNew - cmpOld := by
    rw [hOld.value, hNew.value, FixedPoint.value_sub]
  have hExact : contextRound (cmpNew - cmpOld) = cmpNew - cmpOld := by
    rw [hOld.value, hNew.value]
    exact FixedPoint.contextRound_sub hDigits
  refine ⟨hExact, ?_, hValue⟩
  rw [calculatePriceChange, hExact, ← hValue]
  exact FixedPoint.quantize_value _

variable {figures : Figures} {cmpOld cmpNew : ℚ} {annualQuantity sellingPrice : Option ℚ}

theorem fits_percentageChange (hOld : PriceOf cmpOld old) (hNew : PriceOf cmpNew new) :
    fitsNumeric 9 (calculatePercentageChange cmpOld cmpNew) = true ↔
      (cmpOld ≠ 0 → |(cmpNew - cmpOld) / cmpOld| < percentageLimit) := by
  rw [calculatePercentageChange, (calculatePriceChange_eq hOld hNew).1]
  split
  · rename_i hZero
    exact iff_of_true rfl fun hNonzero => absurd hZero hNonzero
  · rename_i hNonzero
    rw [fits_roundPercentage]
    exact ⟨fun h _ => h, fun h => h hNonzero⟩

theorem fits_absoluteChange (hOld : PriceOf cmpOld old) (hNew : PriceOf cmpNew new) :
    fitsNumeric 18 (some (calculatePriceChange cmpOld cmpNew)) = true := by
  rw [(calculatePriceChange_eq hOld hNew).2.1]
  refine decide_eq_true ?_
  change |new.units - old.units| < 10 ^ 18
  rw [abs_lt]
  constructor <;> linarith [hOld.nonneg, hOld.fits, hNew.nonneg, hNew.fits]

theorem fits_applyMovement (hFigures : figures.fits = true) (hOld : PriceOf cmpOld old)
    (hNew : PriceOf cmpNew new) : (applyMovement figures cmpOld cmpNew).fits = true ↔
      (cmpOld ≠ 0 → |(cmpNew - cmpOld) / cmpOld| < percentageLimit) := by
  rw [← fits_percentageChange hOld hNew]
  simp only [Figures.fits, Bool.and_eq_true] at hFigures
  simp only [Figures.fits, applyMovement, fits_absoluteChange hOld hNew, hFigures, Bool.and_true,
    Bool.true_and]

theorem fits_applyAnnualImpact (hImpact : fitsNumeric 18 figures.annualImpact = true)
    (hOld : PriceOf cmpOld old) (hNew : PriceOf cmpNew new) :
    (applyAnnualImpact figures cmpOld cmpNew annualQuantity).fits = true ↔
      figures.fits = true ∧ ∀ quantity, annualQuantity = some quantity →
        |(cmpNew - cmpOld) * quantity| < impactLimit := by
  obtain ⟨-, hChange, hValue⟩ := calculatePriceChange_eq hOld hNew
  cases annualQuantity with
  | none => exact ⟨fun h => ⟨h, fun _ hQuantity => nomatch hQuantity⟩, fun h => h.1⟩
  | some quantity =>
    have hLimit : fitsNumeric 18
      (some (calculateAnnualImpact (calculatePriceChange cmpOld cmpNew).value quantity)) = true ↔
        |(cmpNew - cmpOld) * quantity| < impactLimit := by
      rw [hChange, hValue, calculateAnnualImpact, fits_roundCurrency]
    simp only [Figures.fits, applyAnnualImpact, Option.some.injEq, forall_eq', ← hLimit,
      Bool.and_eq_true, hImpact]
    tauto

def MarginFiguresFit (figures : Figures) : Prop :=
  fitsNumeric 9 figures.oldMarginPct = true ∧ fitsNumeric 9 figures.newMarginPct = true ∧
    fitsNumeric 9 figures.marginMovementPct = true ∧
      fitsNumeric 18 figures.annualMarginImpact = true

def MovementFiguresFit (figures : Figures) : Prop :=
  fitsNumeric 18 figures.absoluteChange = true ∧ fitsNumeric 9 figures.percentageChange = true ∧
    fitsNumeric 18 figures.annualImpact = true ∧
      fitsNumeric 18 figures.potentialCostAvoidance = true ∧
      fitsNumeric 18 figures.actualCostAvoidance = true

theorem figures_fit_iff : figures.fits = true ↔ MovementFiguresFit figures ∧
    MarginFiguresFit figures := by
  simp only [Figures.fits, Bool.and_eq_true]
  constructor
  · rintro ⟨⟨⟨⟨⟨⟨⟨⟨hChange, hPercentage⟩, hImpact⟩, hOld⟩, hNew⟩, hMovement⟩, hMarginImpact⟩,
      hPotential⟩, hActual⟩
    exact ⟨⟨hChange, hPercentage, hImpact, hPotential, hActual⟩, hOld, hNew, hMovement,
      hMarginImpact⟩
  · rintro ⟨⟨hChange, hPercentage, hImpact, hPotential, hActual⟩, hOld, hNew, hMovement,
      hMarginImpact⟩
    exact ⟨⟨⟨⟨⟨⟨⟨⟨hChange, hPercentage⟩, hImpact⟩, hOld⟩, hNew⟩, hMovement⟩, hMarginImpact⟩,
      hPotential⟩, hActual⟩

theorem fits_iff_value (margin : Percentage) : fitsNumeric 9 (some margin) = true ↔
    |margin.value| < 1000 := by
  change decide (|margin.units| < 10 ^ 9) = true ↔ |(margin.units : ℚ) / 10 ^ 6| < 1000
  rw [decide_eq_true_iff, abs_div, abs_of_pos (by positivity : (0 : ℚ) < 10 ^ 6),
    div_lt_iff₀ (by positivity), ← Int.cast_abs, ← @Int.cast_lt ℚ]
  norm_num

def withMargins (figures : Figures) (sellingPrice cmpOld cmpNew : ℚ) (annualQuantity : Option ℚ) :
    Figures :=
  { figures with
    oldMarginPct := some (roundedMarginPct sellingPrice cmpOld)
    newMarginPct := some (roundedMarginPct sellingPrice cmpNew)
    marginMovementPct :=
      some (roundedMarginPct sellingPrice cmpNew - roundedMarginPct sellingPrice cmpOld)
    annualMarginImpact := (annualQuantity.map fun quantity =>
      calculateAnnualImpact
        (roundedMarginPct sellingPrice cmpNew - roundedMarginPct sellingPrice cmpOld).value
        quantity).or figures.annualMarginImpact }

theorem fits_marginImpact {movement : Percentage} {stored : Option Money}
    (hStored : fitsNumeric 18 stored = true) :
    fitsNumeric 18
      ((annualQuantity.map fun quantity => calculateAnnualImpact movement.value quantity).or
        stored) = true ↔
      ∀ quantity, annualQuantity = some quantity → |movement.value * quantity| < impactLimit := by
  cases annualQuantity with
  | none => exact iff_of_true hStored fun _ h => nomatch h
  | some quantity =>
    simp only [Option.some.injEq, forall_eq']
    rw [Option.map_some, Option.some_or, calculateAnnualImpact, fits_roundCurrency]

theorem fits_withMargins {sellingPrice : ℚ} (hNonzero : sellingPrice ≠ 0)
    (hMargins : MarginFiguresFit figures) :
    (withMargins figures sellingPrice cmpOld cmpNew annualQuantity).fits = true ↔
      figures.fits = true ∧ MarginsFit sellingPrice cmpOld cmpNew annualQuantity := by
  have hMovement :
    (roundedMarginPct sellingPrice cmpNew - roundedMarginPct sellingPrice cmpOld).value =
      (roundedMarginPct sellingPrice cmpNew).value - (roundedMarginPct sellingPrice cmpOld).value :=
        FixedPoint.value_sub _ _
  rw [figures_fit_iff, figures_fit_iff, and_iff_left hMargins]
  refine and_congr_right fun _ => ?_
  rw [MarginFiguresFit, withMargins]
  dsimp only
  rw [roundedMarginPct, roundedMarginPct, fits_roundPercentage,
    fits_roundPercentage, ← roundedMarginPct, ← roundedMarginPct, fits_iff_value,
    fits_marginImpact hMargins.2.2.2, hMovement]
  exact ⟨fun h => ⟨hNonzero, h.1, h.2.1, h.2.2.1, h.2.2.2⟩, fun h =>
    ⟨h.oldMargin, h.newMargin, h.movement, h.impact⟩⟩

theorem fits_applyMargins (hMargins : MarginFiguresFit figures) :
    (∃ result, applyMargins figures cmpOld cmpNew annualQuantity sellingPrice = .ok result ∧
      result.fits = true) ↔
      figures.fits = true ∧ ∀ price, sellingPrice = some price →
        MarginsFit price cmpOld cmpNew annualQuantity := by
  cases sellingPrice with
  | none =>
    constructor
    · rintro ⟨result, hResult, hFits⟩
      obtain rfl := Except.ok.inj hResult
      exact ⟨hFits, fun _ hPrice => nomatch hPrice⟩
    · rintro ⟨hFits, -⟩
      exact ⟨figures, rfl, hFits⟩
  | some price =>
    simp only [Option.some.injEq, forall_eq']
    by_cases hZero : price = 0
    · refine iff_of_false ?_ fun h => h.2.nonzero hZero
      rintro ⟨result, hResult, -⟩
      obtain ⟨margin, hMargin, -⟩ := exists_of_bind_eq_ok hResult
      rw [calculateGrossMargin, if_pos hZero] at hMargin
      exact nomatch hMargin
    · have hResult : applyMargins figures cmpOld cmpNew annualQuantity (some price) =
          .ok (withMargins figures price cmpOld cmpNew annualQuantity) := by
        rw [applyMargins, calculateGrossMargin_of_ne hZero, calculateGrossMargin_of_ne hZero]
        cases annualQuantity with
        | none => rfl
        | some quantity => rfl
      simp only [hResult, Except.ok.injEq, exists_eq_left']
      exact fits_withMargins hZero hMargins

variable {line : PriceReviewLine ℚ}

theorem fits_compared (hFigures : figures.fits = true) (hOld : PriceOf cmpOld old)
    (hNew : PriceOf cmpNew new) :
    (∃ result, applyMargins
      (applyAnnualImpact (applyMovement figures cmpOld cmpNew) cmpOld cmpNew annualQuantity)
      cmpOld cmpNew annualQuantity sellingPrice = .ok result ∧ result.fits = true) ↔
        ComparisonFits cmpOld cmpNew annualQuantity sellingPrice := by
  obtain ⟨hMovement, hMargins⟩ := figures_fit_iff.mp hFigures
  have hKept : MarginFiguresFit
      (applyAnnualImpact (applyMovement figures cmpOld cmpNew) cmpOld cmpNew annualQuantity) := by
    rw [applyAnnualImpact_eq]
    exact hMargins
  have hImpact : fitsNumeric 18 (applyMovement figures cmpOld cmpNew).annualImpact = true :=
    hMovement.2.2.1
  rw [fits_applyMargins hKept, fits_applyAnnualImpact hImpact hOld hNew,
    fits_applyMovement hFigures hOld hNew]
  exact ⟨fun h => ⟨h.1.1, h.1.2, h.2⟩, fun h => ⟨⟨h.percentage, h.impact⟩, h.margins⟩⟩

/-- The calculation of a line completes with figures that fit exactly when its comparison fits. -/
theorem calculate_fits_iff (hFigures : line.figures.fits = true) (hPrices : ∀ cmpOld cmpNew,
    comparison line = some (cmpOld, cmpNew) → (∃ price, PriceOf cmpOld price) ∧ ∃ price,
    PriceOf cmpNew price) :
    (∃ after, calculateLineMovement line = .ok after ∧ after.figures.fits = true) ↔
      MovementFits line := by
  unfold MovementFits
  cases hLive : line.matchStatus.isLive with
  | false =>
    refine iff_of_true ⟨line, calculateLineMovement_of_not_live hLive, hFigures⟩ ?_
    exact fun h => absurd h Bool.false_ne_true
  | true =>
    rw [calculateLineMovement, hLive, Bool.not_true, if_neg Bool.false_ne_true]
    dsimp only
    by_cases hBasis : line.comparisonBasis = .unitMismatch
    · rw [if_pos hBasis]
      refine iff_of_true ⟨_, rfl, ?_⟩ fun _ cmpOld cmpNew hNone => ?_
      · obtain ⟨hMovement, hMargins⟩ := figures_fit_iff.mp hFigures
        exact figures_fit_iff.mpr ⟨⟨rfl, rfl, hMovement.2.2⟩, hMargins⟩
      · rw [comparison_of_unitMismatch hBasis] at hNone
        exact absurd hNone.symm (Option.some_ne_none _)
    · have hComparison : comparison line = line.comparedPrices line.comparisonBasis := if_neg hBasis
      rw [if_neg hBasis, ← hComparison]
      cases hCompared : comparison line with
      | none =>
        exact iff_of_true ⟨_, rfl, hFigures⟩ fun _ _ _ hNone =>
          absurd hNone.symm (Option.some_ne_none _)
      | some prices =>
        obtain ⟨cmpOld, cmpNew⟩ := prices
        obtain ⟨⟨old, hOld⟩, new, hNew⟩ := hPrices cmpOld cmpNew hCompared
        have hFits :=
          @fits_compared _ _ { line.figures with comparisonBasis := some line.comparisonBasis } _ _
            line.annualQuantity line.sellingPrice hFigures hOld hNew
        constructor
        · rintro ⟨after, hAfter, hAfterFits⟩ - first second hEq
          obtain ⟨rfl, rfl⟩ := Prod.mk.inj (Option.some.inj hEq)
          obtain ⟨result, hResult, hAfter⟩ := exists_of_bind_eq_ok hAfter
          obtain rfl := Except.ok.inj hAfter
          exact hFits.mp ⟨result, hResult, hAfterFits⟩
        · intro h
          obtain ⟨result, hResult, hResultFits⟩ := hFits.mpr (h rfl cmpOld cmpNew rfl)
          exact ⟨{ line with figures := result }, bind_of_eq_ok hResult _, hResultFits⟩

theorem exists_priceOf {side : ListSide Money} (hFits : side.fits = true)
    (hNonneg : NonnegPrices side) {amount : ℚ}
    (h : (side.map FixedPoint.value).price = some amount ∨
      (side.map FixedPoint.value).normalizedPrice = some amount) :
    ∃ price, PriceOf amount price := by
  simp only [ListSide.fits, Bool.and_eq_true] at hFits
  obtain ⟨⟨-, hPriceFits⟩, hNormalizedFits⟩ := hFits
  obtain h | h := h
  · obtain ⟨price, hPrice, rfl⟩ := Option.map_eq_some_iff.mp h
    rw [hPrice] at hPriceFits
    exact ⟨price, rfl, hNonneg.price price hPrice, (abs_lt.mp (of_decide_eq_true hPriceFits)).2⟩
  · obtain ⟨price, hPrice, rfl⟩ := Option.map_eq_some_iff.mp h
    rw [hPrice] at hNormalizedFits
    exact ⟨price, rfl, hNonneg.normalizedPrice price hPrice,
      (abs_lt.mp (of_decide_eq_true hNormalizedFits)).2⟩

theorem exists_comparedPrices {oldSide newSide : ListSide Money}
    (hLineOld : line.old = oldSide.map FixedPoint.value)
    (hLineNew : line.new = newSide.map FixedPoint.value) (hOldFits : oldSide.fits = true)
    (hOld : NonnegPrices oldSide) (hNewFits : newSide.fits = true) (hNew : NonnegPrices newSide)
    (h : comparison line = some (cmpOld, cmpNew)) :
    (∃ price, PriceOf cmpOld price) ∧ ∃ price, PriceOf cmpNew price := by
  unfold comparison at h
  split at h
  · exact nomatch h
  · obtain ⟨amountOld, hAmountOld, h⟩ := Option.bind_eq_some_iff.mp h
    obtain ⟨amountNew, hAmountNew, hEq⟩ := Option.map_eq_some_iff.mp h
    obtain ⟨rfl, rfl⟩ := Prod.mk.inj hEq
    rw [hLineOld] at hAmountOld
    rw [hLineNew] at hAmountNew
    constructor
    · refine exists_priceOf hOldFits hOld ?_
      split at hAmountOld
      · exact .inr hAmountOld
      · exact .inl hAmountOld
    · refine exists_priceOf hNewFits hNew ?_
      split at hAmountNew
      · exact .inr hAmountNew
      · exact .inl hAmountNew

theorem save_eq_ok {after : LineRow} : line.save = .ok after ↔
    (line.map (FixedPoint.assign 4)).fits = true ∧ after = line.map (FixedPoint.assign 4) := by
  dsimp only [PriceReviewLine.save]
  split
  · rename_i hFits
    exact ⟨fun h => ⟨hFits, (Except.ok.inj h).symm⟩, fun h => congrArg Except.ok h.2.symm⟩
  · rename_i hFits
    exact ⟨fun h => (nomatch h), fun h => absurd h.1 hFits⟩

/-- A line is calculated and saved exactly when its own columns and its comparison fit. -/
theorem update_fits_iff {columns : Prop} (hFigures : line.figures.fits = true)
    (hPrices : ∀ cmpOld cmpNew,
      comparison line = some (cmpOld, cmpNew) → (∃ price, PriceOf cmpOld price) ∧ ∃ price,
      PriceOf cmpNew price)
    (hColumns : ∀ figures,
      (({ line with figures } : PriceReviewLine ℚ).map (FixedPoint.assign 4)).fits = true ↔
      columns ∧ figures.fits = true) :
    (∃ after, (calculateLineMovement line >>= PriceReviewLine.save) = .ok after ∧
      after.fits = true) ↔ columns ∧ MovementFits line := by
  rw [← calculate_fits_iff hFigures hPrices]
  constructor
  · rintro ⟨after, hAfter, -⟩
    obtain ⟨calculated, hCalculated, hSaved⟩ := exists_of_bind_eq_ok hAfter
    obtain ⟨figures, rfl⟩ := exists_figures_of_calculate hCalculated
    obtain ⟨hOwn, hFits⟩ := (hColumns figures).mp (save_eq_ok.mp hSaved).1
    exact ⟨hOwn, _, hCalculated, hFits⟩
  · rintro ⟨hOwn, calculated, hCalculated, hFits⟩
    obtain ⟨figures, rfl⟩ := exists_figures_of_calculate hCalculated
    have hSaved := (hColumns figures).mpr ⟨hOwn, hFits⟩
    exact ⟨_, (bind_of_eq_ok hCalculated _).trans (save_eq_ok.mpr ⟨hSaved, rfl⟩), hSaved⟩

variable {row : LineRow}

def amountsFit (row : LineRow) : Bool :=
  row.old.fits && row.new.fits && fitsNumeric 18 row.annualQuantity &&
    fitsNumeric 18 row.sellingPrice &&
    fitsNumeric 18 row.targetPrice && fitsNumeric 18 row.finalNegotiatedPrice

theorem row_fits_iff : row.fits = true ↔ amountsFit row = true ∧ row.figures.fits = true :=
  Bool.and_eq_true_iff

theorem amountsFit_iff : amountsFit row = true ↔ (row.old.fits = true ∧ row.new.fits = true) ∧
    (fitsNumeric 18 row.annualQuantity = true ∧ fitsNumeric 18 row.sellingPrice = true) ∧
      fitsNumeric 18 row.targetPrice = true ∧ fitsNumeric 18 row.finalNegotiatedPrice = true := by
  simp only [amountsFit, Bool.and_eq_true, and_assoc]

theorem Stored.sides_fit (h : Stored row) : row.old.fits = true ∧ row.new.fits = true :=
  (amountsFit_iff.mp (row_fits_iff.mp h.fits).1).1

theorem map_load_figures (row : LineRow) (figures : Figures) :
    ({ row.load with figures } : PriceReviewLine ℚ).map (FixedPoint.assign 4) =
      { row with figures } := by
  simp [PriceReviewLine.load, PriceReviewLine.map]

theorem pairing_fits_iff (h : Stored row) :
    (∃ after, (calculateLineMovement row.load >>= PriceReviewLine.save) = .ok after ∧
      after.fits = true) ↔ MovementFits row.load := by
  obtain ⟨hOldFits, hNewFits⟩ := h.sides_fit
  obtain ⟨hAmounts, hFigures⟩ := row_fits_iff.mp h.fits
  have hColumns : ∀ figures,
    (({ row.load with figures } : PriceReviewLine ℚ).map (FixedPoint.assign 4)).fits = true ↔
      True ∧ figures.fits = true := by
    intro figures
    rw [map_load_figures, row_fits_iff]
    exact and_congr_left fun _ => iff_of_true hAmounts trivial
  have hLoaded : row.load.figures.fits = true := hFigures
  rw [update_fits_iff hLoaded
    (fun _ _ hCompared => exists_comparedPrices rfl rfl hOldFits h.old hNewFits h.new hCompared)
    hColumns, true_and]

theorem Stored.confirmed (userId : ℕ) (h : Stored row) : Stored (confirmed userId row) :=
  ⟨h.fits, h.old, h.new⟩

theorem Stored.repaired {candidate : LineRow} (userId : ℕ) (h : Stored row)
    (hCandidate : Stored candidate) : Stored (repaired userId row candidate) where
  fits := by
    obtain ⟨hAmounts, hFigures⟩ := row_fits_iff.mp h.fits
    obtain ⟨hSides, hOwn, hAgreed⟩ := amountsFit_iff.mp hAmounts
    exact row_fits_iff.mpr ⟨amountsFit_iff.mpr ⟨⟨hSides.1, hCandidate.sides_fit.2⟩, hOwn, hAgreed⟩,
      hFigures⟩
  old := h.old
  new := ⟨hCandidate.new.price, hCandidate.new.normalizedPrice⟩

/-- A decision that takes a line out of the comparison changes no amount and no figure but the
movement type. -/
theorem retired_fits {userId : ℕ} {matchStatus : MatchStatus} {movementType : Option MovementType}
    (h : Stored row) : (({ row.load with
      matchStatus := matchStatus
      matchConfirmedByUserId := some userId
      figures := { row.figures with movementType := movementType } } :
      PriceReviewLine ℚ).map (FixedPoint.assign 4)).fits =
        true := by
  have hRow : (({ row.load with
      matchStatus := matchStatus
      matchConfirmedByUserId := some userId
      figures := { row.figures with movementType := movementType } } :
        PriceReviewLine ℚ).map (FixedPoint.assign 4)) = { row with
          matchStatus := matchStatus
          matchConfirmedByUserId := some userId
          figures := { row.figures with movementType := movementType } } := by
    simp [PriceReviewLine.load, PriceReviewLine.map]
  rw [hRow]
  exact h.fits

theorem resolveMatch_fits_iff {userId : ℕ} {action : MatchAction} {candidate : Option LineRow}
    (hRow : Stored row) (hCandidate : ∀ other, candidate = some other → Stored other)
    (hResolved : action = .chooseDifferent → candidate.isSome = true) :
    (∃ after, resolveMatch userId row action candidate = .ok after ∧ after.fits = true) ↔
      DecisionFits userId row candidate action := by
  cases action with
  | confirm => exact pairing_fits_iff (hRow.confirmed userId)
  | chooseDifferent =>
    obtain ⟨other, rfl⟩ := Option.isSome_iff_exists.mp (hResolved rfl)
    simp only [DecisionFits, Option.some.injEq, forall_eq']
    exact pairing_fits_iff (hRow.repaired userId (hCandidate other rfl))
  | markNew | markDiscontinued | ignore =>
    exact iff_of_true ⟨_, save_eq_ok.mpr ⟨retired_fits hRow, rfl⟩, retired_fits hRow⟩ trivial

theorem withQuantity_map (row : LineRow) (payload : ManualQuantityUpdate) (figures : Figures) :
    ({ withQuantity row payload with figures } : PriceReviewLine ℚ).map (FixedPoint.assign 4) =
      { row with
      annualQuantity := some (FixedPoint.assign 4 payload.annualQuantity)
      quantitySource := some .manual
      quantityConfidence := some .low
      sellingPrice := (payload.sellingPrice.or row.load.sellingPrice).map (FixedPoint.assign 4)
      figures } := by
  simp [withQuantity, PriceReviewLine.load, PriceReviewLine.map]

theorem setManualQuantity_fits_iff {payload : ManualQuantityUpdate} (hRow : Stored row) :
    (∃ after, setManualQuantity row payload = .ok after ∧ after.fits = true) ↔
      QuantityFits row payload := by
  obtain ⟨hAmounts, hFigures⟩ := row_fits_iff.mp hRow.fits
  obtain ⟨⟨hOldFits, hNewFits⟩, ⟨-, hSelling⟩, hAgreed⟩ := amountsFit_iff.mp hAmounts
  have hColumns : ∀ figures, (({ withQuantity row payload with figures } : PriceReviewLine ℚ).map
      (FixedPoint.assign 4)).fits = true ↔ (payload.annualQuantity < amountLimit ∧
        ∀ price, payload.sellingPrice = some price → |price| < amountLimit) ∧
          figures.fits = true := by
    intro figures
    have hQuantity : fitsNumeric 18 (some (FixedPoint.assign 4 payload.annualQuantity)) = true ↔
        payload.annualQuantity < amountLimit := by
      rw [fits_assign, abs_of_pos payload.positive]
    have hPrice : fitsNumeric 18
      ((payload.sellingPrice.or row.load.sellingPrice).map (FixedPoint.assign 4)) = true ↔
        ∀ price, payload.sellingPrice = some price → |price| < amountLimit := by
      cases payload.sellingPrice with
      | none =>
        rw [Option.none_or, PriceReviewLine.load, PriceReviewLine.map, Option.map_map,
          FixedPoint.assign_comp_value, Option.map_id]
        exact iff_of_true hSelling fun _ h => absurd h.symm (Option.some_ne_none _)
      | some price =>
        simp only [Option.some.injEq, forall_eq']
        exact fits_assign
    rw [withQuantity_map, row_fits_iff, amountsFit_iff, ← hQuantity, ← hPrice]
    exact and_congr_left fun _ => ⟨fun h => h.2.1, fun h => ⟨⟨hOldFits, hNewFits⟩, h, hAgreed⟩⟩
  have hLoaded : (withQuantity row payload).figures.fits = true := hFigures
  have hUpdate := update_fits_iff hLoaded (fun _ _ hCompared =>
    exists_comparedPrices rfl rfl hOldFits hRow.old hNewFits hRow.new hCompared) hColumns
  refine Iff.trans hUpdate ?_
  exact ⟨fun h => ⟨h.1.1, h.1.2, h.2⟩, fun h => ⟨⟨h.quantity, h.sellingPrice⟩, h.movement⟩⟩

/-- A quantity or a decision is saved on a row of a review exactly when the amounts and the
figures it leads to are below the limits of their columns. -/
theorem line_update_completes_iff {tools : TextTools} {history : List (ℕ × LineOperation)}
    {rows : List LineRow} (hRun : Run tools (fun _ _ _ => True) history rows) {row : LineRow}
    (hRow : row ∈ rows) :
    (∀ payload, (∃ after, setManualQuantity row payload = .ok after ∧ after.fits = true) ↔
      QuantityFits row payload) ∧
    ∀ userId action candidate, (∀ other, candidate = some other → other ∈ rows) →
      (action = .chooseDifferent → candidate.isSome = true) →
        ((∃ after, resolveMatch userId row action candidate = .ok after ∧ after.fits = true) ↔
          DecisionFits userId row candidate action) := by
  have hStored := hRun.stored
  constructor
  · exact fun payload => setManualQuantity_fits_iff (hStored row hRow)
  · intro userId action candidate hCandidate hResolved
    exact resolveMatch_fits_iff (hStored row hRow)
      (fun other hOther => hStored other (hCandidate other hOther)) hResolved

theorem flour_update_completes : ∃ row ∈ flourRows "130",
    (∃ after, setManualQuantity row (tenAYear (some 150)) = .ok after ∧ after.fits = true) ∧
      ∃ after, resolveMatch 1 row .confirm none = .ok after ∧ after.fits = true := by
  have hRun : Run asciiTools (fun _ _ _ => True) [] (flourRows "130") :=
    run_flour (by decide +kernel) (by decide +kernel)
  have hFirst : ((flourRows "130")[0]?.any fun row =>
      decide (QuantityFits row (tenAYear (some 150))) &&
        decide (MovementFits (confirmed 1 row).load)) = true := by
    decide +kernel
  obtain ⟨row, hRow, hFits⟩ := (Option.any_eq_true _ _).mp hFirst
  rw [Bool.and_eq_true_iff, decide_eq_true_iff, decide_eq_true_iff] at hFits
  have hMem := List.mem_of_getElem? hRow
  have hIff := line_update_completes_iff hRun hMem
  exact ⟨row, hMem, (hIff.1 _).mpr hFits.1,
    (hIff.2 1 .confirm none (fun _ h => nomatch h) (fun h => nomatch h)).mpr hFits.2⟩

theorem zero_selling_price_fails :
    ¬ ∀ (tools : TextTools) (history : List (ℕ × LineOperation)) (rows : List LineRow),
    Run tools (fun _ _ _ => True) history rows → ∀ row ∈ rows, ∀ payload, ∃ after,
      setManualQuantity row payload = .ok after ∧ after.fits = true := by
  intro h
  have hFirst : ((flourRows "130")[0]?.any fun row =>
      !(setManualQuantity row (tenAYear (some 0))).toOption.isSome) = true := by
    decide +kernel
  obtain ⟨row, hRow, hFails⟩ := (Option.any_eq_true _ _).mp hFirst
  obtain ⟨after, hAfter, -⟩ :=
    h asciiTools [] (flourRows "130") (run_flour (by decide +kernel) (by decide +kernel))
      row (List.mem_of_getElem? hRow) (tenAYear (some 0))
  rw [hAfter] at hFails
  exact nomatch hFails

end ProcureFoundation.PriceReview
