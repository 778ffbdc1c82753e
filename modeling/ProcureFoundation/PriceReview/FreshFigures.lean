import ProcureFoundation.PriceReview.LineRuns

/-!
# Fresh figures

The figures that a line's prices, packs, quantity and negotiation prices determine, and
when an operation leaves exactly these. The calculation refreshes the movement of a live
line; what it leaves alone has to be right already.
-/

namespace ProcureFoundation.PriceReview

open Matching Outcome

/-- The prices that a line compares. -/
def comparison (line : PriceReviewLine ℚ) : Option (ℚ × ℚ) :=
  if line.comparisonBasis = .unitMismatch then none else line.comparedPrices line.comparisonBasis

def freshPercentage (line : PriceReviewLine ℚ) : Option Percentage :=
  (comparison line).bind fun prices => calculatePercentageChange prices.1 prices.2

def freshMargin (line : PriceReviewLine ℚ) (cost : ℚ × ℚ → ℚ) : Option Percentage :=
  (comparison line).bind fun prices => line.sellingPrice.bind fun price =>
    (calculateGrossMargin price (cost prices)).toOption

def freshMarginMovement (line : PriceReviewLine ℚ) : Option Percentage :=
  (freshMargin line Prod.fst).bind fun oldMargin => (freshMargin line Prod.snd).map fun newMargin =>
    newMargin - oldMargin

/-- What a line's figures are when nothing has been calculated before. A line that is not
live has no figure but the movement of its status. -/
def freshFigures (line : PriceReviewLine ℚ) : Figures :=
  if line.matchStatus.isLive then
    { packChanged := line.packsDiffer
      comparisonBasis := some line.comparisonBasis
      absoluteChange := (comparison line).map fun prices => calculatePriceChange prices.1 prices.2
      percentageChange := freshPercentage line
      movementType :=
        if line.comparisonBasis = .unitMismatch then some .reviewRequired
        else (comparison line).map fun _ =>
          classifyMovementType true false false line.packsDiffer (freshPercentage line)
      riskClassification :=
        if line.comparisonBasis = .unitMismatch then some .unclassified
        else (comparison line).map fun _ => classifyRisk (freshPercentage line)
      annualImpact := (comparison line).bind fun prices => line.annualQuantity.map fun quantity =>
        calculateAnnualImpact (calculatePriceChange prices.1 prices.2).value quantity
      oldMarginPct := freshMargin line Prod.fst
      newMarginPct := freshMargin line Prod.snd
      marginMovementPct := freshMarginMovement line
      annualMarginImpact := (freshMarginMovement line).bind fun movement =>
        line.annualQuantity.map fun quantity => calculateAnnualImpact movement.value quantity
      potentialCostAvoidance :=
        line.targetPrice.bind (line.costAvoidance calculatePotentialCostAvoidance)
      actualCostAvoidance :=
        line.finalNegotiatedPrice.bind (line.costAvoidance calculateActualCostAvoidance) }
  else { Figures.none with movementType := line.matchStatus.movement }

/-- The stored figures are the fresh ones, and prices are compared in one unit. -/
structure Fresh (row : LineRow) : Prop where
  figures : row.figures = freshFigures row.load
  units : UnitsAgree row

structure NoImpact (figures : Figures) : Prop where
  annualImpact : figures.annualImpact = none
  oldMarginPct : figures.oldMarginPct = none
  newMarginPct : figures.newMarginPct = none
  marginMovementPct : figures.marginMovementPct = none
  annualMarginImpact : figures.annualMarginImpact = none

structure NoMovement (figures : Figures) : Prop where
  absoluteChange : figures.absoluteChange = none
  percentageChange : figures.percentageChange = none
  movementType : figures.movementType = none
  riskClassification : figures.riskClassification = none

/-- What the calculation leaves alone is right for the line: the pack flag, and, when the
prices cannot be compared, the impact and margin figures, with a price missing the movement too. -/
structure Recalculable (line : PriceReviewLine ℚ) : Prop where
  packChanged : line.figures.packChanged = line.packsDiffer
  incomparable : comparison line = none → NoImpact line.figures
  missing : comparison line = none → line.comparisonBasis ≠ .unitMismatch → NoMovement line.figures

/-- The stored avoidances are those of the line's prices and quantity. -/
structure AvoidancesRight (line : PriceReviewLine ℚ) : Prop where
  potential : line.figures.potentialCostAvoidance =
    line.targetPrice.bind (line.costAvoidance calculatePotentialCostAvoidance)
  actual : line.figures.actualCostAvoidance =
    line.finalNegotiatedPrice.bind (line.costAvoidance calculateActualCostAvoidance)

instance (line : PriceReviewLine ℚ) : Decidable (AvoidancesRight line) :=
  decidable_of_iff (_ ∧ _) ⟨fun h => ⟨h.1, h.2⟩, fun h => ⟨h.potential, h.actual⟩⟩

/-- Impacts need a quantity and margins a selling price. -/
structure Founded (line : PriceReviewLine ℚ) : Prop where
  impact : line.annualQuantity = none → line.figures.annualImpact = none ∧
    line.figures.annualMarginImpact = none
  margins : line.sellingPrice = none → line.figures.oldMarginPct = none ∧
    line.figures.newMarginPct = none ∧
    line.figures.marginMovementPct = none ∧ line.figures.annualMarginImpact = none

/-- The fresh figures but for the avoidances, which are kept. -/
def Figures.refreshed (figures fresh : Figures) : Figures :=
  { fresh with
    potentialCostAvoidance := figures.potentialCostAvoidance
    actualCostAvoidance := figures.actualCostAvoidance }

variable {line after : PriceReviewLine ℚ}

theorem comparison_of_unitMismatch (h : line.comparisonBasis = .unitMismatch) :
    comparison line = none := if_pos h

theorem refreshed_unitMismatch_iff (hLive : line.matchStatus.isLive = true)
    (hBasis : line.comparisonBasis = .unitMismatch) :
    applyUnitMismatch { line.figures with comparisonBasis := some line.comparisonBasis } =
      line.figures.refreshed (freshFigures line) ↔ Recalculable line := by
  have hNone := comparison_of_unitMismatch hBasis
  simp only [applyUnitMismatch, Figures.refreshed, freshFigures, if_pos hLive, freshPercentage,
    freshMargin,
    freshMarginMovement, hNone, hBasis, if_true, Option.map_none, Option.bind_none,
    Figures.mk.injEq, true_and, and_true]
  constructor
  · rintro ⟨hPack, hImpact, hOld, hNew, hMovement, hMargin⟩
    exact ⟨hPack, fun _ => ⟨hImpact, hOld, hNew, hMovement, hMargin⟩, fun _ hNot =>
      absurd hBasis hNot⟩
  · intro h
    obtain ⟨hImpact, hOld, hNew, hMovement, hMargin⟩ := h.incomparable hNone
    exact ⟨h.packChanged, hImpact, hOld, hNew, hMovement, hMargin⟩

theorem refreshed_missing_iff (hLive : line.matchStatus.isLive = true)
    (hBasis : line.comparisonBasis ≠ .unitMismatch) (hNone : comparison line = none) :
    { line.figures with comparisonBasis := some line.comparisonBasis } =
      line.figures.refreshed (freshFigures line) ↔ Recalculable line := by
  simp only [Figures.refreshed, freshFigures, if_pos hLive, freshPercentage, freshMargin,
    freshMarginMovement, hNone,
    if_neg hBasis, Option.map_none, Option.bind_none, Figures.mk.injEq, true_and, and_true]
  constructor
  · rintro ⟨hPack, hAbsolute, hPercentage, hType, hRisk, hImpact, hOld, hNew, hMovement, hMargin⟩
    exact ⟨hPack, fun _ => ⟨hImpact, hOld, hNew, hMovement, hMargin⟩,
      fun _ _ => ⟨hAbsolute, hPercentage, hType, hRisk⟩⟩
  · intro h
    obtain ⟨hImpact, hOld, hNew, hMovement, hMargin⟩ := h.incomparable hNone
    obtain ⟨hAbsolute, hPercentage, hType, hRisk⟩ := h.missing hNone hBasis
    exact ⟨h.packChanged, hAbsolute, hPercentage, hType, hRisk, hImpact, hOld, hNew, hMovement,
      hMargin⟩

theorem or_eq_left_of_none {α : Type} {x y : Option α} (h : x = none → y = none) : x.or y = x := by
  cases x with
  | none => exact h rfl
  | some x => rfl

def marginOf (sellingPrice : Option ℚ) (cost : ℚ) : Option Percentage :=
  sellingPrice.bind fun price => (calculateGrossMargin price cost).toOption

def marginMovementOf (sellingPrice : Option ℚ) (cmpOld cmpNew : ℚ) : Option Percentage :=
  (marginOf sellingPrice cmpOld).bind fun oldMargin =>
    (marginOf sellingPrice cmpNew).map fun newMargin => newMargin - oldMargin

variable {figures result : Figures} {cmpOld cmpNew : ℚ} {annualQuantity sellingPrice : Option ℚ}

theorem applyAnnualImpact_eq : applyAnnualImpact figures cmpOld cmpNew annualQuantity =
    { figures with
    annualImpact := (annualQuantity.map fun quantity =>
      calculateAnnualImpact (calculatePriceChange cmpOld cmpNew).value quantity).or figures.annualImpact } := by
  cases annualQuantity with
  | none => rfl
  | some quantity => rfl

theorem applyMargins_ok
    (h : applyMargins figures cmpOld cmpNew annualQuantity sellingPrice = .ok result) :
    result = { figures with
      oldMarginPct := (marginOf sellingPrice cmpOld).or figures.oldMarginPct
      newMarginPct := (marginOf sellingPrice cmpNew).or figures.newMarginPct
      marginMovementPct :=
        (marginMovementOf sellingPrice cmpOld cmpNew).or figures.marginMovementPct
      annualMarginImpact := ((marginMovementOf sellingPrice cmpOld cmpNew).bind fun movement =>
        annualQuantity.map fun quantity => calculateAnnualImpact movement.value quantity).or
          figures.annualMarginImpact } ∧
    (marginMovementOf sellingPrice cmpOld cmpNew = none → sellingPrice = none) := by
  cases sellingPrice with
  | none =>
    obtain rfl := Except.ok.inj h
    exact ⟨rfl, fun _ => rfl⟩
  | some price =>
    obtain ⟨oldMargin, hOld, h⟩ := exists_of_bind_eq_ok h
    obtain ⟨newMargin, hNew, h⟩ := exists_of_bind_eq_ok h
    rw [marginMovementOf, marginOf, marginOf, Option.bind_some, Option.bind_some, hOld, hNew]
    refine ⟨?_, fun hNone => nomatch hNone⟩
    cases annualQuantity with
    | none => exact (Except.ok.inj h).symm
    | some quantity => exact (Except.ok.inj h).symm

theorem eq_none_of_marginMovementOf
    (hMovement : marginMovementOf sellingPrice cmpOld cmpNew = none → sellingPrice = none)
    (cost : ℚ) (hCost : cost = cmpOld ∨ cost = cmpNew) (h : marginOf sellingPrice cost = none) :
    sellingPrice = none := by
  apply hMovement
  rw [marginMovementOf]
  obtain rfl | rfl := hCost
  · rw [h]
    rfl
  · rw [h]
    cases marginOf sellingPrice cmpOld with
    | none => rfl
    | some margin => rfl

theorem compared_refreshed (hLive : line.matchStatus.isLive = true) (hFounded : Founded line)
    (hPack : line.figures.packChanged = line.packsDiffer)
    (hBasis : line.comparisonBasis ≠ .unitMismatch)
    (hPrices : comparison line = some (cmpOld, cmpNew))
    (h : applyMargins (applyAnnualImpact (applyMovement
      { line.figures with comparisonBasis := some line.comparisonBasis } cmpOld cmpNew) cmpOld cmpNew
      line.annualQuantity) cmpOld cmpNew line.annualQuantity line.sellingPrice = .ok result) :
    result = line.figures.refreshed (freshFigures line) := by
  rw [applyAnnualImpact_eq] at h
  obtain ⟨rfl, hMovement⟩ := applyMargins_ok h
  have hOld : ∀ cost, cost = cmpOld ∨ cost = cmpNew → marginOf line.sellingPrice cost = none →
      line.sellingPrice = none := eq_none_of_marginMovementOf hMovement
  simp only [applyMovement, Figures.refreshed, freshFigures, if_pos hLive, freshPercentage,
    freshMarginMovement,
    freshMargin, hPrices, if_neg hBasis, Option.map_some, Option.bind_some, ← hPack,
    Figures.mk.injEq, true_and, and_true]
  refine ⟨or_eq_left_of_none ?_, or_eq_left_of_none ?_, or_eq_left_of_none ?_,
    or_eq_left_of_none ?_, or_eq_left_of_none ?_⟩
  · intro hNone
    exact (hFounded.impact (Option.map_eq_none_iff.mp hNone)).1
  · intro hNone
    exact (hFounded.margins (hOld cmpOld (.inl rfl) hNone)).1
  · intro hNone
    exact (hFounded.margins (hOld cmpNew (.inr rfl) hNone)).2.1
  · intro hNone
    exact (hFounded.margins (hMovement hNone)).2.2.1
  · intro hNone
    change (marginMovementOf line.sellingPrice cmpOld cmpNew).bind _ = none at hNone
    cases hMargin : marginMovementOf line.sellingPrice cmpOld cmpNew with
    | none => exact (hFounded.margins (hMovement hMargin)).2.2.2
    | some movement =>
      rw [hMargin, Option.bind_some, Option.map_eq_none_iff] at hNone
      exact (hFounded.impact hNone).2

theorem calculateLineMovement_live (hLive : line.matchStatus.isLive = true)
    (h : calculateLineMovement line = .ok after) :
    (line.comparisonBasis = .unitMismatch ∧
      after.figures =
        applyUnitMismatch { line.figures with comparisonBasis := some line.comparisonBasis }) ∨
    (line.comparisonBasis ≠ .unitMismatch ∧ comparison line = none ∧
      after.figures = { line.figures with comparisonBasis := some line.comparisonBasis }) ∨
    (line.comparisonBasis ≠ .unitMismatch ∧ ∃ cmpOld cmpNew,
      comparison line = some (cmpOld, cmpNew) ∧ applyMargins (applyAnnualImpact (applyMovement
        { line.figures with comparisonBasis := some line.comparisonBasis } cmpOld cmpNew) cmpOld cmpNew
        line.annualQuantity) cmpOld cmpNew line.annualQuantity line.sellingPrice =
          .ok after.figures) := by
  have hNotDead : ¬ (!line.matchStatus.isLive) = true := by
    rw [hLive]
    exact Bool.false_ne_true
  rw [calculateLineMovement, if_neg hNotDead] at h
  dsimp only at h
  by_cases hBasis : line.comparisonBasis = .unitMismatch
  · rw [if_pos hBasis] at h
    obtain rfl := Except.ok.inj h
    exact .inl ⟨hBasis, rfl⟩
  · have hComparison : comparison line = line.comparedPrices line.comparisonBasis := if_neg hBasis
    rw [if_neg hBasis, ← hComparison] at h
    cases hPrices : comparison line with
    | none =>
      rw [hPrices] at h
      obtain rfl := Except.ok.inj h
      exact .inr (.inl ⟨hBasis, rfl, rfl⟩)
    | some prices =>
      obtain ⟨cmpOld, cmpNew⟩ := prices
      rw [hPrices] at h
      obtain ⟨figures, hFigures, h⟩ := exists_of_bind_eq_ok h
      obtain rfl := Except.ok.inj h
      exact .inr (.inr ⟨hBasis, cmpOld, cmpNew, rfl, hFigures⟩)

theorem calculate_refreshed_iff (hLive : line.matchStatus.isLive = true) (hFounded : Founded line)
    (h : calculateLineMovement line = .ok after) :
    after.figures = line.figures.refreshed (freshFigures line) ↔ Recalculable line := by
  obtain ⟨hBasis, hFigures⟩ | ⟨hBasis, hNone, hFigures⟩ | ⟨hBasis, cmpOld, cmpNew, hPrices,
      hFigures⟩ :=
    calculateLineMovement_live hLive h
  · rw [hFigures]
    exact refreshed_unitMismatch_iff hLive hBasis
  · rw [hFigures]
    exact refreshed_missing_iff hLive hBasis hNone
  · constructor
    · intro hRefreshed
      have hPack : after.figures.packChanged = line.figures.packChanged := by
        rw [(applyMargins_ok hFigures).1, applyAnnualImpact_eq]
        rfl
      refine ⟨?_, fun hNone => ?_, fun hNone => ?_⟩
      · rw [← hPack, hRefreshed, Figures.refreshed, freshFigures, if_pos hLive]
      · rw [hPrices] at hNone
        exact nomatch hNone
      · rw [hPrices] at hNone
        exact nomatch hNone
    · intro hRecalculable
      exact compared_refreshed hLive hFounded hRecalculable.packChanged hBasis hPrices hFigures

theorem calculate_avoidances (hLive : line.matchStatus.isLive = true)
    (h : calculateLineMovement line = .ok after) :
    after.figures.potentialCostAvoidance = line.figures.potentialCostAvoidance ∧
      after.figures.actualCostAvoidance = line.figures.actualCostAvoidance := by
  obtain ⟨-, hFigures⟩ | ⟨-, -, hFigures⟩ | ⟨-, cmpOld, cmpNew, -, hFigures⟩ :=
    calculateLineMovement_live hLive h
  · rw [hFigures]
    exact ⟨rfl, rfl⟩
  · rw [hFigures]
    exact ⟨rfl, rfl⟩
  · rw [(applyMargins_ok hFigures).1, applyAnnualImpact_eq]
    exact ⟨rfl, rfl⟩

theorem eq_fresh_iff {kept fresh : Figures}
    (hPotential : figures.potentialCostAvoidance = kept.potentialCostAvoidance)
    (hActual : figures.actualCostAvoidance = kept.actualCostAvoidance) :
    figures = fresh ↔ figures = kept.refreshed fresh ∧
      kept.potentialCostAvoidance = fresh.potentialCostAvoidance ∧
      kept.actualCostAvoidance = fresh.actualCostAvoidance := by
  constructor
  · rintro rfl
    refine ⟨?_, hPotential.symm, hActual.symm⟩
    rw [Figures.refreshed, ← hPotential, ← hActual]
  · rintro ⟨hRefreshed, hPotentialFresh, hActualFresh⟩
    rw [hRefreshed, Figures.refreshed, hPotentialFresh, hActualFresh]

theorem avoidancesRight_iff (hLive : line.matchStatus.isLive = true) :
    AvoidancesRight line ↔
      line.figures.potentialCostAvoidance = (freshFigures line).potentialCostAvoidance ∧
      line.figures.actualCostAvoidance = (freshFigures line).actualCostAvoidance := by
  rw [freshFigures, if_pos hLive]
  constructor
  · intro h
    exact ⟨h.potential, h.actual⟩
  · intro h
    exact ⟨h.1, h.2⟩

/-- The calculation leaves fresh figures exactly when what it leaves alone is right. -/
theorem calculate_fresh_iff (hLive : line.matchStatus.isLive = true) (hFounded : Founded line)
    (h : calculateLineMovement line = .ok after) :
    after.figures = freshFigures line ↔ Recalculable line ∧ AvoidancesRight line := by
  obtain ⟨hPotential, hActual⟩ := calculate_avoidances hLive h
  rw [eq_fresh_iff hPotential hActual, calculate_refreshed_iff hLive hFounded h,
    avoidancesRight_iff hLive]

/-- The pairing that a confirmation calculates with. -/
def confirmed (userId : ℕ) (row : LineRow) : LineRow :=
  { row with
    matchStatus := .matched
    matchConfirmedByUserId := some userId }

/-- The pairing that a choice calculates with: the candidate's new side, in the unit the line had.
-/
def repaired (userId : ℕ) (row candidate : LineRow) : LineRow :=
  { row with
    new := { candidate.new with normalizedBaseUnit := row.new.normalizedBaseUnit }
    matchStatus := .matched
    matchMethod := .manualOverride
    matchConfirmedByUserId := some userId }

/-- The line that a quantity is calculated with, before the columns round it. -/
def withQuantity (row : LineRow) (payload : ManualQuantityUpdate) : PriceReviewLine ℚ :=
  { row.load with
    annualQuantity := some payload.annualQuantity
    quantitySource := some .manual
    quantityConfidence := some .low
    sellingPrice := payload.sellingPrice.or row.load.sellingPrice }

/-- The line with its amounts as the columns round them. -/
def PriceReviewLine.rounded (line : PriceReviewLine ℚ) : PriceReviewLine ℚ :=
  (line.map (FixedPoint.assign 4)).load

/-- Rounding the amounts changes no figure that is calculated from them. -/
def RoundingHarmless (line : PriceReviewLine ℚ) : Prop :=
  Figures.none.refreshed (freshFigures line) = Figures.none.refreshed (freshFigures line.rounded)

instance (line : PriceReviewLine ℚ) : Decidable (RoundingHarmless line) :=
  inferInstanceAs (Decidable (_ = _))

structure PairingRight (pairing : LineRow) : Prop where
  recalculable : Recalculable pairing.load
  avoidances : AvoidancesRight pairing.load
  units : UnitsAgree pairing

/-- A price is negotiated on a live line whose figures have been calculated, or nothing follows from
it. -/
structure NegotiationRight (row : LineRow) (calculate : ℚ → ℚ → ℚ → Money) (agreedPrice : ℚ) :
    Prop where
  live : row.matchStatus.isLive = true → row.figures.comparisonBasis.isSome = true ∧
    row.load.costAvoidance calculate agreedPrice =
      row.load.costAvoidance calculate (FixedPoint.assign 4 agreedPrice).value
  notLive : row.matchStatus.isLive = false → row.new.price = none ∨ row.annualQuantity = none

/-- What is asked of a line before an operation. -/
def KeepsFresh (rows : List LineRow) (row : LineRow) : LineOperation → Prop
  | .resolveMatch userId decision =>
    match decision.action with
    | .confirm => PairingRight (confirmed userId row)
    | .chooseDifferent => ∀ candidate, (decision.chosenNewLine.bind fun chosen => rows[chosen]?) =
      some candidate →
        PairingRight (repaired userId row candidate)
    | .markNew | .markDiscontinued => { row.figures with movementType := none } = Figures.none
    | .ignore => row.figures = Figures.none
  | .setManualQuantity payload => row.matchStatus.isLive = true →
      RoundingHarmless (withQuantity row payload) ∧
        AvoidancesRight (withQuantity row payload).rounded
  | .setNegotiationTarget targetPrice =>
    NegotiationRight row calculatePotentialCostAvoidance targetPrice
  | .recordNegotiationOutcome finalNegotiatedPrice =>
      NegotiationRight row calculateActualCostAvoidance finalNegotiatedPrice

/-- What a line is between operations: as matching has left it, or fresh. -/
def Settled (row : LineRow) : Prop := AsMatched row ∨ Fresh row

variable {rows : List LineRow} {row changed candidate : LineRow}

theorem Fresh.founded (h : Fresh row) : Founded row.load := by
  constructor
  · intro hNone
    change row.figures.annualImpact = none ∧ row.figures.annualMarginImpact = none
    rw [h.figures, freshFigures]
    split
    · simp [hNone]
    · exact ⟨rfl, rfl⟩
  · intro hNone
    change row.figures.oldMarginPct = none ∧ row.figures.newMarginPct = none ∧
      row.figures.marginMovementPct = none ∧ row.figures.annualMarginImpact = none
    rw [h.figures, freshFigures]
    split
    · simp [freshMarginMovement, freshMargin, hNone]
    · exact ⟨rfl, rfl, rfl, rfl⟩

theorem AsMatched.founded (h : AsMatched row) : Founded row.load := by
  constructor
  · intro _
    change row.figures.annualImpact = none ∧ row.figures.annualMarginImpact = none
    rw [h.figures]
    exact ⟨rfl, rfl⟩
  · intro _
    change row.figures.oldMarginPct = none ∧ row.figures.newMarginPct = none ∧
      row.figures.marginMovementPct = none ∧ row.figures.annualMarginImpact = none
    rw [h.figures]
    exact ⟨rfl, rfl, rfl, rfl⟩

theorem Settled.founded (h : Settled row) : Founded row.load :=
  h.elim AsMatched.founded Fresh.founded

theorem Settled.units (h : Settled row) : UnitsAgree row := h.elim AsMatched.units Fresh.units

theorem unitsAgree_map {α β : Type} (f : α → β) (line : PriceReviewLine α) :
    UnitsAgree (line.map f) ↔ UnitsAgree line := by
  have hBasis : (line.map f).comparisonBasis = line.comparisonBasis :=
    determineComparisonBasis_map f _ _ _ _
  unfold UnitsAgree
  rw [hBasis]
  rfl

theorem refreshed_eq_iff {kept fresh other : Figures} : kept.refreshed fresh = other ↔
    Figures.none.refreshed fresh = Figures.none.refreshed other ∧
      kept.potentialCostAvoidance = other.potentialCostAvoidance ∧
      kept.actualCostAvoidance = other.actualCostAvoidance := by
  simp only [Figures.refreshed, Figures.ext_iff]
  tauto

theorem Settled.recalculable (h : Settled row) (hLive : row.matchStatus.isLive = true) :
    Recalculable row.load := by
  obtain h | h := h
  · constructor
    · change row.figures.packChanged = row.packsDiffer
      rw [h.figures, hLive]
      rfl
    · intro _
      change NoImpact row.figures
      rw [h.figures]
      exact ⟨rfl, rfl, rfl, rfl, rfl⟩
    · intro _ _
      change NoMovement row.figures
      rw [h.figures]
      refine ⟨rfl, rfl, ?_, rfl⟩
      cases hStatus : row.matchStatus with
      | matched | reviewRequired => rfl
      | newProduct | discontinued | ignored =>
        rw [hStatus] at hLive
        exact nomatch hLive
  · have hFresh : freshFigures row.load = _ := if_pos hLive
    constructor
    · change row.figures.packChanged = row.packsDiffer
      rw [h.figures, hFresh]
      rfl
    · intro hNone
      change NoImpact row.figures
      rw [h.figures, hFresh]
      simp only [freshMarginMovement, freshMargin, hNone, Option.bind_none]
      exact ⟨rfl, rfl, rfl, rfl, rfl⟩
    · intro hNone hBasis
      change NoMovement row.figures
      rw [h.figures, hFresh]
      simp only [freshPercentage, hNone, if_neg hBasis, Option.map_none, Option.bind_none]
      exact ⟨rfl, rfl, rfl, rfl⟩

theorem freshFigures_of_not_live (hDead : line.matchStatus.isLive = false) :
    freshFigures line = { Figures.none with movementType := line.matchStatus.movement } := by
  rw [freshFigures, hDead]
  rfl

theorem Settled.figures_of_not_live (h : Settled row) (hDead : row.matchStatus.isLive = false) :
    row.figures = { Figures.none with movementType := row.matchStatus.movement } := by
  obtain h | h := h
  · rw [h.figures, hDead]
    rfl
  · exact h.figures.trans (freshFigures_of_not_live hDead)

theorem pairing_fresh_iff {pairing : LineRow} (hLive : pairing.matchStatus.isLive = true)
    (hFounded : Founded pairing.load) (h : calculateLineMovement pairing.load = .ok after)
    (hChanged : after.save = .ok changed) : Fresh changed ↔ PairingRight pairing := by
  have hIff := calculate_fresh_iff hLive hFounded h
  obtain ⟨figures, rfl⟩ := exists_figures_of_calculate h
  have hRow : changed = { pairing with figures } :=
    (PriceReviewLine.eq_of_save hChanged).trans (PriceReviewLine.map_assign_load { pairing with figures })
  subst hRow
  constructor
  · intro hFresh
    obtain ⟨hRecalculable, hAvoidances⟩ := hIff.mp hFresh.figures
    exact ⟨hRecalculable, hAvoidances, hFresh.units⟩
  · rintro ⟨hRecalculable, hAvoidances, hUnits⟩
    exact ⟨hIff.mpr ⟨hRecalculable, hAvoidances⟩, hUnits⟩

theorem fresh_iff_of_not_live (hDead : row.matchStatus.isLive = false) (hUnits : UnitsAgree row) :
    Fresh row ↔ row.figures = { Figures.none with movementType := row.matchStatus.movement } := by
  have hFresh : freshFigures row.load = _ := freshFigures_of_not_live hDead
  constructor
  · intro h
    exact h.figures.trans hFresh
  · intro h
    exact ⟨h.trans hFresh.symm, hUnits⟩

theorem confirm_fresh_iff {userId : ℕ} {candidate : Option LineRow} (hRow : Settled row)
    (h : resolveMatch userId row .confirm candidate = .ok changed) :
    Fresh changed ↔ PairingRight (confirmed userId row) := by
  obtain ⟨decided, hDecided, hRest⟩ := exists_of_bind_eq_ok h
  obtain ⟨calculated, hCalculated, hSave⟩ := exists_of_bind_eq_ok hRest
  obtain rfl := Except.ok.inj hDecided
  exact @pairing_fresh_iff calculated changed (confirmed userId row) rfl
    ⟨hRow.founded.impact, hRow.founded.margins⟩ hCalculated hSave

theorem chooseDifferent_fresh_iff {userId : ℕ} (hRow : Settled row)
    (h : resolveMatch userId row .chooseDifferent (some candidate) = .ok changed) :
    Fresh changed ↔ PairingRight (repaired userId row candidate) := by
  obtain ⟨decided, hDecided, hRest⟩ := exists_of_bind_eq_ok h
  obtain ⟨calculated, hCalculated, hSave⟩ := exists_of_bind_eq_ok hRest
  obtain rfl := Except.ok.inj hDecided
  exact @pairing_fresh_iff calculated changed (repaired userId row candidate) rfl
    ⟨hRow.founded.impact, hRow.founded.margins⟩ hCalculated hSave

theorem retired_fresh_iff {userId : ℕ} {action : MatchAction} {matchStatus : MatchStatus}
    {figures : Figures} {candidate : Option LineRow} (hRow : Settled row)
    (hDead : matchStatus.isLive = false)
    (hDecided : decideMatch row.load action (candidate.map PriceReviewLine.load) =
      .ok { row.load with matchStatus, figures })
    (h : resolveMatch userId row action candidate = .ok changed) :
    Fresh changed ↔ figures = { Figures.none with movementType := matchStatus.movement } := by
  obtain ⟨decided, hEq, hRest⟩ := exists_of_bind_eq_ok h
  obtain ⟨calculated, hCalculated, hSave⟩ := exists_of_bind_eq_ok hRest
  rw [hDecided] at hEq
  obtain rfl := Except.ok.inj hEq
  rw [calculateLineMovement_of_not_live hDead] at hCalculated
  obtain rfl := Except.ok.inj hCalculated
  have hChanged : changed =
      { row with matchStatus, figures, matchConfirmedByUserId := some userId } :=
    (PriceReviewLine.eq_of_save hSave).trans (PriceReviewLine.map_assign_load
      { row with matchStatus, figures, matchConfirmedByUserId := some userId })
  subst hChanged
  exact fresh_iff_of_not_live hDead hRow.units

theorem withMovement_eq_iff {kept : Figures} {movement : Option MovementType} :
    { kept with movementType := movement } = { Figures.none with movementType := movement } ↔
      { kept with movementType := none } = Figures.none := by
  simp only [Figures.ext_iff, Figures.none]

theorem setManualQuantity_fresh_iff {payload : ManualQuantityUpdate} (hRow : Settled row)
    (h : setManualQuantity row payload = .ok changed) :
    Fresh changed ↔ (row.matchStatus.isLive = true →
      RoundingHarmless (withQuantity row payload) ∧
        AvoidancesRight (withQuantity row payload).rounded) := by
  obtain ⟨calculated, hCalculated, hSave⟩ := exists_of_bind_eq_ok h
  change calculateLineMovement (withQuantity row payload) = .ok calculated at hCalculated
  obtain rfl := PriceReviewLine.eq_of_save hSave
  have hUnits : UnitsAgree (calculated.map (FixedPoint.assign 4)) := by
    obtain ⟨figures, hEq⟩ := exists_figures_of_calculate hCalculated
    rw [hEq, unitsAgree_map]
    exact (unitsAgree_map FixedPoint.value row).mpr hRow.units
  cases hLive : row.matchStatus.isLive with
  | false =>
    rw [calculateLineMovement_of_not_live hLive] at hCalculated
    obtain rfl := Except.ok.inj hCalculated
    refine iff_of_true ?_ fun hTrue => nomatch hTrue
    exact (@fresh_iff_of_not_live ((withQuantity row payload).map (FixedPoint.assign 4)) hLive hUnits).mpr
      (hRow.figures_of_not_live hLive)
  | true =>
    have hRecalculable := hRow.recalculable hLive
    have hFounded : Founded (withQuantity row payload) := by
      refine ⟨fun hNone => (nomatch hNone), fun hNone => ?_⟩
      exact hRow.founded.margins (Option.or_eq_none_iff.mp hNone).2
    have hRefreshed := (calculate_refreshed_iff hLive hFounded hCalculated).mpr
      ⟨hRecalculable.packChanged, hRecalculable.incomparable, hRecalculable.missing⟩
    obtain ⟨figures, rfl⟩ := exists_figures_of_calculate hCalculated
    obtain rfl : figures = row.figures.refreshed (freshFigures (withQuantity row payload)) :=
      hRefreshed
    have hRounded : (withQuantity row payload).rounded.matchStatus.isLive = true := hLive
    rw [RoundingHarmless, avoidancesRight_iff hRounded]
    have hIff := @refreshed_eq_iff row.figures (freshFigures (withQuantity row payload))
      (freshFigures (withQuantity row payload).rounded)
    constructor
    · intro hFresh _
      exact hIff.mp hFresh.figures
    · intro hRight
      exact ⟨hIff.mpr (hRight rfl), hUnits⟩

/-- With a price and a quantity an avoidance is replaced, without them it stays and there was none.
-/
theorem costAvoidance_or {calculate : ℚ → ℚ → ℚ → Money} {stored agreed : ℚ} {earlier : Option ℚ} :
    (line.costAvoidance calculate agreed).or (earlier.bind (line.costAvoidance calculate)) =
      line.costAvoidance calculate stored ↔
    line.costAvoidance calculate agreed = line.costAvoidance calculate stored := by
  unfold PriceReviewLine.costAvoidance
  cases line.new.price with
  | none => cases earlier <;> simp
  | some price =>
    cases line.annualQuantity with
    | none => cases earlier <;> simp
    | some quantity => simp

theorem costAvoidance_eq_none {calculate : ℚ → ℚ → ℚ → Money} {agreed : ℚ} :
    row.load.costAvoidance calculate agreed = none ↔
      row.new.price = none ∨ row.annualQuantity = none := by
  change ((row.new.price.map FixedPoint.value).bind fun newPrice =>
    (row.annualQuantity.map FixedPoint.value).map fun quantity =>
      calculate newPrice agreed quantity) = none ↔ _
  cases row.new.price with
  | none => simp
  | some price => simp

theorem AsMatched.not_calculated (h : AsMatched row) :
    ¬ row.figures.comparisonBasis.isSome = true := by
  rw [h.figures]
  exact Bool.false_ne_true

variable {calculate : ℚ → ℚ → ℚ → Money} {agreedPrice : ℚ}

theorem negotiationRight_of_not_live (hDead : row.matchStatus.isLive = false) :
    NegotiationRight row calculate agreedPrice ↔
      row.new.price = none ∨ row.annualQuantity = none := by
  constructor
  · intro h
    exact h.notLive hDead
  · intro h
    refine ⟨fun hLive => ?_, fun _ => h⟩
    rw [hDead] at hLive
    exact nomatch hLive

theorem negotiationRight_of_live (hLive : row.matchStatus.isLive = true) :
    NegotiationRight row calculate agreedPrice ↔ row.figures.comparisonBasis.isSome = true ∧
      row.load.costAvoidance calculate agreedPrice =
        row.load.costAvoidance calculate (FixedPoint.assign 4 agreedPrice).value := by
  constructor
  · intro h
    exact h.live hLive
  · intro h
    refine ⟨fun _ => h, fun hDead => ?_⟩
    rw [hLive] at hDead
    exact nomatch hDead

theorem Fresh.isSome_comparisonBasis (h : Fresh row) (hLive : row.matchStatus.isLive = true) :
    row.figures.comparisonBasis.isSome = true := by
  have hFigures : freshFigures row.load = _ := if_pos hLive
  rw [h.figures, hFigures]
  rfl

theorem potential_fresh_iff (hFresh : Fresh row) (hLive : row.matchStatus.isLive = true)
    {price : Money} {avoidance : Option Money} (hChanged : changed = { row with
      targetPrice := some price
      figures := { row.figures with potentialCostAvoidance := avoidance } }) :
    Fresh changed ↔
      avoidance = row.load.costAvoidance calculatePotentialCostAvoidance price.value := by
  have hFigures : freshFigures changed.load = _ :=
    if_pos (show changed.matchStatus.isLive = true by rw [hChanged, hLive])
  have hEarlier : freshFigures row.load = _ := if_pos hLive
  subst hChanged
  constructor
  · intro h
    have hAvoidance := congrArg Figures.potentialCostAvoidance h.figures
    rw [hFigures] at hAvoidance
    exact hAvoidance
  · rintro rfl
    refine ⟨?_, hFresh.units⟩
    rw [hFigures, hFresh.figures, hEarlier]
    rfl

theorem actual_fresh_iff (hFresh : Fresh row) (hLive : row.matchStatus.isLive = true)
    {price : Money} {avoidance : Option Money} (hChanged : changed = { row with
      finalNegotiatedPrice := some price
      figures := { row.figures with actualCostAvoidance := avoidance } }) :
    Fresh changed ↔
      avoidance = row.load.costAvoidance calculateActualCostAvoidance price.value := by
  have hFigures : freshFigures changed.load = _ :=
    if_pos (show changed.matchStatus.isLive = true by rw [hChanged, hLive])
  have hEarlier : freshFigures row.load = _ := if_pos hLive
  subst hChanged
  constructor
  · intro h
    have hAvoidance := congrArg Figures.actualCostAvoidance h.figures
    rw [hFigures] at hAvoidance
    exact hAvoidance
  · rintro rfl
    refine ⟨?_, hFresh.units⟩
    rw [hFigures, hFresh.figures, hEarlier]
    rfl

/-- A negotiated price touches one avoidance, so only that column decides whether the line is fresh.
-/
theorem negotiated_fresh_iff (hRow : Settled row) (hStatus : changed.matchStatus = row.matchStatus)
    (hBasis : changed.figures.comparisonBasis = row.figures.comparisonBasis)
    (hDead : row.matchStatus.isLive = false →
      (Fresh changed ↔ row.load.costAvoidance calculate agreedPrice = none))
    (hCalculated : row.matchStatus.isLive = true → Fresh row → (Fresh changed ↔
      row.load.costAvoidance calculate agreedPrice =
        row.load.costAvoidance calculate (FixedPoint.assign 4 agreedPrice).value)) :
    Fresh changed ↔ NegotiationRight row calculate agreedPrice := by
  cases hLive : row.matchStatus.isLive with
  | false => rw [hDead hLive, negotiationRight_of_not_live hLive, costAvoidance_eq_none]
  | true =>
    rw [negotiationRight_of_live hLive]
    obtain hMatched | hFresh := hRow
    · refine iff_of_false (fun hFresh => ?_) fun hRight => hMatched.not_calculated hRight.1
      have hSome := hFresh.isSome_comparisonBasis (hStatus ▸ hLive)
      rw [hBasis] at hSome
      exact hMatched.not_calculated hSome
    · rw [hCalculated hLive hFresh]
      exact (and_iff_right (hFresh.isSome_comparisonBasis hLive)).symm

theorem setNegotiationTarget_fresh_iff {targetPrice : ℚ} (hRow : Settled row)
    (h : setNegotiationTarget row targetPrice = .ok changed) :
    Fresh changed ↔ NegotiationRight row calculatePotentialCostAvoidance targetPrice := by
  have hChanged : changed = { row with
      targetPrice := some (FixedPoint.assign 4 targetPrice)
      figures := { row.figures with
        potentialCostAvoidance :=
          (row.load.costAvoidance calculatePotentialCostAvoidance targetPrice).or
            row.figures.potentialCostAvoidance } } := by
    rw [PriceReviewLine.eq_of_save h]
    simp [PriceReviewLine.map, PriceReviewLine.load]
  refine negotiated_fresh_iff hRow (hChanged ▸ rfl) (hChanged ▸ rfl) ?_ ?_
  · intro hLive
    have hStatus : changed.matchStatus = row.matchStatus := hChanged ▸ rfl
    rw [fresh_iff_of_not_live (hStatus ▸ hLive) (hChanged ▸ hRow.units), hStatus, hChanged,
      hRow.figures_of_not_live hLive]
    simp [Figures.ext_iff, Figures.none]
  · intro hLive hFresh
    have hFigures : freshFigures row.load = _ := if_pos hLive
    have hStored : row.figures.potentialCostAvoidance =
        row.load.targetPrice.bind (row.load.costAvoidance calculatePotentialCostAvoidance) := by
      rw [hFresh.figures, hFigures]
    rw [potential_fresh_iff hFresh hLive hChanged, hStored, costAvoidance_or]

theorem recordNegotiationOutcome_fresh_iff {finalNegotiatedPrice : ℚ} (hRow : Settled row)
    (h : recordNegotiationOutcome row finalNegotiatedPrice = .ok changed) :
    Fresh changed ↔ NegotiationRight row calculateActualCostAvoidance finalNegotiatedPrice := by
  have hChanged : changed = { row with
      finalNegotiatedPrice := some (FixedPoint.assign 4 finalNegotiatedPrice)
      figures := { row.figures with
        actualCostAvoidance :=
          (row.load.costAvoidance calculateActualCostAvoidance finalNegotiatedPrice).or
            row.figures.actualCostAvoidance } } := by
    rw [PriceReviewLine.eq_of_save h]
    simp [PriceReviewLine.map, PriceReviewLine.load]
  refine negotiated_fresh_iff hRow (hChanged ▸ rfl) (hChanged ▸ rfl) ?_ ?_
  · intro hLive
    have hStatus : changed.matchStatus = row.matchStatus := hChanged ▸ rfl
    rw [fresh_iff_of_not_live (hStatus ▸ hLive) (hChanged ▸ hRow.units), hStatus, hChanged,
      hRow.figures_of_not_live hLive]
    simp [Figures.ext_iff, Figures.none]
  · intro hLive hFresh
    have hFigures : freshFigures row.load = _ := if_pos hLive
    have hStored : row.figures.actualCostAvoidance =
        row.load.finalNegotiatedPrice.bind (row.load.costAvoidance calculateActualCostAvoidance) := by
      rw [hFresh.figures, hFigures]
    rw [actual_fresh_iff hFresh hLive hChanged, hStored, costAvoidance_or]

theorem chosenCandidate_ok {decision : MatchDecision} {candidate : Option LineRow}
    (hAction : decision.action = .chooseDifferent)
    (h : chosenCandidate rows decision = .ok candidate) :
    candidate = decision.chosenNewLine.bind fun chosen => rows[chosen]? := by
  unfold chosenCandidate at h
  rw [hAction] at h
  cases hChosen : decision.chosenNewLine with
  | none =>
    rw [hChosen] at h
    exact (Except.ok.inj h).symm
  | some chosen =>
    rw [hChosen] at h
    change (findLine rows chosen).map some = .ok candidate at h
    unfold findLine at h
    rw [Option.bind_some]
    cases hRow : rows[chosen]? with
    | none =>
      rw [hRow] at h
      exact nomatch h
    | some row =>
      rw [hRow] at h
      exact (Except.ok.inj h).symm

/-- After one operation the line is fresh exactly when the operation was allowed. -/
theorem operate_fresh_iff {operation : LineOperation} (hRow : Settled row)
    (h : operate rows row operation = .ok changed) : Fresh changed ↔
      KeepsFresh rows row operation := by
  cases operation with
  | resolveMatch userId decision =>
    obtain ⟨candidate, hCandidate, hResolve⟩ := exists_of_bind_eq_ok h
    obtain ⟨action, chosen⟩ := decision
    cases action with
    | confirm => exact confirm_fresh_iff hRow hResolve
    | chooseDifferent =>
      have hChosen := chosenCandidate_ok rfl hCandidate
      cases candidate with
      | none => exact nomatch hResolve
      | some candidate =>
        rw [chooseDifferent_fresh_iff hRow hResolve]
        constructor
        · intro hRight other hOther
          obtain rfl := Option.some.inj (hChosen.trans hOther)
          exact hRight
        · intro hRight
          exact hRight candidate hChosen.symm
    | markNew | markDiscontinued =>
      rw [retired_fresh_iff hRow rfl rfl hResolve]
      exact withMovement_eq_iff
    | ignore => exact retired_fresh_iff hRow rfl rfl hResolve
  | setManualQuantity payload => exact setManualQuantity_fresh_iff hRow h
  | setNegotiationTarget targetPrice => exact setNegotiationTarget_fresh_iff hRow h
  | recordNegotiationOutcome finalNegotiatedPrice => exact recordNegotiationOutcome_fresh_iff hRow h

variable {tools : TextTools} {history : List (ℕ × LineOperation)}

theorem Run.settled (hRun : Run tools KeepsFresh history rows) : ∀ row ∈ rows, Settled row :=
  hRun.forall_rows (fun _ => .inl) fun _ _ _ _ _ hRow hAllowed hStep =>
    .inr ((operate_fresh_iff hRow hStep).mpr hAllowed)

theorem Run.fresh (hRun : Run tools KeepsFresh history rows) :
    ∀ entry ∈ history, ∃ row, rows[entry.1]? = some row ∧ Fresh row := by
  induction hRun with
  | start => exact fun entry hEntry => nomatch hEntry
  | matched hRun hOld hNew hMatch ih =>
    intro entry hEntry
    obtain ⟨row, hRow, hFresh⟩ := ih entry hEntry
    obtain ⟨hBound, -⟩ := List.getElem?_eq_some_iff.mp hRow
    exact ⟨row, (List.getElem?_append_left hBound).trans hRow, hFresh⟩
  | @operated history rows after line row operation hRun hRow hAllowed hApply ih =>
    obtain ⟨changed, hChanged, rfl⟩ := applyOperation_ok hRow hApply
    obtain ⟨hBound, -⟩ := List.getElem?_eq_some_iff.mp hRow
    have hTouched : (rows.set line changed)[line]? = some changed := List.getElem?_set_self hBound
    have hFresh : Fresh changed :=
      (operate_fresh_iff (hRun.settled row (List.mem_of_getElem? hRow)) hChanged).mpr hAllowed
    intro entry hEntry
    by_cases hLine : line = entry.1
    · exact ⟨changed, hLine ▸ hTouched, hFresh⟩
    · obtain hEntry | hEntry := List.mem_append.mp hEntry
      · obtain ⟨other, hOther, hOtherFresh⟩ := ih entry hEntry
        exact ⟨other, (List.getElem?_set_ne hLine).trans hOther, hOtherFresh⟩
      · exact absurd (congrArg Prod.fst (List.mem_singleton.mp hEntry)).symm hLine

/-- While the operations find right what they leave alone, every line is fresh after each of
them, and the first operation that does not leaves a line with a stale figure. -/
theorem figures_stay_fresh (tools : TextTools) (hRun : Run tools KeepsFresh history rows) :
    (∀ entry ∈ history, ∃ row, rows[entry.1]? = some row ∧ Fresh row) ∧
    ∀ line row operation after, rows[line]? = some row →
      applyOperation rows line operation = .ok after →
      ((∃ changed, after[line]? = some changed ∧ Fresh changed) ↔
        KeepsFresh rows row operation) := by
  refine ⟨hRun.fresh, fun line row operation after hRow hStep => ?_⟩
  obtain ⟨changed, hChanged, rfl⟩ := applyOperation_ok hRow hStep
  obtain ⟨hBound, -⟩ := List.getElem?_eq_some_iff.mp hRow
  rw [List.getElem?_set_self hBound, ← operate_fresh_iff
    (hRun.settled row (List.mem_of_getElem? hRow)) hChanged]
  constructor
  · rintro ⟨other, hOther, hFresh⟩
    obtain rfl := Option.some.inj hOther
    exact hFresh
  · intro hFresh
    exact ⟨changed, rfl, hFresh⟩

theorem flour_quantity_fresh : ∃ after, applyOperation (flourRows "130") 0
      (.setManualQuantity (tenAYear none)) = .ok after ∧ ∃ changed, after[0]? = some changed ∧
        Fresh changed := by
  have hRun : Run asciiTools KeepsFresh [] (flourRows "130") :=
    run_flour (by decide +kernel) (by decide +kernel)
  have hFirst : ((flourRows "130")[0]?.any fun row =>
      decide (RoundingHarmless (withQuantity row (tenAYear none))) &&
        decide (AvoidancesRight (withQuantity row (tenAYear none)).rounded)) = true := by
    decide +kernel
  obtain ⟨row, hRow, hRight⟩ := (Option.any_eq_true _ _).mp hFirst
  rw [Bool.and_eq_true_iff, decide_eq_true_iff, decide_eq_true_iff] at hRight
  have hStep :
    ((applyOperation (flourRows "130") 0 (.setManualQuantity (tenAYear none))).toOption.any
      fun _ => true) = true := by
    decide +kernel
  obtain ⟨after, hAfter, -⟩ := exists_of_any hStep
  exact ⟨after, hAfter, ((figures_stay_fresh asciiTools hRun).2 0 row _ after hRow hAfter).mpr
    fun _ => hRight⟩

theorem ignored_figures_stale :
    ¬ ∀ (tools : TextTools) (history : List (ℕ × LineOperation)) (rows : List LineRow),
    Run tools (fun _ _ _ => True) history rows → ∀ entry ∈ history, ∃ row,
      rows[entry.1]? = some row ∧ Fresh row := by
  intro h
  have hRun : Run asciiTools (fun _ _ _ => True) [] (flourRows "130") :=
    run_flour (by decide +kernel) (by decide +kernel)
  have hStep : ((operateAll (flourRows "130") [(0, .setManualQuantity (tenAYear none)),
      (0, .resolveMatch 1 ⟨.ignore, none⟩)]).toOption.any fun rows =>
        rows[0]?.any fun row => !decide (row.figures = freshFigures row.load)) = true := by
    decide +kernel
  obtain ⟨after, hAfter, hStale⟩ := exists_of_any hStep
  obtain ⟨row, hRow, hNot⟩ := (Option.any_eq_true _ _).mp hStale
  obtain ⟨other, hOther, hFresh⟩ :=
    h asciiTools _ after (hRun.operateAll hAfter) _ (List.mem_cons_self ..)
  obtain rfl := Option.some.inj (hRow.symm.trans hOther)
  rw [decide_eq_true hFresh.figures] at hNot
  exact nomatch hNot

end ProcureFoundation.PriceReview
