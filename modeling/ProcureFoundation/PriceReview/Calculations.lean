import ProcureFoundation.Matching.PackParser

/-!
# Price-review calculations

The pure functions behind every figure of a price-review line. Differences, products and
quotients are rounded by the arithmetic context before they are quantized.
-/

namespace ProcureFoundation.PriceReview

open Matching

inductive MatchStatus where
  | matched
  | newProduct
  | discontinued
  | reviewRequired
  | ignored
deriving DecidableEq

inductive MovementType where
  | newProduct
  | discontinued
  | reviewRequired
  | packChange
  | priceIncrease
  | priceDecrease
  | noChange
deriving DecidableEq

inductive RiskClassification where
  | unclassified
  | low
  | medium
  | high
  | critical
deriving DecidableEq

inductive ComparisonBasis where
  | normalized
  | raw
  | unitMismatch
deriving DecidableEq

def roundCurrency (amount : ℚ) : Money := FixedPoint.quantize 4 amount

def roundPercentage (fraction : ℚ) : Percentage := FixedPoint.quantize 6 fraction

def calculatePriceChange (oldPrice newPrice : ℚ) : Money :=
  roundCurrency (contextRound (newPrice - oldPrice))

/-- A change from zero has no percentage. -/
def calculatePercentageChange (oldPrice newPrice : ℚ) : Option Percentage :=
  if oldPrice = 0 then none
  else some (roundPercentage (contextRound (contextRound (newPrice - oldPrice) / oldPrice)))

def calculateAnnualImpact (priceChange annualQuantity : ℚ) : Money :=
  roundCurrency (contextRound (priceChange * annualQuantity))

def determineComparisonBasis {α : Type} (oldNormalizedPrice newNormalizedPrice : Option α)
    (oldBaseUnit newBaseUnit : Option BaseUnit) : ComparisonBasis :=
  if oldNormalizedPrice.isSome ∧ newNormalizedPrice.isSome then
    if oldBaseUnit = newBaseUnit then .normalized else .unitMismatch
  else if oldNormalizedPrice.isNone ∧ newNormalizedPrice.isNone then .raw
  else .unitMismatch

/-- Only the percentage; a selling price of zero is the error. -/
def calculateGrossMargin (sellingPrice cost : ℚ) : Except String Percentage :=
  if sellingPrice = 0 then .error "selling_price is zero - cannot compute a margin percentage"
  else .ok (roundPercentage (contextRound (contextRound (sellingPrice - cost) / sellingPrice)))

/-- The margin as a line stores it. -/
def roundedMarginPct (sellingPrice cost : ℚ) : Percentage :=
  roundPercentage (contextRound (contextRound (sellingPrice - cost) / sellingPrice))

theorem calculateGrossMargin_of_ne {sellingPrice cost : ℚ} (h : sellingPrice ≠ 0) :
    calculateGrossMargin sellingPrice cost = .ok (roundedMarginPct sellingPrice cost) := if_neg h

def calculatePotentialCostAvoidance (requestedNewPrice targetPrice annualQuantity : ℚ) : Money :=
  roundCurrency (contextRound (contextRound (requestedNewPrice - targetPrice) * annualQuantity))

def calculateActualCostAvoidance (requestedNewPrice finalNegotiatedPrice annualQuantity : ℚ) :
    Money :=
  roundCurrency (contextRound (contextRound (requestedNewPrice - finalNegotiatedPrice) * annualQuantity))

def classifyRisk (percentageChange : Option Percentage) : RiskClassification :=
  match percentageChange with
  | none => .unclassified
  | some change =>
    let magnitude := |change.value|
    if magnitude ≤ 2 / 100 then .low
    else if magnitude ≤ 5 / 100 then .medium
    else if magnitude ≤ 10 / 100 then .high
    else .critical

def classifyMovementType (isMatched isNew isDiscontinued packChanged : Bool)
    (percentageChange : Option Percentage) : MovementType :=
  if isNew then .newProduct
  else if isDiscontinued then .discontinued
  else if !isMatched then .reviewRequired
  else if packChanged then .packChange
  else
    match percentageChange with
    | none => .reviewRequired
    | some change =>
      if 0 < change.value then .priceIncrease
      else if change.value < 0 then .priceDecrease
      else .noChange

theorem determineComparisonBasis_eq_normalized {α : Type} {oldPrice newPrice : Option α}
    {oldUnit newUnit : Option BaseUnit}
    (h : determineComparisonBasis oldPrice newPrice oldUnit newUnit = .normalized) :
    oldPrice.isSome ∧ newPrice.isSome ∧ oldUnit = newUnit := by
  unfold determineComparisonBasis at h
  split at h
  · rename_i hBoth
    split at h
    · rename_i hUnit
      exact ⟨hBoth.1, hBoth.2, hUnit⟩
    · exact nomatch h
  · split at h
    · exact nomatch h
    · exact nomatch h

theorem determineComparisonBasis_map {α β : Type} (f : α → β) (oldPrice newPrice : Option α)
    (oldUnit newUnit : Option BaseUnit) :
    determineComparisonBasis (oldPrice.map f) (newPrice.map f) oldUnit newUnit =
      determineComparisonBasis oldPrice newPrice oldUnit newUnit := by
  cases oldPrice <;> cases newPrice <;> rfl

end ProcureFoundation.PriceReview
