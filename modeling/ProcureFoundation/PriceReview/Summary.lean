import ProcureFoundation.PriceReview.Lines

/-!
# The supplier summary

The counts go by movement type, the cost impact is the sum of the impacts that are stored
and the headline increase is weighted by quantity. The sums of column values are exact;
the products and the running totals of the weighted average are rounded by the context.
-/

namespace ProcureFoundation.PriceReview

structure SummaryLine where
  movementType : MovementType
  percentageChange : Option Percentage
  annualImpact : Option Money
  annualQuantity : Option Money
  packChanged : Bool
  requiresReview : Bool
deriving DecidableEq

structure SupplierSummary where
  totalPreviousSkus : ℕ
  totalNewSkus : ℕ
  matchedSkus : ℕ
  unmatchedSkus : ℕ
  newSkus : ℕ
  discontinuedSkus : ℕ
  increasingSkus : ℕ
  decreasingSkus : ℕ
  unchangedSkus : ℕ
  packChanges : ℕ
  weightedAveragePriceIncreasePct : Option Percentage
  annualCostImpact : ℚ
  productsRequiringManualReview : ℕ
deriving DecidableEq

def MovementType.isMatched : MovementType → Bool
  | .newProduct | .discontinued | .reviewRequired => false
  | .packChange | .priceIncrease | .priceDecrease | .noChange => true

/-- The weighted change and the weight of a line that the headline increase counts. -/
def weightOf (line : SummaryLine) : Option (ℚ × ℚ) :=
  match line.percentageChange, line.annualQuantity with
  | some change, some quantity =>
    if line.movementType.isMatched then
      some (contextRound (change.value * quantity.value), quantity.value)
    else none
  | _, _ => none

def contextSum (amounts : List ℚ) : ℚ :=
  amounts.foldl (fun total amount => contextRound (total + amount)) 0

def weightedAverageIncrease (lines : List SummaryLine) : Option Percentage :=
  let weights := lines.filterMap weightOf
  let numerator := contextSum (weights.map Prod.fst)
  let denominator := contextSum (weights.map Prod.snd)
  if denominator = 0 then none else some (roundPercentage (contextRound (numerator / denominator)))

def annualCostImpact (lines : List SummaryLine) : ℚ :=
  (lines.map fun line => (line.annualImpact.map FixedPoint.value).getD 0).sum

def countMovement (movementType : MovementType) (lines : List SummaryLine) : ℕ :=
  lines.countP fun line => line.movementType == movementType

def summarize (lines : List SummaryLine) (totalPreviousSkus totalNewSkus : ℕ) :
    SupplierSummary where
  totalPreviousSkus := totalPreviousSkus
  totalNewSkus := totalNewSkus
  matchedSkus := lines.countP (·.movementType.isMatched)
  unmatchedSkus :=
    lines.length - lines.countP (·.movementType.isMatched) - countMovement .newProduct lines -
      countMovement .discontinued lines
  newSkus := countMovement .newProduct lines
  discontinuedSkus := countMovement .discontinued lines
  increasingSkus := countMovement .priceIncrease lines
  decreasingSkus := countMovement .priceDecrease lines
  unchangedSkus := countMovement .noChange lines
  packChanges := lines.countP (·.packChanged)
  weightedAveragePriceIncreasePct := weightedAverageIncrease lines
  annualCostImpact := annualCostImpact lines
  productsRequiringManualReview := lines.countP (·.requiresReview)

/-- A line without a movement type counts as one to review. -/
def summaryLine (row : LineRow) : SummaryLine where
  movementType := row.figures.movementType.getD .reviewRequired
  percentageChange := row.figures.percentageChange
  annualImpact := row.figures.annualImpact
  annualQuantity := row.annualQuantity
  packChanged := row.figures.packChanged
  requiresReview := row.matchStatus == .reviewRequired

def getSummary (rows : List LineRow) : SupplierSummary :=
  summarize (rows.map summaryLine) (rows.countP (·.old.supplierSku.isSome))
    (rows.countP (·.new.supplierSku.isSome))

end ProcureFoundation.PriceReview
