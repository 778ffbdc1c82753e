import ProcureFoundation.Foundation.Outcomes
import ProcureFoundation.PriceReview.Lines

/-!
# Operations on a review's lines

A request loads the row of a line, changes it, calculates its movement where the
operation asks for it and saves it. A request that raises leaves every row as it was.
-/

namespace ProcureFoundation.PriceReview

open Outcome

inductive MatchAction where
  | confirm
  | chooseDifferent
  | markNew
  | markDiscontinued
  | ignore
deriving DecidableEq

/-- The chosen line is named by its place among the lines of the review. -/
structure MatchDecision where
  action : MatchAction
  chosenNewLine : Option ℕ
deriving DecidableEq

/-- The request's schema demands a positive quantity. -/
structure ManualQuantityUpdate where
  annualQuantity : ℚ
  sellingPrice : Option ℚ
  positive : 0 < annualQuantity

def PriceReviewLine.comparisonBasis {α : Type} (line : PriceReviewLine α) : ComparisonBasis :=
  determineComparisonBasis line.old.normalizedPrice line.new.normalizedPrice line.old.normalizedBaseUnit
    line.new.normalizedBaseUnit

def PriceReviewLine.comparedPrices {α : Type} (line : PriceReviewLine α) (basis : ComparisonBasis) :
    Option (α × α) :=
  let cmpOld := if basis = .normalized then line.old.normalizedPrice else line.old.price
  let cmpNew := if basis = .normalized then line.new.normalizedPrice else line.new.price
  cmpOld.bind fun old => cmpNew.map fun new => (old, new)

def applyUnitMismatch (figures : Figures) : Figures :=
  { figures with
    movementType := some .reviewRequired
    absoluteChange := none
    percentageChange := none
    riskClassification := some .unclassified }

def applyMovement (figures : Figures) (cmpOld cmpNew : ℚ) : Figures :=
  let percentageChange := calculatePercentageChange cmpOld cmpNew
  { figures with
    absoluteChange := some (calculatePriceChange cmpOld cmpNew)
    percentageChange := percentageChange
    movementType :=
      some (classifyMovementType true false false figures.packChanged percentageChange)
    riskClassification := some (classifyRisk percentageChange) }

def applyAnnualImpact (figures : Figures) (cmpOld cmpNew : ℚ) (annualQuantity : Option ℚ) :
    Figures :=
  match annualQuantity with
  | none => figures
  | some quantity =>
    { figures with annualImpact := some (calculateAnnualImpact (calculatePriceChange cmpOld cmpNew).value quantity) }

def applyMargins (figures : Figures) (cmpOld cmpNew : ℚ) (annualQuantity sellingPrice : Option ℚ) :
    Except String Figures :=
  match sellingPrice with
  | none => .ok figures
  | some price => do
    let oldMargin ← calculateGrossMargin price cmpOld
    let newMargin ← calculateGrossMargin price cmpNew
    let figures := { figures with
      oldMarginPct := some oldMargin
      newMarginPct := some newMargin
      marginMovementPct := some (newMargin - oldMargin) }
    match annualQuantity with
    | none => return figures
    | some quantity =>
      return { figures with annualMarginImpact := some (calculateAnnualImpact (newMargin - oldMargin).value quantity) }

def calculateLineMovement (line : PriceReviewLine ℚ) : Except String (PriceReviewLine ℚ) :=
  if !line.matchStatus.isLive then .ok line
  else
    let basis := line.comparisonBasis
    let figures := { line.figures with comparisonBasis := some basis }
    if basis = .unitMismatch then .ok { line with figures := applyUnitMismatch figures }
    else
      match line.comparedPrices basis with
      | none => .ok { line with figures }
      | some (cmpOld, cmpNew) => do
        let figures :=
          applyAnnualImpact (applyMovement figures cmpOld cmpNew) cmpOld cmpNew line.annualQuantity
        let figures ← applyMargins figures cmpOld cmpNew line.annualQuantity line.sellingPrice
        return { line with figures }

/-- The line as the decision leaves it, before its movement is calculated. -/
def decideMatch (line : PriceReviewLine ℚ) (action : MatchAction)
    (candidate : Option (PriceReviewLine ℚ)) : Except String (PriceReviewLine ℚ) :=
  match action with
  | .confirm => .ok { line with matchStatus := .matched }
  | .chooseDifferent =>
    match candidate with
    | none => .error "chosen_new_line_public_id did not resolve to a line in this review"
    | some candidate => .ok { line with
        new := { candidate.new with normalizedBaseUnit := line.new.normalizedBaseUnit }
        matchStatus := .matched
        matchMethod := .manualOverride }
  | .markNew => .ok { line with
      matchStatus := .newProduct
      figures := { line.figures with movementType := some .newProduct } }
  | .markDiscontinued => .ok { line with
      matchStatus := .discontinued
      figures := { line.figures with movementType := some .discontinued } }
  | .ignore => .ok { line with matchStatus := .ignored }

def resolveMatch (userId : ℕ) (row : LineRow) (action : MatchAction) (candidate : Option LineRow) :
    Except String LineRow := do
  let line ← decideMatch row.load action (candidate.map PriceReviewLine.load)
  let line ← calculateLineMovement { line with matchConfirmedByUserId := some userId }
  line.save

def setManualQuantity (row : LineRow) (payload : ManualQuantityUpdate) : Except String LineRow := do
  let line := row.load
  let line ← calculateLineMovement { line with
    annualQuantity := some payload.annualQuantity
    quantitySource := some .manual
    quantityConfidence := some .low
    sellingPrice := payload.sellingPrice.or line.sellingPrice }
  line.save

/-- An avoidance is calculated when the new price and the quantity are known. -/
def PriceReviewLine.costAvoidance (line : PriceReviewLine ℚ) (calculate : ℚ → ℚ → ℚ → Money)
    (agreedPrice : ℚ) : Option Money :=
  line.new.price.bind fun newPrice => line.annualQuantity.map fun quantity =>
    calculate newPrice agreedPrice quantity

def setNegotiationTarget (row : LineRow) (targetPrice : ℚ) : Except String LineRow :=
  let line := row.load
  let figures := { line.figures with
    potentialCostAvoidance :=
      (line.costAvoidance calculatePotentialCostAvoidance targetPrice).or
        line.figures.potentialCostAvoidance }
  PriceReviewLine.save { line with targetPrice := some targetPrice, figures }

def recordNegotiationOutcome (row : LineRow) (finalNegotiatedPrice : ℚ) : Except String LineRow :=
  let line := row.load
  let figures := { line.figures with
    actualCostAvoidance :=
      (line.costAvoidance calculateActualCostAvoidance finalNegotiatedPrice).or
        line.figures.actualCostAvoidance }
  PriceReviewLine.save { line with finalNegotiatedPrice := some finalNegotiatedPrice, figures }

inductive LineOperation where
  | resolveMatch (userId : ℕ) (decision : MatchDecision)
  | setManualQuantity (payload : ManualQuantityUpdate)
  | setNegotiationTarget (targetPrice : ℚ)
  | recordNegotiationOutcome (finalNegotiatedPrice : ℚ)

def findLine (rows : List LineRow) (line : ℕ) : Except String LineRow :=
  match rows[line]? with
  | some row => .ok row
  | none => .error "Price review line not found"

/-- The candidate is only looked up when a different line has been chosen. -/
def chosenCandidate (rows : List LineRow) (decision : MatchDecision) :
    Except String (Option LineRow) :=
  match decision.action, decision.chosenNewLine with
  | .chooseDifferent, some chosen => (findLine rows chosen).map some
  | _, _ => .ok none

def operate (rows : List LineRow) (row : LineRow) : LineOperation → Except String LineRow
  | .resolveMatch userId decision => do
    let candidate ← chosenCandidate rows decision
    resolveMatch userId row decision.action candidate
  | .setManualQuantity payload => setManualQuantity row payload
  | .setNegotiationTarget targetPrice => setNegotiationTarget row targetPrice
  | .recordNegotiationOutcome finalNegotiatedPrice =>
    recordNegotiationOutcome row finalNegotiatedPrice

def applyOperation (rows : List LineRow) (line : ℕ) (operation : LineOperation) :
    Except String (List LineRow) := do
  let row ← findLine rows line
  let changed ← operate rows row operation
  return rows.set line changed

variable {line after : PriceReviewLine ℚ}

theorem calculateLineMovement_of_not_live (h : line.matchStatus.isLive = false) :
    calculateLineMovement line = .ok line := by
  rw [calculateLineMovement, h]
  rfl

/-- The calculation touches nothing but the figures. -/
theorem exists_figures_of_calculate (h : calculateLineMovement line = .ok after) :
    ∃ figures, after = { line with figures } := by
  unfold calculateLineMovement at h
  split at h
  · exact ⟨line.figures, (Except.ok.inj h).symm⟩
  · dsimp only at h
    split at h
    · exact ⟨_, (Except.ok.inj h).symm⟩
    · split at h
      · exact ⟨_, (Except.ok.inj h).symm⟩
      · obtain ⟨figures, -, h⟩ := exists_of_bind_eq_ok h
        exact ⟨figures, (Except.ok.inj h).symm⟩

end ProcureFoundation.PriceReview
