import ProcureFoundation.Foundation.DecimalText
import ProcureFoundation.Foundation.StoredColumns
import ProcureFoundation.Matching.Scorer
import ProcureFoundation.PriceReview.Calculations

/-!
# Price-review lines

One line per pairing of an old and a new row. A line in the session holds amounts of any
precision; the row of it that a table holds has four decimals. The figures are derived
columns, already at the scale of theirs when they are calculated.
-/

namespace ProcureFoundation.PriceReview

open Matching

structure ListSide (α : Type) where
  supplierSku : Option String
  description : Option String
  packRaw : Option String
  price : Option α
  normalizedPrice : Option α
  normalizedBaseUnit : Option BaseUnit
deriving DecidableEq

inductive LineMatchMethod where
  | scored (method : MatchMethod)
  | manualOverride
deriving DecidableEq

inductive QuantitySource where
  | manual
  | purchaseHistory
deriving DecidableEq

inductive QuantityConfidence where
  | low
  | medium
  | high
deriving DecidableEq

@[ext]
structure Figures where
  packChanged : Bool
  comparisonBasis : Option ComparisonBasis
  absoluteChange : Option Money
  percentageChange : Option Percentage
  movementType : Option MovementType
  riskClassification : Option RiskClassification
  annualImpact : Option Money
  oldMarginPct : Option Percentage
  newMarginPct : Option Percentage
  marginMovementPct : Option Percentage
  annualMarginImpact : Option Money
  potentialCostAvoidance : Option Money
  actualCostAvoidance : Option Money
deriving DecidableEq

structure PriceReviewLine (α : Type) where
  old : ListSide α
  new : ListSide α
  matchStatus : MatchStatus
  matchMethod : LineMatchMethod
  matchConfidence : Option Money
  matchConfirmedByUserId : Option ℕ
  annualQuantity : Option α
  quantitySource : Option QuantitySource
  quantityConfidence : Option QuantityConfidence
  sellingPrice : Option α
  targetPrice : Option α
  finalNegotiatedPrice : Option α
  figures : Figures
deriving DecidableEq

abbrev LineRow := PriceReviewLine Money

def ListSide.empty {α : Type} : ListSide α := ⟨none, none, none, none, none, none⟩

def ListSide.map {α β : Type} (f : α → β) (side : ListSide α) : ListSide β :=
  { side with
    price := side.price.map f
    normalizedPrice := side.normalizedPrice.map f }

def PriceReviewLine.map {α β : Type} (f : α → β) (line : PriceReviewLine α) : PriceReviewLine β :=
  { line with
    old := line.old.map f
    new := line.new.map f
    annualQuantity := line.annualQuantity.map f
    sellingPrice := line.sellingPrice.map f
    targetPrice := line.targetPrice.map f
    finalNegotiatedPrice := line.finalNegotiatedPrice.map f }

def Figures.none : Figures where
  packChanged := false
  comparisonBasis := .none
  absoluteChange := .none
  percentageChange := .none
  movementType := .none
  riskClassification := .none
  annualImpact := .none
  oldMarginPct := .none
  newMarginPct := .none
  marginMovementPct := .none
  annualMarginImpact := .none
  potentialCostAvoidance := .none
  actualCostAvoidance := .none

def MatchStatus.isLive : MatchStatus → Bool
  | .matched | .reviewRequired => true
  | .newProduct | .discontinued | .ignored => false

variable {α : Type}

def PriceReviewLine.packsDiffer (line : PriceReviewLine α) : Bool :=
  line.old.packRaw.getD "" != line.new.packRaw.getD ""

def ListSide.fits (side : ListSide Money) : Bool :=
  fitsVarchar 128 side.supplierSku && fitsVarchar 512 side.description &&
    fitsVarchar 128 side.packRaw &&
    fitsNumeric 18 side.price && fitsNumeric 18 side.normalizedPrice

def Figures.fits (figures : Figures) : Bool :=
  fitsNumeric 18 figures.absoluteChange && fitsNumeric 9 figures.percentageChange &&
    fitsNumeric 18 figures.annualImpact && fitsNumeric 9 figures.oldMarginPct &&
    fitsNumeric 9 figures.newMarginPct && fitsNumeric 9 figures.marginMovementPct &&
    fitsNumeric 18 figures.annualMarginImpact && fitsNumeric 18 figures.potentialCostAvoidance &&
    fitsNumeric 18 figures.actualCostAvoidance

def PriceReviewLine.fits (row : LineRow) : Bool :=
  row.old.fits && row.new.fits && fitsNumeric 18 row.annualQuantity &&
    fitsNumeric 18 row.sellingPrice &&
    fitsNumeric 18 row.targetPrice && fitsNumeric 18 row.finalNegotiatedPrice && row.figures.fits

def PriceReviewLine.load (row : LineRow) : PriceReviewLine ℚ := row.map FixedPoint.value

/-- The row that the changes of a session leave, unless a column overflows. -/
def PriceReviewLine.save (line : PriceReviewLine ℚ) : Except String LineRow :=
  let row := line.map (FixedPoint.assign 4)
  if row.fits then .ok row else .error "numeric field overflow"

theorem PriceReviewLine.eq_of_save {line : PriceReviewLine ℚ} {row : LineRow}
    (h : line.save = .ok row) : row = line.map (FixedPoint.assign 4) := by
  dsimp only [save] at h
  split at h
  · exact (Except.ok.inj h).symm
  · exact nomatch h

@[simp] theorem ListSide.map_assign_load (side : ListSide Money) :
    (side.map FixedPoint.value).map (FixedPoint.assign 4) = side := by
  simp [ListSide.map]

@[simp] theorem PriceReviewLine.map_assign_load (row : LineRow) :
    row.load.map (FixedPoint.assign 4) = row := by
  simp [PriceReviewLine.load, PriceReviewLine.map]

end ProcureFoundation.PriceReview
