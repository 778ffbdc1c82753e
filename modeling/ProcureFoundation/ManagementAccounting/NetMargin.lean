import ProcureFoundation.Foundation.DecimalArithmetic
import ProcureFoundation.Foundation.Outcomes

/-!
# Net revenue and net margin

The waterfall takes the deductions from the gross sales and adds the signed lines, or names every
line that is missing. The margin of a customer starts from either end of it: the basis says whether
the trade spend is still in the revenue. Every operation is one of the decimal context.
-/

namespace ProcureFoundation.ManagementAccounting

structure GrossToNetWaterfallInput where
  grossSales : Number
  settlementDiscounts : Option Number
  volumeGrowthRebates : Option Number
  creditNotesIssued : Option Number
  operationalClaimsReturns : Option Number
  retroPricingAdjustment : Option Number
  supplierRecoveriesAllowances : Option Number

def deductionLines : List String :=
  ["settlement_discounts", "volume_growth_rebates", "credit_notes_issued",
    "operational_claims_returns"]

def signedLines : List String := ["retro_pricing_adjustment", "supplier_recoveries_allowances"]

namespace GrossToNetWaterfallInput

variable (inputs : GrossToNetWaterfallInput)

def allLineValues : List (String × Option Number) :=
  [("settlement_discounts", inputs.settlementDiscounts),
    ("volume_growth_rebates", inputs.volumeGrowthRebates),
    ("credit_notes_issued", inputs.creditNotesIssued),
    ("operational_claims_returns", inputs.operationalClaimsReturns),
    ("retro_pricing_adjustment", inputs.retroPricingAdjustment),
    ("supplier_recoveries_allowances", inputs.supplierRecoveriesAllowances)]

def missingLines : List String :=
  (inputs.allLineValues.filter fun line => line.2.isNone).map Prod.fst

def present (name : String) : Option Number → Except String Number
  | some value => .ok value
  | none => .error (name ++ " was already confirmed present by the completeness check above")

def lineValue (line : String) : Except String Number :=
  match inputs.allLineValues.lookup line with
  | some value => present line value
  | none => .error line

end GrossToNetWaterfallInput

structure GrossToNetWaterfall where
  isComplete : Bool
  missingLines : List String
  netRevenue : Option (Numeric 4)
  grossSales : Numeric 4
  lines : List (String × Numeric 4)
deriving DecidableEq

def calculateGrossToNetWaterfall (inputs : GrossToNetWaterfallInput) :
    Except String GrossToNetWaterfall := do
  if inputs.missingLines ≠ [] then
    let grossSales ← inputs.grossSales.quantize 4
    return ⟨false, inputs.missingLines, none, grossSales, []⟩
  let deducted ← deductionLines.foldlM (fun netRevenue line => do
    netRevenue.sub (← inputs.lineValue line)) inputs.grossSales
  let netRevenue ← signedLines.foldlM (fun netRevenue line => do
    netRevenue.add (← inputs.lineValue line)) deducted
  let grossSales ← inputs.grossSales.quantize 4
  let netRevenue ← netRevenue.quantize 4
  let lines ← inputs.allLineValues.mapM fun line => do
    return (line.1, ← (← GrossToNetWaterfallInput.present line.1 line.2).quantize 4)
  return ⟨true, [], some netRevenue, grossSales, lines⟩

structure CustomerNetMargin where
  netRevenue : Numeric 4
  grossMargin : Numeric 4
  costToServe : Numeric 4
  netMargin : Numeric 4
  netMarginPct : Option (Numeric 2)
  isNetRevenueNegative : Bool
deriving DecidableEq

/-- A share of a revenue in percent; there is none of a revenue of zero. -/
def marginPct (netMargin : Numeric 4) (revenue : Number) : Except String (Option (Numeric 2)) := do
  if revenue.isZero then return none
  let share ← netMargin.toNumber.div revenue
  let percentage ← share.mul (.finite 100)
  return some (← percentage.quantize 2)

/-- Comparing a NaN raises. -/
def isNegative : Numeric 4 → Except String Bool
  | .number x => .ok (decide (x.units < 0))
  | .nan => .error "InvalidOperation"

/-- The text of a basis that is not known is quoted by `quoted`. -/
def calculateCustomerNetMargin (quoted : String → String)
    (revenue cogs directLogisticsCost warehouseAbcCost tradeSpend : Number)
    (revenueBasis : String) : Except String CustomerNetMargin := do
  if revenueBasis ∉ ["gross", "net_of_waterfall"] then
    throw ("Unrecognized revenue_basis: " ++ quoted revenueBasis ++
      " - expected 'gross' or 'net_of_waterfall'")
  if revenueBasis = "net_of_waterfall" ∧ tradeSpend.isZero = false then
    throw ("revenue_basis='net_of_waterfall' means trade spend was already deducted via " ++
      "calculate_gross_to_net_waterfall - a non-zero trade_spend here would double-count it")
  let netRevenue ← (← revenue.sub tradeSpend).quantize 4
  let grossMargin ← (← netRevenue.toNumber.sub cogs).quantize 4
  let costToServe ← (← directLogisticsCost.add warehouseAbcCost).quantize 4
  let netMargin ← (← grossMargin.toNumber.sub costToServe.toNumber).quantize 4
  let netMarginPct ← marginPct netMargin revenue
  let isNetRevenueNegative ← isNegative netRevenue
  return { netRevenue, grossMargin, costToServe, netMargin, netMarginPct, isNetRevenueNegative }

end ProcureFoundation.ManagementAccounting
