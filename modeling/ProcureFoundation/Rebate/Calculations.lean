import Mathlib.Data.List.MinMax
import ProcureFoundation.Foundation.CalendarDate
import ProcureFoundation.Foundation.FixedPoint

/-!
# Rebate calculations

The pure functions behind every rebate figure. Amounts are exact rationals while they
are summed, since sums of column values stay below the digits of the arithmetic context,
and four-decimal values once rounded; a function that raises returns the text of its
error.
-/

namespace ProcureFoundation.Rebate

inductive EntrySource where
  | manual
  | transactionAggregation
  | invoiceAggregation
deriving DecidableEq

/-- The precedence of the sources: an upload never moves a period down this order. -/
def EntrySource.rank : EntrySource → ℕ
  | .manual => 0
  | .transactionAggregation => 1
  | .invoiceAggregation => 2

def EntrySource.text : EntrySource → String
  | .manual => "manual"
  | .transactionAggregation => "transaction_aggregation"
  | .invoiceAggregation => "invoice_aggregation"

inductive RebateType where
  | fixedPercentage
  | tiered
  | volume
  | growth
  | fixedAmount
  | retrospective
deriving DecidableEq

def RebateType.text : RebateType → String
  | .fixedPercentage => "fixed_percentage"
  | .tiered => "tiered"
  | .volume => "volume"
  | .growth => "growth"
  | .fixedAmount => "fixed_amount"
  | .retrospective => "retrospective"

inductive RebateStatus where
  | onTrack
  | thresholdApproaching
  | periodClosedAwaitingPayment
  | leakageDetected
  | reconciled
deriving DecidableEq

def RebateStatus.value : RebateStatus → String
  | .onTrack => "on_track"
  | .thresholdApproaching => "threshold_approaching"
  | .periodClosedAwaitingPayment => "period_closed_awaiting_payment"
  | .leakageDetected => "leakage_detected"
  | .reconciled => "reconciled"

def roundCurrency (amount : ℚ) : Money := FixedPoint.quantize 4 amount

/-- Rounding raises when the result has more than 28 digits. -/
def quantizeCurrency (amount : ℚ) : Except String Money :=
  if |(roundCurrency amount).units| < 10 ^ 28 then .ok (roundCurrency amount)
    else .error "InvalidOperation"

structure RebateBand where
  thresholdSpend : ℚ
  ratePct : ℚ
deriving DecidableEq

def calculateExpectedRebate (actualSpend : ℚ) (rebateType : RebateType) (flatRatePct : Option ℚ)
    (bands : Option (List RebateBand)) (fixedAmount : Option ℚ) : Except String Money :=
  match rebateType with
  | .fixedPercentage | .volume | .growth =>
    match flatRatePct with
    | none => .error (rebateType.text ++ " rebates require flat_rate_pct")
    | some rate => quantizeCurrency (contextRound (actualSpend * rate))
  | .tiered | .retrospective =>
    match bands with
    | none | some [] => .error (rebateType.text ++ " rebates require at least one band")
    | some bands =>
      match (bands.filter fun b => b.thresholdSpend ≤ actualSpend).argmax RebateBand.thresholdSpend with
      | none => .ok 0
      | some best => quantizeCurrency (contextRound (actualSpend * best.ratePct))
  | .fixedAmount =>
    match fixedAmount with
    | none => .error "fixed_amount rebates require fixed_amount"
    | some amount => quantizeCurrency amount

def calculateRebateLeakage (expectedAmount : ℚ) (receivedAmount : Option ℚ) : Money :=
  roundCurrency (expectedAmount - receivedAmount.getD 0)

def classifyRebateStatus (expectedAmount : ℚ) (receivedAmount : Option ℚ)
    (periodClosed thresholdAlertDue : Bool) : RebateStatus :=
  if receivedAmount.isSome then
    if (calculateRebateLeakage expectedAmount receivedAmount).value ≤ 1 / 10000 then .reconciled
    else .leakageDetected
  else if periodClosed then .periodClosedAwaitingPayment
  else if thresholdAlertDue then .thresholdApproaching
  else .onTrack

def isPeriodDueForClose (periodEnd today : Date) : Bool := decide (periodEnd ≤ today)

structure TransactionAggregate where
  totalSpend : Money
  totalVolume : ℚ
  transactionCount : ℕ
deriving DecidableEq

def inPeriod {α : Type*} (dateOf : α → Date) (periodStart periodEnd : Date) (rows : List α) :
    List α :=
  rows.filter fun row => decide (periodStart ≤ dateOf row ∧ dateOf row ≤ periodEnd)

def aggregateTransactionsForPeriod (transactions : List (ℚ × ℚ × Date))
    (periodStart periodEnd : Date) : TransactionAggregate :=
  let rows := inPeriod (fun row => row.2.2) periodStart periodEnd transactions
  { totalSpend := roundCurrency (rows.map fun row => row.1).sum
    totalVolume := (rows.map fun row => row.2.1).sum
    transactionCount := rows.length }

structure RebateAgreement where
  id : ℕ
  organisationId : ℕ
  supplierId : Option ℕ
  rebateType : RebateType
  flatRatePct : Option (FixedPoint 6)
  bands : Option (List RebateBand)
  fixedAmount : Option Money
deriving DecidableEq

/-- What the creation schema demands of an agreement of its type. -/
def RebateAgreement.Valid (agreement : RebateAgreement) : Prop :=
  match agreement.rebateType with
  | .fixedPercentage | .volume | .growth => agreement.flatRatePct.isSome
  | .tiered | .retrospective => ∃ band bands, agreement.bands = some (band :: bands)
  | .fixedAmount => agreement.fixedAmount.isSome

def bandsFromAgreement (agreement : RebateAgreement) : Option (List RebateBand) :=
  match agreement.bands with
  | none | some [] => none
  | some bands => some bands

def computeExpectedAmount (agreement : RebateAgreement) (actualSpend : Option ℚ) :
    Except String (Option Money) :=
  match actualSpend with
  | none => .ok none
  | some spend => do
    let amount ← calculateExpectedRebate spend agreement.rebateType
      (agreement.flatRatePct.map FixedPoint.value) (bandsFromAgreement agreement)
      (agreement.fixedAmount.map FixedPoint.value)
    return some amount

end ProcureFoundation.Rebate
