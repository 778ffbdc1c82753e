import ProcureFoundation.Foundation.ExactDecimals
import ProcureFoundation.Foundation.Outcomes

/-!
# Calculations of the purchase ledger

The numbers of a payload are finite, so an operation on them returns a number of 28 digits or raises
beyond the largest exponent. Amounts are rounded to four decimals and percentages of them to six.
-/

namespace ProcureFoundation.Postings

open Outcome

/-- What an operation on finite numbers returns of its exact result. -/
def inContext (q : ℚ) : Except String ℚ :=
  if Int.log 10 |contextRound q| ≤ 999999 then .ok (contextRound q) else .error "Overflow"

def roundCurrency (value : ℚ) : Except String Money :=
  if |(FixedPoint.quantize 4 value).units| < 10 ^ 28 then .ok (.quantize 4 value)
    else .error "InvalidOperation"

inductive ReferencePriceSource where
  | contract
  | budget
  | lowestAvailableSupplier
  | approvedQuote
deriving DecidableEq

structure PriceVarianceResult where
  expectedCost : Money
  actualCost : Money
  variance : Money
  variancePct : Option ℚ
deriving DecidableEq

/-- A part of a whole in percent, which is none of zero. -/
def percentOf (part whole : ℚ) : Except String (Option ℚ) :=
  if whole = 0 then .ok none
  else do
    let ratio ← inContext (part / whole)
    let percent ← inContext (ratio * 100)
    let rounded ← roundCurrency percent
    let pct ← inContext (rounded.value / 100)
    return some pct

def calculatePurchasePriceVariance (referencePrice actualPrice quantity : ℚ) :
    Except String PriceVarianceResult := do
  let expected ← inContext (referencePrice * quantity)
  let expectedCost ← roundCurrency expected
  let actual ← inContext (actualPrice * quantity)
  let actualCost ← roundCurrency actual
  let difference ← inContext (actualCost.value - expectedCost.value)
  let variance ← roundCurrency difference
  let variancePct ← percentOf variance.value expectedCost.value
  return ⟨expectedCost, actualCost, variance, variancePct⟩

/-- A discount of zero is no discount. -/
def calculateInvoiceLineNetAmount (quantity unitPrice : ℚ) (discountPct : Option ℚ) :
    Except String Money := do
  let gross ← inContext (quantity * unitPrice)
  match discountPct.filter fun discount => decide (discount ≠ 0) with
  | none => roundCurrency gross
  | some discount => do
    let factor ← inContext (1 - discount)
    let net ← inContext (gross * factor)
    roundCurrency net

inductive ReceiptStatus where
  | complete
  | short
  | «over»
deriving DecidableEq

structure ReceiptVarianceResult where
  varianceQuantity : ℚ
  variancePct : Option ℚ
  status : ReceiptStatus
deriving DecidableEq

def calculateReceiptVariance (quantityOrdered quantityReceived : ℚ) :
    Except String ReceiptVarianceResult :=
  if quantityOrdered < 0 ∨ quantityReceived < 0 then .error "quantities cannot be negative"
  else do
    let variance ← inContext (quantityReceived - quantityOrdered)
    let variancePct ← percentOf variance quantityOrdered
    let status : ReceiptStatus := if variance = 0 then .complete else if variance < 0 then .short
      else .«over»
    return ⟨variance, variancePct, status⟩

section Results

variable {q quantity unitPrice : ℚ} {discountPct : Option ℚ} {amount : Money}

theorem inContext_eq_ok {result : ℚ} (h : inContext q = .ok result) : result = contextRound q := by
  rw [inContext] at h
  split at h
  · exact (Except.ok.inj h).symm
  · cases h

theorem roundCurrency_eq_ok (h : roundCurrency q = .ok amount) : amount = .quantize 4 q := by
  rw [roundCurrency] at h
  split at h
  · exact (Except.ok.inj h).symm
  · cases h

/-- The amount of a line before tax, as the arithmetic context returns it. -/
def lineAmount (quantity unitPrice : ℚ) (discountPct : Option ℚ) : ℚ :=
  match discountPct.filter fun discount => decide (discount ≠ 0) with
  | none => contextRound (quantity * unitPrice)
  | some discount =>
    contextRound (contextRound (quantity * unitPrice) * contextRound (1 - discount))

theorem netAmount_eq_ok (h : calculateInvoiceLineNetAmount quantity unitPrice discountPct = .ok amount) :
    amount = .quantize 4 (lineAmount quantity unitPrice discountPct) := by
  obtain ⟨gross, hGross, h⟩ := exists_of_bind_eq_ok h
  obtain rfl := inContext_eq_ok hGross
  unfold lineAmount
  split at h
  · exact roundCurrency_eq_ok h
  · obtain ⟨factor, hFactor, h⟩ := exists_of_bind_eq_ok h
    obtain ⟨net, hNet, h⟩ := exists_of_bind_eq_ok h
    obtain rfl := inContext_eq_ok hFactor
    obtain rfl := inContext_eq_ok hNet
    exact roundCurrency_eq_ok h

end Results

end ProcureFoundation.Postings
