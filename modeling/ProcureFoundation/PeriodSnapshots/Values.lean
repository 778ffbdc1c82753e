import ProcureFoundation.Foundation.DecimalArithmetic
import ProcureFoundation.Ingestion.PurchaseTransactionService

/-!
# Values of period snapshots

What a submission stores: the working capital amounts with the metrics that follow from them, the
buckets of an aging ledger, or the records of an inventory valuation. A metric of days beyond its
column is left out with a diagnostic. An amount that cannot be calculated or stored raises.
-/

namespace ProcureFoundation.PeriodSnapshots

open Outcome

structure WorkingCapitalPayload where
  accountsReceivable : Decimal
  accountsPayable : Decimal
  inventoryValue : Decimal
  cashBalance : Option Decimal
  annualizedRevenue : Decimal
  annualizedCogs : Decimal

structure WorkingCapitalMetrics where
  dso : Option (Numeric 1)
  dio : Option (Numeric 1)
  dpo : Option (Numeric 1)
  ccc : Option (Numeric 1)
  workingCapitalRatio : Option (Numeric 2)
deriving DecidableEq

/-- A balance in days of a yearly flow; there is none of a flow of zero. -/
def daysOf (balance flow : Decimal) : Except String (Option (Numeric 1)) := do
  let flow ← flow.operand
  if flow.isZero then return none
  let share ← (← balance.operand).div flow
  let days ← share.mul (.finite 365)
  return some (← days.quantize 1)

def cashConversionCycle : Option (Numeric 1) → Option (Numeric 1) → Option (Numeric 1) →
    Except String (Option (Numeric 1))
  | some dio, some dso, some dpo => do
    let days ← (← dio.toNumber.add dso.toNumber).sub dpo.toNumber
    return some (← days.quantize 1)
  | _, _, _ => .ok none

def workingCapitalRatio (ar inventory ap : Decimal) : Option Decimal →
    Except String (Option (Numeric 2))
  | none => .ok none
  | some cash => do
    let payable ← ap.operand
    if payable.isZero then return none
    let assets ← (← (← ar.operand).add (← inventory.operand)).add (← cash.operand)
    return some (← (← assets.div payable).quantize 2)

def calculateWorkingCapitalMetrics (payload : WorkingCapitalPayload) :
    Except String WorkingCapitalMetrics := do
  let dso ← daysOf payload.accountsReceivable payload.annualizedRevenue
  let dio ← daysOf payload.inventoryValue payload.annualizedCogs
  let dpo ← daysOf payload.accountsPayable payload.annualizedCogs
  let ccc ← cashConversionCycle dio dso dpo
  let workingCapitalRatio ← workingCapitalRatio payload.accountsReceivable payload.inventoryValue
    payload.accountsPayable payload.cashBalance
  return { dso, dio, dpo, ccc, workingCapitalRatio }

/-- The largest magnitude of the column is 99999999.9; comparing a NaN with it raises. -/
def outOfRange : Option (Numeric 1) → Except String Bool
  | none => .ok false
  | some (.number days) => .ok (decide (999999999 < |days.units|))
  | some .nan => .error "InvalidOperation"

def codeIf (condition : Bool) (code : String) : List String := if condition then [code] else []

def applyDaysMetricStorageBoundary (metrics : WorkingCapitalMetrics) :
    Except String (WorkingCapitalMetrics × List String) := do
  let dsoOor ← outOfRange metrics.dso
  let dioOor ← outOfRange metrics.dio
  let dpoOor ← outOfRange metrics.dpo
  let diagnostics := codeIf dsoOor "dso_out_of_range" ++ codeIf dioOor "dio_out_of_range" ++
    codeIf dpoOor "dpo_out_of_range"
  let safeDso := if dsoOor then none else metrics.dso
  let safeDio := if dioOor then none else metrics.dio
  let safeDpo := if dpoOor then none else metrics.dpo
  if safeDso.isSome && safeDio.isSome && safeDpo.isSome then
    let cccOor ← outOfRange metrics.ccc
    return ({ metrics with
        dso := safeDso, dio := safeDio, dpo := safeDpo, ccc :=
          if cccOor then none else metrics.ccc },
      diagnostics ++ codeIf cccOor "ccc_out_of_range")
  else
    return ({ metrics with dso := safeDso, dio := safeDio, dpo := safeDpo, ccc := none },
      diagnostics ++ codeIf dsoOor "ccc_unavailable_dso_out_of_range" ++
        codeIf dioOor "ccc_unavailable_dio_out_of_range" ++
          codeIf dpoOor "ccc_unavailable_dpo_out_of_range")

/-- An optional value is stored as a null or through its column. -/
def storeOption {α β : Type} (store : α → Except String β) : Option α → Except String (Option β)
  | none => .ok none
  | some value => (store value).map some

structure WorkingCapitalValues where
  accountsReceivable : Numeric 4
  accountsPayable : Numeric 4
  inventoryValue : Numeric 4
  cashBalance : Option (Numeric 4)
  annualizedRevenue : Numeric 4
  annualizedCogs : Numeric 4
  metrics : WorkingCapitalMetrics
  derivedMetricDiagnostics : List String
deriving DecidableEq

def WorkingCapitalMetrics.stored (metrics : WorkingCapitalMetrics) :
    Except String WorkingCapitalMetrics := do
  let dso ← storeOption (Numeric.column 9) metrics.dso
  let dio ← storeOption (Numeric.column 9) metrics.dio
  let dpo ← storeOption (Numeric.column 9) metrics.dpo
  let ccc ← storeOption (Numeric.column 9) metrics.ccc
  let workingCapitalRatio ← storeOption (Numeric.column 9) metrics.workingCapitalRatio
  return { dso, dio, dpo, ccc, workingCapitalRatio }

def WorkingCapitalPayload.stored (payload : WorkingCapitalPayload) :
    Except String WorkingCapitalValues := do
  let metrics ← calculateWorkingCapitalMetrics payload
  let (safeMetrics, diagnostics) ← applyDaysMetricStorageBoundary metrics
  let accountsReceivable ← Numeric.assign 18 4 payload.accountsReceivable
  let accountsPayable ← Numeric.assign 18 4 payload.accountsPayable
  let inventoryValue ← Numeric.assign 18 4 payload.inventoryValue
  let cashBalance ← storeOption (Numeric.assign 18 4) payload.cashBalance
  let annualizedRevenue ← Numeric.assign 18 4 payload.annualizedRevenue
  let annualizedCogs ← Numeric.assign 18 4 payload.annualizedCogs
  let metrics ← safeMetrics.stored
  return {
    accountsReceivable, accountsPayable, inventoryValue, cashBalance, annualizedRevenue,
    annualizedCogs, metrics
    derivedMetricDiagnostics := diagnostics }

structure AgingInvoice where
  amount : Decimal
  daysOverdue : ℤ

structure AgingBuckets (α : Type) where
  current : α
  days30 : α
  days60 : α
  days90 : α
  days120Plus : α
deriving DecidableEq

def addInvoice (buckets : AgingBuckets Number) (invoice : AgingInvoice) :
    Except String (AgingBuckets Number) := do
  let amount ← invoice.amount.operand
  if invoice.daysOverdue < 30 then return { buckets with current := ← buckets.current.add amount }
  else if invoice.daysOverdue < 60 then
    return { buckets with days30 := ← buckets.days30.add amount }
  else if invoice.daysOverdue < 90 then
    return { buckets with days60 := ← buckets.days60.add amount }
  else if invoice.daysOverdue < 120 then
    return { buckets with days90 := ← buckets.days90.add amount }
  else return { buckets with days120Plus := ← buckets.days120Plus.add amount }

def AgingBuckets.mapM {α β : Type} (buckets : AgingBuckets α) (f : α → Except String β) :
    Except String (AgingBuckets β) := do
  let current ← f buckets.current
  let days30 ← f buckets.days30
  let days60 ← f buckets.days60
  let days90 ← f buckets.days90
  let days120Plus ← f buckets.days120Plus
  return { current, days30, days60, days90, days120Plus }

def emptyBuckets : AgingBuckets Number := ⟨.finite 0, .finite 0, .finite 0, .finite 0, .finite 0⟩

def classifyAgingBuckets (invoices : List AgingInvoice) :
    Except String (AgingBuckets (Numeric 4)) := do
  let buckets ← invoices.foldlM addInvoice emptyBuckets
  buckets.mapM (Number.quantize 4)

def storedBuckets (invoices : List AgingInvoice) : Except String (AgingBuckets (Numeric 4)) := do
  let buckets ← classifyAgingBuckets invoices
  buckets.mapM (Numeric.column 18)

/-- A record of a validated file; a key that is missing reads as none. -/
structure ValuationRecord where
  supplierSku : Option String
  description : Option String
  quantityOnHand : Option Decimal
  unitCost : Option Decimal

structure InventoryValues where
  supplierSku : Option String
  description : String
  quantityOnHand : Numeric 4
  unitCost : Option (Numeric 4)
deriving DecidableEq

def ValuationRecord.describedAs (record : ValuationRecord) : Option String :=
  if record.description.getD "" = "" then record.supplierSku else record.description

def ValuationRecord.stored (record : ValuationRecord) : Except String InventoryValues := do
  let description ← Ingestion.orRaise "null value in column description" record.describedAs
  let quantity ← Ingestion.orRaise "null value in column quantity_on_hand" record.quantityOnHand
  if textFits 128 record.supplierSku && textFits 512 (some description) then
    return {
      supplierSku := record.supplierSku.map (cutVarchar 128)
      description := cutVarchar 512 description
      quantityOnHand := ← Numeric.assign 18 4 quantity
      unitCost := ← storeOption (Numeric.assign 18 4) record.unitCost }
  else .error "value too long for the type of its column"

def addValuation (total : Number) (record : ValuationRecord) : Except String Number :=
  match record.quantityOnHand, record.unitCost with
  | some quantity, some unitCost => do total.add (← (← quantity.operand).mul (← unitCost.operand))
  | _, _ => .ok total

def calculateBatchAssetValuation (records : List ValuationRecord) : Except String Number :=
  records.foldlM addValuation (.finite 0)

/-- The rows of a batch, once its total has been calculated for the audit. -/
def storedBatch (records : List ValuationRecord) : Except String (List InventoryValues) := do
  let rows ← records.mapM ValuationRecord.stored
  let _ ← calculateBatchAssetValuation records
  return rows

end ProcureFoundation.PeriodSnapshots
