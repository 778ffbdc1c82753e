import ProcureFoundation.Contracts.Listing
import ProcureFoundation.Copilot.IntentRouter
import ProcureFoundation.Evidence.Rows
import ProcureFoundation.Foundation.LikePattern
import ProcureFoundation.Foundation.StoredColumns
import ProcureFoundation.Ledger.SpendConcentration

/-!
# The handlers of the copilot

A handler answers one kind of question for an organisation. Its queries select rows by the
organisation, or by a supplier that was looked up among those of the organisation. The database
takes no text with a null character. Results are printed for the language model, where a decimal
stands for its text.
-/

namespace ProcureFoundation.Copilot

open Contracts Evidence Ledger Rebate Users

inductive Json where
  | null
  | bool (value : Bool)
  | integer (value : ℕ)
  | decimal (value : ℚ)
  | text (value : String)
  | date (value : Date)
  | array (values : List Json)
  | object (members : List (String × Json))

structure OwnedSupplier where
  organisationId : ℕ
  supplier : Ledger.Supplier

structure PricedLine extends PurchaseInvoiceLine where
  organisationId : ℕ
  unitPrice : Money

structure TitledAgreement extends RebateAgreement where
  title : String

structure OwnedContract extends ContractColumns where
  organisationId : ℕ
  supplierId : ℕ

structure CopilotTables where
  suppliers : List OwnedSupplier
  purchaseInvoices : List PurchaseInvoice
  purchaseInvoiceLines : List PricedLine
  purchaseTransactions : List PurchaseTransaction
  rebateAgreements : List TitledAgreement
  rebatePeriodActuals : List RebatePeriodActual
  contracts : List OwnedContract

def CopilotTables.ledger (tables : CopilotTables) : PurchaseLedger where
  suppliers := tables.suppliers.map OwnedSupplier.supplier
  purchaseInvoices := tables.purchaseInvoices
  purchaseInvoiceLines := tables.purchaseInvoiceLines.map PricedLine.toPurchaseInvoiceLine
  purchaseTransactions := tables.purchaseTransactions

/-- The values that the language model has found in the question. -/
abbrev Entities := String → Option String

abbrev Handler := CopilotTables → ℕ → Entities → Except CopilotError Json

/-- How the database changes the case of a letter, and how a text is quoted in a message. -/
structure CopilotTexts where
  lower : Char → Char
  quoted : String → String

section PriceConsistency

structure PriceObservation where
  price : Money
  observedDate : Date

structure PriceConsistencyResult where
  minPrice : Money
  maxPrice : Money
  spread : Money
  spreadPct : Option ℚ
  isSignificant : Bool
  observationCount : ℕ

def calculatePriceConsistency (observations : List PriceObservation)
    (significanceThresholdPct : ℚ) : Except CopilotError PriceConsistencyResult :=
  match observations.map fun observation => observation.price.units with
  | [] => .error (.valueError "observations must not be empty")
  | first :: rest =>
    let minPrice : Money := ⟨rest.foldl min first⟩
    let maxPrice : Money := ⟨rest.foldl max first⟩
    let spread := roundCurrency (maxPrice.value - minPrice.value)
    let spreadPct :=
      if minPrice.value = 0 then none
      else some ((roundCurrency
        (contextRound (contextRound (spread.value / minPrice.value) * 100))).value / 100)
    .ok {
      minPrice, maxPrice, spread, spreadPct
      isSignificant := spreadPct.any fun pct => decide (significanceThresholdPct ≤ pct)
      observationCount := observations.length }

def CopilotTables.pricedLines (tables : CopilotTables) : List (PricedLine × PurchaseInvoice) :=
  tables.purchaseInvoiceLines.flatMap fun line =>
    (tables.purchaseInvoices.filter fun invoice => invoice.id == line.purchaseInvoiceId).map
      fun invoice => (line, invoice)

/-- Corrections are observed like the purchases that they correct. -/
def priceObservations (tables : CopilotTables) (organisationId supplierId : ℕ)
    (skuOrDescription : String) : List PriceObservation :=
  (tables.pricedLines.filter fun (line, invoice) => invoice.organisationId == organisationId &&
    invoice.supplierId == supplierId &&
      (line.supplierSku == some skuOrDescription || line.description == some skuOrDescription)).map
        fun (line, invoice) => ⟨line.unitPrice, invoice.invoiceDate⟩

def checkPriceConsistency (quoted : String → String) (tables : CopilotTables)
    (organisationId supplierId : ℕ) (skuOrDescription : String) :
    Except CopilotError PriceConsistencyResult :=
  if nullFree skuOrDescription then
    match priceObservations tables organisationId supplierId skuOrDescription with
    | [] => .error (.valueError s!"No purchase price observations found for {quoted skuOrDescription}")
    | observations => calculatePriceConsistency observations (5 / 100)
  else .error .database

end PriceConsistency

/-- The database changes the case of a text letter by letter. A pattern that ends with its escape
would raise. -/
def ilike (lower : Char → Char) (text pattern : List Char) : Bool :=
  (LikePattern.like (text.map lower) (pattern.map lower)).getD false

def namePattern (name : String) : List Char := '%' :: (name.toList ++ ['%'])

variable (texts : CopilotTexts)

def resolveSupplierId (tables : CopilotTables) (organisationId : ℕ) (name : String) :
    Except CopilotError (Option ℕ) :=
  if nullFree name then
    .ok (((tables.suppliers.filter fun row => row.organisationId == organisationId).find? fun row =>
      ilike texts.lower row.supplier.legalName.toList (namePattern name)).map fun row =>
        row.supplier.id)
  else .error .database

def spendItem (label : String) (item : SpendItem) : Json :=
  .object [(label, .text item.label), ("amount", .decimal item.amount.value)]

def handleSpendBySupplier : Handler := fun tables organisationId _ =>
  .ok (.object
    [("items", .array
      (((getSpendBySupplier tables.ledger organisationId).take 20).map (spendItem "supplier")))])

def handleSpendBySku : Handler := fun tables organisationId entities => do
  let supplierId ← match entities "supplier" with
    | none => pure none
    | some name => resolveSupplierId texts tables organisationId name
  return .object [("items",
    .array (((getSpendBySku tables.ledger organisationId supplierId).take 20).map (spendItem "sku")))]

def classValue : ABCClass → String
  | .A => "A"
  | .B => "B"
  | .C => "C"

def handleAbcClassification : Handler := fun tables organisationId _ =>
  let classification := (getAbcClassification tables.ledger organisationId).map fun result =>
    .object [("supplier", .text result.item.label), ("amount", .decimal result.item.amount.value),
      ("class", .text (classValue result.classification)),
      ("cumulative_pct", .decimal result.cumulativePct)]
  .ok (.object [("classification", .array classification)])

def handleParetoContributors : Handler := fun tables organisationId _ =>
  let result := getParetoContributors tables.ledger organisationId
  .ok (.object [("contributor_count", .integer result.contributorCount),
    ("total_item_count", .integer result.totalItemCount),
    ("cumulative_pct_covered", .decimal result.cumulativePctCovered),
    ("contributors", .array (result.contributors.map (spendItem "supplier")))])

def noSupplier (name : String) : Json :=
  .object [("error", .text s!"No supplier found matching {texts.quoted name}")]

def decimalOrNull (value : Option ℚ) : Json :=
  match value.filter (· ≠ 0) with
  | none => .null
  | some value => .decimal value

def handlePriceVarianceCheck : Handler := fun tables organisationId entities =>
  match entities "supplier", entities "sku" with
  | some name, some sku => do
    match ← resolveSupplierId texts tables organisationId name with
    | none => return noSupplier texts name
    | some supplierId =>
      let result ← checkPriceConsistency texts.quoted tables organisationId supplierId sku
      return .object [("min_price", .decimal result.minPrice.value),
        ("max_price", .decimal result.maxPrice.value),
        ("spread", .decimal result.spread.value), ("spread_pct", decimalOrNull result.spreadPct),
        ("is_significant", .bool result.isSignificant),
        ("observation_count", .integer result.observationCount)]
  | _, _ => .ok
      (.object [("error",
        .text "Both a supplier and an item are needed to check price consistency")])

/-- The query names no organisation. -/
def openPeriods (tables : CopilotTables) (supplierId : ℕ) : List (RebatePeriodActual × String) :=
  tables.rebatePeriodActuals.flatMap fun period =>
    ((tables.rebateAgreements.filter fun agreement => agreement.id == period.rebateAgreementId &&
      agreement.supplierId == some supplierId).filter fun _ => period.earnedAmount.isNone).map
        fun agreement => (period, agreement.title)

def handleRebateStatus : Handler := fun tables organisationId entities =>
  match entities "supplier" with
  | none => .ok (.object [("error", .text "A supplier name is needed to check rebate status")])
  | some name => do
    match ← resolveSupplierId texts tables organisationId name with
    | none => return noSupplier texts name
    | some supplierId =>
      return .object [("open_periods", .array ((openPeriods tables supplierId).map fun (period, title) =>
        .object [("agreement", .text title),
          ("expected_amount", decimalOrNull (period.expectedAmount.map FixedPoint.value)),
          ("status", .text period.status.value)]))]

/-- The supplier is joined by its identifier alone. -/
def expiringContracts (tables : CopilotTables) (organisationId : ℕ) :
    List (OwnedContract × String) :=
  (tables.contracts.filter fun contract => contract.organisationId == organisationId &&
    decide (contract.status ∈ [.expiringSoon, .noticePeriodOpen])).flatMap fun contract =>
      (tables.suppliers.filter fun row => row.supplier.id == contract.supplierId).map
        fun row => (contract, row.supplier.legalName)

def handleContractExpiryCheck : Handler := fun tables organisationId _ =>
  let contracts := (expiringContracts tables organisationId).map fun (contract, name) =>
    .object [("supplier", .text name), ("title", .text contract.title),
      ("expiry_date", .date contract.expiryDate), ("status", .text contract.status.value)]
  .ok (.object [("expiring_contracts", .array contracts)])

/-- What is registered when the service is loaded. -/
def copilotRouter : IntentRouter Handler where
  registry := [
    ⟨.spendBySupplier, .viewFinancials, handleSpendBySupplier, "Total spend grouped by supplier"⟩,
    ⟨.spendBySku, .viewFinancials, handleSpendBySku texts,
      "Total spend grouped by product/SKU, optionally filtered by supplier"⟩,
    ⟨.abcClassification, .viewFinancials, handleAbcClassification,
      "ABC classification of suppliers by cumulative spend"⟩,
    ⟨.paretoContributors, .viewFinancials, handleParetoContributors,
      "Minimum suppliers accounting for 80% of spend"⟩,
    ⟨.priceVarianceCheck, .viewFinancials, handlePriceVarianceCheck texts,
      "Whether a specific item has been purchased at inconsistent prices from one supplier"⟩,
    ⟨.rebateStatus, .viewFinancials, handleRebateStatus texts,
      "Open rebate periods and expected amounts for a supplier"⟩,
    ⟨.contractExpiryCheck, .viewContracts, handleContractExpiryCheck,
      "Contracts expiring soon or in their notice period"⟩]

structure IntentClassificationOutput where
  intent : String
  entities : Entities

structure ClassificationPrompt where
  availableIntents : List (String × String)
  question : String

structure SummaryPrompt where
  question : String
  data : Json

structure LLMProvider where
  completeStructured : ClassificationPrompt → Except CopilotError IntentClassificationOutput
  complete : SummaryPrompt → Except CopilotError String

structure CopilotAnswer where
  intent : String
  structuredResult : Json
  summary : String

def answerQuery (tables : CopilotTables) (provider : LLMProvider) (organisationId : ℕ)
    (role question : String) : Except CopilotError CopilotAnswer := do
  let classification ← provider.completeStructured
    ⟨(copilotRouter texts).availableIntentsForPrompt, question⟩
  let intent ← (copilotRouter texts).resolveClassification texts.quoted classification.intent
  let entry ← (copilotRouter texts).getEntry texts.quoted intent
  checkPermission texts.quoted role entry.requiredPermission
  let structuredResult ← entry.handler tables organisationId classification.entities
  let summary ← provider.complete ⟨question, structuredResult⟩
  return ⟨intent.value, structuredResult, summary⟩

end ProcureFoundation.Copilot
