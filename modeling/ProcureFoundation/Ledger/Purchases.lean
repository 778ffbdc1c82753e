import Mathlib.Data.List.Sort
import ProcureFoundation.Rebate.Calculations

/-!
# The purchase ledger and its reporting queries

Invoices with their lines and plain transactions are two append-only ledgers of the same
purchases. Every query reads a row only while its `corrects_id` is null, and a spend view
leaves out the transactions of a supplier that has invoices.
-/

namespace ProcureFoundation.Ledger

open Rebate

structure Supplier where
  id : ℕ
  legalName : String
deriving DecidableEq

structure PurchaseInvoice where
  id : ℕ
  organisationId : ℕ
  supplierId : ℕ
  invoiceDate : Date
  correctsId : Option ℕ
deriving DecidableEq

structure PurchaseInvoiceLine where
  id : ℕ
  purchaseInvoiceId : ℕ
  supplierSku : Option String
  description : Option String
  quantity : Money
  netAmount : Money
deriving DecidableEq

structure PurchaseTransaction where
  id : ℕ
  organisationId : ℕ
  supplierId : ℕ
  supplierSku : Option String
  description : Option String
  transactionDate : Date
  amount : Money
  quantity : Option Money
  reference : Option String
  correctsId : Option ℕ
deriving DecidableEq

structure PurchaseLedger where
  suppliers : List Supplier
  purchaseInvoices : List PurchaseInvoice
  purchaseInvoiceLines : List PurchaseInvoiceLine
  purchaseTransactions : List PurchaseTransaction
deriving DecidableEq

def PurchaseLedger.append (ledger batch : PurchaseLedger) : PurchaseLedger where
  suppliers := ledger.suppliers ++ batch.suppliers
  purchaseInvoices := ledger.purchaseInvoices ++ batch.purchaseInvoices
  purchaseInvoiceLines := ledger.purchaseInvoiceLines ++ batch.purchaseInvoiceLines
  purchaseTransactions := ledger.purchaseTransactions ++ batch.purchaseTransactions

/-- The filter that every query repeats. -/
def PurchaseInvoice.active (invoice : PurchaseInvoice) : Bool := invoice.correctsId.isNone

def PurchaseTransaction.active (transaction : PurchaseTransaction) : Bool :=
  transaction.correctsId.isNone

variable (ledger : PurchaseLedger)

def PurchaseLedger.invoiceLines : List (PurchaseInvoiceLine × PurchaseInvoice) :=
  ledger.purchaseInvoiceLines.flatMap fun line =>
    (ledger.purchaseInvoices.filter fun invoice => invoice.id == line.purchaseInvoiceId).map
      fun invoice => (line, invoice)

/-- Neither end of the period enters the query. -/
def invoiceTuples (supplierId : ℕ) (_periodStart _periodEnd : Date) : List (ℚ × ℚ × Date) :=
  (ledger.invoiceLines.filter fun (_, invoice) => invoice.supplierId == supplierId &&
    invoice.active).map
    fun (line, invoice) => (line.netAmount.value, line.quantity.value, invoice.invoiceDate)

def transactionTuples (supplierId : ℕ) (_periodStart _periodEnd : Date) : List (ℚ × ℚ × Date) :=
  (ledger.purchaseTransactions.filter fun transaction =>
    transaction.supplierId == supplierId && transaction.active).map fun transaction =>
      (transaction.amount.value, (transaction.quantity.map FixedPoint.value).getD 0,
        transaction.transactionDate)

structure SpendItem where
  key : String
  label : String
  amount : Money
deriving DecidableEq

structure SpendTotal where
  key : String
  label : String
  amount : ℚ
deriving DecidableEq

/-- One row enters the totals by key: the sum grows and the label is overwritten. -/
def addSpend (totals : List SpendTotal) (row : SpendTotal) : List SpendTotal :=
  if totals.any fun total => total.key == row.key then
    totals.map fun total =>
      if total.key = row.key then
        { total with label := row.label, amount := total.amount + row.amount }
      else total
  else totals ++ [row]

def aggregateSpend (rows : List SpendTotal) : List SpendItem :=
  let items := (rows.foldl addSpend []).map fun total =>
    SpendItem.mk total.key total.label (roundCurrency total.amount)
  items.insertionSort fun a b => b.amount.units ≤ a.amount.units

def suppliersWithInvoiceData (organisationId : ℕ) : List ℕ :=
  ((ledger.purchaseInvoices.filter fun invoice =>
    invoice.organisationId == organisationId &&
      invoice.active).map PurchaseInvoice.supplierId).dedup

def PurchaseLedger.withSupplier (supplierId : ℕ) : List Supplier :=
  ledger.suppliers.filter fun supplier => supplier.id == supplierId

def getSpendBySupplier (organisationId : ℕ) : List SpendItem :=
  let invoiceSuppliers := suppliersWithInvoiceData ledger organisationId
  let invoiceRows := (ledger.invoiceLines.filter fun (_, invoice) =>
      invoice.organisationId == organisationId && invoice.active).flatMap fun (line, invoice) =>
    (ledger.withSupplier invoice.supplierId).map fun supplier =>
      SpendTotal.mk (toString supplier.id) supplier.legalName line.netAmount.value
  let transactionRows := (ledger.purchaseTransactions.filter fun transaction =>
      transaction.organisationId == organisationId && transaction.active).flatMap fun transaction =>
    ((ledger.withSupplier transaction.supplierId).filter fun supplier =>
      decide (supplier.id ∉ invoiceSuppliers)).map fun supplier =>
        SpendTotal.mk (toString supplier.id) supplier.legalName transaction.amount.value
  aggregateSpend (invoiceRows ++ transactionRows)

/-- A text counts as given when it is neither null nor empty. -/
def given (text : Option String) : Option String := text.filter fun text => text != ""

def spendKey (sku description : Option String) : String :=
  ((given sku).or (given description)).getD "unknown"

def spendLabel (sku description : Option String) : String :=
  ((given description).or (given sku)).getD "Unknown item"

def getSpendBySku (organisationId : ℕ) (supplierId : Option ℕ) : List SpendItem :=
  let invoiceSuppliers := suppliersWithInvoiceData ledger organisationId
  let invoiceRows := (ledger.invoiceLines.filter fun (_, invoice) =>
      invoice.organisationId == organisationId && invoice.active &&
        supplierId.all (invoice.supplierId == ·)).map
    fun (line, _) =>
      SpendTotal.mk (spendKey line.supplierSku line.description)
        (spendLabel line.supplierSku line.description)
        line.netAmount.value
  let transactionRows := (ledger.purchaseTransactions.filter fun transaction =>
      transaction.organisationId == organisationId && transaction.active &&
        supplierId.all (transaction.supplierId == ·) &&
        decide (transaction.supplierId ∉ invoiceSuppliers)).map fun transaction =>
    SpendTotal.mk (spendKey transaction.supplierSku transaction.description)
      (spendLabel transaction.supplierSku transaction.description) transaction.amount.value
  aggregateSpend (invoiceRows ++ transactionRows)

structure MonthOverMonthPoint where
  month : ℕ × ℕ
  amount : Money
  changePct : Option ℚ
deriving DecidableEq

def monthPoint (prior : Option ℚ) (month : ℕ × ℕ) (amount : ℚ) : MonthOverMonthPoint where
  month := month
  amount := roundCurrency amount
  changePct := (prior.filter fun prior => prior ≠ 0).map fun prior =>
    (roundCurrency (contextRound (contextRound ((amount - prior) / prior) * 100))).value / 100

def monthPoints (prior : Option ℚ) : List ((ℕ × ℕ) × ℚ) → List MonthOverMonthPoint
  | [] => []
  | (month, amount) :: rest => monthPoint prior month amount :: monthPoints (some amount) rest

def calculateMonthOverMonthTrend (monthlyTotals : List ((ℕ × ℕ) × ℚ)) : List MonthOverMonthPoint :=
  monthPoints none monthlyTotals

def addMonth (totals : List ((ℕ × ℕ) × ℚ)) (row : (ℕ × ℕ) × ℚ) : List ((ℕ × ℕ) × ℚ) :=
  if totals.any fun total => total.1 == row.1 then
    totals.map fun total => if total.1 = row.1 then (total.1, total.2 + row.2) else total
  else totals ++ [row]

/-- A month is its year and number, which sort as its four-digit label does. -/
def monthOf (date : Date) : ℕ × ℕ := (date.year, date.month)

def getMonthOverMonthTrend (organisationId : ℕ) : List MonthOverMonthPoint :=
  let invoiceSuppliers := suppliersWithInvoiceData ledger organisationId
  let invoiceRows := (ledger.invoiceLines.filter fun (_, invoice) =>
      invoice.organisationId == organisationId && invoice.active).map fun (line, invoice) =>
    (monthOf invoice.invoiceDate, line.netAmount.value)
  let transactionRows := (ledger.purchaseTransactions.filter fun transaction =>
      transaction.organisationId == organisationId && transaction.active &&
        decide (transaction.supplierId ∉ invoiceSuppliers)).map fun transaction =>
    (monthOf transaction.transactionDate, transaction.amount.value)
  let monthly := (invoiceRows ++ transactionRows).foldl addMonth []
  calculateMonthOverMonthTrend (monthly.insertionSort fun a b =>
    a.1.1 < b.1.1 ∨ a.1.1 = b.1.1 ∧ a.1.2 ≤ b.1.2)

end ProcureFoundation.Ledger
