import ProcureFoundation.Ingestion.PurchaseTransactionService
import ProcureFoundation.Ledger.SpendViews
import ProcureFoundation.Postings.Calculations

/-!
# Posting to the purchase ledger

An organisation creates suppliers and purchase orders, posts invoices and goods receipts, and
uploads transactions. A request that raises is rolled back. The database gives the identifiers of
the new rows, and an unknown purchase order or location of a request is stored as none. The
recalculation of the rebate periods that follows a posting can raise as well.
-/

namespace ProcureFoundation.Postings

open Ledger Ingestion Outcome

inductive Currency where
  | zar
  | usd
  | eur
  | gbp
  | aud
  | chf

structure SupplierRow extends Supplier where
  publicId : ℕ

structure Location where
  id : ℕ
  publicId : ℕ

structure PurchaseOrder where
  id : ℕ
  publicId : ℕ
  supplierId : ℕ
  locationId : Option ℕ
  poNumber : String
  orderDate : Date
  expectedDeliveryDate : Option Date
  status : String
  currency : Currency
  createdByUserId : ℕ

structure PurchaseOrderLine where
  id : ℕ
  purchaseOrderId : ℕ
  supplierSku : Option String
  description : Option String
  quantityOrdered : Money
  unitPrice : Money
  vatRatePct : Option Percentage
  lineTotal : Money

structure PostedInvoice extends PurchaseInvoice where
  purchaseOrderId : Option ℕ
  invoiceNumber : String
  currency : Currency
  uploadedByUserId : ℕ

structure PostedLine extends PurchaseInvoiceLine where
  unitPrice : Money
  discountPct : Option Percentage
  taxPct : Option Percentage

structure GoodsReceipt where
  id : ℕ
  supplierId : ℕ
  purchaseOrderId : Option ℕ
  receiptNumber : Option String
  receiptDate : Date
  createdByUserId : ℕ

structure GoodsReceiptLine where
  id : ℕ
  goodsReceiptId : ℕ
  supplierSku : Option String
  description : Option String
  quantityOrdered : Option Money
  quantityReceived : Money

/-- The rows that one organisation sees. -/
structure PostingTables where
  suppliers : List SupplierRow
  locations : List Location
  purchaseOrders : List PurchaseOrder
  purchaseOrderLines : List PurchaseOrderLine
  purchaseInvoices : List PostedInvoice
  purchaseInvoiceLines : List PostedLine
  goodsReceipts : List GoodsReceipt
  goodsReceiptLines : List GoodsReceiptLine
  purchaseTransactions : List Ledger.PurchaseTransaction

def PostingTables.empty : PostingTables := ⟨[], [], [], [], [], [], [], [], []⟩

/-- What the spend views read of the tables. -/
def PostingTables.ledger (tables : PostingTables) : PurchaseLedger where
  suppliers := tables.suppliers.map SupplierRow.toSupplier
  purchaseInvoices := tables.purchaseInvoices.map PostedInvoice.toPurchaseInvoice
  purchaseInvoiceLines := tables.purchaseInvoiceLines.map PostedLine.toPurchaseInvoiceLine
  purchaseTransactions := tables.purchaseTransactions

section Columns

def column (precision scale : ℕ) (value : ℚ) : Except String (FixedPoint scale) :=
  if |(FixedPoint.assign scale value).units| < 10 ^ precision then .ok (.assign scale value)
  else .error "numeric field overflow"

def optionalColumn (precision scale : ℕ) : Option ℚ → Except String (Option (FixedPoint scale))
  | none => .ok none
  | some value => (column precision scale value).map some

/-- Blanks in excess of the length are cut off. -/
def textColumn (length : ℕ) (text : Option String) : Except String (Option String) :=
  if textFits length text then .ok (text.map (cutVarchar length))
  else .error "value too long for type character varying"

def insertRows {ρ κ : Type} [DecidableEq κ] (key : ρ → κ) (rows inserted : List ρ) :
    Except String (List ρ) :=
  if ((rows ++ inserted).map key).Nodup then .ok (rows ++ inserted)
  else .error "duplicate key value violates unique constraint"

end Columns

section Payloads

structure SupplierCreate where
  legalName : String
  tradingName : Option String
  supplierCode : Option String
  category : Option String
  email : Option String
  phone : Option String

structure PurchaseOrderLineInput where
  supplierSku : Option String
  description : Option String
  quantityOrdered : ℚ
  unitPrice : ℚ
  vatRatePct : Option ℚ

structure PurchaseOrderCreate where
  supplierPublicId : ℕ
  locationPublicId : Option ℕ
  poNumber : String
  orderDate : Date
  expectedDeliveryDate : Option Date
  currency : Currency
  lines : List PurchaseOrderLineInput

structure PurchaseInvoiceLineInput where
  supplierSku : Option String
  description : Option String
  quantity : ℚ
  unitPrice : ℚ
  discountPct : Option ℚ
  taxPct : Option ℚ
  referencePrice : Option ℚ
  referencePriceSource : Option ReferencePriceSource

structure PurchaseInvoiceIngest where
  supplierPublicId : ℕ
  purchaseOrderPublicId : Option ℕ
  invoiceNumber : String
  invoiceDate : Date
  currency : Currency
  lines : List PurchaseInvoiceLineInput

structure GoodsReceiptLineInput where
  supplierSku : Option String
  description : Option String
  quantityOrdered : Option ℚ
  quantityReceived : ℚ

structure GoodsReceiptCreate where
  supplierPublicId : ℕ
  purchaseOrderPublicId : Option ℕ
  receiptNumber : Option String
  receiptDate : Date
  lines : List GoodsReceiptLineInput

/-- A row of an upload that has been read, with a number for its amount. A quantity that is NaN,
which an upload also stores, has no place here. -/
structure TransactionInput where
  supplierSku : Option String
  description : Option String
  transactionDate : Date
  amount : ℚ
  quantity : Option ℚ
  reference : Option String

/-- What an accepted line costs, to four decimals. -/
def PurchaseInvoiceLineInput.cost (input : PurchaseInvoiceLineInput) : ℚ :=
  (FixedPoint.quantize 4 (lineAmount input.quantity input.unitPrice input.discountPct)).value

def TransactionInput.cost (input : TransactionInput) : ℚ := (FixedPoint.assign 4 input.amount).value

def numberFits (text : String) : Bool := decide (1 ≤ text.length ∧ text.length ≤ 64)

def PurchaseOrderCreate.valid (payload : PurchaseOrderCreate) : Bool :=
  numberFits payload.poNumber && !payload.lines.isEmpty &&
    payload.lines.all fun line => decide (0 < line.quantityOrdered ∧ 0 ≤ line.unitPrice)

def PurchaseInvoiceIngest.valid (payload : PurchaseInvoiceIngest) : Bool :=
  numberFits payload.invoiceNumber && !payload.lines.isEmpty &&
    payload.lines.all fun line => decide (0 < line.quantity ∧ 0 ≤ line.unitPrice)

def GoodsReceiptCreate.valid (payload : GoodsReceiptCreate) : Bool :=
  !payload.lines.isEmpty && payload.lines.all fun line => decide (0 ≤ line.quantityReceived)

/-- The identifiers that the database gives to a row and to its lines. -/
structure NewIds where
  row : ℕ
  line : ℕ → ℕ

structure PpvResult where
  supplierSku : Option String
  referencePriceSource : Option ReferencePriceSource
  result : PriceVarianceResult

structure VarianceResult where
  supplierSku : Option String
  result : ReceiptVarianceResult

end Payloads

def getSupplierId (tables : PostingTables) (supplierPublicId : ℕ) : Except String ℕ :=
  match tables.suppliers.find? fun supplier => supplier.publicId = supplierPublicId with
  | none => .error "Supplier not found"
  | some supplier => .ok supplier.id

def purchaseOrderId (tables : PostingTables) (publicId : Option ℕ) : Option ℕ :=
  publicId.bind fun publicId =>
    (tables.purchaseOrders.find? fun order => order.publicId = publicId).map PurchaseOrder.id

def locationId (tables : PostingTables) (publicId : Option ℕ) : Option ℕ :=
  publicId.bind fun publicId =>
    (tables.locations.find? fun location => location.publicId = publicId).map Location.id

/-- What the schema rejects does not reach the service. -/
def guard422 (valid : Bool) : Except String Unit := if valid then .ok () else .error "422"

def createSupplier (tables : PostingTables) (id publicId : ℕ) (payload : SupplierCreate) :
    Except String PostingTables := do
  let _ ← guard422 (decide (1 ≤ payload.legalName.length ∧ payload.legalName.length ≤ 255))
  let _ ← textColumn 255 (some payload.legalName)
  let _ ← textColumn 255 payload.tradingName
  let _ ← textColumn 64 payload.supplierCode
  let _ ← textColumn 128 payload.category
  let _ ← textColumn 320 payload.email
  let _ ← textColumn 32 payload.phone
  let supplier : SupplierRow := ⟨⟨id, payload.legalName⟩, publicId⟩
  let suppliers ← insertRows (fun row => row.id) tables.suppliers [supplier]
  let _ ← insertRows SupplierRow.publicId tables.suppliers [supplier]
  return { tables with suppliers }

def orderLine (purchaseOrderId lineId : ℕ) (input : PurchaseOrderLineInput) :
    Except String PurchaseOrderLine := do
  let lineTotal ← inContext (input.quantityOrdered * input.unitPrice)
  let supplierSku ← textColumn 128 input.supplierSku
  let description ← textColumn 512 input.description
  let quantityOrdered ← column 18 4 input.quantityOrdered
  let unitPrice ← column 18 4 input.unitPrice
  let vatRatePct ← optionalColumn 9 6 input.vatRatePct
  let lineTotal ← column 18 4 lineTotal
  return ⟨lineId, purchaseOrderId, supplierSku, description, quantityOrdered, unitPrice, vatRatePct,
    lineTotal⟩

def createPurchaseOrder (tables : PostingTables) (ids : NewIds) (publicId userId : ℕ)
    (payload : PurchaseOrderCreate) : Except String PostingTables := do
  let _ ← guard422 payload.valid
  let supplierId ← getSupplierId tables payload.supplierPublicId
  let _ ← textColumn 64 (some payload.poNumber)
  let order : PurchaseOrder := {
    id := ids.row
    publicId, supplierId
    locationId := locationId tables payload.locationPublicId
    poNumber := payload.poNumber
    orderDate := payload.orderDate
    expectedDeliveryDate := payload.expectedDeliveryDate
    status := "draft"
    currency := payload.currency
    createdByUserId := userId }
  let purchaseOrders ← insertRows PurchaseOrder.id tables.purchaseOrders [order]
  let _ ← insertRows PurchaseOrder.poNumber tables.purchaseOrders [order]
  let lines ← payload.lines.zipIdx.mapM fun (input, index) =>
    orderLine ids.row (ids.line index) input
  let purchaseOrderLines ← insertRows PurchaseOrderLine.id tables.purchaseOrderLines lines
  return { tables with purchaseOrders, purchaseOrderLines }

def linePpv (input : PurchaseInvoiceLineInput) : Except String (Option PpvResult) :=
  match input.referencePrice with
  | none => .ok none
  | some referencePrice =>
    (calculatePurchasePriceVariance referencePrice input.unitPrice input.quantity).map fun result =>
      some ⟨input.supplierSku, input.referencePriceSource, result⟩

/-- The variance of a line is answered and not stored. -/
def postLine (purchaseInvoiceId lineId : ℕ) (input : PurchaseInvoiceLineInput) :
    Except String (PostedLine × Option PpvResult) := do
  let netAmount ← calculateInvoiceLineNetAmount input.quantity input.unitPrice input.discountPct
  let supplierSku ← textColumn 128 input.supplierSku
  let description ← textColumn 512 input.description
  let quantity ← column 18 4 input.quantity
  let unitPrice ← column 18 4 input.unitPrice
  let discountPct ← optionalColumn 9 6 input.discountPct
  let taxPct ← optionalColumn 9 6 input.taxPct
  let netAmount ← column 18 4 netAmount.value
  let ppv ← linePpv input
  return (⟨⟨lineId, purchaseInvoiceId, supplierSku, description, quantity, netAmount⟩, unitPrice,
    discountPct, taxPct⟩, ppv)

/-- Whether the recalculation of the rebate periods of a supplier raises, for the days of a posting.
-/
abbrev Recalculate := PostingTables → ℕ → List Date → Except String Unit

def ingestPurchaseInvoice (recalculate : Recalculate) (tables : PostingTables) (ids : NewIds)
    (organisationId userId : ℕ) (payload : PurchaseInvoiceIngest) :
    Except String (PostingTables × List PpvResult) := do
  let _ ← guard422 payload.valid
  let supplierId ← getSupplierId tables payload.supplierPublicId
  let _ ← textColumn 64 (some payload.invoiceNumber)
  let invoice : PostedInvoice := {
    id := ids.row
    organisationId, supplierId
    invoiceDate := payload.invoiceDate
    correctsId := none
    purchaseOrderId := purchaseOrderId tables payload.purchaseOrderPublicId
    invoiceNumber := payload.invoiceNumber
    currency := payload.currency
    uploadedByUserId := userId }
  let purchaseInvoices ← insertRows (fun row => row.id) tables.purchaseInvoices [invoice]
  let posted ← payload.lines.zipIdx.mapM fun (input, index) =>
    postLine ids.row (ids.line index) input
  let purchaseInvoiceLines ← insertRows (fun row => row.id) tables.purchaseInvoiceLines
    (posted.map Prod.fst)
  let tables := { tables with purchaseInvoices, purchaseInvoiceLines }
  let _ ← recalculate tables supplierId [payload.invoiceDate]
  return (tables, posted.filterMap Prod.snd)

def lineVariance (input : GoodsReceiptLineInput) : Except String (Option VarianceResult) :=
  match input.quantityOrdered with
  | none => .ok none
  | some ordered =>
    (calculateReceiptVariance ordered input.quantityReceived).map fun result =>
      some ⟨input.supplierSku, result⟩

def receiptLine (goodsReceiptId lineId : ℕ) (input : GoodsReceiptLineInput) :
    Except String (GoodsReceiptLine × Option VarianceResult) := do
  let supplierSku ← textColumn 128 input.supplierSku
  let description ← textColumn 512 input.description
  let quantityOrdered ← optionalColumn 18 4 input.quantityOrdered
  let quantityReceived ← column 18 4 input.quantityReceived
  let variance ← lineVariance input
  return (⟨lineId, goodsReceiptId, supplierSku, description, quantityOrdered, quantityReceived⟩,
    variance)

def recordGoodsReceipt (tables : PostingTables) (ids : NewIds) (userId : ℕ)
    (payload : GoodsReceiptCreate) : Except String (PostingTables × List VarianceResult) := do
  let _ ← guard422 payload.valid
  let supplierId ← getSupplierId tables payload.supplierPublicId
  let receiptNumber ← textColumn 64 payload.receiptNumber
  let receipt : GoodsReceipt := {
    id := ids.row
    supplierId, receiptNumber
    purchaseOrderId := purchaseOrderId tables payload.purchaseOrderPublicId
    receiptDate := payload.receiptDate
    createdByUserId := userId }
  let goodsReceipts ← insertRows GoodsReceipt.id tables.goodsReceipts [receipt]
  let recorded ← payload.lines.zipIdx.mapM fun (input, index) =>
    receiptLine ids.row (ids.line index) input
  let goodsReceiptLines ← insertRows GoodsReceiptLine.id tables.goodsReceiptLines (recorded.map Prod.fst)
  return ({ tables with goodsReceipts, goodsReceiptLines }, recorded.filterMap Prod.snd)

def transactionRow (organisationId supplierId id : ℕ) (input : TransactionInput) :
    Except String Ledger.PurchaseTransaction := do
  let supplierSku ← textColumn 128 input.supplierSku
  let description ← textColumn 512 input.description
  let amount ← column 18 4 input.amount
  let quantity ← optionalColumn 18 4 input.quantity
  let reference ← textColumn 128 input.reference
  return ⟨id, organisationId, supplierId, supplierSku, description, input.transactionDate, amount,
    quantity, reference, none⟩

def recalculateDays (recalculate : Recalculate) (tables : PostingTables) (supplierId : ℕ)
    (days : List Date) : Except String Unit :=
  if days.isEmpty then .ok () else recalculate tables supplierId days

def ingestTransactionRows (recalculate : Recalculate) (tables : PostingTables) (ids : NewIds)
    (organisationId supplierPublicId : ℕ) (rows : List TransactionInput) :
    Except String PostingTables := do
  let supplierId ← getSupplierId tables supplierPublicId
  let transactions ← rows.zipIdx.mapM fun (input, index) =>
    transactionRow organisationId supplierId (ids.line index) input
  let purchaseTransactions ← insertRows (fun row => row.id) tables.purchaseTransactions transactions
  let tables := { tables with purchaseTransactions }
  let _ ← recalculateDays recalculate tables supplierId (rows.map TransactionInput.transactionDate)
  return tables

section Accepted

variable {tables result : PostingTables} {recalculate : Recalculate} {ids : NewIds}
  {organisationId publicId userId : ℕ}

theorem insertRows_eq_ok {ρ κ : Type} [DecidableEq κ] {key : ρ → κ} {rows inserted after : List ρ}
    (h : insertRows key rows inserted = .ok after) :
    after = rows ++ inserted ∧ ((rows ++ inserted).map key).Nodup := by
  rw [insertRows] at h
  split at h
  · exact ⟨(Except.ok.inj h).symm, ‹_›⟩
  · cases h

theorem column_eq_ok {precision scale : ℕ} {value : ℚ} {stored : FixedPoint scale}
    (h : column precision scale value = .ok stored) : stored = .assign scale value := by
  rw [column] at h
  split at h
  · exact (Except.ok.inj h).symm
  · cases h

theorem getSupplierId_eq_ok {supplierId : ℕ} (h : getSupplierId tables publicId = .ok supplierId) :
    ∃ supplier ∈ tables.suppliers, supplier.publicId = publicId ∧ supplier.id = supplierId := by
  rw [getSupplierId] at h
  split at h
  · cases h
  · rename_i supplier hFound
    have hKey := List.find?_some hFound
    exact ⟨supplier, List.mem_of_find?_eq_some hFound, of_decide_eq_true hKey, Except.ok.inj h⟩

theorem guard422_eq_ok {valid : Bool} {checked : Unit} (h : guard422 valid = .ok checked) :
    valid = true := by
  rw [guard422] at h
  split at h
  · rename_i hValid
    exact hValid
  · cases h

theorem createSupplier_eq_ok {id : ℕ} {payload : SupplierCreate}
    (h : createSupplier tables id publicId payload = .ok result) :
    result = { tables with suppliers := tables.suppliers ++ [⟨⟨id, payload.legalName⟩, publicId⟩] } ∧
      (result.suppliers.map fun row => row.id).Nodup ∧
        (result.suppliers.map SupplierRow.publicId).Nodup := by
  obtain ⟨-, -, h⟩ := exists_of_bind_eq_ok h
  obtain ⟨-, -, h⟩ := exists_of_bind_eq_ok h
  obtain ⟨-, -, h⟩ := exists_of_bind_eq_ok h
  obtain ⟨-, -, h⟩ := exists_of_bind_eq_ok h
  obtain ⟨-, -, h⟩ := exists_of_bind_eq_ok h
  obtain ⟨-, -, h⟩ := exists_of_bind_eq_ok h
  obtain ⟨-, -, h⟩ := exists_of_bind_eq_ok h
  obtain ⟨suppliers, hSuppliers, h⟩ := exists_of_bind_eq_ok h
  obtain ⟨others, hOthers, h⟩ := exists_of_bind_eq_ok h
  obtain ⟨rfl, hIds⟩ := insertRows_eq_ok hSuppliers
  obtain ⟨-, hPublicIds⟩ := insertRows_eq_ok hOthers
  obtain rfl := Except.ok.inj h
  exact ⟨rfl, hIds, hPublicIds⟩

theorem createPurchaseOrder_eq_ok {payload : PurchaseOrderCreate}
    (h : createPurchaseOrder tables ids publicId userId payload = .ok result) :
    result.ledger = tables.ledger ∧ result.suppliers = tables.suppliers := by
  obtain ⟨-, -, h⟩ := exists_of_bind_eq_ok h
  obtain ⟨supplierId, -, h⟩ := exists_of_bind_eq_ok h
  obtain ⟨-, -, h⟩ := exists_of_bind_eq_ok h
  obtain ⟨purchaseOrders, -, h⟩ := exists_of_bind_eq_ok h
  obtain ⟨-, -, h⟩ := exists_of_bind_eq_ok h
  obtain ⟨lines, -, h⟩ := exists_of_bind_eq_ok h
  obtain ⟨purchaseOrderLines, -, h⟩ := exists_of_bind_eq_ok h
  obtain rfl := Except.ok.inj h
  exact ⟨rfl, rfl⟩

theorem recordGoodsReceipt_eq_ok {payload : GoodsReceiptCreate} {variances : List VarianceResult}
    (h : recordGoodsReceipt tables ids userId payload = .ok (result, variances)) :
    result.ledger = tables.ledger ∧ result.suppliers = tables.suppliers := by
  obtain ⟨-, -, h⟩ := exists_of_bind_eq_ok h
  obtain ⟨supplierId, -, h⟩ := exists_of_bind_eq_ok h
  obtain ⟨receiptNumber, -, h⟩ := exists_of_bind_eq_ok h
  obtain ⟨goodsReceipts, -, h⟩ := exists_of_bind_eq_ok h
  obtain ⟨recorded, -, h⟩ := exists_of_bind_eq_ok h
  obtain ⟨goodsReceiptLines, -, h⟩ := exists_of_bind_eq_ok h
  obtain ⟨rfl, -⟩ := Prod.mk.inj (Except.ok.inj h)
  exact ⟨rfl, rfl⟩

theorem postLine_eq_ok {purchaseInvoiceId lineId : ℕ} {input : PurchaseInvoiceLineInput}
    {line : PostedLine} {ppv : Option PpvResult}
    (h : postLine purchaseInvoiceId lineId input = .ok (line, ppv)) :
    line.purchaseInvoiceId = purchaseInvoiceId ∧
      line.netAmount =
        .quantize 4 (lineAmount input.quantity input.unitPrice input.discountPct) := by
  obtain ⟨netAmount, hNet, h⟩ := exists_of_bind_eq_ok h
  obtain ⟨supplierSku, -, h⟩ := exists_of_bind_eq_ok h
  obtain ⟨description, -, h⟩ := exists_of_bind_eq_ok h
  obtain ⟨quantity, -, h⟩ := exists_of_bind_eq_ok h
  obtain ⟨unitPrice, -, h⟩ := exists_of_bind_eq_ok h
  obtain ⟨discountPct, -, h⟩ := exists_of_bind_eq_ok h
  obtain ⟨taxPct, -, h⟩ := exists_of_bind_eq_ok h
  obtain ⟨stored, hStored, h⟩ := exists_of_bind_eq_ok h
  obtain ⟨variance, -, h⟩ := exists_of_bind_eq_ok h
  obtain ⟨rfl, -⟩ := Prod.mk.inj (Except.ok.inj h)
  refine ⟨rfl, ?_⟩
  rw [← netAmount_eq_ok hNet]
  exact (column_eq_ok hStored).trans (FixedPoint.assign_value netAmount)

/-- What an accepted invoice adds to the tables. -/
structure InvoicePosted (tables result : PostingTables) (organisationId : ℕ)
    (payload : PurchaseInvoiceIngest) (supplier : SupplierRow) (invoice : PostedInvoice)
    (lines : List PostedLine) : Prop where
  known : supplier ∈ tables.suppliers ∧ supplier.publicId = payload.supplierPublicId
  owned : invoice.organisationId = organisationId ∧ invoice.supplierId = supplier.id
  original : invoice.correctsId = none
  added : result = { tables with
    purchaseInvoices := tables.purchaseInvoices ++ [invoice]
    purchaseInvoiceLines := tables.purchaseInvoiceLines ++ lines }
  ids : ((tables.purchaseInvoices ++ [invoice]).map fun row => row.id).Nodup
  children : ∀ line ∈ lines, line.purchaseInvoiceId = invoice.id
  costs : lines.map (fun line => line.netAmount.value) =
    payload.lines.map PurchaseInvoiceLineInput.cost
  nonempty : lines ≠ []

theorem ingestPurchaseInvoice_eq_ok {payload : PurchaseInvoiceIngest} {ppvResults : List PpvResult}
    (h : ingestPurchaseInvoice recalculate tables ids organisationId userId payload =
      .ok (result, ppvResults)) :
    ∃ supplier invoice lines,
      InvoicePosted tables result organisationId payload supplier invoice lines := by
  obtain ⟨checked, hValid, h⟩ := exists_of_bind_eq_ok h
  obtain ⟨supplierId, hSupplier, h⟩ := exists_of_bind_eq_ok h
  obtain ⟨-, -, h⟩ := exists_of_bind_eq_ok h
  obtain ⟨invoices, hInvoices, h⟩ := exists_of_bind_eq_ok h
  obtain ⟨posted, hPosted, h⟩ := exists_of_bind_eq_ok h
  obtain ⟨lines, hLines, h⟩ := exists_of_bind_eq_ok h
  obtain ⟨-, -, h⟩ := exists_of_bind_eq_ok h
  obtain ⟨hResult, -⟩ := Prod.mk.inj (Except.ok.inj h)
  obtain ⟨supplier, hMem, hPublicId, rfl⟩ := getSupplierId_eq_ok hSupplier
  obtain ⟨rfl, hIds⟩ := insertRows_eq_ok hInvoices
  obtain ⟨rfl, -⟩ := insertRows_eq_ok hLines
  have hCosts : posted.map (fun line => line.1.netAmount.value) =
      payload.lines.zipIdx.map fun line => line.1.cost :=
    map_eq_of_mapM hPosted fun input line hLine =>
      congrArg FixedPoint.value (postLine_eq_ok hLine).2
  refine ⟨supplier, _, posted.map Prod.fst, ⟨hMem, hPublicId⟩, ⟨rfl, rfl⟩, rfl, hResult.symm, hIds,
    fun line hLine => ?_, ?_, ?_⟩
  · obtain ⟨pair, hPair, rfl⟩ := List.mem_map.mp hLine
    obtain ⟨input, -, hInput⟩ := exists_source_of_mem hPosted hPair
    exact (postLine_eq_ok hInput).1
  · rw [List.map_map]
    refine hCosts.trans ?_
    rw [← List.zipIdx_map_fst 0 payload.lines, List.map_map, List.zipIdx_map_fst]
    rfl
  · intro hNil
    have hLength := congrArg List.length hCosts
    rw [List.map_eq_nil_iff.mp hNil, List.map_nil, List.length_map, List.length_zipIdx,
      List.length_nil] at hLength
    have hNonempty := guard422_eq_ok hValid
    rw [PurchaseInvoiceIngest.valid, List.length_eq_zero_iff.mp hLength.symm, List.isEmpty_nil]
      at hNonempty
    simp at hNonempty

theorem transactionRow_eq_ok {supplierId id : ℕ} {input : TransactionInput}
    {row : Ledger.PurchaseTransaction}
    (h : transactionRow organisationId supplierId id input = .ok row) :
    row.organisationId = organisationId ∧
      row.supplierId = supplierId ∧ row.correctsId = none ∧ row.amount.value = input.cost := by
  obtain ⟨supplierSku, -, h⟩ := exists_of_bind_eq_ok h
  obtain ⟨description, -, h⟩ := exists_of_bind_eq_ok h
  obtain ⟨amount, hAmount, h⟩ := exists_of_bind_eq_ok h
  obtain ⟨quantity, -, h⟩ := exists_of_bind_eq_ok h
  obtain ⟨reference, -, h⟩ := exists_of_bind_eq_ok h
  obtain rfl := Except.ok.inj h
  exact ⟨rfl, rfl, rfl, congrArg FixedPoint.value (column_eq_ok hAmount)⟩

/-- What an accepted upload adds to the tables. -/
structure TransactionsUploaded (tables result : PostingTables) (organisationId supplierPublicId : ℕ)
    (rows : List TransactionInput) (supplier : SupplierRow)
    (transactions : List Ledger.PurchaseTransaction) : Prop where
  known : supplier ∈ tables.suppliers ∧ supplier.publicId = supplierPublicId
  owned : ∀ transaction ∈ transactions, transaction.organisationId = organisationId ∧
    transaction.supplierId = supplier.id
  original : ∀ transaction ∈ transactions, transaction.correctsId = none
  added : result =
    { tables with purchaseTransactions := tables.purchaseTransactions ++ transactions }
  costs : transactions.map (fun transaction => transaction.amount.value) =
    rows.map TransactionInput.cost

theorem ingestTransactionRows_eq_ok {supplierPublicId : ℕ} {rows : List TransactionInput}
    (h : ingestTransactionRows recalculate tables ids organisationId supplierPublicId rows =
      .ok result) :
    ∃ supplier transactions, TransactionsUploaded tables result organisationId supplierPublicId rows
      supplier transactions := by
  obtain ⟨supplierId, hSupplier, h⟩ := exists_of_bind_eq_ok h
  obtain ⟨transactions, hRows, h⟩ := exists_of_bind_eq_ok h
  obtain ⟨inserted, hInserted, h⟩ := exists_of_bind_eq_ok h
  obtain ⟨-, -, h⟩ := exists_of_bind_eq_ok h
  have hResult := Except.ok.inj h
  obtain ⟨supplier, hMem, hPublicId, rfl⟩ := getSupplierId_eq_ok hSupplier
  obtain ⟨rfl, -⟩ := insertRows_eq_ok hInserted
  have hCosts : transactions.map (fun transaction => transaction.amount.value) =
      rows.zipIdx.map fun row => row.1.cost :=
    map_eq_of_mapM hRows fun input row hRow => (transactionRow_eq_ok hRow).2.2.2
  refine ⟨supplier, transactions, ⟨hMem, hPublicId⟩, fun transaction hTransaction => ?_,
    fun transaction hTransaction => ?_, hResult.symm, ?_⟩
  · obtain ⟨input, -, hInput⟩ := exists_source_of_mem hRows hTransaction
    exact ⟨(transactionRow_eq_ok hInput).1, (transactionRow_eq_ok hInput).2.1⟩
  · obtain ⟨input, -, hInput⟩ := exists_source_of_mem hRows hTransaction
    exact (transactionRow_eq_ok hInput).2.2.1
  · refine hCosts.trans ?_
    rw [← List.zipIdx_map_fst 0 rows, List.map_map, List.zipIdx_map_fst]
    rfl

end Accepted

end ProcureFoundation.Postings
