import ProcureFoundation.Foundation.RunMoments
import ProcureFoundation.Postings.PurchaseLedgerService

/-!
# Posted spend

A book keeps one figure for what each supplier has invoiced and one for what it has been paid, and
what is spent at a supplier is the former if there is any. Whatever requests are made, the spend by
supplier that is reported is the book of the requests that were accepted.
-/

namespace ProcureFoundation.Postings

open KeyedRows Ledger Outcome

inductive PostingRequest where
  | createSupplier (id publicId : ℕ) (payload : SupplierCreate)
  | createPurchaseOrder (ids : NewIds) (publicId userId : ℕ) (payload : PurchaseOrderCreate)
  | ingestPurchaseInvoice (ids : NewIds) (userId : ℕ) (payload : PurchaseInvoiceIngest)
  | recordGoodsReceipt (ids : NewIds) (userId : ℕ) (payload : GoodsReceiptCreate)
  | ingestTransactions (ids : NewIds) (supplierPublicId : ℕ) (rows : List TransactionInput)

def handle (recalculate : Recalculate) (organisationId : ℕ) (tables : PostingTables) :
    PostingRequest → Except String PostingTables
  | .createSupplier id publicId payload => createSupplier tables id publicId payload
  | .createPurchaseOrder ids publicId userId payload =>
    createPurchaseOrder tables ids publicId userId payload
  | .ingestPurchaseInvoice ids userId payload =>
    (ingestPurchaseInvoice recalculate tables ids organisationId userId payload).map Prod.fst
  | .recordGoodsReceipt ids userId payload =>
    (recordGoodsReceipt tables ids userId payload).map Prod.fst
  | .ingestTransactions ids supplierPublicId rows =>
    ingestTransactionRows recalculate tables ids organisationId supplierPublicId rows

/-- The amounts go by the public identifiers of the suppliers. -/
structure SpendBook where
  invoiced : ℕ → Option ℚ
  paid : ℕ → Option ℚ

namespace SpendBook

def empty : SpendBook := ⟨fun _ => none, fun _ => none⟩

def spend (book : SpendBook) (supplier : ℕ) : Option ℚ :=
  (book.invoiced supplier).or (book.paid supplier)

def add (totals : ℕ → Option ℚ) (supplier : ℕ) (amount : ℚ) : ℕ → Option ℚ :=
  Function.update totals supplier (some ((totals supplier).getD 0 + amount))

end SpendBook

def SpendBook.enter (book : SpendBook) : PostingRequest → SpendBook
  | .ingestPurchaseInvoice _ _ payload =>
    { book with
      invoiced := add book.invoiced payload.supplierPublicId
        (payload.lines.map PurchaseInvoiceLineInput.cost).sum }
  | .ingestTransactions _ supplierPublicId rows =>
    { book with paid := rows.foldl (fun paid row => add paid supplierPublicId row.cost) book.paid }
  | .createSupplier .. | .createPurchaseOrder .. | .recordGoodsReceipt .. => book

structure Journal where
  tables : PostingTables
  book : SpendBook

/-- A request that raises leaves the tables and the book as they are. -/
def Journal.step (recalculate : Recalculate) (organisationId : ℕ) (journal : Journal)
    (request : PostingRequest) : Journal :=
  match handle recalculate organisationId journal.tables request with
  | .error _ => journal
  | .ok tables => ⟨tables, journal.book.enter request⟩

/-- The report has one row for each supplier that the book has an amount of. -/
structure ReportsBook (organisationId : ℕ) (journal : Journal) : Prop where
  once : ((getSpendBySupplier journal.tables.ledger organisationId).map SpendItem.key).Nodup
  known : ∀ item ∈ getSpendBySupplier journal.tables.ledger organisationId,
    ∃ supplier ∈ journal.tables.suppliers, item.key = toString supplier.id
  amounts : ∀ supplier ∈ journal.tables.suppliers, ∀ amount,
    (∃ item ∈ getSpendBySupplier journal.tables.ledger organisationId,
      item.key = toString supplier.id ∧ item.amount.value = amount) ↔
        journal.book.spend supplier.publicId = some amount

section Contributions

variable {ledger : PurchaseLedger} {organisationId supplierId : ℕ} {invoice : PurchaseInvoice}
  {lines : List PurchaseInvoiceLine} {transactions : List Ledger.PurchaseTransaction}
  {xs ys : List Contribution}

def posted (ledger : PurchaseLedger) (invoice : PurchaseInvoice)
    (lines : List PurchaseInvoiceLine) : PurchaseLedger :=
  { ledger with
    purchaseInvoices := ledger.purchaseInvoices ++ [invoice]
    purchaseInvoiceLines := ledger.purchaseInvoiceLines ++ lines }

def uploaded (ledger : PurchaseLedger) (transactions : List Ledger.PurchaseTransaction) :
    PurchaseLedger :=
  { ledger with purchaseTransactions := ledger.purchaseTransactions ++ transactions }

/-- Whether an invoice is of a supplier of an organisation. -/
def IsFor (organisationId supplierId : ℕ) (invoice : PurchaseInvoice) : Bool :=
  invoice.organisationId == organisationId && invoice.supplierId == supplierId

theorem lineContributions_posted (hFresh : invoice.id ∉ ledger.purchaseInvoices.map PurchaseInvoice.id)
    (hOld : ∀ line ∈ ledger.purchaseInvoiceLines, line.purchaseInvoiceId ≠ invoice.id)
    (hNew : ∀ line ∈ lines, line.purchaseInvoiceId = invoice.id) :
    (posted ledger invoice lines).lineContributions organisationId supplierId =
      ledger.lineContributions organisationId supplierId ++
        if IsFor organisationId supplierId invoice then lines.map fun line =>
          Contribution.ofLine line invoice else [] := by
  rw [PurchaseLedger.lineContributions, posted, List.filterMap_append]
  refine congrArg₂ _ (List.filterMap_congr fun line hLine => ?_) ?_
  · rw [lookup_append_of_ne (hOld line hLine).symm]
  · have hSelf : lookup PurchaseInvoice.id (ledger.purchaseInvoices ++ [invoice]) invoice.id =
        some invoice :=
      lookup_append_self fun old hMem hSame => hFresh (List.mem_map.mpr ⟨old, hMem, hSame⟩)
    have hLines : lines.filterMap (fun line =>
        ((lookup PurchaseInvoice.id (ledger.purchaseInvoices ++ [invoice])
          line.purchaseInvoiceId).filter fun invoice =>
            IsFor organisationId supplierId invoice).map (Contribution.ofLine line)) =
        lines.filterMap fun line =>
          if IsFor organisationId supplierId invoice then some (Contribution.ofLine line invoice)
            else none := by
      refine List.filterMap_congr fun line hLine => ?_
      rw [hNew line hLine, hSelf, Option.filter_some]
      split
      · rfl
      · rfl
    refine hLines.trans ?_
    split
    · exact congrFun List.filterMap_eq_map lines
    · exact List.filterMap_eq_nil_iff.mpr fun _ _ => rfl

theorem hasInvoice_posted : (posted ledger invoice lines).hasInvoice organisationId supplierId =
    (ledger.hasInvoice organisationId supplierId || IsFor organisationId supplierId invoice) := by
  rw [PurchaseLedger.hasInvoice, posted, List.any_append, List.any_cons, List.any_nil,
    Bool.or_false]
  rfl

theorem transactionContributions_uploaded :
    (uploaded ledger transactions).transactionContributions organisationId supplierId =
    ledger.transactionContributions organisationId supplierId ++
      (transactions.filter fun transaction =>
        transaction.organisationId == organisationId &&
          transaction.supplierId == supplierId).map Contribution.ofTransaction := by
  rw [PurchaseLedger.transactionContributions, uploaded, List.filter_append, List.map_append]
  rfl

/-- The amount of some contributions, of which there may be none. -/
def total (xs : List Contribution) : Option ℚ :=
  if xs = [] then none else some (xs.map fun contribution => contribution.amount.value).sum

theorem total_append (h : ys ≠ []) :
    total (xs ++ ys) =
      some ((total xs).getD 0 + (ys.map fun contribution => contribution.amount.value).sum) := by
  rw [total, if_neg (List.append_ne_nil_of_right_ne_nil xs h), List.map_append,
    List.sum_append, total]
  split
  · rename_i hNil
    rw [hNil]
    rfl
  · rfl

end Contributions

/-- The keys of the tables hold, and the book has what the rows of each supplier amount to. -/
structure Kept (organisationId : ℕ) (journal : Journal) : Prop where
  integrity : journal.tables.ledger.Integrity
  noCorrections : journal.tables.ledger.NoCorrections
  publicIds : (journal.tables.suppliers.map SupplierRow.publicId).Nodup
  lineInvoices : ∀ line ∈ journal.tables.ledger.purchaseInvoiceLines,
    line.purchaseInvoiceId ∈ journal.tables.ledger.purchaseInvoices.map PurchaseInvoice.id
  hasLines : ∀ supplierId, journal.tables.ledger.hasInvoice organisationId supplierId = true →
    journal.tables.ledger.lineContributions organisationId supplierId ≠ []
  invoiced : ∀ supplier ∈ journal.tables.suppliers,
    journal.book.invoiced supplier.publicId =
      total (journal.tables.ledger.lineContributions organisationId supplier.id)
  paid : ∀ supplier ∈ journal.tables.suppliers,
    journal.book.paid supplier.publicId =
      total (journal.tables.ledger.transactionContributions organisationId supplier.id)
  unknown : ∀ publicId ∉ journal.tables.suppliers.map SupplierRow.publicId,
    journal.book.invoiced publicId = none ∧ journal.book.paid publicId = none

section Report

variable {organisationId : ℕ} {journal : Journal}

theorem Kept.spend (h : Kept organisationId journal) {supplier : SupplierRow}
    (hSupplier : supplier ∈ journal.tables.suppliers) : journal.book.spend supplier.publicId =
      total (journal.tables.ledger.supplierContributions organisationId supplier.id) := by
  rw [SpendBook.spend, h.invoiced supplier hSupplier, h.paid supplier hSupplier,
    PurchaseLedger.supplierContributions]
  split
  · rename_i hInvoiced
    rw [total, if_neg (h.hasLines supplier.id hInvoiced)]
    rfl
  · rename_i hNone
    rw [lineContributions_eq_nil hNone]
    rfl

theorem toString_injective : Function.Injective (toString : ℕ → String) := by
  intro a b hSame
  have hDigits : Nat.toDigits 10 a = Nat.toDigits 10 b := by
    rw [← Nat.toList_repr, ← Nat.toList_repr]
    exact congrArg String.toList hSame
  have hRead := congrArg (Nat.ofDigitChars 10 · 0) hDigits
  simpa using hRead

variable {rows : List Contribution} {supplierId : ℕ}

theorem keySum_supplier : keySum (rows.map supplierEntry) (toString supplierId) =
    ((rows.filter fun row => row.supplierId == supplierId).map fun row =>
      row.amount.value).sum := by
  rw [keySum, List.filter_map, List.map_map]
  refine congrArg List.sum (congrArg₂ List.map rfl (List.filter_congr fun row _ => ?_))
  exact decide_eq_decide.mpr ⟨fun hSame => toString_injective hSame, fun hSame => congrArg toString hSame⟩

theorem mem_keys_supplier : toString supplierId ∈ (rows.map supplierEntry).map Prod.fst ↔
    rows.filter (fun row => row.supplierId == supplierId) ≠ [] := by
  rw [List.map_map, List.mem_map, ne_eq, List.filter_eq_nil_iff]
  constructor
  · rintro ⟨row, hRow, hKey⟩ hNone
    exact hNone row hRow (beq_iff_eq.mpr (toString_injective hKey))
  · intro hSome
    by_contra hNone
    exact hSome fun row hRow hSame => hNone ⟨row, hRow, congrArg toString (beq_iff_eq.mp hSame)⟩

theorem Kept.reports (h : Kept organisationId journal) : ReportsBook organisationId journal := by
  have hGroups := @groups_supplier journal.tables.ledger organisationId h.integrity
  have hRows : ∀ supplierId, (readRows journal.tables.ledger organisationId).filter
    (fun row => row.supplierId == supplierId) =
      journal.tables.ledger.supplierContributions organisationId supplierId :=
    fun supplierId => filter_readRows h.integrity h.noCorrections
  have hAmount : ∀ item ∈ getSpendBySupplier journal.tables.ledger organisationId, ∀ supplierId,
      item.key = toString supplierId →
        total (journal.tables.ledger.supplierContributions organisationId supplierId) =
          some item.amount.value := by
    intro item hItem supplierId hKey
    have hEntry : item.entry ∈ (getSpendBySupplier journal.tables.ledger organisationId).map
        SpendItem.entry :=
      List.mem_map_of_mem hItem
    have hCovered := (hGroups.covers item.key).mp (List.mem_map_of_mem hEntry)
    rw [hKey, mem_keys_supplier, hRows] at hCovered
    have hSum := hGroups.amounts item.entry hEntry
    rw [show item.entry.1 = toString supplierId from hKey, keySum_supplier, hRows] at hSum
    rw [total, if_neg hCovered, ← hSum]
    rfl
  refine ⟨?_, fun item hItem => ?_, fun supplier hSupplier amount => ?_⟩
  · have hKeys := hGroups.keys
    rwa [List.map_map] at hKeys
  · have hEntry : item.entry ∈ (getSpendBySupplier journal.tables.ledger organisationId).map
        SpendItem.entry :=
      List.mem_map_of_mem hItem
    have hCovered := (hGroups.covers item.key).mp (List.mem_map_of_mem hEntry)
    obtain ⟨entry, hRead, hKey⟩ := List.mem_map.mp hCovered
    obtain ⟨row, hRow, rfl⟩ := List.mem_map.mp hRead
    obtain ⟨supplier, hSupplier, hId⟩ :=
      List.mem_map.mp (mem_suppliers_of_readRows h.integrity hRow)
    obtain ⟨known, hKnown, rfl⟩ := List.mem_map.mp hSupplier
    exact ⟨known, hKnown, hKey.symm.trans (congrArg toString hId.symm)⟩
  · rw [h.spend hSupplier]
    constructor
    · rintro ⟨item, hItem, hKey, rfl⟩
      exact hAmount item hItem supplier.id hKey
    · intro hTotal
      have hSome : journal.tables.ledger.supplierContributions organisationId supplier.id ≠ [] := by
        intro hNil
        rw [total, if_pos hNil] at hTotal
        cases hTotal
      rw [← hRows, ← mem_keys_supplier, ← hGroups.covers] at hSome
      obtain ⟨entry, hEntry, hKey⟩ := List.mem_map.mp hSome
      obtain ⟨item, hItem, rfl⟩ := List.mem_map.mp hEntry
      refine ⟨item, hItem, hKey, ?_⟩
      rw [hAmount item hItem supplier.id hKey] at hTotal
      exact Option.some.inj hTotal

end Report

section Preserved

variable {organisationId : ℕ} {tables result : PostingTables} {book : SpendBook} {amount : ℚ}

theorem SpendBook.add_self {totals : ℕ → Option ℚ} {supplier : ℕ} :
    SpendBook.add totals supplier amount supplier = some ((totals supplier).getD 0 + amount) :=
  Function.update_self ..

theorem SpendBook.add_other {totals : ℕ → Option ℚ} {supplier other : ℕ} (h : other ≠ supplier) :
    SpendBook.add totals supplier amount other = totals other :=
  Function.update_of_ne h ..

theorem SpendBook.paid_self {rows : List TransactionInput} {paid : ℕ → Option ℚ} {supplier : ℕ}
    (h : rows ≠ []) :
    rows.foldl (fun paid row => SpendBook.add paid supplier row.cost) paid supplier =
      some ((paid supplier).getD 0 + (rows.map TransactionInput.cost).sum) := by
  induction rows using List.reverseRecOn with
  | nil => exact absurd rfl h
  | append_singleton rows row ih =>
    rw [List.foldl_append, List.foldl_cons, List.foldl_nil, SpendBook.add_self, List.map_append,
      List.sum_append, List.map_singleton, List.sum_singleton, ← add_assoc]
    by_cases hRows : rows = []
    · rw [hRows, List.foldl_nil, List.map_nil, List.sum_nil, add_zero]
    · rw [ih hRows, Option.getD_some]

theorem SpendBook.paid_other {rows : List TransactionInput} {paid : ℕ → Option ℚ}
    {supplier other : ℕ} (h : other ≠ supplier) :
    rows.foldl (fun paid row => SpendBook.add paid supplier row.cost) paid other = paid other := by
  induction rows using List.reverseRecOn with
  | nil => rfl
  | append_singleton rows row ih =>
    rw [List.foldl_append, List.foldl_cons, List.foldl_nil, SpendBook.add_other h, ih]

theorem ne_of_unknown {supplier : SupplierRow} (hSupplier : supplier ∈ tables.suppliers)
    {publicId : ℕ} (hUnknown : publicId ∉ tables.suppliers.map SupplierRow.publicId) :
    publicId ≠ supplier.publicId := by
  rintro rfl
  exact hUnknown (List.mem_map_of_mem hSupplier)

theorem id_mem_ledger {supplier : SupplierRow} (hSupplier : supplier ∈ tables.suppliers) :
    supplier.id ∈ tables.ledger.suppliers.map Supplier.id := by
  rw [PostingTables.ledger, List.map_map]
  exact List.mem_map_of_mem hSupplier

/-- A supplier is the one of a public identifier exactly when it has its identifier. -/
theorem Kept.same_supplier (h : Kept organisationId ⟨tables, book⟩) {supplier other : SupplierRow}
    (hSupplier : supplier ∈ tables.suppliers) (hOther : other ∈ tables.suppliers) :
    other.publicId = supplier.publicId ↔ other.id = supplier.id := by
  have hIds : (tables.suppliers.map fun row => row.id).Nodup := by
    have hRows := h.integrity.supplierIds
    rwa [PostingTables.ledger, List.map_map] at hRows
  exact ⟨fun hPublicId => congrArg (fun row : SupplierRow => row.id)
      (List.inj_on_of_nodup_map h.publicIds hOther hSupplier hPublicId),
    fun hId => congrArg SupplierRow.publicId (List.inj_on_of_nodup_map hIds hOther hSupplier hId)⟩

theorem Kept.of_same (h : Kept organisationId ⟨tables, book⟩)
    (hLedger : result.ledger = tables.ledger) (hSuppliers : result.suppliers = tables.suppliers) :
    Kept organisationId ⟨result, book⟩ := by
  constructor
  · exact hLedger ▸ h.integrity
  · exact hLedger ▸ h.noCorrections
  · exact hSuppliers ▸ h.publicIds
  · exact hLedger ▸ h.lineInvoices
  · exact hLedger ▸ h.hasLines
  · simpa only [hLedger, hSuppliers] using h.invoiced
  · simpa only [hLedger, hSuppliers] using h.paid
  · simpa only [hSuppliers] using h.unknown

theorem lineContributions_of_fresh (h : tables.ledger.Integrity) {supplierId : ℕ}
    (hFresh : supplierId ∉ tables.ledger.suppliers.map Supplier.id) :
    tables.ledger.lineContributions organisationId supplierId = [] := by
  refine lineContributions_eq_nil fun hInvoiced => ?_
  obtain ⟨invoice, hInvoice, hOwn⟩ := List.any_eq_true.mp hInvoiced
  rw [Bool.and_eq_true, beq_iff_eq, beq_iff_eq] at hOwn
  exact hFresh (hOwn.2 ▸ h.invoiceSuppliers invoice hInvoice)

theorem transactionContributions_of_fresh (h : tables.ledger.Integrity) {supplierId : ℕ}
    (hFresh : supplierId ∉ tables.ledger.suppliers.map Supplier.id) :
    tables.ledger.transactionContributions organisationId supplierId = [] := by
  rw [PurchaseLedger.transactionContributions, List.map_eq_nil_iff, List.filter_eq_nil_iff]
  intro transaction hTransaction hOwn
  rw [Bool.and_eq_true, beq_iff_eq, beq_iff_eq] at hOwn
  exact hFresh (hOwn.2 ▸ h.transactionSuppliers transaction hTransaction)

theorem Kept.of_createSupplier (h : Kept organisationId ⟨tables, book⟩) {id publicId : ℕ}
    {payload : SupplierCreate} (hCreated : createSupplier tables id publicId payload = .ok result) :
    Kept organisationId ⟨result, book⟩ := by
  obtain ⟨rfl, hIds, hPublicIds⟩ := createSupplier_eq_ok hCreated
  have hFreshId : id ∉ tables.ledger.suppliers.map Supplier.id := by
    rw [List.map_append, List.nodup_append] at hIds
    intro hMem
    rw [PostingTables.ledger, List.map_map] at hMem
    exact hIds.2.2 id hMem id (List.mem_singleton_self id) rfl
  have hFreshPublicId : publicId ∉ tables.suppliers.map SupplierRow.publicId := by
    rw [List.map_append, List.nodup_append] at hPublicIds
    exact fun hMem => hPublicIds.2.2 publicId hMem publicId (List.mem_singleton_self publicId) rfl
  have hStays : ∀ {supplierId}, supplierId ∈ tables.ledger.suppliers.map Supplier.id → supplierId ∈
      (PostingTables.ledger
        { tables with suppliers := tables.suppliers ++ [⟨⟨id, payload.legalName⟩, publicId⟩] }).suppliers.map
        Supplier.id := by
    intro supplierId hMem
    rw [PostingTables.ledger, List.map_append, List.map_append]
    exact List.mem_append_left _ hMem
  refine ⟨⟨?_, h.integrity.invoiceIds, fun invoice hInvoice =>
    hStays (h.integrity.invoiceSuppliers invoice hInvoice),
    fun transaction hTransaction =>
      hStays (h.integrity.transactionSuppliers transaction hTransaction)⟩,
    ⟨h.noCorrections.purchaseInvoices, h.noCorrections.purchaseTransactions⟩, hPublicIds,
    h.lineInvoices, h.hasLines,
    fun supplier hSupplier => ?_, fun supplier hSupplier => ?_, fun other hOther => ?_⟩
  · rw [PostingTables.ledger, List.map_map]
    exact hIds
  · cases List.mem_append.mp hSupplier with
    | inl hOld => exact h.invoiced supplier hOld
    | inr hNew =>
      obtain rfl := List.mem_singleton.mp hNew
      exact (h.unknown publicId hFreshPublicId).1.trans
        (congrArg total (lineContributions_of_fresh h.integrity hFreshId)).symm
  · cases List.mem_append.mp hSupplier with
    | inl hOld => exact h.paid supplier hOld
    | inr hNew =>
      obtain rfl := List.mem_singleton.mp hNew
      exact (h.unknown publicId hFreshPublicId).2.trans
        (congrArg total (transactionContributions_of_fresh h.integrity hFreshId)).symm
  · refine h.unknown other fun hMem => hOther ?_
    rw [List.map_append]
    exact List.mem_append_left _ hMem

section InvoicePosted

variable {payload : PurchaseInvoiceIngest} {supplier : SupplierRow} {invoice : PostedInvoice}
  {lines : List PostedLine}

theorem InvoicePosted.ledger
    (h : InvoicePosted tables result organisationId payload supplier invoice lines) :
    result.ledger = posted tables.ledger invoice.toPurchaseInvoice
      (lines.map PostedLine.toPurchaseInvoiceLine) := by
  rw [h.added, PostingTables.ledger, List.map_append, List.map_append]
  rfl

theorem InvoicePosted.fresh
    (h : InvoicePosted tables result organisationId payload supplier invoice lines) :
    invoice.id ∉ tables.ledger.purchaseInvoices.map PurchaseInvoice.id := by
  have hIds := h.ids
  rw [List.map_append, List.nodup_append] at hIds
  rw [PostingTables.ledger, List.map_map]
  exact fun hMem => hIds.2.2 invoice.id hMem invoice.id (List.mem_singleton_self invoice.id) rfl

theorem InvoicePosted.invoiceIds
    (h : InvoicePosted tables result organisationId payload supplier invoice lines) :
    (result.ledger.purchaseInvoices.map PurchaseInvoice.id).Nodup := by
  have hIds := h.ids
  rwa [h.added, PostingTables.ledger, List.map_map]

theorem InvoicePosted.isFor
    (h : InvoicePosted tables result organisationId payload supplier invoice lines)
    {supplierId : ℕ} :
    IsFor organisationId supplierId invoice.toPurchaseInvoice = true ↔
      supplierId = supplier.id := by
  rw [IsFor, h.owned.1, h.owned.2, beq_self_eq_true, Bool.true_and, beq_iff_eq, eq_comm]

theorem InvoicePosted.contributions
    (h : InvoicePosted tables result organisationId payload supplier invoice lines)
    (hKept : Kept organisationId ⟨tables, book⟩) (supplierId : ℕ) :
    result.ledger.lineContributions organisationId supplierId =
      tables.ledger.lineContributions organisationId supplierId ++
      if supplierId = supplier.id then (lines.map PostedLine.toPurchaseInvoiceLine).map fun line =>
        Contribution.ofLine line invoice.toPurchaseInvoice else [] := by
  have hOld : ∀ line ∈ tables.ledger.purchaseInvoiceLines, line.purchaseInvoiceId ≠ invoice.id := by
    intro line hLine hSame
    exact h.fresh (hSame ▸ hKept.lineInvoices line hLine)
  have hNew : ∀ line ∈ lines.map PostedLine.toPurchaseInvoiceLine,
      line.purchaseInvoiceId = invoice.id := by
    intro line hLine
    obtain ⟨row, hRow, rfl⟩ := List.mem_map.mp hLine
    exact h.children row hRow
  rw [h.ledger, lineContributions_posted h.fresh hOld hNew]
  simp only [h.isFor]

/-- What the lines of the invoice cost is what the request says. -/
theorem InvoicePosted.sum_amounts
    (h : InvoicePosted tables result organisationId payload supplier invoice lines) :
    (((lines.map PostedLine.toPurchaseInvoiceLine).map fun line =>
      Contribution.ofLine line invoice.toPurchaseInvoice).map fun contribution =>
        contribution.amount.value).sum = (payload.lines.map PurchaseInvoiceLineInput.cost).sum := by
  rw [← h.costs, List.map_map, List.map_map]
  rfl

theorem InvoicePosted.mem_purchaseInvoices
    (h : InvoicePosted tables result organisationId payload supplier invoice lines)
    {row : PurchaseInvoice} (hRow : row ∈ result.ledger.purchaseInvoices) :
    row ∈ tables.ledger.purchaseInvoices ∨ row = invoice.toPurchaseInvoice := by
  rw [h.ledger, posted] at hRow
  exact (List.mem_append.mp hRow).imp_right List.mem_singleton.mp

theorem InvoicePosted.integrity
    (h : InvoicePosted tables result organisationId payload supplier invoice lines)
    (hKept : Kept organisationId ⟨tables, book⟩) : result.ledger.Integrity := by
  have hSuppliers : result.ledger.suppliers = tables.ledger.suppliers := by rw [h.ledger, posted]
  have hTransactions : result.ledger.purchaseTransactions = tables.ledger.purchaseTransactions := by
    rw [h.ledger, posted]
  refine ⟨hSuppliers ▸ hKept.integrity.supplierIds, h.invoiceIds, fun row hRow => ?_, ?_⟩
  · rw [hSuppliers]
    obtain hOld | rfl := h.mem_purchaseInvoices hRow
    · exact hKept.integrity.invoiceSuppliers row hOld
    · rw [h.owned.2]
      exact id_mem_ledger h.known.1
  · rw [hTransactions, hSuppliers]
    exact hKept.integrity.transactionSuppliers

theorem InvoicePosted.noCorrections
    (h : InvoicePosted tables result organisationId payload supplier invoice lines)
    (hKept : Kept organisationId ⟨tables, book⟩) : result.ledger.NoCorrections := by
  have hTransactions : result.ledger.purchaseTransactions = tables.ledger.purchaseTransactions := by
    rw [h.ledger, posted]
  refine ⟨fun row hRow => ?_, hTransactions ▸ hKept.noCorrections.purchaseTransactions⟩
  obtain hOld | rfl := h.mem_purchaseInvoices hRow
  · exact hKept.noCorrections.purchaseInvoices row hOld
  · exact h.original

theorem InvoicePosted.lineInvoices
    (h : InvoicePosted tables result organisationId payload supplier invoice lines)
    (hKept : Kept organisationId ⟨tables, book⟩) : ∀ line ∈ result.ledger.purchaseInvoiceLines,
      line.purchaseInvoiceId ∈ result.ledger.purchaseInvoices.map PurchaseInvoice.id := by
  intro line hLine
  rw [h.ledger, posted] at hLine
  rw [h.ledger, posted, List.map_append]
  cases List.mem_append.mp hLine with
  | inl hOld => exact List.mem_append_left _ (hKept.lineInvoices line hOld)
  | inr hNew =>
    obtain ⟨row, hRow, rfl⟩ := List.mem_map.mp hNew
    exact List.mem_append_right _ (List.mem_singleton.mpr (h.children row hRow))

theorem Kept.of_invoicePosted (hKept : Kept organisationId ⟨tables, book⟩)
    (h : InvoicePosted tables result organisationId payload supplier invoice lines) (ids : NewIds)
    (userId : ℕ) :
    Kept organisationId ⟨result, book.enter (.ingestPurchaseInvoice ids userId payload)⟩ := by
  have hSuppliers : result.suppliers = tables.suppliers := by rw [h.added]
  have hTransactions : result.ledger.purchaseTransactions = tables.ledger.purchaseTransactions := by
    rw [h.ledger, posted]
  have hSome : (lines.map PostedLine.toPurchaseInvoiceLine).map (fun line =>
      Contribution.ofLine line invoice.toPurchaseInvoice) ≠ [] := by
    rw [ne_eq, List.map_eq_nil_iff, List.map_eq_nil_iff]
    exact h.nonempty
  refine ⟨h.integrity hKept, h.noCorrections hKept, hSuppliers ▸ hKept.publicIds,
    h.lineInvoices hKept,
    fun supplierId hInvoiced => ?_, fun other hOther => ?_, fun other hOther => ?_,
    fun publicId hUnknown => ?_⟩
  · rw [h.contributions hKept]
    split
    · exact List.append_ne_nil_of_right_ne_nil _ hSome
    · rename_i hOther
      rw [h.ledger, hasInvoice_posted, Bool.or_eq_true, h.isFor] at hInvoiced
      rw [List.append_nil]
      exact hKept.hasLines supplierId (hInvoiced.resolve_right hOther)
  · rw [hSuppliers] at hOther
    have hOld := hKept.invoiced other hOther
    have hSame := hKept.same_supplier h.known.1 hOther
    rw [h.contributions hKept]
    split
    · rename_i hId
      rw [total_append hSome, h.sum_amounts, ← hOld, hSame.mpr hId, h.known.2]
      exact SpendBook.add_self
    · rename_i hId
      rw [List.append_nil, ← hOld]
      exact SpendBook.add_other (h.known.2 ▸ mt hSame.mp hId)
  · rw [hSuppliers] at hOther
    rw [PurchaseLedger.transactionContributions, hTransactions]
    exact hKept.paid other hOther
  · rw [hSuppliers] at hUnknown
    have hOther : publicId ≠ payload.supplierPublicId :=
      h.known.2 ▸ ne_of_unknown h.known.1 hUnknown
    exact ⟨(SpendBook.add_other hOther).trans (hKept.unknown publicId hUnknown).1,
      (hKept.unknown publicId hUnknown).2⟩

end InvoicePosted

section TransactionsUploaded

variable {supplierPublicId : ℕ} {rows : List TransactionInput} {supplier : SupplierRow}
  {transactions : List Ledger.PurchaseTransaction}

theorem TransactionsUploaded.ledger
    (h : TransactionsUploaded tables result organisationId supplierPublicId rows supplier transactions) :
    result.ledger = uploaded tables.ledger transactions := by
  rw [h.added]
  rfl

theorem TransactionsUploaded.contributions
    (h : TransactionsUploaded tables result organisationId supplierPublicId rows supplier
      transactions) (supplierId : ℕ) :
    result.ledger.transactionContributions organisationId supplierId =
      tables.ledger.transactionContributions organisationId supplierId ++
        if supplierId = supplier.id then transactions.map Contribution.ofTransaction else [] := by
  rw [h.ledger, transactionContributions_uploaded]
  refine congrArg₂ _ rfl ?_
  split
  · rename_i hId
    rw [List.filter_eq_self.mpr]
    intro transaction hTransaction
    obtain ⟨hOrganisation, hSupplier⟩ := h.owned transaction hTransaction
    rw [hOrganisation, hSupplier, hId, beq_self_eq_true, beq_self_eq_true, Bool.true_and]
  · rename_i hId
    rw [List.filter_eq_nil_iff.mpr, List.map_nil]
    intro transaction hTransaction hOwn
    rw [Bool.and_eq_true, beq_iff_eq, beq_iff_eq, (h.owned transaction hTransaction).2] at hOwn
    exact hId hOwn.2.symm

theorem TransactionsUploaded.mem_purchaseTransactions
    (h : TransactionsUploaded tables result organisationId supplierPublicId rows supplier transactions)
    {transaction : Ledger.PurchaseTransaction}
    (hMem : transaction ∈ result.ledger.purchaseTransactions) :
    transaction ∈ tables.ledger.purchaseTransactions ∨ transaction ∈ transactions := by
  rw [h.ledger] at hMem
  exact List.mem_append.mp hMem

theorem TransactionsUploaded.integrity
    (h : TransactionsUploaded tables result organisationId supplierPublicId rows supplier transactions)
    (hKept : Kept organisationId ⟨tables, book⟩) : result.ledger.Integrity := by
  have hSuppliers : result.ledger.suppliers = tables.ledger.suppliers := by rw [h.ledger, uploaded]
  have hInvoices : result.ledger.purchaseInvoices = tables.ledger.purchaseInvoices := by
    rw [h.ledger, uploaded]
  refine ⟨hSuppliers ▸ hKept.integrity.supplierIds, hInvoices ▸ hKept.integrity.invoiceIds, ?_,
    fun transaction hMem => ?_⟩
  · rw [hInvoices, hSuppliers]
    exact hKept.integrity.invoiceSuppliers
  · rw [hSuppliers]
    obtain hOld | hNew := h.mem_purchaseTransactions hMem
    · exact hKept.integrity.transactionSuppliers transaction hOld
    · rw [(h.owned transaction hNew).2]
      exact id_mem_ledger h.known.1

theorem TransactionsUploaded.noCorrections
    (h : TransactionsUploaded tables result organisationId supplierPublicId rows supplier transactions)
    (hKept : Kept organisationId ⟨tables, book⟩) : result.ledger.NoCorrections := by
  have hInvoices : result.ledger.purchaseInvoices = tables.ledger.purchaseInvoices := by
    rw [h.ledger, uploaded]
  refine ⟨hInvoices ▸ hKept.noCorrections.purchaseInvoices, fun transaction hMem => ?_⟩
  obtain hOld | hNew := h.mem_purchaseTransactions hMem
  · exact hKept.noCorrections.purchaseTransactions transaction hOld
  · exact h.original transaction hNew

/-- An upload without rows leaves a supplier that has never been paid without an amount. -/
theorem TransactionsUploaded.paid
    (h : TransactionsUploaded tables result organisationId supplierPublicId rows supplier transactions)
    (hKept : Kept organisationId ⟨tables, book⟩) :
    rows.foldl (fun paid row => SpendBook.add paid supplierPublicId row.cost) book.paid supplierPublicId =
      total (tables.ledger.transactionContributions organisationId supplier.id ++
        transactions.map Contribution.ofTransaction) := by
  have hOld : book.paid supplierPublicId =
      total (tables.ledger.transactionContributions organisationId supplier.id) :=
    h.known.2 ▸ hKept.paid supplier h.known.1
  by_cases hRows : rows = []
  · have hNone : transactions = [] := List.map_eq_nil_iff.mp (h.costs.trans (hRows ▸ rfl))
    rw [hRows, hNone, List.map_nil, List.append_nil, ← hOld, List.foldl_nil]
  · have hSome : transactions.map Contribution.ofTransaction ≠ [] := by
      intro hNil
      have hCosts := h.costs
      rw [List.map_eq_nil_iff.mp hNil, List.map_nil, eq_comm, List.map_eq_nil_iff] at hCosts
      exact hRows hCosts
    rw [total_append hSome, ← hOld, List.map_map, SpendBook.paid_self hRows, ← h.costs]
    rfl

theorem Kept.of_transactionsUploaded (hKept : Kept organisationId ⟨tables, book⟩)
    (h : TransactionsUploaded tables result organisationId supplierPublicId rows supplier
      transactions) (ids : NewIds) :
    Kept organisationId ⟨result, book.enter (.ingestTransactions ids supplierPublicId rows)⟩ := by
  have hSuppliers : result.suppliers = tables.suppliers := by rw [h.added]
  have hInvoices : result.ledger.purchaseInvoices = tables.ledger.purchaseInvoices := by
    rw [h.ledger, uploaded]
  have hLines : result.ledger.purchaseInvoiceLines = tables.ledger.purchaseInvoiceLines := by
    rw [h.ledger, uploaded]
  have hContributions : ∀ supplierId, result.ledger.lineContributions organisationId supplierId =
      tables.ledger.lineContributions organisationId supplierId := by
    intro supplierId
    rw [PurchaseLedger.lineContributions, hInvoices, hLines]
    rfl
  refine ⟨h.integrity hKept, h.noCorrections hKept, hSuppliers ▸ hKept.publicIds, ?_,
    fun supplierId hInvoiced => ?_, fun other hOther => ?_, fun other hOther => ?_,
    fun publicId hUnknown => ?_⟩
  · rw [hLines, hInvoices]
    exact hKept.lineInvoices
  · rw [hContributions]
    rw [PurchaseLedger.hasInvoice, hInvoices] at hInvoiced
    exact hKept.hasLines supplierId hInvoiced
  · rw [hSuppliers] at hOther
    rw [hContributions]
    exact hKept.invoiced other hOther
  · rw [hSuppliers] at hOther
    have hSame := hKept.same_supplier h.known.1 hOther
    rw [h.contributions]
    split
    · rename_i hId
      rw [hSame.mpr hId, hId, h.known.2]
      exact h.paid hKept
    · rename_i hId
      rw [List.append_nil]
      exact (SpendBook.paid_other (h.known.2 ▸ mt hSame.mp hId)).trans (hKept.paid other hOther)
  · rw [hSuppliers] at hUnknown
    have hOther : publicId ≠ supplierPublicId := h.known.2 ▸ ne_of_unknown h.known.1 hUnknown
    exact ⟨(hKept.unknown publicId hUnknown).1,
      (SpendBook.paid_other hOther).trans (hKept.unknown publicId hUnknown).2⟩

end TransactionsUploaded

theorem Kept.step {recalculate : Recalculate} {journal : Journal} (h : Kept organisationId journal)
    (request : PostingRequest) :
    Kept organisationId (journal.step recalculate organisationId request) := by
  rw [Journal.step]
  cases hHandled : handle recalculate organisationId journal.tables request with
  | error message => exact h
  | ok after =>
    cases request with
    | createSupplier id publicId payload => exact h.of_createSupplier hHandled
    | createPurchaseOrder ids publicId userId payload =>
      obtain ⟨hLedger, hSuppliers⟩ := createPurchaseOrder_eq_ok hHandled
      exact h.of_same hLedger hSuppliers
    | ingestPurchaseInvoice ids userId payload =>
      obtain ⟨⟨answered, ppvResults⟩, hAnswer, rfl⟩ := exists_of_map_eq_ok hHandled
      obtain ⟨supplier, invoice, lines, hPosted⟩ := ingestPurchaseInvoice_eq_ok hAnswer
      exact h.of_invoicePosted hPosted ids userId
    | recordGoodsReceipt ids userId payload =>
      obtain ⟨⟨answered, variances⟩, hAnswer, rfl⟩ := exists_of_map_eq_ok hHandled
      obtain ⟨hLedger, hSuppliers⟩ := recordGoodsReceipt_eq_ok hAnswer
      exact h.of_same hLedger hSuppliers
    | ingestTransactions ids supplierPublicId rows =>
      obtain ⟨supplier, transactions, hUploaded⟩ := ingestTransactionRows_eq_ok hHandled
      exact h.of_transactionsUploaded hUploaded ids

theorem Kept.empty (locations : List Location) :
    Kept organisationId ⟨{ PostingTables.empty with locations }, SpendBook.empty⟩ := by
  refine ⟨⟨List.nodup_nil, List.nodup_nil, ?_, ?_⟩, ⟨?_, ?_⟩, List.nodup_nil, ?_, fun _ hInvoiced =>
    ?_, ?_, ?_, fun _ _ => ⟨rfl, rfl⟩⟩
  · exact fun _ hMem => absurd hMem List.not_mem_nil
  · exact fun _ hMem => absurd hMem List.not_mem_nil
  · exact fun _ hMem => absurd hMem List.not_mem_nil
  · exact fun _ hMem => absurd hMem List.not_mem_nil
  · exact fun _ hMem => absurd hMem List.not_mem_nil
  · cases hInvoiced
  · exact fun _ hMem => absurd hMem List.not_mem_nil
  · exact fun _ hMem => absurd hMem List.not_mem_nil

theorem Kept.runFrom {recalculate : Recalculate} {journal : Journal}
    (h : Kept organisationId journal) (requests : List PostingRequest) :
    Kept organisationId (runFrom (Journal.step recalculate organisationId) journal requests) := by
  induction requests using List.reverseRecOn with
  | nil => exact h
  | append_singleton requests request ih =>
    rw [runFrom_concat]
    exact ih.step request

end Preserved

/-- Whatever is requested, the report is the book of what was accepted. -/
theorem report_follows_book (recalculate : Recalculate) (organisationId : ℕ)
    (locations : List Location) (requests : List PostingRequest) : ReportsBook organisationId
      (runFrom (Journal.step recalculate organisationId)
        ⟨{ PostingTables.empty with locations }, SpendBook.empty⟩ requests) :=
  ((Kept.empty locations).runFrom requests).reports

def millers : SupplierCreate := ⟨"Millers", none, none, none, none, none⟩

def flourLineInput : PurchaseInvoiceLineInput :=
  ⟨some "FL-10", some "Cake flour 10kg", 2, 25 / 2, some (1 / 10), none, none, none⟩

def flourInvoice : PurchaseInvoiceIngest :=
  ⟨7, none, "INV-1", ⟨2025, 3, 14, by decide⟩, .zar, [flourLineInput]⟩

def flourPayment : TransactionInput :=
  ⟨some "FL-10", none, ⟨2025, 3, 10, by decide⟩, 40, none, none⟩

/-- A payment counts until the supplier invoices. -/
def flourRequests : List PostingRequest :=
  [.createSupplier 1 7 millers, .ingestTransactions ⟨0, id⟩ 7 [flourPayment],
    .ingestPurchaseInvoice ⟨1, id⟩ 3 flourInvoice]

def flourJournal (count : ℕ) : Journal :=
  runFrom (Journal.step (fun _ _ _ => .ok ()) 1) ⟨PostingTables.empty, SpendBook.empty⟩
    (flourRequests.take count)

example : (flourJournal 2).book.spend 7 = some 40 ∧ (flourJournal 3).book.spend 7 = some (45 / 2) ∧
    (getSpendBySupplier (flourJournal 3).tables.ledger 1).map
      (fun item => (item.key, item.amount.units)) = [("1", 225000)] := by
  decide +kernel

end ProcureFoundation.Postings
