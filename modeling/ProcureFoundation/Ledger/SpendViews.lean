import ProcureFoundation.Foundation.GroupedTotals
import ProcureFoundation.Foundation.KeyedRows
import ProcureFoundation.Ledger.CorrectedTotals

/-!
# Agreement of the spend views

What a supplier contributes to the spend are the lines of its invoices if it has any, and its
transactions otherwise. Each view groups these contributions by a key of its own, so the views have
the same total.
-/

namespace ProcureFoundation.Ledger

open KeyedRows

/-- What is spent at a supplier with one line or transaction. -/
structure Contribution where
  supplierId : ℕ
  supplierSku : Option String
  description : Option String
  date : Date
  amount : Money
deriving DecidableEq

def Contribution.ofLine (line : PurchaseInvoiceLine) (invoice : PurchaseInvoice) : Contribution :=
  ⟨invoice.supplierId, line.supplierSku, line.description, invoice.invoiceDate, line.netAmount⟩

def Contribution.ofTransaction (transaction : PurchaseTransaction) : Contribution :=
  ⟨transaction.supplierId, transaction.supplierSku, transaction.description,
    transaction.transactionDate, transaction.amount⟩

namespace PurchaseLedger

/-- The primary and foreign keys of the tables. -/
structure Integrity (ledger : PurchaseLedger) : Prop where
  supplierIds : (ledger.suppliers.map Supplier.id).Nodup
  invoiceIds : (ledger.purchaseInvoices.map PurchaseInvoice.id).Nodup
  invoiceSuppliers : ∀ invoice ∈ ledger.purchaseInvoices,
    invoice.supplierId ∈ ledger.suppliers.map Supplier.id
  transactionSuppliers : ∀ transaction ∈ ledger.purchaseTransactions,
    transaction.supplierId ∈ ledger.suppliers.map Supplier.id

variable (ledger : PurchaseLedger) (organisationId supplierId : ℕ)

def hasInvoice : Bool :=
  ledger.purchaseInvoices.any fun invoice => invoice.organisationId == organisationId &&
    invoice.supplierId == supplierId

def lineContributions : List Contribution :=
  ledger.purchaseInvoiceLines.filterMap fun line =>
    ((lookup PurchaseInvoice.id ledger.purchaseInvoices line.purchaseInvoiceId).filter fun invoice =>
      invoice.organisationId == organisationId && invoice.supplierId ==
        supplierId).map (Contribution.ofLine line)

def transactionContributions : List Contribution :=
  (ledger.purchaseTransactions.filter fun transaction =>
    transaction.organisationId == organisationId && transaction.supplierId ==
      supplierId).map Contribution.ofTransaction

def supplierContributions : List Contribution :=
  if ledger.hasInvoice organisationId supplierId then
    ledger.lineContributions organisationId supplierId
  else ledger.transactionContributions organisationId supplierId

def contributions : List Contribution :=
  ledger.suppliers.flatMap fun supplier => ledger.supplierContributions organisationId supplier.id

end PurchaseLedger

def supplierEntry (contribution : Contribution) : String × ℚ :=
  (toString contribution.supplierId, contribution.amount.value)

def skuEntry (contribution : Contribution) : String × ℚ :=
  (spendKey contribution.supplierSku contribution.description, contribution.amount.value)

def monthEntry (contribution : Contribution) : (ℕ × ℕ) × ℚ :=
  (monthOf contribution.date, contribution.amount.value)

def SpendItem.entry (item : SpendItem) : String × ℚ := (item.key, item.amount.value)

def MonthOverMonthPoint.entry (point : MonthOverMonthPoint) : (ℕ × ℕ) × ℚ :=
  (point.month, point.amount.value)

def totalOf {κ : Type} (entries : List (κ × ℚ)) : ℚ := (entries.map Prod.snd).sum

/-- Each view has every key once with the sum of its contributions, and the views have one total. -/
structure ViewsAgree (ledger : PurchaseLedger) (organisationId : ℕ) : Prop where
  bySupplier : Groups ((getSpendBySupplier ledger organisationId).map SpendItem.entry)
    ((ledger.contributions organisationId).map supplierEntry)
  bySku : Groups ((getSpendBySku ledger organisationId none).map SpendItem.entry)
    ((ledger.contributions organisationId).map skuEntry)
  bySkuOfSupplier : ∀ supplier ∈ ledger.suppliers,
    Groups ((getSpendBySku ledger organisationId (some supplier.id)).map SpendItem.entry)
      ((ledger.supplierContributions organisationId supplier.id).map skuEntry)
  byMonth : Groups ((getMonthOverMonthTrend ledger organisationId).map MonthOverMonthPoint.entry)
    ((ledger.contributions organisationId).map monthEntry)
  skuTotal : totalOf ((getSpendBySku ledger organisationId none).map SpendItem.entry) =
    totalOf ((getSpendBySupplier ledger organisationId).map SpendItem.entry)
  monthTotal :
    totalOf ((getMonthOverMonthTrend ledger organisationId).map MonthOverMonthPoint.entry) =
    totalOf ((getSpendBySupplier ledger organisationId).map SpendItem.entry)
  supplierSkuTotal : (ledger.suppliers.map fun supplier =>
      totalOf ((getSpendBySku ledger organisationId (some supplier.id)).map SpendItem.entry)).sum =
    totalOf ((getSpendBySupplier ledger organisationId).map SpendItem.entry)

section Views

variable {ledger : PurchaseLedger} {organisationId : ℕ}

/-- The rows that every view reads. -/
def readRows (ledger : PurchaseLedger) (organisationId : ℕ) : List Contribution :=
  (ledger.invoiceLines.filter fun (_, invoice) => invoice.organisationId == organisationId &&
    invoice.active).map
      (fun (line, invoice) => Contribution.ofLine line invoice) ++
    (ledger.purchaseTransactions.filter fun transaction => transaction.organisationId ==
      organisationId &&
      transaction.active &&
        decide (transaction.supplierId ∉ suppliersWithInvoiceData ledger organisationId)).map
        Contribution.ofTransaction

theorem value_roundCurrency_keySum {κ : Type} [DecidableEq κ] {entries : List (κ × ℚ)} {key : κ}
    (h : ∀ entry ∈ entries, ∃ amount : Money, amount.value = entry.2) :
    (Rebate.roundCurrency (keySum entries key)).value = keySum entries key := by
  refine FixedPoint.value_quantize_sum _ fun amount hAmount => ?_
  obtain ⟨entry, hEntry, rfl⟩ := List.mem_map.mp hAmount
  exact h entry (List.mem_filter.mp hEntry).1

def SpendTotal.entry (total : SpendTotal) : String × ℚ := (total.key, total.amount)

theorem map_entry_addSpend (totals : List SpendTotal) (row : SpendTotal) :
    (addSpend totals row).map SpendTotal.entry =
      addTotal (totals.map SpendTotal.entry) row.entry := by
  have hAny : (totals.map SpendTotal.entry).any (fun total => total.1 == row.entry.1) =
      totals.any fun total => total.key == row.key := by
    rw [List.any_map]
    rfl
  unfold addSpend addTotal
  rw [hAny]
  split
  · rw [List.map_map, List.map_map]
    refine List.map_congr_left fun total _ => ?_
    by_cases hKey : total.key = row.key
    · simp [SpendTotal.entry, hKey]
    · simp [SpendTotal.entry, hKey]
  · rw [List.map_append, List.map_singleton]

theorem foldl_addSpend (rows : List SpendTotal) :
    (rows.foldl addSpend []).map SpendTotal.entry = (rows.map SpendTotal.entry).foldl addTotal [] := by
  suffices h : ∀ totals, (rows.foldl addSpend totals).map SpendTotal.entry =
      (rows.map SpendTotal.entry).foldl addTotal (totals.map SpendTotal.entry) from h []
  induction rows with
  | nil => exact fun totals => rfl
  | cons row rows ih =>
    intro totals
    rw [List.foldl_cons, ih, map_entry_addSpend, List.map_cons, List.foldl_cons]

theorem groups_aggregateSpend {rows : List SpendTotal}
    (h : ∀ row ∈ rows, ∃ amount : Money, amount.value = row.amount) :
    Groups ((aggregateSpend rows).map SpendItem.entry) (rows.map SpendTotal.entry) := by
  have hFold := Groups.of_foldl (rows.map SpendTotal.entry)
  rw [← foldl_addSpend] at hFold
  have hItems : ((rows.foldl addSpend []).map fun total =>
      SpendItem.mk total.key total.label (Rebate.roundCurrency total.amount)).map SpendItem.entry =
        (rows.foldl addSpend []).map SpendTotal.entry := by
    rw [List.map_map]
    refine List.map_congr_left fun total hTotal => ?_
    have hAmount := hFold.amounts total.entry (List.mem_map_of_mem hTotal)
    have hValue :=
      @value_roundCurrency_keySum _ _ (rows.map SpendTotal.entry) total.key fun entry hEntry => by
        obtain ⟨row, hRow, rfl⟩ := List.mem_map.mp hEntry
        exact h row hRow
    rw [Function.comp_apply, SpendItem.entry, SpendTotal.entry]
    dsimp only [SpendTotal.entry] at hAmount
    rw [hAmount, hValue]
  refine hFold.perm ?_ (List.Perm.refl _)
  rw [← hItems]
  exact (List.perm_insertionSort _ _).symm.map SpendItem.entry

theorem exists_value (contribution : Contribution) :
    ∃ amount : Money, amount.value = contribution.amount.value :=
  ⟨contribution.amount, rfl⟩

theorem monthEntry_monthPoints (prior : Option ℚ) (totals : List ((ℕ × ℕ) × ℚ)) :
    (monthPoints prior totals).map MonthOverMonthPoint.entry =
      totals.map fun total => (total.1, (Rebate.roundCurrency total.2).value) := by
  induction totals generalizing prior with
  | nil => rfl
  | cons total totals ih =>
    rw [monthPoints, List.map_cons, List.map_cons, ih]
    rfl

def skuTotal (contribution : Contribution) : SpendTotal :=
  ⟨spendKey contribution.supplierSku contribution.description,
    spendLabel contribution.supplierSku contribution.description, contribution.amount.value⟩

theorem getSpendBySku_eq (supplierId : Option ℕ) :
    getSpendBySku ledger organisationId supplierId = aggregateSpend
    (((readRows ledger organisationId).filter fun contribution =>
      supplierId.all (contribution.supplierId == ·)).map
      skuTotal) := by
  rw [readRows, List.filter_append, List.map_append, List.filter_map, List.filter_map,
    List.filter_filter, List.filter_filter, List.map_map, List.map_map]
  refine congrArg aggregateSpend (congrArg₂ _ ?_ ?_)
  · refine congrArg₂ List.map rfl (List.filter_congr fun pair _ => ?_)
    exact Bool.and_comm _ _
  · refine congrArg₂ List.map rfl (List.filter_congr fun transaction _ => ?_)
    simp only [Function.comp_apply, Contribution.ofTransaction]
    ac_rfl

theorem addMonth_eq : addMonth = addTotal := by
  funext totals row
  simp only [addMonth, addTotal, beq_eq_decide]

theorem getMonthOverMonthTrend_perm :
    ((getMonthOverMonthTrend ledger organisationId).map MonthOverMonthPoint.entry).Perm
    ((((readRows ledger organisationId).map monthEntry).foldl addTotal []).map
      fun total => (total.1, (Rebate.roundCurrency total.2).value)) := by
  rw [getMonthOverMonthTrend, calculateMonthOverMonthTrend, monthEntry_monthPoints, readRows,
    List.map_append, List.map_map, List.map_map]
  apply List.Perm.map
  apply List.Perm.trans
  · apply List.perm_insertionSort
  · rw [addMonth_eq]
    exact List.Perm.of_eq rfl

theorem groups_month :
    Groups ((getMonthOverMonthTrend ledger organisationId).map MonthOverMonthPoint.entry)
    ((readRows ledger organisationId).map monthEntry) := by
  have hFold := Groups.of_foldl ((readRows ledger organisationId).map monthEntry)
  refine hFold.perm (List.Perm.trans ?_ getMonthOverMonthTrend_perm.symm) (List.Perm.refl _)
  refine List.Perm.of_eq (Eq.trans (List.map_id _).symm (List.map_congr_left fun total hTotal => ?_))
  have hAmount := hFold.amounts total hTotal
  have hValue := @value_roundCurrency_keySum _ _ ((readRows ledger organisationId).map monthEntry)
      total.1 fun entry hEntry => by
    obtain ⟨row, hRow, rfl⟩ := List.mem_map.mp hEntry
    exact exists_value row
  rw [hAmount, hValue, ← hAmount]
  rfl

theorem groups_sku (supplierId : Option ℕ) :
    Groups ((getSpendBySku ledger organisationId supplierId).map SpendItem.entry)
      (((readRows ledger organisationId).filter fun contribution =>
        supplierId.all (contribution.supplierId == ·)).map
        skuEntry) := by
  rw [getSpendBySku_eq]
  have hGroups :=
    @groups_aggregateSpend (((readRows ledger organisationId).filter fun contribution =>
      supplierId.all (contribution.supplierId == ·)).map skuTotal) fun row hRow => by
        obtain ⟨contribution, -, rfl⟩ := List.mem_map.mp hRow
        exact exists_value contribution
  rwa [List.map_map] at hGroups

section Joins

theorem invoiceLines_eq (hKeys : ledger.Integrity) :
    ledger.invoiceLines = ledger.purchaseInvoiceLines.flatMap fun line =>
      (lookup PurchaseInvoice.id ledger.purchaseInvoices line.purchaseInvoiceId).toList.map
        fun invoice => (line, invoice) := by
  refine List.flatMap_congr fun line _ => ?_
  rw [filter_key hKeys.invoiceIds]

theorem withSupplier_eq (hKeys : ledger.Integrity) {supplierId : ℕ}
    (hSupplier : supplierId ∈ ledger.suppliers.map Supplier.id) :
    ∃ supplier, supplier.id = supplierId ∧ ledger.withSupplier supplierId = [supplier] := by
  obtain ⟨supplier, hFound⟩ := Option.isSome_iff_exists.mp (lookup_isSome.mpr hSupplier)
  refine ⟨supplier, key_of_lookup hFound, ?_⟩
  rw [PurchaseLedger.withSupplier, filter_key hKeys.supplierIds, hFound]
  rfl

theorem mem_suppliers_of_invoiceLines (hKeys : ledger.Integrity)
    {pair : PurchaseInvoiceLine × PurchaseInvoice} (h : pair ∈ ledger.invoiceLines) :
    pair.2.supplierId ∈ ledger.suppliers.map Supplier.id := by
  obtain ⟨line, -, hPair⟩ := List.mem_flatMap.mp h
  obtain ⟨invoice, hInvoice, rfl⟩ := List.mem_map.mp hPair
  exact hKeys.invoiceSuppliers invoice (List.mem_filter.mp hInvoice).1

theorem mem_suppliers_of_readRows (hKeys : ledger.Integrity) {contribution : Contribution}
    (h : contribution ∈ readRows ledger organisationId) :
    contribution.supplierId ∈ ledger.suppliers.map Supplier.id := by
  obtain hLine | hTransaction := List.mem_append.mp h
  · obtain ⟨pair, hPair, rfl⟩ := List.mem_map.mp hLine
    exact mem_suppliers_of_invoiceLines hKeys (List.mem_filter.mp hPair).1
  · obtain ⟨transaction, hRow, rfl⟩ := List.mem_map.mp hTransaction
    exact hKeys.transactionSuppliers transaction (List.mem_filter.mp hRow).1

def supplierTotal (ledger : PurchaseLedger) (contribution : Contribution) : List SpendTotal :=
  (ledger.withSupplier contribution.supplierId).map fun supplier =>
    ⟨toString supplier.id, supplier.legalName, contribution.amount.value⟩

theorem flatMap_ite {α β : Type} (p : α → Bool) (f : α → List β) (xs : List α) :
    (xs.flatMap fun x => if p x then f x else []) = (xs.filter p).flatMap f := by
  induction xs with
  | nil => rfl
  | cons x xs ih =>
    cases hx : p x with
    | false => simp [hx, ih]
    | true => simp [hx, ih]

theorem getSpendBySupplier_eq : getSpendBySupplier ledger organisationId =
    aggregateSpend ((readRows ledger organisationId).flatMap (supplierTotal ledger)) := by
  rw [readRows, List.flatMap_append, List.flatMap_map, List.flatMap_map]
  refine congrArg aggregateSpend (congrArg₂ _ rfl ?_)
  have hRows : (ledger.purchaseTransactions.filter fun transaction => transaction.organisationId ==
    organisationId &&
      transaction.active &&
        decide (transaction.supplierId ∉ suppliersWithInvoiceData ledger organisationId)) =
        (ledger.purchaseTransactions.filter fun transaction => transaction.organisationId ==
          organisationId &&
          transaction.active).filter fun transaction =>
            decide (transaction.supplierId ∉ suppliersWithInvoiceData ledger organisationId) := by
    rw [List.filter_filter]
    exact List.filter_congr fun transaction _ => Bool.and_comm _ _
  rw [hRows, ← flatMap_ite fun transaction : PurchaseTransaction =>
    decide (transaction.supplierId ∉ suppliersWithInvoiceData ledger organisationId)]
  refine List.flatMap_congr fun transaction _ => ?_
  have hSame : ∀ supplier ∈ ledger.withSupplier transaction.supplierId,
      supplier.id = transaction.supplierId :=
    fun supplier hSupplier => beq_iff_eq.mp (List.mem_filter.mp hSupplier).2
  by_cases hInvoiced : transaction.supplierId ∈ suppliersWithInvoiceData ledger organisationId
  · rw [List.filter_eq_nil_iff.mpr, if_neg (by simpa using hInvoiced)]
    · rfl
    · intro supplier hSupplier
      rw [hSame supplier hSupplier]
      simpa using hInvoiced
  · rw [List.filter_eq_self.mpr, if_pos (decide_eq_true hInvoiced)]
    · rfl
    · intro supplier hSupplier
      rw [hSame supplier hSupplier]
      exact decide_eq_true hInvoiced

theorem map_entry_supplierTotal (hKeys : ledger.Integrity) {rows : List Contribution}
    (hRows : ∀ contribution ∈ rows, contribution.supplierId ∈ ledger.suppliers.map Supplier.id) :
    (rows.flatMap (supplierTotal ledger)).map SpendTotal.entry = rows.map supplierEntry := by
  induction rows with
  | nil => rfl
  | cons contribution rows ih =>
    obtain ⟨supplier, hId, hSupplier⟩ :=
      withSupplier_eq hKeys (hRows contribution List.mem_cons_self)
    rw [List.flatMap_cons, List.map_append, ih fun row hRow =>
      hRows row (List.mem_cons_of_mem _ hRow), supplierTotal, hSupplier]
    simp [SpendTotal.entry, supplierEntry, hId]

theorem groups_supplier (hKeys : ledger.Integrity) :
    Groups ((getSpendBySupplier ledger organisationId).map SpendItem.entry)
      ((readRows ledger organisationId).map supplierEntry) := by
  rw [getSpendBySupplier_eq, ← map_entry_supplierTotal hKeys fun _ =>
    mem_suppliers_of_readRows hKeys]
  refine groups_aggregateSpend fun row hRow => ?_
  obtain ⟨contribution, -, hTotal⟩ := List.mem_flatMap.mp hRow
  obtain ⟨supplier, -, rfl⟩ := List.mem_map.mp hTotal
  exact exists_value contribution

end Joins

section Contributions

variable {supplierId : ℕ}

theorem active_invoice (hNone : ledger.NoCorrections) {invoice : PurchaseInvoice}
    (h : invoice ∈ ledger.purchaseInvoices) : invoice.active = true := by
  rw [PurchaseInvoice.active, hNone.purchaseInvoices invoice h]
  rfl

theorem active_transaction (hNone : ledger.NoCorrections) {transaction : PurchaseTransaction}
    (h : transaction ∈ ledger.purchaseTransactions) : transaction.active = true := by
  rw [PurchaseTransaction.active, hNone.purchaseTransactions transaction h]
  rfl

theorem hasInvoice_iff (hNone : ledger.NoCorrections) :
    ledger.hasInvoice organisationId supplierId = true ↔
      supplierId ∈ suppliersWithInvoiceData ledger organisationId := by
  rw [PurchaseLedger.hasInvoice, List.any_eq_true, suppliersWithInvoiceData, List.mem_dedup,
    List.mem_map]
  constructor
  · rintro ⟨invoice, hInvoice, hOwn⟩
    obtain ⟨hOrganisation, hSupplier⟩ := (Bool.and_eq_true_iff ..).mp hOwn
    refine ⟨invoice, List.mem_filter.mpr ⟨hInvoice, ?_⟩, beq_iff_eq.mp hSupplier⟩
    rw [hOrganisation, active_invoice hNone hInvoice]
    rfl
  · rintro ⟨invoice, hInvoice, rfl⟩
    obtain ⟨hMem, hOwn⟩ := List.mem_filter.mp hInvoice
    refine ⟨invoice, hMem, ?_⟩
    rw [((Bool.and_eq_true_iff ..).mp hOwn).1, beq_self_eq_true]
    rfl

theorem filter_lines (hKeys : ledger.Integrity) (hNone : ledger.NoCorrections) :
    ((ledger.invoiceLines.filter fun (_, invoice) => invoice.organisationId == organisationId &&
      invoice.active).filter
      fun (_, invoice) => invoice.supplierId == supplierId).map (fun (line, invoice) =>
        Contribution.ofLine line invoice) = ledger.lineContributions organisationId supplierId := by
  rw [invoiceLines_eq hKeys, PurchaseLedger.lineContributions, List.filterMap_eq_flatMap_toList,
    List.filter_filter, List.filter_flatMap, List.map_flatMap]
  refine List.flatMap_congr fun line _ => ?_
  cases hInvoice : lookup PurchaseInvoice.id ledger.purchaseInvoices line.purchaseInvoiceId with
  | none => rfl
  | some invoice =>
    have hActive := active_invoice hNone (mem_of_lookup hInvoice)
    cases hOwn : invoice.organisationId == organisationId && invoice.supplierId == supplierId with
    | true => simp_all [Option.filter]
    | false =>
      have hNot : (invoice.supplierId == supplierId &&
          (invoice.organisationId == organisationId && invoice.active)) = false := by
        rw [hActive, Bool.and_true, Bool.and_comm]
        exact hOwn
      simp [Option.filter, hNot, hOwn]

theorem filter_transactions (hNone : ledger.NoCorrections) :
    ((ledger.purchaseTransactions.filter fun transaction => transaction.organisationId ==
      organisationId &&
      transaction.active &&
        decide (transaction.supplierId ∉ suppliersWithInvoiceData ledger organisationId)).filter
        fun transaction => transaction.supplierId == supplierId).map Contribution.ofTransaction =
          if ledger.hasInvoice organisationId supplierId then []
          else ledger.transactionContributions organisationId supplierId := by
  rw [PurchaseLedger.transactionContributions, List.filter_filter]
  split
  · rename_i hInvoiced
    rw [List.filter_eq_nil_iff.mpr, List.map_nil]
    intro transaction hTransaction hRead
    obtain ⟨hSupplier, hRest⟩ := (Bool.and_eq_true_iff ..).mp hRead
    refine of_decide_eq_true ((Bool.and_eq_true_iff ..).mp hRest).2 ?_
    rw [beq_iff_eq.mp hSupplier]
    exact (hasInvoice_iff hNone).mp hInvoiced
  · rename_i hPlain
    refine congrArg₂ List.map rfl (List.filter_congr fun transaction hTransaction => ?_)
    rw [active_transaction hNone hTransaction, Bool.and_true]
    cases hSupplier : transaction.supplierId == supplierId with
    | false => rw [Bool.false_and, Bool.and_false]
    | true =>
      rw [beq_iff_eq.mp hSupplier, decide_eq_true (mt (hasInvoice_iff hNone).mpr hPlain),
        Bool.and_true, Bool.true_and]

theorem lineContributions_eq_nil (h : ¬ledger.hasInvoice organisationId supplierId = true) :
    ledger.lineContributions organisationId supplierId = [] := by
  rw [PurchaseLedger.lineContributions, List.filterMap_eq_nil_iff]
  intro line _
  rw [Option.map_eq_none_iff, Option.filter_eq_none_iff]
  intro invoice hInvoice hOwn
  exact h (List.any_eq_true.mpr ⟨invoice, mem_of_lookup hInvoice, hOwn⟩)

/-- Of the rows that are read those of a supplier are its contributions. -/
theorem filter_readRows (hKeys : ledger.Integrity) (hNone : ledger.NoCorrections) :
    (readRows ledger organisationId).filter (fun contribution => contribution.supplierId == supplierId) =
      ledger.supplierContributions organisationId supplierId := by
  have hLines := @filter_lines ledger organisationId supplierId hKeys hNone
  have hTransactions := @filter_transactions ledger organisationId supplierId hNone
  rw [readRows, List.filter_append, List.filter_map, List.filter_map,
    PurchaseLedger.supplierContributions]
  refine (congrArg₂ _ hLines hTransactions).trans ?_
  split
  · exact List.append_nil _
  · rename_i hPlain
    rw [lineContributions_eq_nil hPlain, List.nil_append]

theorem contributions_perm (hKeys : ledger.Integrity) (hNone : ledger.NoCorrections) :
    (readRows ledger organisationId).Perm (ledger.contributions organisationId) := by
  have hCovers : ∀ contribution ∈ readRows ledger organisationId,
      contribution.supplierId ∈ ledger.suppliers.map Supplier.id :=
    fun _ => mem_suppliers_of_readRows hKeys
  have hRows := flatMap_filter_perm Contribution.supplierId hKeys.supplierIds hCovers
  rw [List.flatMap_map] at hRows
  refine hRows.symm.trans (List.Perm.of_eq (List.flatMap_congr fun supplier _ => ?_))
  rw [← filter_readRows hKeys hNone]
  rfl

theorem groups_sku_contributions (hKeys : ledger.Integrity) (hNone : ledger.NoCorrections) :
    Groups ((getSpendBySku ledger organisationId none).map SpendItem.entry)
      ((ledger.contributions organisationId).map skuEntry) := by
  refine (groups_sku none).perm (List.Perm.refl _) (List.Perm.map _ ?_)
  have hAll := @List.filter_eq_self _ (fun contribution : Contribution =>
    (none : Option ℕ).all (contribution.supplierId == ·)) (readRows ledger organisationId)
  rw [hAll.mpr fun _ _ => rfl]
  exact contributions_perm hKeys hNone

theorem groups_sku_supplier (hKeys : ledger.Integrity) (hNone : ledger.NoCorrections) :
    Groups ((getSpendBySku ledger organisationId (some supplierId)).map SpendItem.entry)
      ((ledger.supplierContributions organisationId supplierId).map skuEntry) := by
  rw [← filter_readRows hKeys hNone]
  exact groups_sku (some supplierId)

/-- A view adds up to its contributions, whatever it groups them by. -/
theorem totalOf_eq {κ : Type} [DecidableEq κ] {totals : List (κ × ℚ)} {rows : List Contribution}
    {entry : Contribution → κ × ℚ} (h : Groups totals (rows.map entry))
    (hEntry : ∀ row, (entry row).2 = row.amount.value) :
    totalOf totals = (rows.map fun row => row.amount.value).sum := by
  rw [totalOf, h.sum_eq, List.map_map]
  exact congrArg List.sum (List.map_congr_left fun row _ => hEntry row)

end Contributions

theorem views_agree (hKeys : ledger.Integrity) (hNone : ledger.NoCorrections) (organisationId : ℕ) :
    ViewsAgree ledger organisationId := by
  have hRows := @contributions_perm ledger organisationId hKeys hNone
  have bySupplier :=
    (@groups_supplier ledger organisationId hKeys).perm (List.Perm.refl _) (hRows.map _)
  have bySku := @groups_sku_contributions ledger organisationId hKeys hNone
  have byMonth := (@groups_month ledger organisationId).perm (List.Perm.refl _) (hRows.map _)
  have hTotal := totalOf_eq bySupplier fun _ => rfl
  refine ⟨bySupplier, bySku, fun supplier _ => groups_sku_supplier hKeys hNone, byMonth, ?_, ?_, ?_⟩
  · exact (totalOf_eq bySku fun _ => rfl).trans hTotal.symm
  · exact (totalOf_eq byMonth fun _ => rfl).trans hTotal.symm
  · rw [hTotal, PurchaseLedger.contributions, List.map_flatMap, List.flatMap_def, List.sum_flatten,
      List.map_map]
    refine congrArg List.sum (List.map_congr_left fun supplier _ => ?_)
    exact totalOf_eq (groups_sku_supplier hKeys hNone) fun _ => rfl

end Views

/-- The first supplier is billed and paid for the same goods, the second only paid. -/
def billedAndPaid : PurchaseLedger where
  suppliers := [⟨1, "Foods"⟩, ⟨2, "Papers"⟩]
  purchaseInvoices := [⟨1, 1, 1, ⟨2026, 5, 4, by decide⟩, none⟩]
  purchaseInvoiceLines :=
    [⟨1, 1, none, some "B", ⟨10000⟩, ⟨700000⟩⟩, ⟨2, 1, none, none, ⟨10000⟩, ⟨-200000⟩⟩]
  purchaseTransactions :=
    [⟨1, 1, 1, some "B", none, ⟨2026, 5, 5, by decide⟩, ⟨700000⟩, none, none, none⟩,
      ⟨2, 1, 2, some "B", none, ⟨2026, 6, 5, by decide⟩, ⟨300000⟩, none, none, none⟩]

theorem billedAndPaid_integrity : billedAndPaid.Integrity where
  supplierIds := by decide
  invoiceIds := by decide
  invoiceSuppliers := by decide
  transactionSuppliers := by decide

theorem billedAndPaid_noCorrections : billedAndPaid.NoCorrections where
  purchaseInvoices := by decide
  purchaseTransactions := by decide

theorem billedAndPaid_views_agree : ViewsAgree billedAndPaid 1 ∧
    (billedAndPaid.contributions 1).map (fun row => row.amount.units) = [700000, -200000, 300000] :=
  ⟨views_agree billedAndPaid_integrity billedAndPaid_noCorrections 1, by decide +kernel⟩

end ProcureFoundation.Ledger
