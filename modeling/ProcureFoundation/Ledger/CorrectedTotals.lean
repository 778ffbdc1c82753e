import ProcureFoundation.Foundation.Corrections
import ProcureFoundation.Ledger.Purchases

/-!
# Totals over corrected ledgers

The reference is the ledger of the rows that nothing supersedes, entered as if they were
originals. The queries keep the first row of a correction chain instead of the last, so
they agree with the reference exactly on the ledgers without corrections.
-/

namespace ProcureFoundation.Ledger

open Corrections

namespace PurchaseLedger

/-- Corrections point at an earlier row of the same supplier. -/
structure WellFormed (ledger : PurchaseLedger) : Prop where
  purchaseInvoices : AppendOnly PurchaseInvoice.id PurchaseInvoice.correctsId
    (fun old new => old.supplierId = new.supplierId) ledger.purchaseInvoices
  purchaseTransactions : AppendOnly PurchaseTransaction.id PurchaseTransaction.correctsId
    (fun old new => old.supplierId = new.supplierId) ledger.purchaseTransactions

def invoiceSuperseded (ledger : PurchaseLedger) (invoice : PurchaseInvoice) : Bool :=
  superseded PurchaseInvoice.id PurchaseInvoice.correctsId ledger.purchaseInvoices invoice

def transactionSuperseded (ledger : PurchaseLedger) (transaction : PurchaseTransaction) : Bool :=
  superseded PurchaseTransaction.id PurchaseTransaction.correctsId ledger.purchaseTransactions transaction

def live (ledger : PurchaseLedger) : PurchaseLedger :=
  { ledger with
    purchaseInvoices :=
      (ledger.purchaseInvoices.filter fun invoice => !ledger.invoiceSuperseded invoice).map
        fun invoice => { invoice with correctsId := none }
    purchaseTransactions := (ledger.purchaseTransactions.filter fun transaction =>
      !ledger.transactionSuperseded transaction).map fun transaction =>
        { transaction with correctsId := none } }

structure NoCorrections (ledger : PurchaseLedger) : Prop where
  purchaseInvoices : ∀ invoice ∈ ledger.purchaseInvoices, invoice.correctsId = none
  purchaseTransactions : ∀ transaction ∈ ledger.purchaseTransactions, transaction.correctsId = none

/-- A row is read exactly when nothing supersedes it, and so every total is that of the
live rows. -/
structure CountsOnce (ledger : PurchaseLedger) : Prop where
  purchaseInvoices : ∀ invoice ∈ ledger.purchaseInvoices,
    invoice.active = !ledger.invoiceSuperseded invoice
  purchaseTransactions : ∀ transaction ∈ ledger.purchaseTransactions,
    transaction.active = !ledger.transactionSuperseded transaction
  invoiceTuples : ∀ supplierId periodStart periodEnd,
    invoiceTuples ledger supplierId periodStart periodEnd =
      Ledger.invoiceTuples ledger.live supplierId periodStart periodEnd
  transactionTuples : ∀ supplierId periodStart periodEnd,
    transactionTuples ledger supplierId periodStart periodEnd =
      Ledger.transactionTuples ledger.live supplierId periodStart periodEnd
  spendBySupplier : ∀ organisationId,
    getSpendBySupplier ledger organisationId = getSpendBySupplier ledger.live organisationId
  spendBySku : ∀ organisationId supplierId,
    getSpendBySku ledger organisationId supplierId =
      getSpendBySku ledger.live organisationId supplierId
  monthOverMonthTrend : ∀ organisationId,
    getMonthOverMonthTrend ledger organisationId = getMonthOverMonthTrend ledger.live organisationId

variable {ledger : PurchaseLedger}

theorem NoCorrections.live_eq (h : ledger.NoCorrections) : ledger.live = ledger := by
  have hInvoices : ledger.live.purchaseInvoices = ledger.purchaseInvoices := calc
    _ = (Corrections.live PurchaseInvoice.id PurchaseInvoice.correctsId ledger.purchaseInvoices).map
        fun invoice => { invoice with correctsId := none } := rfl
    _ = ledger.purchaseInvoices.map fun invoice => { invoice with correctsId := none } := by
      rw [Corrections.live_eq_self h.purchaseInvoices]
    _ = ledger.purchaseInvoices.map id :=
      List.map_congr_left fun invoice hInvoice => by
        simp only [id, ← h.purchaseInvoices invoice hInvoice]
    _ = ledger.purchaseInvoices := List.map_id _
  have hTransactions : ledger.live.purchaseTransactions = ledger.purchaseTransactions := calc
    _ = (Corrections.live PurchaseTransaction.id PurchaseTransaction.correctsId
        ledger.purchaseTransactions).map fun transaction =>
          { transaction with correctsId := none } := rfl
    _ = ledger.purchaseTransactions.map fun transaction =>
      { transaction with correctsId := none } := by
      rw [Corrections.live_eq_self h.purchaseTransactions]
    _ = ledger.purchaseTransactions.map id :=
      List.map_congr_left fun transaction hTransaction => by
        simp only [id, ← h.purchaseTransactions transaction hTransaction]
    _ = ledger.purchaseTransactions := List.map_id _
  calc
    ledger.live = { ledger with
        purchaseInvoices := ledger.live.purchaseInvoices
        purchaseTransactions := ledger.live.purchaseTransactions } := rfl
    _ = ledger := by rw [hInvoices, hTransactions]

/-- The queries count a corrected purchase once exactly when nothing has been corrected. -/
theorem countsOnce_iff_noCorrections (hLedger : ledger.WellFormed) :
    ledger.CountsOnce ↔ ledger.NoCorrections := by
  constructor
  · intro h
    exact ⟨(originals_are_live_iff hLedger.purchaseInvoices).mp h.purchaseInvoices,
      (originals_are_live_iff hLedger.purchaseTransactions).mp h.purchaseTransactions⟩
  · intro h
    have hLive := h.live_eq
    constructor
    · exact (originals_are_live_iff hLedger.purchaseInvoices).mpr h.purchaseInvoices
    · exact (originals_are_live_iff hLedger.purchaseTransactions).mpr h.purchaseTransactions
    all_goals simp only [hLive, implies_true]

def rebilled : PurchaseLedger where
  suppliers := [⟨1, "Supplier"⟩, ⟨2, "Other supplier"⟩]
  purchaseInvoices :=
    [⟨1, 1, 1, ⟨2026, 1, 10, by decide⟩, none⟩, ⟨2, 1, 1, ⟨2026, 1, 10, by decide⟩, some 1⟩]
  purchaseInvoiceLines :=
    [⟨1, 1, some "A", none, ⟨10000⟩, ⟨1000000⟩⟩, ⟨2, 2, some "A", none, ⟨10000⟩, ⟨600000⟩⟩]
  purchaseTransactions :=
    [⟨1, 1, 2, some "B", none, ⟨2026, 1, 12, by decide⟩, ⟨500000⟩, none, none, none⟩,
      ⟨2, 1, 2, some "B", none, ⟨2026, 1, 12, by decide⟩, ⟨200000⟩, none, none, some 1⟩]

theorem rebilled_wellFormed : rebilled.WellFormed := by
  constructor
  · refine ⟨by decide, ?_⟩
    intro row hRow target hTarget
    simp only [rebilled, List.mem_cons, List.not_mem_nil, or_false] at hRow
    obtain rfl | rfl := hRow
    · cases hTarget
    · cases hTarget
      exact ⟨_, List.mem_cons_self, rfl, by decide, rfl⟩
  · refine ⟨by decide, ?_⟩
    intro row hRow target hTarget
    simp only [rebilled, List.mem_cons, List.not_mem_nil, or_false] at hRow
    obtain rfl | rfl := hRow
    · cases hTarget
    · cases hTarget
      exact ⟨_, List.mem_cons_self, rfl, by decide, rfl⟩

theorem rebilled_not_countsOnce : ¬rebilled.CountsOnce := by
  intro h
  have hNone := (countsOnce_iff_noCorrections rebilled_wellFormed).mp h
  have hLast := hNone.purchaseInvoices _ (List.mem_cons_of_mem _ List.mem_cons_self)
  cases hLast

/-- The corrected 100 is summed, and the 60 that replaces it is not. -/
theorem totals_keep_corrected_row :
    ¬∀ ledger : PurchaseLedger, ledger.WellFormed → ∀ supplierId periodStart periodEnd,
      ((invoiceTuples ledger supplierId periodStart periodEnd).map fun row => row.1).sum =
        ((invoiceTuples ledger.live supplierId periodStart periodEnd).map fun row =>
          row.1).sum := by
  intro h
  have hSums := h rebilled rebilled_wellFormed 1 ⟨2026, 1, 1, by decide⟩ ⟨2026, 3, 31, by decide⟩
  revert hSums
  decide +kernel

end PurchaseLedger

end ProcureFoundation.Ledger
