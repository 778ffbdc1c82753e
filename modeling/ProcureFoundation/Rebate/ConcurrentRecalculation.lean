import Mathlib.Data.List.Forall2
import ProcureFoundation.Foundation.StampedCopies
import ProcureFoundation.Rebate.PeriodConcurrency

/-!
# Concurrent uploads into one open period

The spend is summed over rows that are read before the lock is taken, and the past that
the event records comes from a row that may be old by then. Every recalculation stamps
the period with its own time, so an old past names an old stamp and the chain trigger
refuses it; a transaction that commits has therefore read the latest rows.
-/

namespace ProcureFoundation.Rebate

open Evidence KeyedRows Ledger

inductive LedgerKind where
  | invoices
  | transactions

/-- Uploaded rows of one kind: the supplier's lie inside the period, and none corrects another. -/
structure OneKind (ledger : PurchaseLedger) (kind : LedgerKind) (supplierId : ℕ)
    (period : RebatePeriodActual) : Prop where
  noCorrections : ledger.NoCorrections
  invoices : ∀ invoice ∈ ledger.purchaseInvoices, invoice.supplierId = supplierId →
    kind = .invoices ∧ period.periodStart ≤ invoice.invoiceDate ∧
      invoice.invoiceDate ≤ period.periodEnd
  transactions : ∀ transaction ∈ ledger.purchaseTransactions, transaction.supplierId = supplierId →
    kind = .transactions ∧ period.periodStart ≤ transaction.transactionDate ∧
      transaction.transactionDate ≤ period.periodEnd

def supplierRows (ledger : PurchaseLedger) (supplierId : ℕ) : List (ℚ × ℚ × Date) :=
  supplierInvoiceLines ledger supplierId ++ supplierTransactions ledger supplierId

def totalSpend (ledger : PurchaseLedger) (supplierId : ℕ) : ℚ :=
  ((supplierRows ledger supplierId).map fun row => row.1).sum

section Ledgers

variable {ledger batch : PurchaseLedger} {kind : LedgerKind} {supplierId : ℕ}
  {period row : RebatePeriodActual}

theorem supplierInvoiceLines_append_subset (ledger batch : PurchaseLedger) (supplierId : ℕ) :
    supplierInvoiceLines ledger supplierId ⊆ supplierInvoiceLines (ledger.append batch) supplierId ∧
      supplierInvoiceLines batch supplierId ⊆ supplierInvoiceLines (ledger.append batch) supplierId := by
  have hJoin : ledger.invoiceLines ⊆ (ledger.append batch).invoiceLines ∧
      batch.invoiceLines ⊆ (ledger.append batch).invoiceLines := by
    constructor
    · intro row hRow
      obtain ⟨line, hLine, hInvoices⟩ := List.mem_flatMap.mp hRow
      refine List.mem_flatMap.mpr ⟨line, List.mem_append_left _ hLine, ?_⟩
      obtain ⟨invoice, hInvoice, rfl⟩ := List.mem_map.mp hInvoices
      obtain ⟨hMem, hId⟩ := List.mem_filter.mp hInvoice
      exact List.mem_map_of_mem (List.mem_filter.mpr ⟨List.mem_append_left _ hMem, hId⟩)
    · intro row hRow
      obtain ⟨line, hLine, hInvoices⟩ := List.mem_flatMap.mp hRow
      refine List.mem_flatMap.mpr ⟨line, List.mem_append_right _ hLine, ?_⟩
      obtain ⟨invoice, hInvoice, rfl⟩ := List.mem_map.mp hInvoices
      obtain ⟨hMem, hId⟩ := List.mem_filter.mp hInvoice
      exact List.mem_map_of_mem (List.mem_filter.mpr ⟨List.mem_append_right _ hMem, hId⟩)
  exact ⟨List.map_subset _ (List.filter_subset _ hJoin.1),
    List.map_subset _ (List.filter_subset _ hJoin.2)⟩

theorem supplierTransactions_append (ledger batch : PurchaseLedger) (supplierId : ℕ) :
    supplierTransactions (ledger.append batch) supplierId =
      supplierTransactions ledger supplierId ++ supplierTransactions batch supplierId := by
  simp only [supplierTransactions, PurchaseLedger.append, List.filter_append, List.map_append]

theorem noCorrections_append (h : ledger.NoCorrections) (hBatch : batch.NoCorrections) :
    (ledger.append batch).NoCorrections where
  purchaseInvoices invoice hInvoice := by
    obtain hOld | hNew := List.mem_append.mp hInvoice
    · exact h.purchaseInvoices invoice hOld
    · exact hBatch.purchaseInvoices invoice hNew
  purchaseTransactions transaction hTransaction := by
    obtain hOld | hNew := List.mem_append.mp hTransaction
    · exact h.purchaseTransactions transaction hOld
    · exact hBatch.purchaseTransactions transaction hNew

theorem OneKind.append (h : OneKind ledger kind supplierId period)
    (hBatch : OneKind batch kind supplierId period) :
    OneKind (ledger.append batch) kind supplierId period where
  noCorrections := noCorrections_append h.noCorrections hBatch.noCorrections
  invoices invoice hInvoice := by
    obtain hOld | hNew := List.mem_append.mp hInvoice
    · exact h.invoices invoice hOld
    · exact hBatch.invoices invoice hNew
  transactions transaction hTransaction := by
    obtain hOld | hNew := List.mem_append.mp hTransaction
    · exact h.transactions transaction hOld
    · exact hBatch.transactions transaction hNew

theorem invoice_of_mem_supplierInvoiceLines {line : ℚ × ℚ × Date}
    (h : line ∈ supplierInvoiceLines ledger supplierId) :
    ∃ invoice ∈ ledger.purchaseInvoices, invoice.supplierId = supplierId ∧
      invoice.invoiceDate = line.2.2 := by
  obtain ⟨⟨line, invoice⟩, hRow, rfl⟩ := List.mem_map.mp h
  obtain ⟨hJoin, hSupplier⟩ := List.mem_filter.mp hRow
  obtain ⟨line', -, hIn⟩ := List.mem_flatMap.mp hJoin
  obtain ⟨invoice', hInvoice, hEq⟩ := List.mem_map.mp hIn
  cases hEq
  exact ⟨invoice, (List.mem_filter.mp hInvoice).1, beq_iff_eq.mp hSupplier, rfl⟩

theorem transaction_of_mem_supplierTransactions {line : ℚ × ℚ × Date}
    (h : line ∈ supplierTransactions ledger supplierId) :
    ∃ transaction ∈ ledger.purchaseTransactions, transaction.supplierId = supplierId ∧
      transaction.transactionDate = line.2.2 := by
  obtain ⟨transaction, hRow, rfl⟩ := List.mem_map.mp h
  obtain ⟨hMem, hSupplier⟩ := List.mem_filter.mp hRow
  exact ⟨transaction, hMem, beq_iff_eq.mp hSupplier, rfl⟩

theorem OneKind.invoices_or_transactions (h : OneKind ledger kind supplierId period) :
    supplierInvoiceLines ledger supplierId = [] ∨ supplierTransactions ledger supplierId = [] := by
  by_contra hBoth
  rw [not_or] at hBoth
  obtain ⟨line, hLine⟩ := List.exists_mem_of_ne_nil _ hBoth.1
  obtain ⟨other, hOther⟩ := List.exists_mem_of_ne_nil _ hBoth.2
  obtain ⟨invoice, hInvoice, hSupplier, -⟩ := invoice_of_mem_supplierInvoiceLines hLine
  obtain ⟨transaction, hTransaction, hSupplier', -⟩ :=
    transaction_of_mem_supplierTransactions hOther
  cases (h.invoices invoice hInvoice hSupplier).1.symm.trans
    (h.transactions transaction hTransaction hSupplier').1

theorem OneKind.rowsInside_eq (h : OneKind ledger kind supplierId period)
    (hRow : identity row = identity period) :
    rowsInside row (supplierInvoiceLines ledger supplierId) =
      supplierInvoiceLines ledger supplierId ∧
      rowsInside row (supplierTransactions ledger supplierId) =
        supplierTransactions ledger supplierId := by
  simp only [identity, Prod.mk.injEq] at hRow
  obtain ⟨-, -, -, hStart, hEnd⟩ := hRow
  constructor
  · apply List.filter_eq_self.mpr
    intro line hLine
    obtain ⟨invoice, hInvoice, hSupplier, hDate⟩ := invoice_of_mem_supplierInvoiceLines hLine
    have hInside := (h.invoices invoice hInvoice hSupplier).2
    rw [hDate, ← hStart, ← hEnd] at hInside
    exact decide_eq_true hInside
  · apply List.filter_eq_self.mpr
    intro line hLine
    obtain ⟨transaction, hTransaction, hSupplier, hDate⟩ :=
      transaction_of_mem_supplierTransactions hLine
    have hInside := (h.transactions transaction hTransaction hSupplier).2
    rw [hDate, ← hStart, ← hEnd] at hInside
    exact decide_eq_true hInside

theorem value_roundCurrency_spend (ledger : PurchaseLedger) (supplierId : ℕ) :
    (roundCurrency (totalSpend ledger supplierId)).value = totalSpend ledger supplierId := by
  apply FixedPoint.value_quantize_sum
  intro q hq
  obtain ⟨line, hLine, rfl⟩ := List.mem_map.mp hq
  obtain hLine | hLine := List.mem_append.mp hLine
  · obtain ⟨⟨line, invoice⟩, -, rfl⟩ := List.mem_map.mp hLine
    exact ⟨line.netAmount, rfl⟩
  · obtain ⟨transaction, -, rfl⟩ := List.mem_map.mp hLine
    exact ⟨transaction.amount, rfl⟩

theorem supplierRows_of_aggregatedRow_none (hLedger : ledger.NoCorrections)
    (h : aggregatedRow ledger supplierId period = none) : supplierRows ledger supplierId = [] := by
  simp only [aggregatedRow, chooseSource, invoiceTuples_eq hLedger,
    transactionTuples_eq hLedger] at h
  by_contra hRows
  rw [supplierRows, List.append_eq_nil_iff, not_and_or] at hRows
  by_cases hInvoices : supplierInvoiceLines ledger supplierId = []
  · have hTransactions := hRows.resolve_left (not_not_intro hInvoices)
    by_cases hSource : period.entrySource = .invoiceAggregation
    · simp [hSource] at h
    · simp [hSource, hInvoices, hTransactions] at h
  · simp [hInvoices] at h

theorem spend_of_aggregatedRow (hKind : OneKind ledger kind supplierId period)
    (hRows : supplierRows ledger supplierId ≠ []) (hIdentity : identity row = identity period)
    (hBacked : row.entrySource = .invoiceAggregation → supplierInvoiceLines ledger supplierId ≠ [])
    {new : RebatePeriodActual} (h : aggregatedRow ledger supplierId row = some new) :
    new.actualSpend.map FixedPoint.value = some (totalSpend ledger supplierId) ∧
      (new.entrySource = .invoiceAggregation → supplierInvoiceLines ledger supplierId ≠ []) := by
  obtain ⟨hInvoices, hTransactions⟩ := hKind.rowsInside_eq hIdentity
  have hFigures : figures new = recalculatedFigures ledger supplierId row := by
    rw [recalculatedFigures, h, Option.getD_some]
  have hTotal : ∀ {source rows}, figures new = sumFigures source rows →
    supplierRows ledger supplierId = rows →
      new.actualSpend.map FixedPoint.value = some (totalSpend ledger supplierId) := by
    intro source rows hNew hAll
    have hSpend : new.actualSpend = some (roundCurrency (totalSpend ledger supplierId)) := by
      rw [totalSpend, hAll]
      exact congrArg (fun f => f.2.1) hNew
    rw [hSpend, Option.map_some, value_roundCurrency_spend]
  obtain ⟨hCase, hChoice⟩ | ⟨hCase, hSource, hNone, -⟩ | ⟨-, -, hNone, hEmpty⟩ :=
    recalculatedFigures_cases hKind.noCorrections supplierId row
  · have hSome : supplierInvoiceLines ledger supplierId ≠ [] := hChoice.elim hBacked id
    have hEmpty := hKind.invoices_or_transactions.resolve_left hSome
    refine ⟨hTotal (hFigures.trans hCase) ?_, fun _ => hSome⟩
    rw [hInvoices, supplierRows, hEmpty, List.append_nil]
  · refine ⟨hTotal (hFigures.trans hCase) ?_, ?_⟩
    · rw [hTransactions, supplierRows, hNone, List.nil_append]
    · intro hNew
      have hOther : new.entrySource = .transactionAggregation :=
        congrArg Prod.fst (hFigures.trans hCase)
      cases hNew.symm.trans hOther
  · rw [supplierRows, hNone, hEmpty] at hRows
    exact absurd rfl hRows

end Ledgers

namespace Call

def now : Call → Timestamp
  | .ingest _ now | .closePeriod _ now | .recordReceipt _ now => now

end Call

namespace PeriodCalls

variable (w : PeriodCalls)

/-- Any number of uploads, none of which has begun: each brings rows of the one kind for the
open period, and no two stamp the period with the same time. -/
structure ConcurrentIngestion (kind : LedgerKind) (start : System) (period : RebatePeriodActual) :
    Prop where
  valid : start.db.Valid
  stored : w.stored start = some period
  agreement : period.rebateAgreementId = w.agreement.id
  supplier : w.agreement.supplierId = some w.supplierId
  unclosed : period.earnedAmount = none
  ledger : OneKind start.ledger kind w.supplierId period
  backed : period.entrySource = .invoiceAggregation →
    supplierInvoiceLines start.ledger w.supplierId ≠ []
  calls : ∀ i, w.calls i = .ingest (w.calls i).batch (w.calls i).now
  batches : ∀ i, OneKind (w.calls i).batch kind w.supplierId period
  rows : ∀ i, supplierRows (w.calls i).batch w.supplierId ≠ []
  clock : Function.Injective fun i => (w.calls i).now
  clockAfter : ∀ i, period.expectedAmountCalculatedAt ≠ some (w.calls i).now
  idle : ∀ i, start.phase i = .idle
  unlocked : start.lock = none
  noCommits : start.commits = []

def stamps (period : RebatePeriodActual) (commits : List ℕ) : Set (Option Timestamp) :=
  insert period.expectedAmountCalculatedAt {stamp | ∃ i ∈ commits, stamp = some (w.calls i).now}

/-- A row read earlier, and what holds of it if the period still bears its stamp. -/
structure Copied (known : Set (Option Timestamp)) (stored loaded : RebatePeriodActual) (p : Prop) :
    Prop where
  key : loaded.id = w.periodId
  copy : StampedCopy known stored.expectedAmountCalculatedAt loaded.expectedAmountCalculatedAt p

def InFlight (known : Set (Option Timestamp)) (stored : RebatePeriodActual)
    (ledger : PurchaseLedger) (i : ℕ) : Phase → Prop
  | .loaded loaded => w.Copied known stored loaded (loaded = stored)
  | .invoicesRead loaded seen =>
    (∃ earlier, PurchaseLedger.NoCorrections earlier ∧ seen = earlier.append (w.calls i).batch) ∧
      w.Copied known stored loaded (loaded = stored ∧ seen = ledger.append (w.calls i).batch)
  | .computed loaded row | .flushed loaded row _ | .eventWritten loaded row _ _ =>
    SameRecord loaded row ∧ w.Copied known stored loaded
      (loaded = stored ∧ aggregatedRow (ledger.append (w.calls i).batch) w.supplierId loaded =
        some row)
  | .unaffected => False
  | .idle | .finished _ => True

/-- One event of the period for each commit, with the stamp of its transaction. -/
def Recorded (i : ℕ) (event : FinancialAmountStatusEvent) : Prop :=
  Measure.expectedAmount.governs w.periodId event ∧ event.new.calculatedAt = some (w.calls i).now

def ledgerAfter (ledger : PurchaseLedger) (commits : List ℕ) : PurchaseLedger :=
  commits.foldl (fun ledger i => ledger.append (w.calls i).batch) ledger

/-- The spend is the sum of all rows, and the amount is the one that it yields. -/
def Settled (stored : RebatePeriodActual) (ledger : PurchaseLedger) : Prop :=
  stored.actualSpend.map FixedPoint.value = some (totalSpend ledger w.supplierId) ∧
    ∃ amount, stored.expectedAmount = some amount ∧
      computeExpectedAmount w.agreement (some (totalSpend ledger w.supplierId)) = .ok (some amount)

structure Consistent (kind : LedgerKind) (start : System) (period : RebatePeriodActual) (s : System)
    (stored : RebatePeriodActual) : Prop where
  valid : s.db.Valid
  locked : ∀ i, w.LockHeld s i (s.phase i)
  current : w.stored s = some stored
  samePeriod : identity stored = identity period
  unclosed : stored.earnedAmount = none
  stamp : stored.expectedAmountCalculatedAt ∈ w.stamps period s.commits
  oneKind : OneKind s.ledger kind w.supplierId period
  backed : stored.entrySource = .invoiceAggregation →
    supplierInvoiceLines s.ledger w.supplierId ≠ []
  inFlight : ∀ i, w.InFlight (w.stamps period s.commits) stored s.ledger i (s.phase i)
  ended : ∀ i, s.phase i = .finished true ↔ i ∈ s.commits
  once : s.commits.Nodup
  uploads : s.ledger = w.ledgerAfter start.ledger s.commits
  events : ∃ written, s.db.events = start.db.events ++ written ∧
    List.Forall₂ w.Recorded s.commits written
  settled : s.commits ≠ [] → w.Settled stored s.ledger

/-- What an upload has done by its commit is what it would have done alone. -/
structure AsIfAlone (s s' : System) (i : ℕ) (stored row : RebatePeriodActual)
    (event : FinancialAmountStatusEvent) (amount : Money) : Prop where
  aggregated : aggregatedRow (w.visible s i) w.supplierId stored = some row
  computed : computeExpectedAmount w.agreement (row.actualSpend.map FixedPoint.value) =
    .ok (some amount)
  outcome : event.new = calculatedAmount amount (w.calls i).now
  governs : Measure.expectedAmount.governs w.periodId event
  current : w.stored s' = some (recalculatedRow row event.new event.id (w.calls i).now)
  events : s'.db.events = s.db.events ++ [event]

variable {w} {kind : LedgerKind} {start s s' : System} {period stored : RebatePeriodActual} {i : ℕ}

theorem ConcurrentIngestion.consistent (h : w.ConcurrentIngestion kind start period) :
    w.Consistent kind start period start period where
  valid := h.valid
  locked i := by
    rw [h.idle i]
    trivial
  current := h.stored
  samePeriod := rfl
  unclosed := h.unclosed
  stamp := Set.mem_insert _ _
  oneKind := h.ledger
  backed := h.backed
  inFlight i := by
    rw [h.idle i]
    trivial
  ended i := by simp [h.idle i, h.noCommits]
  once := by simp [h.noCommits]
  uploads := by
    rw [h.noCommits]
    rfl
  events := ⟨[], (List.append_nil _).symm, h.noCommits ▸ .nil⟩
  settled hSome := absurd h.noCommits hSome

theorem stamps_append (w : PeriodCalls) (period : RebatePeriodActual) (commits : List ℕ) (i : ℕ) :
    w.stamps period (commits ++ [i]) = insert (some (w.calls i).now) (w.stamps period commits) := by
  ext stamp
  simp only [stamps, Set.mem_insert_iff, Set.mem_ofPred_eq, List.mem_append, List.mem_singleton]
  constructor
  · rintro (hFirst | ⟨j, hOld | rfl, hStamp⟩)
    · exact .inr (.inl hFirst)
    · exact .inr (.inr ⟨j, hOld, hStamp⟩)
    · exact .inl hStamp
  · rintro (hNew | hFirst | ⟨j, hOld, hStamp⟩)
    · exact .inr ⟨i, .inr rfl, hNew⟩
    · exact .inl hFirst
    · exact .inr ⟨j, .inl hOld, hStamp⟩

theorem ConcurrentIngestion.stamp_new (h : w.ConcurrentIngestion kind start period)
    {commits : List ℕ} (hNew : i ∉ commits) : some (w.calls i).now ∉ w.stamps period commits := by
  rintro (hFirst | ⟨j, hOld, hStamp⟩)
  · exact h.clockAfter i hFirst.symm
  · obtain rfl := h.clock (Option.some.inj hStamp)
    exact hNew hOld

theorem InFlight.commit {known : Set (Option Timestamp)} {new : RebatePeriodActual}
    {ledger after : PurchaseLedger} {phase : Phase} (hNew : new.expectedAmountCalculatedAt ∉ known)
    (hOld : w.InFlight known stored ledger i phase) :
    w.InFlight (insert new.expectedAmountCalculatedAt known) new after i phase := by
  have hCopied : ∀ {loaded p} (q : Prop), w.Copied known stored loaded p →
      w.Copied (insert new.expectedAmountCalculatedAt known) new loaded q :=
    fun q hCopy => ⟨hCopy.key, hCopy.copy.commit hNew q⟩
  cases phase with
  | idle | finished committed => trivial
  | unaffected => exact hOld
  | loaded loaded => exact hCopied _ hOld
  | invoicesRead loaded seen => exact ⟨hOld.1, hCopied _ hOld.2⟩
  | computed loaded row => exact ⟨hOld.1, hCopied _ hOld.2⟩
  | flushed loaded row executed => exact ⟨hOld.1, hCopied _ hOld.2⟩
  | eventWritten loaded row event executed => exact ⟨hOld.1, hCopied _ hOld.2⟩

section Steps

variable (h : w.ConcurrentIngestion kind start period)
  (hState : w.Consistent kind start period s stored)
include h hState

theorem Consistent.affected (i : ℕ) : w.affected s i = some stored := by
  have hSame := hState.samePeriod
  simp only [identity, Prod.mk.injEq] at hSame
  obtain ⟨-, -, hAgreement, hStart, hEnd⟩ := hSame
  obtain ⟨date, hDate, hAfter, hBefore⟩ : ∃ date ∈ batchDates (w.calls i).batch,
      period.periodStart ≤ date ∧ date ≤ period.periodEnd := by
    obtain ⟨line, hLine⟩ := List.exists_mem_of_ne_nil _ (h.rows i)
    obtain hLine | hLine := List.mem_append.mp hLine
    · obtain ⟨invoice, hInvoice, hSupplier, -⟩ := invoice_of_mem_supplierInvoiceLines hLine
      have hInside := ((h.batches i).invoices invoice hInvoice hSupplier).2
      exact ⟨_, List.mem_append_left _ (List.mem_map_of_mem hInvoice), hInside⟩
    · obtain ⟨transaction, hTransaction, hSupplier, -⟩ :=
        transaction_of_mem_supplierTransactions hLine
      have hInside := ((h.batches i).transactions transaction hTransaction hSupplier).2
      exact ⟨_, List.mem_append_right _ (List.mem_map_of_mem hTransaction), hInside⟩
  obtain ⟨minDate, hMin⟩ := Option.isSome_iff_exists.mp (List.isSome_min?_of_mem hDate)
  obtain ⟨maxDate, hMax⟩ := Option.isSome_iff_exists.mp (List.isSome_max?_of_mem hDate)
  have hMinLe : minDate ≤ date := (List.le_min?_iff hMin).mp le_rfl date hDate
  have hLeMax : date ≤ maxDate := (List.max?_le_iff hMax).mp le_rfl date hDate
  rw [PeriodCalls.affected, hMin, hMax]
  apply lookup_filter hState.current
  have hUnclosed : stored.earnedAmount.isNone := by rw [hState.unclosed]; rfl
  have hSupplier : stored.rebateAgreementId ∈
      (supplierAgreements [w.agreement] w.supplierId).map RebateAgreement.id := by
    simp [supplierAgreements, h.supplier, hAgreement, h.agreement]
  simp only [Bool.and_eq_true, decide_eq_true_eq]
  refine ⟨⟨⟨hSupplier, hUnclosed⟩, ?_⟩, ?_⟩
  · exact hStart ▸ hAfter.trans hLeMax
  · exact hEnd ▸ hMinLe.trans hBefore

/-- An upload sees its own rows, whatever else has been committed between its queries. -/
theorem Consistent.aggregatedRow_ne_none {earlier : PurchaseLedger}
    (hEarlier : earlier.NoCorrections) (i : ℕ) (loaded : RebatePeriodActual) :
    aggregatedRow (seenRows (earlier.append (w.calls i).batch) (w.visible s i)) w.supplierId
      loaded ≠ none := by
  intro hNone
  have hInvoices := (noCorrections_append hEarlier (h.batches i).noCorrections).purchaseInvoices
  have hTransactions :=
    (noCorrections_append hState.oneKind.noCorrections (h.batches i).noCorrections)
  have hSeen : (seenRows (earlier.append (w.calls i).batch) (w.visible s i)).NoCorrections :=
    ⟨hInvoices, hTransactions.purchaseTransactions⟩
  have hEmpty := supplierRows_of_aggregatedRow_none hSeen hNone
  obtain ⟨hNoLines, hNoTransactions⟩ := List.append_eq_nil_iff.mp hEmpty
  have hNoInvoices : supplierInvoiceLines (w.calls i).batch w.supplierId = [] :=
    List.subset_nil.mp (hNoLines ▸ (supplierInvoiceLines_append_subset earlier _ _).2)
  have hNoTransactions : supplierTransactions (w.calls i).batch w.supplierId = [] :=
    (List.append_eq_nil_iff.mp ((supplierTransactions_append s.ledger _ _).symm.trans hNoTransactions)).2
  apply h.rows i
  rw [supplierRows, hNoInvoices, hNoTransactions, List.append_nil]

theorem Consistent.inFlight_move (hMove : w.Move i s s') (j : ℕ) :
    w.InFlight (w.stamps period s'.commits) stored s'.ledger j (s'.phase j) := by
  rw [hMove.commits_eq, hMove.ledger_eq]
  have hOld := hState.inFlight j
  by_cases hNe : j ≠ i
  · rw [hMove.phase_of_ne hNe]
    exact hOld
  obtain rfl := not_ne_iff.mp hNe
  cases hMove with
  | load hCall hPhase hPeriod =>
    cases hPeriod.symm.trans (hState.affected h j)
    simp only [System.enter, Function.update_self]
    exact ⟨key_of_lookup hState.current, .take hState.stamp rfl⟩
  | loadNothing hCall hPhase hNone => cases hNone.symm.trans (hState.affected h j)
  | readInvoices hPhase =>
    rw [hPhase] at hOld
    simp only [System.enter, Function.update_self]
    exact ⟨⟨s.ledger, hState.oneKind.noCorrections, rfl⟩, hOld.key, hOld.copy.imp fun hLoaded =>
      ⟨hLoaded, rfl⟩⟩
  | readTransactions hPhase hRow =>
    rw [hPhase] at hOld
    simp only [System.enter, Function.update_self]
    refine ⟨sameRecord_of_aggregatedRow hRow, hOld.2.key, hOld.2.copy.imp ?_⟩
    rintro ⟨hLoaded, rfl⟩
    exact ⟨hLoaded, hRow⟩
  | keepManual hPhase hRow =>
    rw [hPhase] at hOld
    obtain ⟨⟨earlier, hEarlier, rfl⟩, -⟩ := hOld
    exact absurd hRow (hState.aggregatedRow_ne_none h hEarlier j _)
  | change hPhase hStored hRow =>
    rw [h.calls j] at hRow
    cases hRow
  | refuse hPhase hStored hError =>
    rw [h.calls j] at hError
    cases hError
  | flush hPhase hLock hStored =>
    rw [hPhase] at hOld
    simp only [System.enter, Function.update_self]
    exact hOld
  | writeEvent hCall hPhase hStored hAmount =>
    rw [hPhase] at hOld
    simp only [System.enter, Function.update_self]
    exact hOld
  | abort hPhase =>
    simp only [System.enter, System.release, Function.update_self]
    trivial

theorem Consistent.move (hMove : w.Move i s s') : w.Consistent kind start period s' stored where
  valid := hMove.db_eq ▸ hState.valid
  locked := lockHeld_move hState.locked hMove
  current := by
    rw [PeriodCalls.stored, hMove.db_eq]
    exact hState.current
  samePeriod := hState.samePeriod
  unclosed := hState.unclosed
  stamp := hMove.commits_eq ▸ hState.stamp
  oneKind := hMove.ledger_eq ▸ hState.oneKind
  backed := hMove.ledger_eq ▸ hState.backed
  inFlight := hState.inFlight_move h hMove
  ended j := by
    rw [hMove.commits_eq, ← hState.ended j]
    by_cases hNe : j ≠ i
    · rw [hMove.phase_of_ne hNe]
    · obtain rfl := not_ne_iff.mp hNe
      obtain ⟨hBefore, hAfter⟩ := hMove.not_committed
      exact iff_of_false hAfter hBefore
  once := hMove.commits_eq ▸ hState.once
  uploads := by
    rw [hMove.ledger_eq, hMove.commits_eq]
    exact hState.uploads
  events := by
    rw [hMove.db_eq, hMove.commits_eq]
    exact hState.events
  settled := by
    rw [hMove.commits_eq, hMove.ledger_eq]
    exact hState.settled

/-- Only an upload that has read the latest rows gets through. -/
theorem Consistent.commit_asIfAlone (hCommit : w.Commit i s s') : i ∉ s.commits ∧ s'.db.Valid ∧
    ∃ row event amount, w.AsIfAlone s s' i stored row event amount := by
  have hOld := hState.inFlight i
  obtain ⟨hPhase, -⟩ | ⟨loaded, row, executed, hPhase, hCall, -⟩ |
      ⟨loaded, row, event, executed, batch, now, hPhase, hCall, hEffect⟩ :=
    hCommit.effect hState.locked hState.current
  · rw [hPhase] at hOld
    exact hOld.elim
  · exact absurd (h.calls i) (hCall _ _)
  rw [hPhase] at hOld
  obtain ⟨hSame, hCopied⟩ := hOld
  obtain rfl : (w.calls i).now = now := by rw [hCall]; rfl
  have hRowId : row.id = w.periodId := hSame.key.trans hCopied.key
  have hValid : s'.db.Valid := by
    refine hCommit.valid hState.valid hState.locked ?_
    intro loaded' row' event' executed' hPhase'
    cases hPhase.symm.trans hPhase'
    exact hRowId
  have hPast := hEffect.past hState.valid hValid hState.current hRowId
  have hStamp : loaded.expectedAmountCalculatedAt = stored.expectedAmountCalculatedAt := by
    rw [hSame.snapshot] at hPast
    exact congrArg AmountState.calculatedAt hPast
  obtain ⟨rfl, hRow⟩ := hCopied.copy.holds hStamp
  obtain ⟨amount, hAmount, hEvent⟩ := hEffect.amount
  refine ⟨?_, hValid, row, event, amount, hRow, hAmount, ?_, ?_, ?_, hEffect.events⟩
  · rw [← hState.ended i, hPhase]
    exact Phase.noConfusion
  · exact congrArg FinancialAmountStatusEvent.new hEvent
  · rw [hEvent, ← hRowId]
    exact ⟨rfl, rfl⟩
  · have hIdentity : identity (recalculatedRow row event.new event.id (w.calls i).now) =
      identity row := rfl
    have hStored := hEffect.stored
    rwa [flushedRow_self hSame.identity, flushedRow_self hIdentity] at hStored

theorem Consistent.settles (i : ℕ) {row : RebatePeriodActual}
    (hRow : aggregatedRow (w.visible s i) w.supplierId stored = some row) :
    row.actualSpend.map FixedPoint.value = some (totalSpend (w.visible s i) w.supplierId) ∧
      (row.entrySource = .invoiceAggregation → supplierInvoiceLines (w.visible s i) w.supplierId ≠
        []) := by
  obtain ⟨hEarlier, hOwn⟩ :=
    supplierInvoiceLines_append_subset s.ledger (w.calls i).batch w.supplierId
  apply spend_of_aggregatedRow (hState.oneKind.append (h.batches i)) ?_ hState.samePeriod ?_ hRow
  · intro hNone
    obtain ⟨hInvoices, hTransactions⟩ := List.append_eq_nil_iff.mp hNone
    rw [supplierTransactions_append] at hTransactions
    have hNoInvoices : supplierInvoiceLines (w.calls i).batch w.supplierId = [] :=
      List.subset_nil.mp (hInvoices ▸ hOwn)
    apply h.rows i
    rw [supplierRows, hNoInvoices, (List.append_eq_nil_iff.mp hTransactions).2, List.append_nil]
  · intro hSource hNone
    exact hState.backed hSource (List.subset_nil.mp (hNone ▸ hEarlier))

theorem Consistent.commit (hCommit : w.Commit i s s') :
    ∃ stored', w.Consistent kind start period s' stored' := by
  obtain ⟨hOpen, hValid, row, event, amount, hAlone⟩ := hState.commit_asIfAlone h hCommit
  have hSame := sameRecord_of_aggregatedRow hAlone.aggregated
  obtain ⟨hSpend, hBacked⟩ := hState.settles h i hAlone.aggregated
  obtain ⟨written, hWritten, hRecorded⟩ := hState.events
  have hCommits := hCommit.commits_eq
  have hStamp :
    (recalculatedRow row event.new event.id (w.calls i).now).expectedAmountCalculatedAt =
      some (w.calls i).now := congrArg AmountState.calculatedAt hAlone.outcome
  have hStamps := stamps_append w period s.commits i
  rw [← hCommits, ← hStamp] at hStamps
  refine ⟨recalculatedRow row event.new event.id (w.calls i).now, hValid,
    hCommit.locked hState.locked,
    hAlone.current, ?_, ?_, hStamps ▸ Set.mem_insert _ _, ?_, ?_, ?_, ?_, ?_, ?_,
    ⟨written ++ [event], ?_, ?_⟩, ?_⟩
  · exact hSame.identity.trans hState.samePeriod
  · have hEarned : row.earnedAmount = stored.earnedAmount := by rw [hSame]
    exact hEarned.trans hState.unclosed
  · rw [hCommit.ledger_eq]
    exact hState.oneKind.append (h.batches i)
  · rw [hCommit.ledger_eq]
    exact hBacked
  · intro j
    by_cases hNe : j ≠ i
    · rw [hCommit.phase_of_ne hNe, hStamps]
      exact (hState.inFlight j).commit (hStamp ▸ h.stamp_new hOpen)
    · obtain rfl := not_ne_iff.mp hNe
      rw [hCommit.phase_self]
      trivial
  · intro j
    rw [hCommits, List.mem_append, List.mem_singleton]
    by_cases hNe : j ≠ i
    · rw [hCommit.phase_of_ne hNe, hState.ended j, or_iff_left hNe]
    · obtain rfl := not_ne_iff.mp hNe
      exact iff_of_true hCommit.phase_self (.inr rfl)
  · rw [hCommits]
    exact List.concat_eq_append ▸ hState.once.concat hOpen
  · rw [hCommit.ledger_eq, hCommits, ledgerAfter, List.foldl_append, visible, hState.uploads]
    rfl
  · rw [hAlone.events, hWritten, List.append_assoc]
  · rw [hCommits]
    exact List.rel_append hRecorded
      (.cons ⟨hAlone.governs, congrArg AmountState.calculatedAt hAlone.outcome⟩ .nil)
  · intro _
    rw [hCommit.ledger_eq]
    refine ⟨hSpend, amount, congrArg AmountState.amount hAlone.outcome, ?_⟩
    rw [← hSpend]
    exact hAlone.computed

theorem Consistent.step (hStep : w.Step s s') :
    ∃ stored', w.Consistent kind start period s' stored' := by
  obtain ⟨i, hMove | hCommit⟩ := hStep
  · exact ⟨stored, hState.move h hMove⟩
  · exact hState.commit h hCommit

end Steps

theorem ConcurrentIngestion.run (h : w.ConcurrentIngestion kind start period)
    (hRun : Relation.ReflTransGen w.Step start s) :
    ∃ stored, w.Consistent kind start period s stored := by
  induction hRun with
  | refl => exact ⟨period, h.consistent⟩
  | tail _ hStep ih =>
    obtain ⟨stored, hState⟩ := ih
    exact hState.step h hStep

variable (w) in
/-- Every upload is in the ledger and in the log exactly if it has committed; versions do not
repeat, each event records the one before it, and the last one is the expected amount of
the whole ledger. -/
structure NothingLost (start s : System) : Prop where
  uncommitted : ∀ i s', w.Move i s s' → s'.db = s.db ∧ s'.ledger = s.ledger ∧ s'.commits = s.commits
  committed : ∀ i, s.phase i = .finished true ↔ i ∈ s.commits
  once : s.commits.Nodup
  uploads : s.ledger = w.ledgerAfter start.ledger s.commits
  events : ∃ written, s.db.events = start.db.events ++ written ∧
    List.Forall₂ w.Recorded s.commits written
  versions : ∀ e ∈ s.db.events, ∀ f ∈ s.db.events, Measure.expectedAmount.governs w.periodId e →
    Measure.expectedAmount.governs w.periodId f → e.eventVersion = f.eventVersion → e = f
  continued : ∀ e ∈ s.db.events, Measure.expectedAmount.governs w.periodId e → e.eventVersion ≠ 1 →
    ∃ prev ∈ s.db.events, Measure.expectedAmount.governs w.periodId prev ∧
      prev.eventVersion = e.eventVersion - 1 ∧ e.old = prev.new
  settled : s.commits ≠ [] → ∃ stored latest amount, w.stored s = some stored ∧
    stored.actualSpend.map FixedPoint.value = some (totalSpend s.ledger w.supplierId) ∧
    latest ∈ s.db.events ∧ Measure.expectedAmount.governs w.periodId latest ∧
    (∀ f ∈ s.db.events, Measure.expectedAmount.governs w.periodId f →
      f.eventVersion ≤ latest.eventVersion) ∧
    latest.new.amount = some amount ∧
    computeExpectedAmount w.agreement (some (totalSpend s.ledger w.supplierId)) = .ok (some amount)

theorem Consistent.nothingLost (hState : w.Consistent kind start period s stored) :
    w.NothingLost start s where
  uncommitted i s' hMove := ⟨hMove.db_eq, hMove.ledger_eq, hMove.commits_eq⟩
  committed := hState.ended
  once := hState.once
  uploads := hState.uploads
  events := hState.events
  versions e he f hf hGoverns hGoverns' hVersion := by
    have hSeries := (Measure.governs_iff_series (hState.valid.events.accepted e he)).mp hGoverns
    have hSeries' := (Measure.governs_iff_series (hState.valid.events.accepted f hf)).mp hGoverns'
    exact hState.valid.events.sequence he hf (hSeries.trans hSeries'.symm) hVersion
  continued e he hGoverns hNotFirst := by
    obtain ⟨prev, hPrev, hKey, hVersion, hContinues⟩ :=
      hState.valid.chain.predecessor e he hNotFirst
    have hSeries := (Measure.governs_iff_series (hState.valid.events.accepted e he)).mp hGoverns
    exact ⟨prev, hPrev, Measure.governs_of_series (hKey.trans hSeries), hVersion, hContinues.1⟩
  settled hSome := by
    obtain ⟨hSpend, amount, hStored, hAmount⟩ := hState.settled hSome
    obtain ⟨latest, hCurrent⟩ := hState.valid.snapshotsAgree .expectedAmount w.periodId
      stored.expectedAmountSnapshot (congrArg (Option.map _) hState.current)
    have hNew : stored.expectedAmount = latest.new.amount :=
      congrArg AmountState.amount hCurrent.columns
    exact ⟨stored, latest, amount, hState.current, hSpend, hCurrent.mem, hCurrent.governs,
      hCurrent.latest, hNew ▸ hStored, hAmount⟩

/-- Whatever the order of the steps of any number of uploads, no upload is lost. -/
theorem concurrentIngestion_nothingLost (h : w.ConcurrentIngestion kind start period)
    (hRun : Relation.ReflTransGen w.Step start s) : w.NothingLost start s := by
  obtain ⟨stored, hState⟩ := h.run hRun
  exact hState.nothingLost

section MarchUploads

def marchUpload (i : ℕ) : PurchaseLedger where
  suppliers := []
  purchaseInvoices := []
  purchaseInvoiceLines := []
  purchaseTransactions := [⟨i, 1, 1, none, none, marchDay, ⟨800000⟩, none, none, none⟩]

def marchUploads : PeriodCalls where
  periodId := 1
  supplierId := 1
  agreement := flatAgreement
  calls i := .ingest (marchUpload i) (i + 1)

def marchQuarter : RebatePeriodActual := { openQuarter with expectedAmountCurrentEventId := some 1 }

def marchStart : System := ⟨openQuarterDb, ⟨[], [], [], []⟩, none, 2, fun _ => .idle, []⟩

theorem marchUpload_oneKind (i : ℕ) : OneKind (marchUpload i) .transactions 1 marchQuarter where
  noCorrections := by
    refine ⟨(fun _ h => nomatch h), ?_⟩
    intro transaction h
    obtain rfl := List.mem_singleton.mp h
    rfl
  invoices _ h := nomatch h
  transactions transaction h _ := by
    obtain rfl := List.mem_singleton.mp h
    have hInside : marchQuarter.periodStart ≤ marchDay ∧ marchDay ≤ marchQuarter.periodEnd := by
      decide
    exact ⟨rfl, hInside⟩

theorem marchUploads_concurrent :
    marchUploads.ConcurrentIngestion .transactions marchStart marchQuarter where
  valid := Db.empty_valid.touching_run (.single openQuarterRecorded_step)
  stored := rfl
  agreement := rfl
  supplier := rfl
  unclosed := rfl
  ledger := ⟨⟨(fun _ h => nomatch h), (fun _ h => nomatch h)⟩, (fun _ h => nomatch h),
    (fun _ h => nomatch h)⟩
  backed hSource := nomatch hSource
  calls _ := rfl
  batches := marchUpload_oneKind
  rows _ := List.cons_ne_nil _ _
  clock _ _ hClock := Nat.succ.inj hClock
  clockAfter _ := nofun
  idle _ := rfl
  unlocked := rfl
  noCommits := rfl

def marchRow : RebatePeriodActual :=
  { marchQuarter with
    actualSpend := some ⟨800000⟩
    actualVolume := some 0
    entrySource := .transactionAggregation }

def marchEvent : FinancialAmountStatusEvent := marchStart.recalculationEvent marchRow ⟨40000⟩ 1

/-- What the first upload sends. -/
def marchStatements : List Statement :=
  flushStatements marchQuarter marchRow marchQuarter ++
    eventStatements marchRow (flushedRow marchQuarter marchRow marchQuarter) marchEvent 1

def marchDb : Db := (openQuarterDb.commitTransaction marchStatements).getD openQuarterDb

def marchRecalculated : RebatePeriodActual :=
  recalculatedRow marchRow marchEvent.new marchEvent.id 1

/-- The row of an upload that has read both uploads and an old row of the period. -/
def staleRow : RebatePeriodActual := { marchRow with actualSpend := some ⟨1600000⟩ }

theorem marchDb_committed : openQuarterDb.commitTransaction marchStatements = some marchDb := by
  have hCommits : (openQuarterDb.commitTransaction marchStatements).isSome = true := by
    decide +kernel
  obtain ⟨db, hDb⟩ := Option.isSome_iff_exists.mp hCommits
  rw [marchDb, hDb, Option.getD_some]

/-- The second upload loads the period before the first one commits, and is refused for its old
past. -/
theorem marchUploads_run : ∃ s, Relation.ReflTransGen marchUploads.Step marchStart s ∧
    s.commits = [0] ∧
    (∃ loaded row event executed, s.phase 1 = .eventWritten loaded row event executed) ∧
    ∀ s', ¬marchUploads.Commit 1 s s' := by
  let loaded := marchStart.enter 0 (.loaded marchQuarter)
  let staleLoaded := loaded.enter 1 (.loaded marchQuarter)
  let read := staleLoaded.enter 0 (.invoicesRead marchQuarter (marchUploads.visible staleLoaded 0))
  let staleRead := read.enter 1 (.invoicesRead marchQuarter (marchUploads.visible read 1))
  let computed := staleRead.enter 0 (.computed marchQuarter marchRow)
  let flushed := { computed.enter 0 (.flushed marchQuarter marchRow
    (flushStatements marchQuarter marchRow marchQuarter)) with lock := some 0 }
  have hLoad : marchUploads.Step marchStart loaded := ⟨0, .inl (.load rfl rfl (by decide +kernel))⟩
  have hStaleLoad : marchUploads.Step loaded staleLoaded :=
    ⟨1, .inl (.load rfl rfl (by decide +kernel))⟩
  have hRead : marchUploads.Step staleLoaded read := ⟨0, .inl (.readInvoices rfl)⟩
  have hStaleRead : marchUploads.Step read staleRead := ⟨1, .inl (.readInvoices rfl)⟩
  have hCompute : marchUploads.Step staleRead computed :=
    ⟨0, .inl (.readTransactions rfl (by decide +kernel))⟩
  have hFlush : marchUploads.Step computed flushed := ⟨0, .inl (.flush rfl rfl rfl)⟩
  have hWrite :=
    @Move.writeEvent marchUploads 0 flushed _ _ _ _ _ _ ⟨40000⟩ rfl rfl rfl (by decide +kernel)
  have hCommit := @Commit.commit marchUploads 0 _ _ _ (rfl : marchUploads.sent
    { flushed.enter 0 (.eventWritten marchQuarter marchRow marchEvent marchStatements) with nextEventId := 3 } 0 = _)
    marchDb_committed
  let committed :=
    marchUploads.committed { flushed.enter 0 (.eventWritten marchQuarter marchRow marchEvent
      marchStatements) with nextEventId := 3 } 0 marchDb
  let staleComputed := committed.enter 1 (.computed marchQuarter staleRow)
  let staleFlushed := { staleComputed.enter 1 (.flushed marchQuarter staleRow
    (flushStatements marchQuarter staleRow marchRecalculated)) with lock := some 1 }
  have hStaleCompute : marchUploads.Step committed staleComputed :=
    ⟨1, .inl (.readTransactions rfl (by decide +kernel))⟩
  have hStored : marchUploads.stored staleComputed = some marchRecalculated := by decide +kernel
  have hStaleFlush : marchUploads.Step staleComputed staleFlushed :=
    ⟨1, .inl (.flush rfl rfl hStored)⟩
  have hStaleWrite := @Move.writeEvent marchUploads 1 staleFlushed _ _ _ _ _ _
    ⟨80000⟩ rfl rfl hStored (by decide +kernel)
  have hCommitted : Relation.ReflTransGen marchUploads.Step marchStart committed :=
    (((((((Relation.ReflTransGen.single hLoad).tail hStaleLoad).tail hRead).tail hStaleRead).tail
      hCompute).tail
      hFlush).tail ⟨0, .inl hWrite⟩).tail ⟨0, .inr hCommit⟩
  refine ⟨_, ((hCommitted.tail hStaleCompute).tail hStaleFlush).tail ⟨1, .inl hStaleWrite⟩, rfl,
    ⟨_, _, _, _, rfl⟩, ?_⟩
  rintro s' ⟨hSent, hDb⟩
  obtain rfl := Option.some.inj hSent
  have hRefused :
    marchDb.commitTransaction (flushStatements marchQuarter staleRow marchRecalculated ++
      eventStatements staleRow (flushedRow marchQuarter staleRow marchRecalculated)
        (staleFlushed.recalculationEvent staleRow ⟨80000⟩ 2) 2) = none := by
    decide +kernel
  exact Option.some_ne_none _ (hDb.symm.trans hRefused)

theorem marchUploads_nothingLost : ∃ s, marchUploads.NothingLost marchStart s ∧ s.commits = [0] ∧
    (∃ loaded row event executed, s.phase 1 = .eventWritten loaded row event executed) ∧
    ∀ s', ¬marchUploads.Commit 1 s s' := by
  obtain ⟨s, hRun, hCommits, hWritten, hRefused⟩ := marchUploads_run
  exact ⟨s, concurrentIngestion_nothingLost marchUploads_concurrent hRun, hCommits, hWritten,
    hRefused⟩

end MarchUploads

end PeriodCalls

end ProcureFoundation.Rebate
