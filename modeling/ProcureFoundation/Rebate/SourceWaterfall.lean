import ProcureFoundation.Rebate.Aggregation

/-!
# The source waterfall

Invoices inside the period come first, then transactions inside the period, then the
manual entry, and rows outside the period have no say. The code lets any row of the
supplier choose the source. The two agree on a period exactly when the rows that choose
are also there to be summed, or choose what the period already has.
-/

namespace ProcureFoundation.Rebate

open Outcome Evidence KeyedRows Ledger

variable {ledger : PurchaseLedger} {supplierId : ℕ} {period after : RebatePeriodActual}

def supplierInvoiceLines (ledger : PurchaseLedger) (supplierId : ℕ) : List (ℚ × ℚ × Date) :=
  (ledger.invoiceLines.filter fun (_, invoice) => invoice.supplierId == supplierId).map
    fun (line, invoice) => (line.netAmount.value, line.quantity.value, invoice.invoiceDate)

def supplierTransactions (ledger : PurchaseLedger) (supplierId : ℕ) : List (ℚ × ℚ × Date) :=
  (ledger.purchaseTransactions.filter fun transaction => transaction.supplierId == supplierId).map
    fun transaction =>
      (transaction.amount.value, (transaction.quantity.map FixedPoint.value).getD 0,
      transaction.transactionDate)

def rowsInside (period : RebatePeriodActual) (rows : List (ℚ × ℚ × Date)) : List (ℚ × ℚ × Date) :=
  inPeriod (fun row => row.2.2) period.periodStart period.periodEnd rows

def HasSums (after : RebatePeriodActual) (rows : List (ℚ × ℚ × Date)) : Prop :=
  after.actualSpend = some (roundCurrency (rows.map fun row => row.1).sum) ∧
    after.actualVolume.map FixedPoint.value = some (rows.map fun row => row.2.1).sum

def ledgerInside (ledger : PurchaseLedger) (period : RebatePeriodActual) : PurchaseLedger :=
  { ledger with
    purchaseInvoices := inPeriod PurchaseInvoice.invoiceDate period.periodStart period.periodEnd
      ledger.purchaseInvoices
    purchaseTransactions :=
      inPeriod PurchaseTransaction.transactionDate period.periodStart period.periodEnd
        ledger.purchaseTransactions }

structure Waterfall (ledger : PurchaseLedger) (supplierId : ℕ) (before after : RebatePeriodActual) :
    Prop where
  invoices : rowsInside before (supplierInvoiceLines ledger supplierId) ≠ [] →
    after.entrySource = .invoiceAggregation ∧
      HasSums after (rowsInside before (supplierInvoiceLines ledger supplierId))
  transactions : rowsInside before (supplierInvoiceLines ledger supplierId) = [] →
    before.entrySource ≠ .invoiceAggregation →
    rowsInside before (supplierTransactions ledger supplierId) ≠ [] →
    after.entrySource = .transactionAggregation ∧
      HasSums after (rowsInside before (supplierTransactions ledger supplierId))
  manual : rowsInside before (supplierInvoiceLines ledger supplierId) = [] →
    rowsInside before (supplierTransactions ledger supplierId) = [] → before.entrySource = .manual →
    figures after = figures before
  outside : figures after = recalculatedFigures (ledgerInside ledger before) supplierId before
  upward : before.entrySource.rank ≤ after.entrySource.rank

/-- The rows that choose the source of the period lie inside it, or their choice is what
the period already has. -/
def ChosenInside (ledger : PurchaseLedger) (supplierId : ℕ) (period : RebatePeriodActual) : Prop :=
  period.entrySource = .invoiceAggregation ∨
    rowsInside period (supplierInvoiceLines ledger supplierId) ≠ [] ∨
    supplierInvoiceLines ledger supplierId = [] ∧
      (rowsInside period (supplierTransactions ledger supplierId) ≠ [] ∨
        supplierTransactions ledger supplierId = [] ∨ period.entrySource = .transactionAggregation)

section NoCorrections

variable (hLedger : ledger.NoCorrections)
include hLedger

theorem invoiceTuples_eq (periodStart periodEnd : Date) :
    invoiceTuples ledger supplierId periodStart periodEnd =
      supplierInvoiceLines ledger supplierId := by
  rw [invoiceTuples, supplierInvoiceLines]
  congr 1
  apply List.filter_congr
  rintro ⟨line, invoice⟩ hRow
  obtain ⟨line', -, hIn⟩ := List.mem_flatMap.mp hRow
  obtain ⟨invoice', hInvoice, hEq⟩ := List.mem_map.mp hIn
  cases hEq
  have hActive := hLedger.purchaseInvoices invoice (List.mem_filter.mp hInvoice).1
  simp [PurchaseInvoice.active, hActive]

theorem transactionTuples_eq (periodStart periodEnd : Date) :
    transactionTuples ledger supplierId periodStart periodEnd =
      supplierTransactions ledger supplierId := by
  rw [transactionTuples, supplierTransactions]
  congr 1
  apply List.filter_congr
  intro transaction hTransaction
  have hActive := hLedger.purchaseTransactions transaction hTransaction
  simp [PurchaseTransaction.active, hActive]

end NoCorrections

theorem ledgerInside_noCorrections (hLedger : ledger.NoCorrections) (period : RebatePeriodActual) :
    (ledgerInside ledger period).NoCorrections where
  purchaseInvoices invoice h := hLedger.purchaseInvoices invoice (List.mem_filter.mp h).1
  purchaseTransactions transaction h :=
    hLedger.purchaseTransactions transaction (List.mem_filter.mp h).1

theorem supplierInvoiceLines_inside (ledger : PurchaseLedger) (supplierId : ℕ)
    (period : RebatePeriodActual) : supplierInvoiceLines (ledgerInside ledger period) supplierId =
      rowsInside period (supplierInvoiceLines ledger supplierId) := by
  have hJoin : (ledgerInside ledger period).invoiceLines =
    ledger.invoiceLines.filter fun (_, invoice) =>
      decide (period.periodStart ≤ invoice.invoiceDate ∧
        invoice.invoiceDate ≤ period.periodEnd) := by
    rw [PurchaseLedger.invoiceLines, PurchaseLedger.invoiceLines, List.filter_flatMap]
    congr 1
    funext line
    rw [List.filter_map, List.filter_filter]
    simp only [ledgerInside, inPeriod, List.filter_filter, Function.comp_def, Bool.and_comm]
  rw [supplierInvoiceLines, hJoin, rowsInside, inPeriod, supplierInvoiceLines, List.filter_map,
    List.filter_filter, List.filter_filter]
  simp only [Function.comp_def, Bool.and_comm]

theorem supplierTransactions_inside (ledger : PurchaseLedger) (supplierId : ℕ)
    (period : RebatePeriodActual) : supplierTransactions (ledgerInside ledger period) supplierId =
      rowsInside period (supplierTransactions ledger supplierId) := by
  rw [supplierTransactions, rowsInside, inPeriod, supplierTransactions, List.filter_map,
    List.filter_filter]
  simp only [ledgerInside, inPeriod, List.filter_filter, Function.comp_def, Bool.and_comm]

section Figures

/-- The figures that a source gives from the rows inside the period. -/
def sumFigures (source : EntrySource) (rows : List (ℚ × ℚ × Date)) :
    EntrySource × Option Money × Option Money :=
  (source, some (roundCurrency (rows.map fun row => row.1).sum),
    some (FixedPoint.assign 4 (rows.map fun row => row.2.1).sum))

theorem hasSums_of_figures {source : EntrySource} {rows : List (ℚ × ℚ × Date)}
    (hVolumes : ∀ row ∈ rows, ∃ volume : Money, volume.value = row.2.1)
    (h : figures after = sumFigures source rows) : after.entrySource = source ∧
      HasSums after rows := by
  obtain ⟨hSource, hSpend, hVolume⟩ : after.entrySource = source ∧
      after.actualSpend = some (roundCurrency (rows.map fun row => row.1).sum) ∧
      after.actualVolume = some (FixedPoint.assign 4 (rows.map fun row => row.2.1).sum) := by
    simpa [figures, sumFigures] using h
  refine ⟨hSource, hSpend, ?_⟩
  rw [hVolume, Option.map_some, FixedPoint.value_assign_sum]
  intro q hq
  obtain ⟨row, hRow, rfl⟩ := List.mem_map.mp hq
  exact hVolumes row hRow

theorem volume_of_invoiceLine {row : ℚ × ℚ × Date}
    (h : row ∈ rowsInside period (supplierInvoiceLines ledger supplierId)) :
    ∃ volume : Money, volume.value = row.2.1 := by
  obtain ⟨⟨line, invoice⟩, -, rfl⟩ := List.mem_map.mp (List.mem_filter.mp h).1
  exact ⟨line.quantity, rfl⟩

theorem volume_of_transaction {row : ℚ × ℚ × Date}
    (h : row ∈ rowsInside period (supplierTransactions ledger supplierId)) :
    ∃ volume : Money, volume.value = row.2.1 := by
  obtain ⟨transaction, -, rfl⟩ := List.mem_map.mp (List.mem_filter.mp h).1
  cases hQuantity : transaction.quantity with
  | none => exact ⟨0, by simp⟩
  | some quantity => exact ⟨quantity, by simp⟩

theorem rowsInside_idem (rows : List (ℚ × ℚ × Date)) :
    rowsInside period (rowsInside period rows) = rowsInside period rows := by
  simp only [rowsInside, inPeriod, List.filter_filter, Bool.and_self]

variable (hLedger : ledger.NoCorrections)
include hLedger

theorem recalculatedFigures_of_invoices
    (h : period.entrySource = .invoiceAggregation ∨ supplierInvoiceLines ledger supplierId ≠ []) :
    recalculatedFigures ledger supplierId period =
      sumFigures .invoiceAggregation (rowsInside period (supplierInvoiceLines ledger supplierId)) := by
  have hChosen : chooseSource ledger supplierId period =
      (supplierInvoiceLines ledger supplierId, .invoiceAggregation) := by
    simp only [chooseSource, invoiceTuples_eq hLedger]
    obtain hSource | hRows := h
    · rw [if_pos hSource]
    · rw [if_pos hRows, ite_self]
  simp [recalculatedFigures, aggregatedRow, hChosen, figures, sumFigures,
    aggregateTransactionsForPeriod, rowsInside]

theorem recalculatedFigures_of_transactions (hSource : period.entrySource ≠ .invoiceAggregation)
    (hInvoices : supplierInvoiceLines ledger supplierId = [])
    (h : supplierTransactions ledger supplierId ≠ [] ∨
      period.entrySource = .transactionAggregation) :
    recalculatedFigures ledger supplierId period =
      sumFigures .transactionAggregation
        (rowsInside period (supplierTransactions ledger supplierId)) := by
  have hChosen : chooseSource ledger supplierId period =
      (supplierTransactions ledger supplierId, .transactionAggregation) := by
    simp only [chooseSource, invoiceTuples_eq hLedger, transactionTuples_eq hLedger, hInvoices]
    rw [if_neg hSource, if_neg (not_not_intro rfl)]
    obtain hRows | hSame := h
    · rw [if_pos hRows]
    · rw [hSame, ite_self]
  simp [recalculatedFigures, aggregatedRow, hChosen, figures, sumFigures,
    aggregateTransactionsForPeriod, rowsInside]

theorem recalculatedFigures_of_manual (hSource : period.entrySource = .manual)
    (hInvoices : supplierInvoiceLines ledger supplierId = [])
    (hTransactions : supplierTransactions ledger supplierId = []) :
    recalculatedFigures ledger supplierId period = figures period := by
  simp [recalculatedFigures, aggregatedRow, chooseSource, invoiceTuples_eq hLedger,
    transactionTuples_eq hLedger, hInvoices, hTransactions, hSource]

theorem recalculatedFigures_cases (supplierId : ℕ) (period : RebatePeriodActual) :
    (recalculatedFigures ledger supplierId period = sumFigures .invoiceAggregation
        (rowsInside period (supplierInvoiceLines ledger supplierId)) ∧
      (period.entrySource = .invoiceAggregation ∨ supplierInvoiceLines ledger supplierId ≠ [])) ∨
    (recalculatedFigures ledger supplierId period = sumFigures .transactionAggregation
        (rowsInside period (supplierTransactions ledger supplierId)) ∧
      period.entrySource ≠ .invoiceAggregation ∧ supplierInvoiceLines ledger supplierId = [] ∧
      (supplierTransactions ledger supplierId ≠ [] ∨
        period.entrySource = .transactionAggregation)) ∨
    (recalculatedFigures ledger supplierId period = figures period ∧ period.entrySource = .manual ∧
      supplierInvoiceLines ledger supplierId = [] ∧ supplierTransactions ledger supplierId =
        []) := by
  by_cases hInvoices : period.entrySource = .invoiceAggregation ∨
    supplierInvoiceLines ledger supplierId ≠ []
  · exact .inl ⟨recalculatedFigures_of_invoices hLedger hInvoices, hInvoices⟩
  · rw [not_or, not_ne_iff] at hInvoices
    obtain ⟨hSource, hNone⟩ := hInvoices
    by_cases hTransactions : supplierTransactions ledger supplierId ≠ [] ∨
        period.entrySource = .transactionAggregation
    · exact .inr (.inl ⟨recalculatedFigures_of_transactions hLedger hSource hNone hTransactions,
        hSource, hNone, hTransactions⟩)
    · rw [not_or, not_ne_iff] at hTransactions
      have hManual : period.entrySource = .manual := by
        cases hEntry : period.entrySource with
        | manual => rfl
        | transactionAggregation => exact absurd hEntry hTransactions.2
        | invoiceAggregation => exact absurd hEntry hSource
      exact .inr (.inr ⟨recalculatedFigures_of_manual hLedger hManual hNone hTransactions.1,
        hManual, hNone, hTransactions.1⟩)

end Figures

section Equivalence

theorem rowsInside_eq_nil {rows : List (ℚ × ℚ × Date)} (h : rows = []) :
    rowsInside period rows = [] := by
  rw [h]
  rfl

variable (hLedger : ledger.NoCorrections)
include hLedger

/-- A source never moves down, whatever rows there are. -/
theorem rank_le_recalculatedFigures (supplierId : ℕ) (period : RebatePeriodActual) :
    period.entrySource.rank ≤ (recalculatedFigures ledger supplierId period).1.rank := by
  obtain ⟨h, -⟩ | ⟨h, hSource, -⟩ | ⟨h, -⟩ := recalculatedFigures_cases hLedger supplierId period
  · rw [h]
    cases period.entrySource <;> simp [sumFigures, EntrySource.rank]
  · rw [h]
    cases hEntry : period.entrySource with
    | manual | transactionAggregation => simp [sumFigures, EntrySource.rank]
    | invoiceAggregation => exact absurd hEntry hSource
  · rw [h]
    exact le_rfl

/-- Rows outside the period matter exactly when they alone choose its source. -/
theorem recalculatedFigures_inside_iff (supplierId : ℕ) (period : RebatePeriodActual) :
    recalculatedFigures ledger supplierId period =
      recalculatedFigures (ledgerInside ledger period) supplierId period ↔
    ChosenInside ledger supplierId period := by
  have hInside :=
    recalculatedFigures_cases (ledgerInside_noCorrections hLedger period) supplierId period
  rw [supplierInvoiceLines_inside, supplierTransactions_inside, rowsInside_idem, rowsInside_idem]
    at hInside
  have hSources : ∀ {a b : EntrySource × Option Money × Option Money}, a.1 ≠ b.1 → a ≠ b :=
    fun hNe hEq => hNe (congrArg Prod.fst hEq)
  obtain ⟨h, hChoice⟩ | ⟨h, hSource, hNone, hChoice⟩ | ⟨h, hManual, hNone, hEmpty⟩ :=
    recalculatedFigures_cases hLedger supplierId period
  · obtain ⟨h', hChoice'⟩ | ⟨h', hSource', hNone', -⟩ | ⟨h', hManual', hNone', -⟩ := hInside
    · exact iff_of_true (h.trans h'.symm) (hChoice'.imp_right .inl)
    · rw [h, h']
      refine iff_of_false (hSources (by simp [sumFigures])) ?_
      rintro (hInvoice | hRows | ⟨hEmpty, -⟩)
      · exact hSource' hInvoice
      · exact hRows hNone'
      · exact hChoice.elim hSource' (· hEmpty)
    · rw [h, h']
      refine iff_of_false (hSources (by simp [sumFigures, figures, hManual'])) ?_
      rintro (hInvoice | hRows | ⟨hEmpty, -⟩)
      · cases hManual'.symm.trans hInvoice
      · exact hRows hNone'
      · exact hChoice.elim (fun hInvoice => nomatch hManual'.symm.trans hInvoice) (· hEmpty)
  · obtain ⟨-, hChoice'⟩ | ⟨h', -, -, hChoice'⟩ | ⟨h', hManual', -, hEmpty'⟩ := hInside
    · exact absurd hChoice' (not_or.mpr ⟨hSource, not_not_intro (rowsInside_eq_nil hNone)⟩)
    · exact iff_of_true (h.trans h'.symm) (.inr (.inr ⟨hNone, hChoice'.imp_right .inr⟩))
    · rw [h, h']
      refine iff_of_false (hSources (by simp [sumFigures, figures, hManual'])) ?_
      have hRows : supplierTransactions ledger supplierId ≠ [] :=
        hChoice.resolve_right fun hSame => nomatch hManual'.symm.trans hSame
      rintro (hInvoice | hInvoices | ⟨-, hInside | hNoRows | hSame⟩)
      · exact hSource hInvoice
      · exact hInvoices (rowsInside_eq_nil hNone)
      · exact hInside hEmpty'
      · exact hRows hNoRows
      · cases hManual'.symm.trans hSame
  · obtain ⟨-, hChoice'⟩ | ⟨-, -, -, hChoice'⟩ | ⟨h', -⟩ := hInside
    · refine absurd hChoice' (not_or.mpr ⟨?_, not_not_intro (rowsInside_eq_nil hNone)⟩)
      rw [hManual]
      decide
    · refine absurd hChoice' (not_or.mpr ⟨not_not_intro (rowsInside_eq_nil hEmpty), ?_⟩)
      rw [hManual]
      decide
    · exact iff_of_true (h.trans h'.symm) (.inr (.inr ⟨hNone, .inr (.inl hEmpty)⟩))

theorem waterfall_iff_chosenInside
    (hAfter : figures after = recalculatedFigures ledger supplierId period) :
    Waterfall ledger supplierId period after ↔ ChosenInside ledger supplierId period := by
  constructor
  · intro h
    exact (recalculatedFigures_inside_iff hLedger supplierId period).mp (hAfter.symm.trans h.outside)
  · intro h
    constructor
    · intro hRows
      refine hasSums_of_figures (fun row hRow => volume_of_invoiceLine hRow) (hAfter.trans ?_)
      apply recalculatedFigures_of_invoices hLedger
      exact .inr fun hNone => hRows (rowsInside_eq_nil hNone)
    · intro hNone hSource hRows
      refine hasSums_of_figures (fun row hRow => volume_of_transaction hRow) (hAfter.trans ?_)
      obtain hInvoice | hInvoices | ⟨hEmpty, -⟩ := h
      · exact absurd hInvoice hSource
      · exact absurd hNone hInvoices
      · exact recalculatedFigures_of_transactions hLedger hSource hEmpty
          (.inl fun hEmpty => hRows (rowsInside_eq_nil hEmpty))
    · intro hNoInvoices hNoTransactions hManual
      refine hAfter.trans ?_
      obtain hInvoice | hInvoices | ⟨hEmpty, hInside | hNoRows | hSame⟩ := h
      · cases hManual.symm.trans hInvoice
      · exact absurd hNoInvoices hInvoices
      · exact absurd hNoTransactions hInside
      · exact recalculatedFigures_of_manual hLedger hManual hEmpty hNoRows
      · cases hManual.symm.trans hSame
    · exact hAfter.trans ((recalculatedFigures_inside_iff hLedger supplierId period).mpr h)
    · have hSource : after.entrySource = (recalculatedFigures ledger supplierId period).1 :=
        congrArg Prod.fst hAfter
      exact hSource ▸ rank_le_recalculatedFigures hLedger supplierId period

end Equivalence

section Calls

variable {start db db' : Db} {session : Session} {agreements : List RebateAgreement}

/-- A call in a session of its own, on any later state of the ledger. -/
def RecalculationCall (db db' : Db) : Prop :=
  ∃ (nextEventId : ℕ) (ledger : PurchaseLedger) (agreements : List RebateAgreement) (supplierId : ℕ)
    (minDate maxDate : Date) (now : Timestamp) (session : Session) (updated : List RebatePeriodActual),
    (∀ e ∈ db.events, e.id < nextEventId) ∧ ledger.NoCorrections ∧
      recalculateAffectedPeriods ⟨db, [], nextEventId⟩ ledger agreements supplierId minDate maxDate now =
        .ok (session, updated) ∧ session.db = db'

def NeverDowngraded (db : Db) : Prop :=
  ∀ db', Relation.ReflTransGen RecalculationCall db db' → ∀ period ∈ db.rebatePeriodActuals,
    ∃ after ∈ db'.rebatePeriodActuals, after.id = period.id ∧
      period.entrySource.rank ≤ after.entrySource.rank

theorem recalculateAffectedPeriods_rank (hSound : session.Sound start)
    (hLedger : ledger.NoCorrections) {supplierId : ℕ} {minDate maxDate : Date} {now : Timestamp}
    {session' : Session} {updated : List RebatePeriodActual}
    (h : recalculateAffectedPeriods session ledger agreements supplierId minDate maxDate now =
      .ok (session', updated)) :
    session'.Sound start ∧ ∀ period ∈ session.db.rebatePeriodActuals,
      ∃ after ∈ session'.db.rebatePeriodActuals,
      after.id = period.id ∧ period.entrySource.rank ≤ after.entrySource.rank := by
  obtain ⟨hSound', -, hFigures, hOthers⟩ := recalculateAffectedPeriods_spec hSound h
  refine ⟨hSound', ?_⟩
  intro period hPeriod
  by_cases hAffected : period.id ∈ (affectedPeriods session.db.rebatePeriodActuals
      (supplierAgreements agreements supplierId) minDate maxDate).map RebatePeriodActual.id
  · obtain ⟨same, hSame, hId⟩ := List.mem_map.mp hAffected
    obtain rfl : same = period :=
      eq_of_key_eq hSound.constrained.periods.keys (List.mem_filter.mp hSame).1 hPeriod hId
    obtain ⟨after, hAfter, hAfterId, hAfterFigures⟩ := hFigures same hSame
    have hSource : after.entrySource = (recalculatedFigures ledger supplierId same).1 :=
      congrArg Prod.fst hAfterFigures
    exact ⟨after, hAfter, hAfterId, hSource ▸ rank_le_recalculatedFigures hLedger supplierId same⟩
  · exact ⟨period, hOthers period hPeriod hAffected, rfl, le_rfl⟩

theorem neverDowngraded_of_constrained (hDb : db.Constrained) : NeverDowngraded db := by
  intro db' hCalls period hPeriod
  suffices h : db'.Constrained ∧ ∃ after ∈ db'.rebatePeriodActuals, after.id = period.id ∧
      period.entrySource.rank ≤ after.entrySource.rank from h.2
  induction hCalls with
  | refl => exact ⟨hDb, period, hPeriod, rfl, le_rfl⟩
  | tail _ hCall ih =>
    obtain ⟨hMid, middle, hMiddle, hMiddleId, hMiddleRank⟩ := ih
    obtain ⟨nextEventId, ledger, agreements, supplierId, minDate, maxDate, now, session, updated,
      hFresh, hLedger, hOk, rfl⟩ := hCall
    obtain ⟨hSound', hRanks⟩ :=
      recalculateAffectedPeriods_rank (Session.Sound.begin hMid hFresh) hLedger hOk
    obtain ⟨after, hAfter, hAfterId, hRank⟩ := hRanks middle hMiddle
    exact ⟨hSound'.constrained, after, hAfter, hAfterId.trans hMiddleId, hMiddleRank.trans hRank⟩

/-- A call goes through exactly when what it sums up fits the columns. After it the waterfall holds
of every affected period exactly when the rows that choose the sources lie inside the periods. -/
theorem recalculateAffectedPeriods_waterfall_iff (hSound : session.Sound start)
    (hLedger : ledger.NoCorrections) (agreements : List RebateAgreement) (supplierId : ℕ)
    (minDate maxDate : Date) (now : Timestamp) :
    let affected :=
  affectedPeriods session.db.rebatePeriodActuals (supplierAgreements agreements supplierId)
      minDate maxDate
    ((∃ result, recalculateAffectedPeriods session ledger agreements supplierId minDate maxDate
      now = .ok result) ↔
      ∀ before ∈ affected,
      AggregateFits ledger (supplierAgreements agreements supplierId) supplierId before) ∧
    ∀ session' updated,
      recalculateAffectedPeriods session ledger agreements supplierId minDate maxDate now =
        .ok (session', updated) →
      ((∀ before ∈ affected, ∃ after ∈ session'.db.rebatePeriodActuals, after.id = before.id ∧
          Waterfall ledger supplierId before after) ∧ NeverDowngraded session'.db ↔
        ∀ before ∈ affected, ChosenInside ledger supplierId before) := by
  intro affected
  refine ⟨recalculateAffectedPeriods_ok_iff hSound ledger supplierId minDate maxDate now, ?_⟩
  intro session' updated hCall
  obtain ⟨hSound', -, hFigures, -⟩ := recalculateAffectedPeriods_spec hSound hCall
  constructor
  · rintro ⟨hWaterfall, -⟩ before hBefore
    obtain ⟨after, hAfter, hId, hHolds⟩ := hWaterfall before hBefore
    obtain ⟨same, hSame, hSameId, hSameFigures⟩ := hFigures before hBefore
    obtain rfl : after = same :=
      eq_of_key_eq hSound'.constrained.periods.keys hAfter hSame (hId.trans hSameId.symm)
    exact (waterfall_iff_chosenInside hLedger hSameFigures).mp hHolds
  · intro hInside
    refine ⟨?_, neverDowngraded_of_constrained hSound'.constrained⟩
    intro before hBefore
    obtain ⟨after, hAfter, hId, hAfterFigures⟩ := hFigures before hBefore
    exact ⟨after, hAfter, hId,
      (waterfall_iff_chosenInside hLedger hAfterFigures).mpr (hInside before hBefore)⟩

def flatAgreement : RebateAgreement where
  id := 1
  organisationId := 1
  supplierId := some 1
  rebateType := .fixedPercentage
  flatRatePct := some ⟨50000⟩
  bands := none
  fixedAmount := none

theorem flatAgreement_valid : ∀ agreement ∈ [flatAgreement], agreement.Valid := by
  intro agreement h
  obtain rfl := List.mem_singleton.mp h
  exact rfl

def marchDay : Date := ⟨2026, 3, 15, by decide⟩

def marchLedger : PurchaseLedger where
  suppliers := [⟨1, "Supplier"⟩]
  purchaseInvoices := []
  purchaseInvoiceLines := []
  purchaseTransactions := [⟨1, 1, 1, none, none, marchDay, ⟨800000⟩, none, none, none⟩]

/-- The same ledger with an invoice of the quarter after. -/
def marchAndAprilLedger : PurchaseLedger :=
  { marchLedger with
    purchaseInvoices := [⟨1, 1, 1, ⟨2026, 4, 2, by decide⟩, none⟩]
    purchaseInvoiceLines := [⟨1, 1, none, none, ⟨10000⟩, ⟨500000⟩⟩] }

theorem marchLedger_noCorrections : marchLedger.NoCorrections where
  purchaseInvoices _ h := nomatch h
  purchaseTransactions transaction h := by
    obtain rfl := List.mem_singleton.mp h
    rfl

theorem marchAndAprilLedger_noCorrections : marchAndAprilLedger.NoCorrections where
  purchaseInvoices invoice h := by
    obtain rfl := List.mem_singleton.mp h
    rfl
  purchaseTransactions := marchLedger_noCorrections.purchaseTransactions

theorem openQuarterSession_sound : Session.Sound openQuarterDb ⟨openQuarterDb, [], 2⟩ := by
  apply Session.Sound.begin (Db.empty_valid.touching_run (.single openQuarterRecorded_step)).toConstrained
  intro e he
  obtain rfl := List.mem_singleton.mp he
  decide

theorem waterfall_of_march : ∃ session' updated,
    recalculateAffectedPeriods ⟨openQuarterDb, [], 2⟩ marchLedger [flatAgreement] 1 marchDay marchDay 0 =
        .ok (session', updated) ∧
      ∀ before ∈ openQuarterDb.rebatePeriodActuals, ∃ after ∈ session'.db.rebatePeriodActuals,
        after.id = before.id ∧ Waterfall marchLedger 1 before after := by
  obtain ⟨⟨session', updated⟩, hCall, -⟩ :=
    @exists_of_any _ _ (recalculateAffectedPeriods ⟨openQuarterDb, [], 2⟩
      marchLedger [flatAgreement] 1 marchDay marchDay 0) (fun _ => true) (by decide +kernel)
  have hIff :=
    (recalculateAffectedPeriods_waterfall_iff openQuarterSession_sound marchLedger_noCorrections
      [flatAgreement] 1 marchDay marchDay 0).2 session' updated hCall
  refine ⟨session', updated, hCall, (hIff.mpr ?_).1⟩
  intro before hBefore
  obtain rfl := List.mem_singleton.mp (List.mem_filter.mp hBefore).1
  unfold ChosenInside
  decide +kernel

/-- An invoice of April alone moves the quarter before to an invoice total of zero. -/
theorem invoice_after_quarter_breaks_waterfall :
    ¬∀ (start : Db) (session session' : Session) (ledger : PurchaseLedger) (agreements : List RebateAgreement)
      (supplierId : ℕ) (minDate maxDate : Date) (now : Timestamp)
      (updated : List RebatePeriodActual),
      session.Sound start → ledger.NoCorrections → (∀ agreement ∈ agreements, agreement.Valid) →
      recalculateAffectedPeriods session ledger agreements supplierId minDate maxDate now =
        .ok (session', updated) →
      ∀ before ∈ affectedPeriods session.db.rebatePeriodActuals (supplierAgreements agreements supplierId)
          minDate maxDate,
        ∃ after ∈ session'.db.rebatePeriodActuals, after.id = before.id ∧
          Waterfall ledger supplierId before after := by
  intro h
  obtain ⟨⟨session', updated⟩, hCall, -⟩ :=
    @exists_of_any _ _ (recalculateAffectedPeriods ⟨openQuarterDb, [], 2⟩
      marchAndAprilLedger [flatAgreement] 1 marchDay marchDay 0) (fun _ => true) (by decide +kernel)
  obtain ⟨hSound', -, hFigures, -⟩ := recalculateAffectedPeriods_spec openQuarterSession_sound hCall
  have hQuarter : { openQuarter with expectedAmountCurrentEventId := some 1 } ∈
      affectedPeriods openQuarterDb.rebatePeriodActuals (supplierAgreements [flatAgreement] 1)
        marchDay marchDay := by decide +kernel
  obtain ⟨after, hAfter, hId, hWaterfall⟩ := h _ _ _ _ _ _ _ _ _ _ openQuarterSession_sound
    marchAndAprilLedger_noCorrections flatAgreement_valid hCall _ hQuarter
  obtain ⟨same, hSame, hSameId, hSameFigures⟩ := hFigures _ hQuarter
  obtain rfl : after = same :=
    eq_of_key_eq hSound'.constrained.periods.keys hAfter hSame (hId.trans hSameId.symm)
  have hInside :=
    (waterfall_iff_chosenInside marchAndAprilLedger_noCorrections hSameFigures).mp hWaterfall
  revert hInside
  unfold ChosenInside
  decide +kernel

end Calls

end ProcureFoundation.Rebate
