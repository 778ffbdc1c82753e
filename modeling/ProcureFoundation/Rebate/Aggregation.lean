import ProcureFoundation.Ledger.CorrectedTotals
import ProcureFoundation.Rebate.Service

/-!
# Rebate aggregation

Every open period of the supplier that overlaps the uploaded dates is re-aggregated from
the best source. The source is chosen from all rows of the supplier, while the sums are
taken over the rows inside the period.
-/

namespace ProcureFoundation.Rebate

open Outcome Evidence KeyedRows Ledger

def supplierAgreements (agreements : List RebateAgreement) (supplierId : ℕ) :
    List RebateAgreement :=
  agreements.filter fun agreement => agreement.supplierId == some supplierId

def affectedPeriods (periods : List RebatePeriodActual) (agreements : List RebateAgreement)
    (minDate maxDate : Date) : List RebatePeriodActual :=
  periods.filter fun period =>
    decide (period.rebateAgreementId ∈ agreements.map RebateAgreement.id) &&
      period.earnedAmount.isNone &&
      decide (period.periodStart ≤ maxDate) && decide (minDate ≤ period.periodEnd)

def chooseSource (ledger : PurchaseLedger) (supplierId : ℕ) (period : RebatePeriodActual) :
    List (ℚ × ℚ × Date) × EntrySource :=
  let invoices := invoiceTuples ledger supplierId period.periodStart period.periodEnd
  if period.entrySource = .invoiceAggregation then (invoices, .invoiceAggregation)
  else if invoices ≠ [] then (invoices, .invoiceAggregation)
  else
    let transactions := transactionTuples ledger supplierId period.periodStart period.periodEnd
    (transactions, if transactions ≠ [] then .transactionAggregation else period.entrySource)

/-- The row with its new figures, unless it stays manual. -/
def aggregatedRow (ledger : PurchaseLedger) (supplierId : ℕ) (period : RebatePeriodActual) :
    Option RebatePeriodActual :=
  let (sourceTuples, entrySource) := chooseSource ledger supplierId period
  if entrySource = .invoiceAggregation ∨ entrySource = .transactionAggregation then
    let aggregate := aggregateTransactionsForPeriod sourceTuples period.periodStart period.periodEnd
    some { period with
      actualSpend := some aggregate.totalSpend
      actualVolume := some (FixedPoint.assign 4 aggregate.totalVolume)
      entrySource := entrySource }
  else none

/-- One turn of the loop, whatever the new figures of a period come from. -/
def recalculatePeriodBy (aggregated : RebatePeriodActual → Option RebatePeriodActual)
    (agreements : List RebateAgreement) (now : Timestamp)
    (state : Session × List RebatePeriodActual) (period : RebatePeriodActual) :
    Except ServiceError (Session × List RebatePeriodActual) :=
  match aggregated period with
  | none => .ok state
  | some row =>
    match agreements.find? fun agreement => agreement.id == row.rebateAgreementId with
    | none => .error (.value (toString row.rebateAgreementId))
    | some agreement => do
      let (session, row) ← recalculateExpected state.1 agreement row
        (row.actualSpend.map FixedPoint.value)
        now none ("rebate_aggregation_recalc:" ++ toString row.id ++ ":" ++ row.entrySource.text)
          "recalculation"
      return (session, state.2 ++ [row])

def recalculatePeriod (ledger : PurchaseLedger) (agreements : List RebateAgreement) (supplierId : ℕ)
    (now : Timestamp) : Session × List RebatePeriodActual → RebatePeriodActual →
      Except ServiceError (Session × List RebatePeriodActual) :=
  recalculatePeriodBy (aggregatedRow ledger supplierId) agreements now

def recalculateAffectedPeriodsBy (aggregated : RebatePeriodActual → Option RebatePeriodActual)
    (session : Session) (agreements : List RebateAgreement) (supplierId : ℕ)
    (minDate maxDate : Date) (now : Timestamp) :
    Except ServiceError (Session × List RebatePeriodActual) :=
  let agreements := supplierAgreements agreements supplierId
  (affectedPeriods session.db.rebatePeriodActuals agreements minDate maxDate).foldlM
    (recalculatePeriodBy aggregated agreements now) (session, [])

def recalculateAffectedPeriods (session : Session) (ledger : PurchaseLedger)
    (agreements : List RebateAgreement) (supplierId : ℕ) (minDate maxDate : Date)
    (now : Timestamp) :
    Except ServiceError (Session × List RebatePeriodActual) :=
  recalculateAffectedPeriodsBy (aggregatedRow ledger supplierId) session agreements supplierId
    minDate maxDate now

/-- New figures for the record of the period, with a spend among them. -/
structure Aggregates (aggregated : RebatePeriodActual → Option RebatePeriodActual) : Prop where
  sameRecord : ∀ {period row}, aggregated period = some row → SameRecord period row
  spend : ∀ {period row}, aggregated period = some row → ∃ spend, row.actualSpend = some spend

theorem aggregates_aggregatedRow (ledger : PurchaseLedger) (supplierId : ℕ) :
    Aggregates (aggregatedRow ledger supplierId) := by
  constructor
  all_goals
    intro period row h
    simp only [aggregatedRow, Option.ite_none_right_eq_some, Option.some.injEq] at h
    obtain ⟨-, rfl⟩ := h
  · rfl
  · exact ⟨_, rfl⟩

theorem sameRecord_of_aggregatedRow {ledger : PurchaseLedger} {supplierId : ℕ}
    {period row : RebatePeriodActual} (h : aggregatedRow ledger supplierId period = some row) :
    SameRecord period row :=
  (aggregates_aggregatedRow ledger supplierId).sameRecord h

section Run

variable {start : Db} {session : Session} {ledger : PurchaseLedger}
  {agreements : List RebateAgreement} {supplierId : ℕ} {now : Timestamp}
  {period row : RebatePeriodActual} {updated : List RebatePeriodActual}
  {aggregated : RebatePeriodActual → Option RebatePeriodActual}

/-- The new figures and the amount that the agreement of the period makes of them fit their columns.
-/
def AggregateFitsBy (aggregated : RebatePeriodActual → Option RebatePeriodActual)
    (agreements : List RebateAgreement) (period : RebatePeriodActual) : Prop :=
  ∀ row, aggregated period = some row →
    ∃ agreement, (agreements.find? fun agreement => agreement.id == row.rebateAgreementId) =
      some agreement ∧ Recordable agreement row (row.actualSpend.map FixedPoint.value)

/-- The sums over the ledger fit. -/
def AggregateFits (ledger : PurchaseLedger) (agreements : List RebateAgreement) (supplierId : ℕ) :
    RebatePeriodActual → Prop :=
  AggregateFitsBy (aggregatedRow ledger supplierId) agreements

theorem recalculatePeriodBy_none (h : aggregated period = none) :
    recalculatePeriodBy aggregated agreements now (session, updated) period =
      .ok (session, updated) := by
  rw [recalculatePeriodBy, h]

def aggregationEvent (session : Session) (row : RebatePeriodActual) (amount : Money)
    (now : Timestamp) : FinancialAmountStatusEvent :=
  nextExpectedAmountEvent session row (calculatedAmount amount now) none
    ("rebate_aggregation_recalc:" ++ toString row.id ++ ":" ++ row.entrySource.text) "recalculation"

theorem recalculatePeriodBy_some (now : Timestamp) (updated : List RebatePeriodActual)
    (hBy : Aggregates aggregated) (hSound : session.Sound start)
    (hMem : period ∈ session.db.rebatePeriodActuals)
    (hFits : AggregateFitsBy aggregated agreements period) (h : aggregated period = some row) :
    row.figuresFit ∧ ∃ amount, fitsNumeric 18 (some amount) ∧
      recalculatePeriodBy aggregated agreements now (session, updated) period =
        .ok (recalculatedSession session row (aggregationEvent session row amount now) now,
          updated ++ [recalculatedRow row (calculatedAmount amount now) session.nextEventId now]) ∧
      (recalculatedSession session row (aggregationEvent session row amount now) now).Sound start := by
  have hSame := hBy.sameRecord h
  obtain ⟨agreement, hFind, hRecordable⟩ := hFits row h
  obtain ⟨amount, hAmount, hRecalculate⟩ :=
    @recalculateExpected_eq_ok start session agreement period row now none
      ("rebate_aggregation_recalc:" ++ toString row.id ++ ":" ++ row.entrySource.text) "recalculation"
      hSound hMem hSame _ hRecordable (.inl rfl)
  obtain ⟨-, -, -, hSound'⟩ := recalculatedSession_sound hSound hMem hSame hRecordable.figures
    (.inr ⟨amount, now, hAmount, rfl⟩) none
    ("rebate_aggregation_recalc:" ++ toString row.id ++ ":" ++ row.entrySource.text) (.inl rfl) now
  refine ⟨hRecordable.figures, amount, hAmount, ?_, hSound'⟩
  rw [recalculatePeriodBy, h]
  simp only [hFind]
  exact bind_of_eq_ok hRecalculate _

theorem aggregateFitsBy_of_recalculatePeriodBy (hBy : Aggregates aggregated)
    (hMem : period ∈ session.db.rebatePeriodActuals) {result : Session × List RebatePeriodActual}
    (h : recalculatePeriodBy aggregated agreements now (session, updated) period = .ok result) :
    AggregateFitsBy aggregated agreements period := by
  intro row hRow
  have hSame := hBy.sameRecord hRow
  obtain ⟨spend, hSpend⟩ := hBy.spend hRow
  rw [recalculatePeriodBy, hRow] at h
  dsimp only at h
  cases hFind : agreements.find? fun agreement => agreement.id == row.rebateAgreementId with
  | none =>
    rw [hFind] at h
    cases h
  | some agreement =>
    rw [hFind, hSpend] at h
    obtain ⟨recalculated, hRecalculate, -⟩ := exists_of_bind_eq_ok h
    refine ⟨agreement, rfl, ?_⟩
    rw [hSpend]
    exact recordable_of_recalculateExpected ⟨period, hMem, hSame.key.symm⟩ hRecalculate

/-- What a recalculation may change and an out-of-period row may not. -/
def figures (period : RebatePeriodActual) : EntrySource × Option Money × Option Money :=
  (period.entrySource, period.actualSpend, period.actualVolume)

def recalculatedFigures (ledger : PurchaseLedger) (supplierId : ℕ) (period : RebatePeriodActual) :
    EntrySource × Option Money × Option Money :=
  figures ((aggregatedRow ledger supplierId period).getD period)

theorem mem_recalculatedSession {event : FinancialAmountStatusEvent}
    (hMem : period ∈ session.db.rebatePeriodActuals) (hSame : SameRecord period row) :
    recalculatedRow row event.new event.id now ∈
      (recalculatedSession session row event now).db.rebatePeriodActuals :=
  mem_replace_self (mem_replace_self hMem hSame.key.symm) rfl

theorem mem_recalculatedSession_of_ne {event : FinancialAmountStatusEvent}
    {other : RebatePeriodActual} (hOther : other ∈ session.db.rebatePeriodActuals)
    (hNe : other.id ≠ row.id) :
    other ∈ (recalculatedSession session row event now).db.rebatePeriodActuals :=
  mem_replace_of_ne (mem_replace_of_ne hOther hNe) hNe

/-- The loop finds the periods that are still to come as they were. -/
theorem kept_of_recalculatedSession {event : FinancialAmountStatusEvent}
    {rest : List RebatePeriodActual} (hSame : SameRecord period row)
    (hNotIn : period.id ∉ rest.map RebatePeriodActual.id)
    (hRest : ∀ other ∈ rest, other ∈ session.db.rebatePeriodActuals) :
    ∀ other ∈ rest, other ∈ (recalculatedSession session row event now).db.rebatePeriodActuals := by
  intro other hOther
  refine mem_recalculatedSession_of_ne (hRest other hOther) ?_
  rw [hSame.key]
  exact fun hEq => hNotIn (hEq ▸ List.mem_map_of_mem hOther)

theorem recalculatePeriodsBy_spec (hBy : Aggregates aggregated) (hSound : session.Sound start)
    (periods : List RebatePeriodActual)
    (hMem : ∀ period ∈ periods, period ∈ session.db.rebatePeriodActuals)
    (hIds : (periods.map RebatePeriodActual.id).Nodup)
    (hFits : ∀ period ∈ periods, AggregateFitsBy aggregated agreements period) :
    ∃ session' updated', periods.foldlM (recalculatePeriodBy aggregated agreements now)
    (session, updated) =
        .ok (session', updated') ∧ session'.Sound start ∧ session.Extends session' ∧
      (∀ period ∈ periods, ∃ after ∈ session'.db.rebatePeriodActuals, after.id = period.id ∧
        figures after = figures ((aggregated period).getD period)) ∧
      ∀ other ∈ session.db.rebatePeriodActuals, other.id ∉ periods.map RebatePeriodActual.id →
        other ∈ session'.db.rebatePeriodActuals := by
  induction periods generalizing session updated with
  | nil =>
    exact ⟨session, updated, rfl, hSound, Session.Extends.refl session, (fun _ h => nomatch h),
      fun other hOther _ => hOther⟩
  | cons head rest ih =>
    rw [List.map_cons, List.nodup_cons] at hIds
    have hHead := hMem head List.mem_cons_self
    have hRest : ∀ period ∈ rest, period ∈ session.db.rebatePeriodActuals :=
      fun period h => hMem period (List.mem_cons_of_mem _ h)
    have hRestFits : ∀ period ∈ rest, AggregateFitsBy aggregated agreements period :=
      fun period h => hFits period (List.mem_cons_of_mem _ h)
    cases hRow : aggregated head with
    | none =>
      obtain ⟨session', updated', hFold, hSound', hExtends, hFigures, hOthers⟩ :=
        ih hSound hRest hIds.2 hRestFits
      refine ⟨session', updated', ?_, hSound', hExtends, ?_, ?_⟩
      · rw [List.foldlM_cons, bind_of_eq_ok (recalculatePeriodBy_none hRow)]
        exact hFold
      · intro period hPeriod
        obtain rfl | hPeriod := List.mem_cons.mp hPeriod
        · refine ⟨period, hOthers period hHead hIds.1, rfl, ?_⟩
          rw [hRow, Option.getD_none]
        · exact hFigures period hPeriod
      · intro other hOther hNotIn
        rw [List.map_cons, List.mem_cons, not_or] at hNotIn
        exact hOthers other hOther hNotIn.2
    | some row =>
      have hSame := hBy.sameRecord hRow
      obtain ⟨-, amount, -, hStep, hStepSound⟩ :=
        recalculatePeriodBy_some now updated hBy hSound hHead (hFits head List.mem_cons_self) hRow
      set event := aggregationEvent session row amount now
      obtain ⟨session', updated', hFold, hSound', hExtends, hFigures, hOthers⟩ :=
        ih hStepSound (kept_of_recalculatedSession hSame hIds.1 hRest) hIds.2 hRestFits
      refine ⟨session', updated', ?_, hSound',
        (recalculatedSession_extends session row event now).trans hExtends, ?_, ?_⟩
      · rw [List.foldlM_cons, bind_of_eq_ok hStep]
        exact hFold
      · intro period hPeriod
        obtain rfl | hPeriod := List.mem_cons.mp hPeriod
        · refine ⟨_, hOthers _ (mem_recalculatedSession hHead hSame) (hSame.key ▸ hIds.1),
            hSame.key, ?_⟩
          rw [hRow, Option.getD_some]
          rfl
        · exact hFigures period hPeriod
      · intro other hOther hNotIn
        rw [List.map_cons, List.mem_cons, not_or] at hNotIn
        exact hOthers other (mem_recalculatedSession_of_ne hOther (hSame.key ▸ hNotIn.1)) hNotIn.2

/-- A loop that goes through has stored what it sums up, so all of it fits. -/
theorem aggregateFitsBy_of_recalculatePeriodsBy (hBy : Aggregates aggregated)
    (hSound : session.Sound start) (periods : List RebatePeriodActual)
    (hMem : ∀ period ∈ periods, period ∈ session.db.rebatePeriodActuals)
    (hIds : (periods.map RebatePeriodActual.id).Nodup) {result : Session × List RebatePeriodActual}
    (h : periods.foldlM (recalculatePeriodBy aggregated agreements now) (session, updated) =
      .ok result) :
    ∀ period ∈ periods, AggregateFitsBy aggregated agreements period := by
  induction periods generalizing session updated with
  | nil => exact fun _ hNone => nomatch hNone
  | cons head rest ih =>
    rw [List.map_cons, List.nodup_cons] at hIds
    have hHead := hMem head List.mem_cons_self
    have hRest : ∀ period ∈ rest, period ∈ session.db.rebatePeriodActuals :=
      fun period h => hMem period (List.mem_cons_of_mem _ h)
    rw [List.foldlM_cons] at h
    obtain ⟨state, hStep, hFold⟩ := exists_of_bind_eq_ok h
    have hFits := aggregateFitsBy_of_recalculatePeriodBy hBy hHead hStep
    refine List.forall_mem_cons.mpr ⟨hFits, ?_⟩
    cases hRow : aggregated head with
    | none =>
      obtain rfl := Except.ok.inj ((recalculatePeriodBy_none hRow).symm.trans hStep)
      exact ih hSound hRest hIds.2 hFold
    | some row =>
      have hSame := hBy.sameRecord hRow
      obtain ⟨-, amount, -, hStored, hStepSound⟩ :=
        recalculatePeriodBy_some now updated hBy hSound hHead hFits hRow
      obtain rfl := Except.ok.inj (hStored.symm.trans hStep)
      exact ih hStepSound (kept_of_recalculatedSession hSame hIds.1 hRest) hIds.2 hFold

theorem affectedPeriods_subset {periods : List RebatePeriodActual} {minDate maxDate : Date} :
    ∀ period ∈ affectedPeriods periods agreements minDate maxDate, period ∈ periods :=
  fun _ hPeriod => (List.mem_filter.mp hPeriod).1

theorem affectedPeriods_nodup (hSound : session.Sound start) (minDate maxDate : Date) :
    ((affectedPeriods session.db.rebatePeriodActuals agreements minDate maxDate).map
      RebatePeriodActual.id).Nodup :=
  hSound.constrained.periods.keys.sublist (List.filter_sublist.map _)

theorem recalculateAffectedPeriodsBy_ok_iff (hBy : Aggregates aggregated)
    (hSound : session.Sound start) (supplierId : ℕ) (minDate maxDate : Date) (now : Timestamp) :
    (∃ result, recalculateAffectedPeriodsBy aggregated session agreements supplierId minDate maxDate now =
        .ok result) ↔
      ∀ period ∈ affectedPeriods session.db.rebatePeriodActuals (supplierAgreements agreements supplierId) minDate
        maxDate, AggregateFitsBy aggregated (supplierAgreements agreements supplierId) period := by
  constructor
  · rintro ⟨result, h⟩
    exact aggregateFitsBy_of_recalculatePeriodsBy hBy hSound _ affectedPeriods_subset
      (affectedPeriods_nodup hSound _ _) h
  · intro hFits
    obtain ⟨session', updated', h, -⟩ :=
      recalculatePeriodsBy_spec hBy hSound _ affectedPeriods_subset
        (affectedPeriods_nodup hSound _ _) hFits
    exact ⟨_, h⟩

theorem recalculateAffectedPeriods_ok_iff (hSound : session.Sound start) (ledger : PurchaseLedger)
    (supplierId : ℕ) (minDate maxDate : Date) (now : Timestamp) :
    (∃ result, recalculateAffectedPeriods session ledger agreements supplierId minDate maxDate now =
      .ok result) ↔
      ∀ period ∈ affectedPeriods session.db.rebatePeriodActuals (supplierAgreements agreements supplierId) minDate
        maxDate, AggregateFits ledger (supplierAgreements agreements supplierId) supplierId period :=
  recalculateAffectedPeriodsBy_ok_iff (aggregates_aggregatedRow ledger supplierId) hSound supplierId
    minDate maxDate now

/-- A call that goes through gives every affected period its figures and touches no other row. -/
theorem recalculateAffectedPeriods_spec (hSound : session.Sound start) {ledger : PurchaseLedger}
    {supplierId : ℕ} {minDate maxDate : Date} {now : Timestamp} {session' : Session}
    {updated : List RebatePeriodActual}
    (h : recalculateAffectedPeriods session ledger agreements supplierId minDate maxDate now =
      .ok (session', updated)) :
    let affected :=
  affectedPeriods session.db.rebatePeriodActuals (supplierAgreements agreements supplierId)
      minDate maxDate
    session'.Sound start ∧ session.Extends session' ∧
      (∀ period ∈ affected, ∃ after ∈ session'.db.rebatePeriodActuals, after.id = period.id ∧
        figures after = recalculatedFigures ledger supplierId period) ∧
      ∀ other ∈ session.db.rebatePeriodActuals, other.id ∉ affected.map RebatePeriodActual.id →
        other ∈ session'.db.rebatePeriodActuals := by
  intro affected
  have hFits :=
    (recalculateAffectedPeriods_ok_iff hSound ledger supplierId minDate maxDate now).mp ⟨_, h⟩
  obtain ⟨spec, specUpdated, hCall, hSpec⟩ :=
    recalculatePeriodsBy_spec (aggregates_aggregatedRow ledger supplierId)
      hSound affected affectedPeriods_subset (affectedPeriods_nodup hSound _ _) hFits
  obtain ⟨rfl, -⟩ := Prod.mk.inj (Except.ok.inj (hCall.symm.trans h))
  exact hSpec

end Run

end ProcureFoundation.Rebate
