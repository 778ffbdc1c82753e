import ProcureFoundation.Ingestion.PurchaseTransactionService
import ProcureFoundation.Rebate.RecalculationAccepted

/-!
# Uploads of purchase transactions

An upload inserts its rows and re-aggregates the open rebate periods that they touch, in one
transaction. So it is refused as a whole by a row that cannot be read or stored, and by a period
that cannot take its new figures.
-/

namespace ProcureFoundation.Ingestion

open Outcome Evidence Rebate Ledger

/-- What an upload reads of the tables. -/
structure UploadTables where
  db : Db
  nextEventId : ℕ
  ledger : PurchaseLedger
  nextTransactionId : ℕ
  agreements : List RebateAgreement

namespace UploadTables

variable (tables : UploadTables) (organisationId supplierId : ℕ)
  (stored : List (PurchaseTransaction (Numeric 4)))

/-- A quantity that is no number is left out here, and its volume below. -/
def insertedRows : List Ledger.PurchaseTransaction :=
  (stored.zipIdx tables.nextTransactionId).filterMap fun (row, id) =>
    row.amount.number?.map fun amount => {
      id, organisationId, supplierId
      supplierSku := row.supplierSku
      description := row.description
      transactionDate := row.transactionDate
      amount
      quantity := row.quantity.bind Numeric.number?
      reference := row.reference
      correctsId := none }

def ledgerAfter : PurchaseLedger :=
  { tables.ledger with
    purchaseTransactions :=
      tables.ledger.purchaseTransactions ++ tables.insertedRows organisationId supplierId stored }

/-- The period's row with the sums over the ledger after the insert. A volume that is no number fits
its column and is not read again, so the row does without it. -/
def aggregatedUpload (period : RebatePeriodActual) : Option RebatePeriodActual :=
  (aggregatedRow (tables.ledgerAfter organisationId supplierId stored) supplierId period).map fun row =>
    if row.entrySource = .transactionAggregation ∧ ∃ transaction ∈ stored,
      transaction.quantity = some .nan ∧
        period.periodStart ≤ transaction.transactionDate ∧ transaction.transactionDate ≤
          period.periodEnd then
      { row with actualVolume := none }
    else row

/-- The open periods of the supplier between the first and the last date of the rows. -/
def touchedPeriods : List RebatePeriodActual :=
  let dates := stored.map PurchaseTransaction.transactionDate
  match dates.min?, dates.max? with
  | some minDate, some maxDate =>
    affectedPeriods tables.db.rebatePeriodActuals (supplierAgreements tables.agreements supplierId)
      minDate maxDate
  | _, _ => []

/-- Validation lets no amount pass that is no number; such an amount is refused here. -/
def recalculateUpload (now : Timestamp) : Except ServiceError Session :=
  let dates := stored.map PurchaseTransaction.transactionDate
  let session : Session := ⟨tables.db, [], tables.nextEventId⟩
  if ∃ row ∈ stored, row.amount = .nan then .error .invalidOperation
  else
    match dates.min?, dates.max? with
    | some minDate, some maxDate =>
      (recalculateAffectedPeriodsBy (tables.aggregatedUpload organisationId supplierId stored) session
        tables.agreements supplierId minDate maxDate now).map Prod.fst
    | _, _ => .ok session

/-- The stored rows and the tables after the commit. -/
def ingestTransactions (now : Timestamp) (rows : List TransactionRow) :
    Except ServiceError (List (PurchaseTransaction (Numeric 4)) × Db) := do
  let stored ← (insertTransactions rows).mapError ServiceError.value
  let session ← tables.recalculateUpload organisationId supplierId stored now
  let final ← session.commit
  return (stored, final)

/-- Every period that the rows re-aggregate takes its new figures: they fit its columns, and its
latest event is one that a recalculation may follow. -/
def AcceptsUpload : Prop :=
  ∀ period ∈ tables.touchedPeriods supplierId stored,
    AggregateFitsBy (tables.aggregatedUpload organisationId supplierId stored)
        (supplierAgreements tables.agreements supplierId) period ∧
      ((tables.aggregatedUpload organisationId supplierId stored period).isSome →
        AcceptsRecalculation tables.db.events period.id)

theorem aggregates_aggregatedUpload :
    Aggregates (tables.aggregatedUpload organisationId supplierId stored) := by
  have hBy := aggregates_aggregatedRow (tables.ledgerAfter organisationId supplierId stored) supplierId
  constructor
  all_goals
    intro period row h
    obtain ⟨aggregated, hRow, rfl⟩ := Option.map_eq_some_iff.mp h
    split
  · have hSame := hBy.sameRecord hRow
    rw [SameRecord] at hSame ⊢
    rw [hSame]
  · exact hBy.sameRecord hRow
  · obtain ⟨spend, hSpend⟩ := hBy.spend hRow
    exact ⟨spend, hSpend⟩
  · exact hBy.spend hRow

variable {tables organisationId supplierId stored}

theorem recalculateUpload_commits_iff (hDb : tables.db.Valid)
    (hFresh : ∀ e ∈ tables.db.events, e.id < tables.nextEventId)
    (hNumbers : ∀ row ∈ stored, row.amount ≠ .nan) (now : Timestamp) :
    (∃ session final, tables.recalculateUpload organisationId supplierId stored now = .ok session ∧
      session.commit = .ok final) ↔ tables.AcceptsUpload organisationId supplierId stored := by
  have hBegin := Session.Sound.begin hDb.toConstrained hFresh
  have hNoNan : ¬∃ row ∈ stored, row.amount = .nan :=
    fun ⟨row, hRow, hNan⟩ => hNumbers row hRow hNan
  have hBy := aggregates_aggregatedUpload tables organisationId supplierId stored
  rw [AcceptsUpload, touchedPeriods, recalculateUpload, if_neg hNoNan]
  split
  · rename_i minDate maxDate hMin hMax
    rw [← recalculateAffectedPeriodsBy_commits_iff hBy hBegin hDb tables.agreements supplierId
      minDate maxDate now]
    constructor
    · rintro ⟨session, final, hCall, hCommit⟩
      obtain ⟨⟨same, updated⟩, hResult, rfl⟩ := exists_of_map_eq_ok hCall
      exact ⟨same, updated, final, hResult, hCommit⟩
    · rintro ⟨session, updated, final, hCall, hCommit⟩
      exact ⟨session, final, by rw [hCall]; rfl, hCommit⟩
  · refine iff_of_true ⟨_, _, rfl, hBegin.commit_of_valid hDb⟩ ?_
    exact fun _ hNone => nomatch hNone

theorem ingestTransactions_ok_iff (hDb : tables.db.Valid)
    (hFresh : ∀ e ∈ tables.db.events, e.id < tables.nextEventId) {rows : List TransactionRow}
    (hInsert : insertTransactions rows = .ok stored) (hNumbers : ∀ row ∈ stored, row.amount ≠ .nan)
    (now : Timestamp) :
    (∃ final, tables.ingestTransactions organisationId supplierId now rows = .ok (stored, final)) ↔
      tables.AcceptsUpload organisationId supplierId stored := by
  rw [← recalculateUpload_commits_iff hDb hFresh hNumbers now]
  have hStored : (insertTransactions rows).mapError ServiceError.value = .ok stored := by
    rw [hInsert]
    rfl
  constructor
  · rintro ⟨final, h⟩
    rw [ingestTransactions, bind_of_eq_ok hStored] at h
    obtain ⟨session, hCall, h⟩ := exists_of_bind_eq_ok h
    obtain ⟨db, hCommit, -⟩ := exists_of_bind_eq_ok h
    exact ⟨session, db, hCall, hCommit⟩
  · rintro ⟨session, final, hCall, hCommit⟩
    refine ⟨final, ?_⟩
    rw [ingestTransactions, bind_of_eq_ok hStored, bind_of_eq_ok hCall, bind_of_eq_ok hCommit]
    rfl

theorem inserted_of_ingestTransactions {now : Timestamp} {rows : List TransactionRow} {final : Db}
    (h : tables.ingestTransactions organisationId supplierId now rows = .ok (stored, final)) :
    insertTransactions rows = .ok stored := by
  obtain ⟨inserted, hInsert, h⟩ := exists_of_bind_eq_ok h
  obtain ⟨session, -, h⟩ := exists_of_bind_eq_ok h
  obtain ⟨db, -, h⟩ := exists_of_bind_eq_ok h
  obtain ⟨rfl, -⟩ := Prod.mk.inj (Except.ok.inj h)
  exact eq_ok_of_mapError hInsert

end UploadTables

/-- The row that validation has read, with the quantity as it stands. -/
def validatedTransaction (row : TransactionRow) : Option (PurchaseTransaction (Numeric 4)) := do
  let transactionDate ← parseDate row.transactionDate
  let amount ← parseAmount row.amount
  return {
    supplierSku := row.supplierSku
    description := row.description
    transactionDate
    amount := storedNumeric amount
    quantity := if row.quantity.getD "" = "" then none
      else (Decimal.ofString (row.quantity.getD "")).map storedNumeric
    reference := row.reference }

section Validated

variable {row : TransactionRow} {rows : List TransactionRow}
  {stored : List (PurchaseTransaction (Numeric 4))}

theorem validatedQuantity_of_readQuantity {raw : Option String} {quantity : Option Decimal}
    (h : readQuantity raw = .ok quantity) :
    (if raw.getD "" = "" then none else (Decimal.ofString (raw.getD "")).map storedNumeric) =
      quantity.map storedNumeric := by
  unfold readQuantity at h
  split at h
  · rename_i hEmpty
    obtain rfl := Except.ok.inj h
    exact if_pos hEmpty
  · rename_i hText
    obtain ⟨number, hNumber, rfl⟩ := exists_of_map_eq_ok h
    rw [if_neg hText, orRaise_eq_ok.mp hNumber]

theorem validatedTransaction_of_stored {transaction : PurchaseTransaction Decimal}
    {inserted : PurchaseTransaction (Numeric 4)} (hRead : readTransaction row = .ok transaction)
    (hInsert : insertTransaction transaction = .ok inserted)
    (hStored : StoredAsValidated row inserted) : validatedTransaction row = some inserted := by
  obtain ⟨date, -, hRead⟩ := exists_of_bind_eq_ok hRead
  obtain ⟨amount, hAmount, hRead⟩ := exists_of_bind_eq_ok hRead
  obtain ⟨quantity, hQuantity, hMade⟩ := exists_of_bind_eq_ok hRead
  obtain rfl := Except.ok.inj hMade
  obtain ⟨-, rfl⟩ := insertTransaction_eq_ok.mp hInsert
  obtain ⟨hDate, validated, -, hValidated, -⟩ := hStored
  obtain ⟨-, rfl⟩ := eq_of_readAmount hValidated hAmount
  rw [validatedTransaction, hDate, hValidated, validatedQuantity_of_readQuantity hQuantity]
  rfl

theorem validatedTransaction_eq_none (h : ¬Sound row) : validatedTransaction row = none := by
  unfold validatedTransaction
  cases hDate : parseDate row.transactionDate with
  | none => rfl
  | some date =>
    cases hAmount : parseAmount row.amount with
    | none => rfl
    | some amount =>
      exact absurd ⟨Option.isSome_of_eq_some hDate, Option.isSome_of_eq_some hAmount⟩ h

theorem filterMap_sound (rows : List TransactionRow) :
    (rows.filter fun row => decide (Sound row)).filterMap validatedTransaction =
      rows.filterMap validatedTransaction := by
  rw [List.filterMap_filter]
  congr 1
  funext row
  split
  · rfl
  · rename_i hSound
    rw [validatedTransaction_eq_none fun h => hSound (decide_eq_true h)]

/-- What an upload inserts is what validation has read. -/
theorem validated_of_inserted (hInsert : insertTransactions rows = .ok stored)
    (hStored : List.Forall₂ StoredAsValidated rows stored) :
    rows.filterMap validatedTransaction = stored := by
  obtain ⟨transactions, hRead, hRest⟩ := exists_of_bind_eq_ok hInsert
  clear hInsert
  rw [mapM_eq_ok] at hRead hRest
  induction hRead generalizing stored with
  | nil =>
    cases hRest
    rfl
  | cons hRow _ ih =>
    cases hRest with
    | cons hRowInsert hRestInsert =>
      cases hStored with
      | cons hRowStored hRestStored =>
        rw [List.filterMap_cons_some (validatedTransaction_of_stored hRow hRowInsert hRowStored),
          ih hRestStored hRestInsert]

theorem amount_ne_nan (hStored : List.Forall₂ StoredAsValidated rows stored) :
    ∀ row ∈ stored, row.amount ≠ .nan := by
  induction hStored with
  | nil => exact fun _ hNone => nomatch hNone
  | cons hRow hRest ih =>
    refine List.forall_mem_cons.mpr ⟨?_, ih⟩
    obtain ⟨amount, number, -, hAmount, -⟩ := hRow.amount
    intro hNan
    cases hAmount.symm.trans hNan

end Validated

section Uploads

variable {tables : UploadTables}

/-- An upload of the valid rows commits each with the date and the amount that validation has read
exactly when every amount it reads is a number, every valid row is ingestible, and the periods take
what the rows add to them. -/
theorem ingestion_agrees_with_validation (hDb : tables.db.Valid)
    (hFresh : ∀ e ∈ tables.db.events, e.id < tables.nextEventId) (organisationId supplierId : ℕ)
    (now : Timestamp) (rows : List TransactionRow) :
    (∃ validated stored final, validatePurchaseTransactionRows rows = .ok validated ∧
      tables.ingestTransactions organisationId supplierId now (validTransactionRows rows validated) =
        .ok (stored, final) ∧
      List.Forall₂ StoredAsValidated (validTransactionRows rows validated) stored) ↔
    (∀ row ∈ rows, Comparable row ∧ (Sound row → Ingestible row)) ∧
      tables.AcceptsUpload organisationId supplierId (rows.filterMap validatedTransaction) := by
  have hSound : ∀ row ∈ rows.filter fun row => decide (Sound row), Sound row := fun row hRow =>
    of_decide_eq_true (List.mem_filter.mp hRow).2
  have hValid : (∀ row ∈ rows.filter fun row => decide (Sound row), Ingestible row) ↔
      ∀ row ∈ rows, Sound row → Ingestible row := by
    simp only [List.mem_filter, decide_eq_true_iff, and_imp]
  rw [forall₂_and, ← validateTransactionsFrom_ok_iff, ← hValid, ← insertTransactions_stored_iff hSound,
    ← filterMap_sound]
  constructor
  · rintro ⟨validated, stored, final, hValidated, hIngest, hStored⟩
    rw [validTransactionRows_eq hValidated] at hIngest hStored
    have hInsert := UploadTables.inserted_of_ingestTransactions hIngest
    refine ⟨⟨⟨validated, hValidated⟩, stored, hInsert, hStored⟩, ?_⟩
    rw [validated_of_inserted hInsert hStored]
    exact (UploadTables.ingestTransactions_ok_iff hDb hFresh hInsert (amount_ne_nan hStored) now).mp
      ⟨final, hIngest⟩
  · rintro ⟨⟨⟨validated, hValidated⟩, stored, hInsert, hStored⟩, hAccepts⟩
    rw [validated_of_inserted hInsert hStored] at hAccepts
    obtain ⟨final, hIngest⟩ :=
      (UploadTables.ingestTransactions_ok_iff hDb hFresh hInsert (amount_ne_nan hStored) now).mpr hAccepts
    refine ⟨validated, stored, final, hValidated, ?_⟩
    rw [validTransactionRows_eq hValidated]
    exact ⟨hIngest, hStored⟩

/-- An open quarter of the supplier, with a transaction of March. -/
def openQuarterTables : UploadTables := ⟨openQuarterDb, 2, marchLedger, 2, [flatAgreement]⟩

theorem openQuarterTables_valid : openQuarterTables.db.Valid :=
  Db.empty_valid.touching_run (.single openQuarterRecorded_step)

def plainRow : TransactionRow where
  supplierSku := some "SKU1"
  description := some "Widget"
  transactionDate := some "2026-03-15"
  amount := some "1500.00"
  quantity := some "10"
  reference := some "INV-001"

theorem plainRow_ingestible : Ingestible plainRow where
  transactionDate := by decide +kernel
  amount := by decide +kernel
  exact := by
    intro amount hAmount
    have hRead : parseAmount plainRow.amount = some (.finite false 150000 (-2)) := by decide +kernel
    obtain rfl := Option.some.inj (hRead.symm.trans hAmount)
    exact ⟨⟨15000000⟩, by decide +kernel, rfl⟩
  quantity := by decide +kernel
  texts := by decide +kernel

/-- The second row has no amount, and the first is stored and added to the quarter. -/
theorem plainRow_ingested : ∃ validated stored final,
    validatePurchaseTransactionRows [plainRow, { plainRow with amount := none }] = .ok validated ∧
    openQuarterTables.ingestTransactions 1 1 0
      (validTransactionRows [plainRow, { plainRow with amount := none }] validated) =
        .ok (stored, final) ∧
    List.Forall₂ StoredAsValidated
      (validTransactionRows [plainRow, { plainRow with amount := none }] validated) stored := by
  have hFresh := openQuarterSession_sound.fresh
  obtain ⟨session, hCall, hCommit⟩ := @exists_of_any _ _ (openQuarterTables.recalculateUpload 1 1
    ([plainRow, { plainRow with amount := none }].filterMap validatedTransaction) 0)
    (fun session => session.commit.toOption.isSome) (by decide +kernel)
  obtain ⟨final, hFinal⟩ : ∃ final, session.commit = .ok final := by
    cases hResult : session.commit with
    | error e =>
      rw [hResult] at hCommit
      exact nomatch hCommit
    | ok final => exact ⟨final, rfl⟩
  refine (ingestion_agrees_with_validation openQuarterTables_valid hFresh 1 1 0 _).mpr ⟨?_, ?_⟩
  · have hUnsound : ¬Sound { plainRow with amount := none } := by decide +kernel
    intro row hRow
    obtain rfl | rfl := List.mem_pair.mp hRow
    · exact ⟨by decide +kernel, fun _ => plainRow_ingestible⟩
    · exact ⟨by decide +kernel, fun hSound => absurd hSound hUnsound⟩
  · exact (UploadTables.recalculateUpload_commits_iff openQuarterTables_valid hFresh
      (by decide +kernel) 0).mp
      ⟨session, final, hCall, hFinal⟩

/-- A date cell of a workbook is written with a time of day. -/
def dateCellRow : TransactionRow := { plainRow with transactionDate := some "2026-03-15 00:00:00" }

theorem date_cell_not_ingested : ¬∀ tables : UploadTables, tables.db.Valid →
    (∀ e ∈ tables.db.events, e.id < tables.nextEventId) → ∀ organisationId supplierId now rows,
    ∃ validated stored final, validatePurchaseTransactionRows rows = .ok validated ∧
      tables.ingestTransactions organisationId supplierId now (validTransactionRows rows validated) =
        .ok (stored, final) ∧
      List.Forall₂ StoredAsValidated (validTransactionRows rows validated) stored := by
  intro h
  obtain ⟨validated, stored, final, hValidated, hIngest, -⟩ :=
    h openQuarterTables openQuarterTables_valid openQuarterSession_sound.fresh 1 1 0 [dateCellRow]
  rw [validTransactionRows_eq hValidated] at hIngest
  have hRaises :
      (insertTransactions ([dateCellRow].filter fun row => decide (Sound row))).toOption.isNone =
        true := by
    decide +kernel
  rw [UploadTables.inserted_of_ingestTransactions hIngest] at hRaises
  exact nomatch hRaises

end Uploads

end ProcureFoundation.Ingestion
