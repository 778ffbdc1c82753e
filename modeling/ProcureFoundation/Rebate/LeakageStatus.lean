import ProcureFoundation.Rebate.RecalculationAccepted

/-!
# The leakage status over whole runs

The status of a period is kept beside the two amounts that determine it. Receipts and
closes classify anew; a recalculation replaces the expected amount and leaves the status
as it was, and a receipt is classified by an amount that its column may still round.
-/

namespace ProcureFoundation.Rebate

open Outcome Evidence ThreeValued KeyedRows Ledger

def leakageStatus (expectedAmount receivedAmount : Money) : RebateStatus :=
  if (roundCurrency (expectedAmount.value - receivedAmount.value)).value ≤ 1 / 10000 then
    .reconciled
  else .leakageDetected

def StatusFresh (row : RebatePeriodActual) : Prop :=
  ∀ received, row.receivedAmount = some received →
    row.expectedAmountStatus ∉ ["unknown", "legacy_unverified"] →
    ∃ expected, row.expectedAmount = some expected ∧ row.status = leakageStatus expected received

/-- The operations on periods, each with the rows and the ledger that it has loaded. -/
inductive PeriodOperation where
  | recordPeriodActual (agreement : RebateAgreement) (payload : RebatePeriodActualCreate)
  | recalculateAffectedPeriods (ledger : PurchaseLedger) (agreements : List RebateAgreement)
      (supplierId : ℕ) (minDate maxDate : Date)
  | recordReceipt (periodActual : RebatePeriodActual) (payload : RebateReceiptRecord)
  | checkThresholdAlert (agreement : RebateAgreement) (periodActual : RebatePeriodActual)
      (asOfDate : Date)
  | closePeriod (periodActual : RebatePeriodActual) (asOfDate : Date)

namespace PeriodOperation

/-- An alert is a row of another table. -/
def perform (session : Session) (periodId organisationId userId : ℕ) (now : Timestamp) :
    PeriodOperation → Except ServiceError Session
  | .recordPeriodActual agreement payload => do
    let (session, _) ← Rebate.recordPeriodActual session periodId organisationId userId agreement
      payload now
    return session
  | .recalculateAffectedPeriods ledger agreements supplierId minDate maxDate => do
    let (session, _) ← Rebate.recalculateAffectedPeriods session ledger agreements supplierId
      minDate maxDate now
    return session
  | .recordReceipt periodActual payload => do
    let (periodActual, _) ← Rebate.recordReceipt periodActual payload now
    session.run (.updateRebatePeriodActual periodActual)
  | .checkThresholdAlert _ _ _ => return session
  | .closePeriod periodActual asOfDate => do
    let periodActual ← Rebate.closePeriod periodActual asOfDate now
    session.run (.updateRebatePeriodActual periodActual)

/-- An operation works on a period as it is committed. -/
def Loaded (db : Db) : PeriodOperation → Prop
  | .recordPeriodActual _ _ | .recalculateAffectedPeriods _ _ _ _ _ => True
  | .recordReceipt periodActual _ | .checkThresholdAlert _ periodActual _ | .closePeriod periodActual _ =>
    periodActual ∈ db.rebatePeriodActuals

def Commits (operation : PeriodOperation) (db db' : Db) : Prop :=
  ∃ periodId organisationId userId now nextEventId session, (∀ e ∈ db.events, e.id < nextEventId) ∧
    operation.Loaded db ∧
      operation.perform ⟨db, [], nextEventId⟩ periodId organisationId userId now = .ok session ∧
      session.commit = .ok db'

/-- No period with a receipt is aggregated anew, and a received amount fits its column. -/
def KeepsStatus (db : Db) : PeriodOperation → Prop
  | .recalculateAffectedPeriods ledger agreements supplierId minDate maxDate =>
    ∀ period ∈ affectedPeriods db.rebatePeriodActuals (supplierAgreements agreements supplierId) minDate maxDate,
      (aggregatedRow ledger supplierId period).isSome → period.receivedAmount = none
  | .recordReceipt _ payload => ∃ amount : Money, payload.receivedAmount = amount.value
  | .recordPeriodActual _ _ | .checkThresholdAlert _ _ _ | .closePeriod _ _ => True

end PeriodOperation

section Sent

def SendsFresh : Statement → Prop
  | .insertRebatePeriodActual row | .updateRebatePeriodActual row => StatusFresh row
  | .insertEvent _ | .insertEvidence _ | .insertOpportunity _ | .updateOpportunity _ => True

variable {start : Db} {session session' : Session} {row row' : RebatePeriodActual} {now : Timestamp}

theorem statusFresh_of_no_receipt (h : row.receivedAmount = none) : StatusFresh row := by
  intro received hReceived
  cases h.symm.trans hReceived

theorem writeExpectedAmountEvent_sendsFresh (h : session.Sends SendsFresh start)
    (hNone : row.receivedAmount = none) {new : AmountState} {actorUserId : Option ℕ}
    {changeReference changeReasonCode : String}
    (hWrite : writeExpectedAmountEvent session row new actorUserId changeReference changeReasonCode =
      .ok (session', row')) : session'.Sends SendsFresh start ∧ row'.receivedAmount = none := by
  obtain ⟨locked, hRun, hRest⟩ := exists_of_bind_eq_ok hWrite
  obtain ⟨inserted, hInsert, hResult⟩ := exists_of_bind_eq_ok hRest
  cases hResult
  have hLocked := h.run hRun rfl (statusFresh_of_no_receipt hNone)
  exact ⟨(hLocked.insertEvent hInsert trivial).1, hNone⟩

theorem recalculateExpected_sendsFresh (h : session.Sends SendsFresh start)
    (hNone : row.receivedAmount = none) {agreement : RebateAgreement} {actualSpend : Option ℚ}
    {actorUserId : Option ℕ} {changeReference changeReasonCode : String}
    (hRecalculate : recalculateExpected session agreement row actualSpend now actorUserId changeReference
      changeReasonCode = .ok (session', row')) : session'.Sends SendsFresh start := by
  obtain ⟨newAmount, -, hRest⟩ := exists_of_bind_eq_ok hRecalculate
  obtain ⟨⟨written, changed⟩, hWrite, hRest⟩ := exists_of_bind_eq_ok hRest
  obtain ⟨sent, hSend, hResult⟩ := exists_of_bind_eq_ok hRest
  cases hResult
  obtain ⟨hWritten, hStillNone⟩ := writeExpectedAmountEvent_sendsFresh h hNone hWrite
  exact hWritten.run hSend rfl (statusFresh_of_no_receipt hStillNone)

theorem recordPeriodActual_sendsFresh (h : session.Sends SendsFresh start)
    {periodId organisationId userId : ℕ} {agreement : RebateAgreement}
    {payload : RebatePeriodActualCreate}
    (hRecord : recordPeriodActual session periodId organisationId userId agreement payload now =
      .ok (session', row')) : session'.Sends SendsFresh start := by
  obtain ⟨inserted, hInsert, hRest⟩ := exists_of_bind_eq_ok hRecord
  have hInserted := h.run hInsert rfl (statusFresh_of_no_receipt rfl)
  exact recalculateExpected_sendsFresh hInserted rfl hRest

theorem recalculatePeriods_sendsFresh {ledger : PurchaseLedger} {agreements : List RebateAgreement}
    {supplierId : ℕ} (periods : List RebatePeriodActual)
    {updated updated' : List RebatePeriodActual} (h : session.Sends SendsFresh start)
    (hNone : ∀ period ∈ periods, (aggregatedRow ledger supplierId period).isSome →
      period.receivedAmount = none)
    (hRun : periods.foldlM (recalculatePeriod ledger agreements supplierId now) (session, updated) =
      .ok (session', updated')) : session'.Sends SendsFresh start := by
  induction periods generalizing session updated with
  | nil =>
    cases hRun
    exact h
  | cons head rest ih =>
    rw [List.foldlM_cons] at hRun
    obtain ⟨⟨middle, updatedHead⟩, hHead, hRest⟩ := exists_of_bind_eq_ok hRun
    refine ih ?_ (fun period hPeriod => hNone period (List.mem_cons_of_mem _ hPeriod)) hRest
    unfold recalculatePeriod recalculatePeriodBy at hHead
    cases hRow : aggregatedRow ledger supplierId head with
    | none =>
      rw [hRow] at hHead
      cases hHead
      exact h
    | some row =>
      rw [hRow] at hHead
      have hRowNone : row.receivedAmount = none := by
        rw [sameRecord_of_aggregatedRow hRow]
        exact hNone head List.mem_cons_self (hRow ▸ rfl)
      cases hAgreement : agreements.find? fun agreement =>
        agreement.id == row.rebateAgreementId with
      | none =>
        simp only [hAgreement] at hHead
        cases hHead
      | some agreement =>
        simp only [hAgreement] at hHead
        obtain ⟨⟨recalculated, changed⟩, hRecalculate, hResult⟩ := exists_of_bind_eq_ok hHead
        cases hResult
        exact recalculateExpected_sendsFresh h hRowNone hRecalculate

/-- Classified anew, a row is fresh if the amount it was classified by is the one it stores. -/
theorem statusFresh_of_refreshed {receivedAmount : Option ℚ} {periodClosed : Bool}
    (hReceived : receivedAmount = row.receivedAmount.map FixedPoint.value)
    (h : refreshStatus row receivedAmount periodClosed now = .ok row') : StatusFresh row' := by
  intro received hStored hStatus
  unfold refreshStatus at h
  split at h
  · next hUnknown =>
    cases h
    exact absurd hUnknown hStatus
  · split at h
    · cases h
    · next expectedAmount hExpected =>
      cases h
      have hSome : receivedAmount = some received.value := by
        rw [hReceived, show row.receivedAmount = some received from hStored]
        rfl
      refine ⟨expectedAmount, hExpected, ?_⟩
      rw [hSome]
      rfl

theorem closePeriod_statusFresh {asOfDate : Date} (h : closePeriod row asOfDate now = .ok row') :
    StatusFresh row' := by
  unfold closePeriod at h
  split at h
  · cases h
  · split at h
    · cases h
    · exact statusFresh_of_refreshed rfl h

theorem recordReceipt_statusFresh {payload : RebateReceiptRecord} {leakage : Option Money}
    {amount : Money} (hAmount : payload.receivedAmount = amount.value)
    (h : recordReceipt row payload now = .ok (row', leakage)) : StatusFresh row' := by
  obtain ⟨refreshed, hRefresh, hRest⟩ := exists_of_bind_eq_ok h
  have hSame : refreshed = row' := by
    dsimp only at hRest
    split at hRest
    · cases hRest
      rfl
    · split at hRest
      · cases hRest
      · cases hRest
        rfl
  subst hSame
  refine statusFresh_of_refreshed ?_ hRefresh
  rw [hAmount, FixedPoint.assign_value]
  rfl

end Sent

section Runs

variable {db db' : Db} {operation : PeriodOperation}

def AllFresh (db : Db) : Prop := ∀ row ∈ db.rebatePeriodActuals, StatusFresh row

theorem PeriodOperation.perform_sendsFresh (hDb : db.Constrained) {nextEventId : ℕ}
    (hFresh : ∀ e ∈ db.events, e.id < nextEventId) (hKeeps : operation.KeepsStatus db)
    {periodId organisationId userId : ℕ} {now : Timestamp} {session : Session}
    (h : operation.perform ⟨db, [], nextEventId⟩ periodId organisationId userId now = .ok session) :
    session.Sends SendsFresh db := by
  have hBegin : Session.Sends SendsFresh db ⟨db, [], nextEventId⟩ := .begin hDb hFresh
  cases operation with
  | recordPeriodActual agreement payload =>
    obtain ⟨⟨session', row⟩, hRecord, hResult⟩ := exists_of_bind_eq_ok h
    cases hResult
    exact recordPeriodActual_sendsFresh hBegin hRecord
  | recalculateAffectedPeriods ledger agreements supplierId minDate maxDate =>
    obtain ⟨⟨session', updated⟩, hRecalculate, hResult⟩ := exists_of_bind_eq_ok h
    cases hResult
    exact recalculatePeriods_sendsFresh _ hBegin hKeeps hRecalculate
  | recordReceipt periodActual payload =>
    obtain ⟨⟨row, leakage⟩, hReceipt, hRun⟩ := exists_of_bind_eq_ok h
    obtain ⟨amount, hAmount⟩ := hKeeps
    exact hBegin.run hRun rfl (recordReceipt_statusFresh hAmount hReceipt)
  | checkThresholdAlert agreement periodActual asOfDate =>
    cases h
    exact hBegin
  | closePeriod periodActual asOfDate =>
    obtain ⟨row, hClose, hRun⟩ := exists_of_bind_eq_ok h
    exact hBegin.run hRun rfl (closePeriod_statusFresh hClose)

theorem PeriodOperation.Commits.allFresh (hDb : db.Constrained) (hAll : AllFresh db)
    (h : operation.Commits db db') (hKeeps : operation.KeepsStatus db) :
    db'.Constrained ∧ AllFresh db' := by
  obtain ⟨periodId, organisationId, userId, now, nextEventId, session, hFresh, -, hPerform,
    hCommit⟩ := h
  have hSends := PeriodOperation.perform_sendsFresh hDb hFresh hKeeps hPerform
  obtain ⟨-, rfl⟩ := Session.commit_eq_ok.mp hCommit
  refine ⟨hSends.constrained, ?_⟩
  intro row hRow
  obtain hOld | hInserted | hUpdated := Db.rebatePeriodActual_of_executeAll hSends.executed hRow
  · exact hAll row hOld
  · exact hSends.sent _ hInserted
  · exact hSends.sent _ hUpdated

def PeriodStep (allowed : Db → PeriodOperation → Prop) (db db' : Db) : Prop :=
  ∃ operation : PeriodOperation, operation.Commits db db' ∧ allowed db operation

/-- In every run that meets the condition, the status of a received period is what its
amounts say. -/
theorem leakage_status_fresh (hDb : db.Constrained) (hAll : AllFresh db)
    (hRun : Relation.ReflTransGen (PeriodStep fun db operation => operation.KeepsStatus db) db db') :
    AllFresh db' := by
  suffices hBoth : db'.Constrained ∧ AllFresh db' from hBoth.2
  induction hRun with
  | refl => exact ⟨hDb, hAll⟩
  | tail _ hStep ih =>
    obtain ⟨operation, hCommits, hKeeps⟩ := hStep
    exact hCommits.allFresh ih.1 ih.2 hKeeps

end Runs

section Quarter

/-- The state after an operation, which is the state before it if it fails. -/
def performed (db : Db) (operation : PeriodOperation) : Db :=
  ((operation.perform ⟨db, [], db.events.length + 1⟩ 1 1 1 0).bind Session.commit).toOption.getD db

theorem commits_performed {db : Db} {operation : PeriodOperation}
    (hFresh : ∀ e ∈ db.events, e.id < db.events.length + 1) (hLoaded : operation.Loaded db)
    (h : ((operation.perform ⟨db, [], db.events.length + 1⟩ 1 1 1 0).bind
      Session.commit).toOption.isSome) :
    operation.Commits db (performed db operation) := by
  obtain ⟨db', hOption⟩ := Option.isSome_iff_exists.mp h
  have hDb' : performed db operation = db' := by
    rw [performed, hOption]
    rfl
  cases hBind : (operation.perform ⟨db, [], db.events.length + 1⟩ 1 1 1 0).bind Session.commit with
  | error e =>
    rw [hBind] at hOption
    cases hOption
  | ok committed =>
    rw [hBind] at hOption
    cases hOption
    obtain ⟨session, hPerform, hCommit⟩ := exists_of_bind_eq_ok hBind
    exact ⟨1, 1, 1, 0, db.events.length + 1, session, hFresh, hLoaded, hPerform, hDb' ▸ hCommit⟩

def recordQuarter (actualSpend : ℚ) : PeriodOperation :=
  .recordPeriodActual flatAgreement ⟨openQuarter.periodStart, openQuarter.periodEnd, actualSpend, none⟩

def receiveQuarter (db : Db) (receivedAmount : ℚ) : PeriodOperation :=
  .recordReceipt (db.rebatePeriodActuals.headD openQuarter) ⟨receivedAmount, "CN-1"⟩

def uploadMarch : PeriodOperation :=
  .recalculateAffectedPeriods marchLedger [flatAgreement] 1 marchDay marchDay

def recordedQuarter (actualSpend : ℚ) : Db := performed Db.empty (recordQuarter actualSpend)

def receivedQuarter (db : Db) (receivedAmount : ℚ) : Db :=
  performed db (receiveQuarter db receivedAmount)

theorem commits_receiveQuarter {db : Db} {receivedAmount : ℚ}
    (hRecorded : db.rebatePeriodActuals ≠ [])
    (hFresh : ∀ e ∈ db.events, e.id < db.events.length + 1)
    (h : (((receiveQuarter db receivedAmount).perform ⟨db, [], db.events.length + 1⟩ 1 1 1 0).bind
      Session.commit).toOption.isSome) :
    (receiveQuarter db receivedAmount).Commits db (receivedQuarter db receivedAmount) := by
  refine commits_performed hFresh ?_ h
  cases hRows : db.rebatePeriodActuals with
  | nil => exact absurd hRows hRecorded
  | cons row rest =>
    change db.rebatePeriodActuals.headD openQuarter ∈ db.rebatePeriodActuals
    rw [hRows]
    exact List.mem_cons_self

theorem not_allFresh_of_stale {db : Db} {row : RebatePeriodActual} {expected received : Money}
    (hRow : row ∈ db.rebatePeriodActuals) (hReceived : row.receivedAmount = some received)
    (hKnown : row.expectedAmountStatus ∉ ["unknown", "legacy_unverified"])
    (hExpected : row.expectedAmount = some expected)
    (hStale : row.status ≠ leakageStatus expected received) : ¬AllFresh db := by
  intro hAll
  obtain ⟨other, hOther, hStatus⟩ := hAll row hRow received hReceived hKnown
  obtain rfl := Option.some.inj (hExpected.symm.trans hOther)
  exact hStale hStatus

theorem uploaded_and_received_fresh :
    AllFresh (receivedQuarter (performed (recordedQuarter 40) uploadMarch) 4) := by
  have hRecord : (recordQuarter 40).Commits Db.empty (recordedQuarter 40) :=
    commits_performed (by decide) trivial (by decide +kernel)
  have hUpload : uploadMarch.Commits (recordedQuarter 40) (performed (recordedQuarter 40) uploadMarch) :=
    commits_performed (by decide +kernel) trivial (by decide +kernel)
  have hReceive : (receiveQuarter (performed (recordedQuarter 40) uploadMarch) 4).Commits _
      (receivedQuarter (performed (recordedQuarter 40) uploadMarch) 4) :=
    commits_receiveQuarter (by decide +kernel) (by decide +kernel) (by decide +kernel)
  refine leakage_status_fresh Db.empty_valid.toConstrained (fun _ h => nomatch h)
    (((Relation.ReflTransGen.single
    ⟨_, hRecord, trivial⟩).tail ⟨_, hUpload, ?_⟩).tail ⟨_, hReceive, ⟨40000⟩, by
      norm_num [FixedPoint.value]⟩)
  have hNone : ∀ period ∈ (recordedQuarter 40).rebatePeriodActuals,
    period.receivedAmount = none := by decide +kernel
  intro period hPeriod _
  exact hNone period (List.mem_filter.mp hPeriod).1

/-- Received in full and then re-aggregated, the quarter stays reconciled against a larger
expectation; received with a fifth decimal, it is classified by an amount it does not store. -/
theorem stale_status_reachable :
    (Relation.ReflTransGen (PeriodStep fun _ _ => True) Db.empty
        (performed (receivedQuarter (recordedQuarter 40) 2) uploadMarch) ∧
      ¬AllFresh (performed (receivedQuarter (recordedQuarter 40) 2) uploadMarch)) ∧
    Relation.ReflTransGen (PeriodStep fun _ _ => True) Db.empty
        (receivedQuarter (recordedQuarter (1 / 250)) (1 / 20000)) ∧
      ¬AllFresh (receivedQuarter (recordedQuarter (1 / 250)) (1 / 20000)) := by
  constructor
  · have hRecord : (recordQuarter 40).Commits Db.empty (recordedQuarter 40) :=
      commits_performed (by decide) trivial (by decide +kernel)
    have hReceive : (receiveQuarter (recordedQuarter 40) 2).Commits _
        (receivedQuarter (recordedQuarter 40) 2) :=
      commits_receiveQuarter (by decide +kernel) (by decide +kernel) (by decide +kernel)
    have hUpload : uploadMarch.Commits (receivedQuarter (recordedQuarter 40) 2) _ :=
      commits_performed (by decide +kernel) trivial (by decide +kernel)
    refine ⟨((Relation.ReflTransGen.single ⟨_, hRecord, trivial⟩).tail ⟨_, hReceive, trivial⟩).tail
      ⟨_, hUpload, trivial⟩, ?_⟩
    exact @not_allFresh_of_stale _
      ((performed (receivedQuarter (recordedQuarter 40) 2) uploadMarch).rebatePeriodActuals.headD
        openQuarter)
      ⟨40000⟩ ⟨20000⟩ (by decide +kernel) (by decide +kernel) (by decide +kernel) (by decide +kernel)
      (by decide +kernel)
  · have hRecord : (recordQuarter (1 / 250)).Commits Db.empty (recordedQuarter (1 / 250)) :=
      commits_performed (by decide) trivial (by decide +kernel)
    have hReceive : (receiveQuarter (recordedQuarter (1 / 250)) (1 / 20000)).Commits _
        (receivedQuarter (recordedQuarter (1 / 250)) (1 / 20000)) :=
      commits_receiveQuarter (by decide +kernel) (by decide +kernel) (by decide +kernel)
    refine ⟨(Relation.ReflTransGen.single ⟨_, hRecord, trivial⟩).tail ⟨_, hReceive, trivial⟩, ?_⟩
    exact @not_allFresh_of_stale _
      ((receivedQuarter (recordedQuarter (1 / 250)) (1 / 20000)).rebatePeriodActuals.headD openQuarter)
      ⟨2⟩ ⟨1⟩ (by decide +kernel) (by decide +kernel) (by decide +kernel) (by decide +kernel)
        (by decide +kernel)

end Quarter

end ProcureFoundation.Rebate
