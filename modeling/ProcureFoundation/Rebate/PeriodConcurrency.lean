import ProcureFoundation.Rebate.SourceWaterfall

/-!
# Concurrent calls on one period

Uploads, closes and receipts run as transactions of their own. A query sees the
committed rows and the transaction's own; the row of the period is loaded once and
stays as it was loaded, also when it is selected again under its lock. A flush sends the
columns that differ from what was loaded and takes the lock, which is held to the end.
-/

namespace ProcureFoundation.Rebate

open Evidence KeyedRows Ledger

inductive Call where
  | ingest (batch : PurchaseLedger) (now : Timestamp)
  | closePeriod (asOfDate : Date) (now : Timestamp)
  | recordReceipt (payload : RebateReceiptRecord) (now : Timestamp)

namespace Call

def batch : Call → PurchaseLedger
  | .ingest batch _ => batch
  | .closePeriod _ _ | .recordReceipt _ _ => ⟨[], [], [], []⟩

def change (period : RebatePeriodActual) : Call → Option (Except ServiceError RebatePeriodActual)
  | .ingest _ _ => none
  | .closePeriod asOfDate now => some (Rebate.closePeriod period asOfDate now)
  | .recordReceipt payload now => some ((Rebate.recordReceipt period payload now).map Prod.fst)

end Call

def batchDates (batch : PurchaseLedger) : List Date :=
  batch.purchaseInvoices.map PurchaseInvoice.invoiceDate ++
    batch.purchaseTransactions.map PurchaseTransaction.transactionDate

/-- The rows of two queries, of which the one for invoices came first. -/
def seenRows (invoices transactions : PurchaseLedger) : PurchaseLedger :=
  { invoices with purchaseTransactions := transactions.purchaseTransactions }

/-- What is the same in every state: the period, its agreement, and each transaction's call. -/
structure PeriodCalls where
  periodId : ℕ
  supplierId : ℕ
  agreement : RebateAgreement
  calls : ℕ → Call

inductive Phase where
  | idle
  | loaded (period : RebatePeriodActual)
  | invoicesRead (period : RebatePeriodActual) (seen : PurchaseLedger)
  | computed (period row : RebatePeriodActual)
  | flushed (period row : RebatePeriodActual) (executed : List Statement)
  | eventWritten (period row : RebatePeriodActual) (event : FinancialAmountStatusEvent)
      (executed : List Statement)
  | unaffected
  | finished (committed : Bool)

/-- The committed rows, the holder of the period's lock, and where each transaction is. -/
structure System where
  db : Db
  ledger : PurchaseLedger
  lock : Option ℕ
  nextEventId : ℕ
  phase : ℕ → Phase
  commits : List ℕ

namespace System

def enter (s : System) (i : ℕ) (phase : Phase) : System :=
  { s with phase := Function.update s.phase i phase }

def release (s : System) (i : ℕ) : System :=
  { s with lock := s.lock.filter fun holder => holder != i }

end System

section Columns

variable {α : Type*} [DecidableEq α]

/-- A column goes into the UPDATE when its value differs from the loaded one. -/
def sentColumn (loaded changed stored : α) : α := if changed = loaded then stored else changed

@[simp] theorem sentColumn_unchanged (loaded stored : α) :
    sentColumn loaded loaded stored = stored := if_pos rfl

@[simp] theorem sentColumn_self (loaded changed : α) :
    sentColumn loaded changed loaded = changed := by
  unfold sentColumn
  split
  · next h => exact h.symm
  · rfl

end Columns

def flushedRow (loaded changed stored : RebatePeriodActual) : RebatePeriodActual :=
  { stored with
    actualSpend := sentColumn loaded.actualSpend changed.actualSpend stored.actualSpend
    actualVolume := sentColumn loaded.actualVolume changed.actualVolume stored.actualVolume
    entrySource := sentColumn loaded.entrySource changed.entrySource stored.entrySource
    expectedAmount := sentColumn loaded.expectedAmount changed.expectedAmount stored.expectedAmount
    expectedAmountStatus :=
      sentColumn loaded.expectedAmountStatus changed.expectedAmountStatus stored.expectedAmountStatus
    expectedAmountSourceBasis :=
      sentColumn loaded.expectedAmountSourceBasis changed.expectedAmountSourceBasis
        stored.expectedAmountSourceBasis
    expectedAmountCalculatedAt :=
      sentColumn loaded.expectedAmountCalculatedAt changed.expectedAmountCalculatedAt
        stored.expectedAmountCalculatedAt
    expectedAmountApprovedAt :=
      sentColumn loaded.expectedAmountApprovedAt changed.expectedAmountApprovedAt
        stored.expectedAmountApprovedAt
    expectedAmountApprovedByUserId :=
      sentColumn loaded.expectedAmountApprovedByUserId changed.expectedAmountApprovedByUserId
        stored.expectedAmountApprovedByUserId
    expectedAmountCurrentEventId :=
      sentColumn loaded.expectedAmountCurrentEventId changed.expectedAmountCurrentEventId
        stored.expectedAmountCurrentEventId
    earnedAmount := sentColumn loaded.earnedAmount changed.earnedAmount stored.earnedAmount
    earnedAt := sentColumn loaded.earnedAt changed.earnedAt stored.earnedAt
    receivedAmount := sentColumn loaded.receivedAmount changed.receivedAmount stored.receivedAmount
    receivedReference :=
      sentColumn loaded.receivedReference changed.receivedReference stored.receivedReference
    status := sentColumn loaded.status changed.status stored.status
    statusCalculatedAt :=
      sentColumn loaded.statusCalculatedAt changed.statusCalculatedAt stored.statusCalculatedAt }

/-- Without a changed column there is nothing to send. -/
def flushStatements (loaded changed stored : RebatePeriodActual) : List Statement :=
  if changed = loaded then [] else [.updateRebatePeriodActual (flushedRow loaded changed stored)]

section Flushing

variable {db db' : Db} {loaded changed stored row sent : RebatePeriodActual}

def identity (row : RebatePeriodActual) : ℕ × ℕ × ℕ × Date × Date :=
  (row.id, row.organisationId, row.rebateAgreementId, row.periodStart, row.periodEnd)

@[simp] theorem flushedRow_unchanged (loaded stored : RebatePeriodActual) :
    flushedRow loaded loaded stored = stored := by
  simp only [flushedRow, sentColumn_unchanged]

theorem flushedRow_self (h : identity changed = identity loaded) :
    flushedRow loaded changed loaded = changed := by
  simp only [identity, Prod.mk.injEq] at h
  obtain ⟨hId, hOrganisation, hAgreement, hStart, hEnd⟩ := h
  simp only [flushedRow, sentColumn_self, ← hId, ← hOrganisation, ← hAgreement, ← hStart, ← hEnd]

theorem SameRecord.identity (h : SameRecord loaded changed) :
    identity changed = identity loaded := by
  rw [h]
  rfl

theorem executeAll_flushStatements {k : ℕ}
    (hStored : lookup RebatePeriodActual.id db.rebatePeriodActuals k = some stored)
    (h : db.executeAll (flushStatements loaded changed stored) = some db') :
    lookup RebatePeriodActual.id db'.rebatePeriodActuals k =
      some (flushedRow loaded changed stored) ∧ db'.events = db.events := by
  obtain rfl := key_of_lookup hStored
  unfold flushStatements at h
  split at h
  · next hSame =>
    cases h
    rw [hSame, flushedRow_unchanged]
    exact ⟨hStored, rfl⟩
  · obtain ⟨-, hRun⟩ := Db.executeAll_cons.mp h
    cases hRun
    exact ⟨lookup_replace_self hStored, rfl⟩

end Flushing

def System.recalculationEvent (s : System) (row : RebatePeriodActual) (amount : Money)
    (now : Timestamp) : FinancialAmountStatusEvent :=
  expectedAmountEvent row s.nextEventId (nextVersion s.db.events .expectedAmount row.id)
    (calculatedAmount amount now) none
    ("rebate_aggregation_recalc:" ++ toString row.id ++ ":" ++ row.entrySource.text) "recalculation"

def eventStatements (row sent : RebatePeriodActual) (event : FinancialAmountStatusEvent)
    (now : Timestamp) : List Statement :=
  [.insertEvent event,
    .updateRebatePeriodActual (flushedRow row (recalculatedRow row event.new event.id now) sent)]

theorem executeAll_eventStatements {db db' : Db} {row sent : RebatePeriodActual}
    {event : FinancialAmountStatusEvent} {now : Timestamp} {k : ℕ}
    (hSent : lookup RebatePeriodActual.id db.rebatePeriodActuals k = some sent)
    (h : db.executeAll (eventStatements row sent event now) = some db') :
    lookup RebatePeriodActual.id db'.rebatePeriodActuals k =
        some (flushedRow row (recalculatedRow row event.new event.id now) sent) ∧
      db'.events = db.events ++ [event] := by
  obtain rfl := key_of_lookup hSent
  obtain ⟨-, hUpdate⟩ := Db.executeAll_cons.mp h
  obtain ⟨-, hRun⟩ := Db.executeAll_cons.mp hUpdate
  cases hRun
  exact ⟨lookup_replace_self hSent, rfl⟩

namespace PeriodCalls

variable (w : PeriodCalls)

def stored (s : System) : Option RebatePeriodActual :=
  lookup RebatePeriodActual.id s.db.rebatePeriodActuals w.periodId

def visible (s : System) (i : ℕ) : PurchaseLedger := s.ledger.append (w.calls i).batch

def affected (s : System) (i : ℕ) : Option RebatePeriodActual :=
  match (batchDates (w.calls i).batch).min?, (batchDates (w.calls i).batch).max? with
  | some minDate, some maxDate =>
    lookup RebatePeriodActual.id (affectedPeriods s.db.rebatePeriodActuals
      (supplierAgreements [w.agreement] w.supplierId) minDate maxDate) w.periodId
  | _, _ => none

inductive Move (i : ℕ) (s : System) : System → Prop
  | load {batch : PurchaseLedger} {now : Timestamp} {period : RebatePeriodActual}
      (hCall : w.calls i = .ingest batch now) (hPhase : s.phase i = .idle)
      (hPeriod : w.affected s i = some period) : Move i s (s.enter i (.loaded period))
  | loadNothing {batch : PurchaseLedger} {now : Timestamp} (hCall : w.calls i = .ingest batch now)
      (hPhase : s.phase i = .idle) (hNone : w.affected s i = none) :
        Move i s (s.enter i .unaffected)
  | readInvoices {period : RebatePeriodActual} (hPhase : s.phase i = .loaded period) :
      Move i s (s.enter i (.invoicesRead period (w.visible s i)))
  | readTransactions {period row : RebatePeriodActual} {seen : PurchaseLedger}
      (hPhase : s.phase i = .invoicesRead period seen)
      (hRow : aggregatedRow (seenRows seen (w.visible s i)) w.supplierId period = some row) :
        Move i s (s.enter i (.computed period row))
  | keepManual {period : RebatePeriodActual} {seen : PurchaseLedger}
      (hPhase : s.phase i = .invoicesRead period seen)
      (hRow : aggregatedRow (seenRows seen (w.visible s i)) w.supplierId period = none) :
        Move i s (s.enter i .unaffected)
  | change {period row : RebatePeriodActual} (hPhase : s.phase i = .idle)
      (hStored : w.stored s = some period) (hRow : (w.calls i).change period = some (.ok row)) :
        Move i s (s.enter i (.computed period row))
  | refuse {period : RebatePeriodActual} {error : ServiceError} (hPhase : s.phase i = .idle)
      (hStored : w.stored s = some period) (hError : (w.calls i).change period = some (.error error)) :
      Move i s (s.enter i (.finished false))
  | flush {period row stored : RebatePeriodActual} (hPhase : s.phase i = .computed period row)
      (hLock : s.lock = none) (hStored : w.stored s = some stored) :
      Move i s { s.enter i (.flushed period row (flushStatements period row stored)) with lock := some i }
  | writeEvent {batch : PurchaseLedger} {now : Timestamp} {period row stored : RebatePeriodActual}
      {executed : List Statement} {amount : Money} (hCall : w.calls i = .ingest batch now)
      (hPhase : s.phase i = .flushed period row executed) (hStored : w.stored s = some stored)
      (hAmount : computeExpectedAmount w.agreement (row.actualSpend.map FixedPoint.value) =
        .ok (some amount)) :
      Move i s { s.enter i (.eventWritten period row (s.recalculationEvent row amount now) (executed ++
          eventStatements row (flushedRow period row stored) (s.recalculationEvent row amount now)
            now)) with
        nextEventId := s.nextEventId + 1 }
  | abort (hPhase : ∀ committed, s.phase i ≠ .finished committed) :
      Move i s ((s.enter i (.finished false)).release i)

def sent (s : System) (i : ℕ) : Option (List Statement) :=
  match w.calls i, s.phase i with
  | .ingest _ _, .eventWritten _ _ _ executed => some executed
  | .ingest _ _, .unaffected => some []
  | .closePeriod _ _, .flushed _ _ executed => some executed
  | .recordReceipt _ _, .flushed _ _ executed => some executed
  | _, _ => none

/-- The deferred triggers have let the transaction through; all its rows appear at once. -/
def committed (s : System) (i : ℕ) (db : Db) : System :=
  { (s.enter i (.finished true)).release i with
    db := db
    ledger := s.ledger.append (w.calls i).batch
    commits := s.commits ++ [i] }

inductive Commit (i : ℕ) (s : System) : System → Prop
  | commit {executed : List Statement} {db : Db} (hSent : w.sent s i = some executed)
      (hDb : s.db.commitTransaction executed = some db) : Commit i s (w.committed s i db)

def Step (s s' : System) : Prop := ∃ i, w.Move i s s' ∨ w.Commit i s s'

section Moves

variable {w} {i j : ℕ} {s s' : System}

theorem Move.db_eq (h : w.Move i s s') : s'.db = s.db := by cases h <;> rfl

theorem Move.ledger_eq (h : w.Move i s s') : s'.ledger = s.ledger := by cases h <;> rfl

theorem Move.commits_eq (h : w.Move i s s') : s'.commits = s.commits := by cases h <;> rfl

theorem Move.phase_of_ne (h : w.Move i s s') (hNe : j ≠ i) : s'.phase j = s.phase j := by
  cases h <;> exact Function.update_of_ne hNe _ _

theorem Move.not_committed (h : w.Move i s s') : s.phase i ≠ .finished true ∧
    s'.phase i ≠ .finished true := by
  cases h with
  | abort hPhase => exact ⟨hPhase true, by simp [System.enter, System.release]⟩
  | load hCall hPhase hPeriod | loadNothing hCall hPhase hNone => simp [System.enter, hPhase]
  | readInvoices hPhase => simp [System.enter, hPhase]
  | readTransactions hPhase hRow | keepManual hPhase hRow => simp [System.enter, hPhase]
  | change hPhase hStored hRow | refuse hPhase hStored hRow => simp [System.enter, hPhase]
  | flush hPhase hLock hStored => simp [System.enter, hPhase]
  | writeEvent hCall hPhase hStored hAmount => simp [System.enter, hPhase]

theorem release_lock (hNe : j ≠ i) (h : s.lock = some j) : (s.release i).lock = some j := by
  simp [System.release, h, hNe]

theorem Move.lock_of_ne (h : w.Move i s s') (hNe : j ≠ i) (hLock : s.lock = some j) :
    s'.lock = some j := by
  cases h with
  | flush _ hFree _ => cases hFree.symm.trans hLock
  | abort _ => exact release_lock hNe hLock
  | _ => exact hLock

theorem committed_phase_of_ne (hNe : j ≠ i) (db : Db) : (w.committed s i db).phase j = s.phase j :=
  Function.update_of_ne hNe _ _

theorem committed_phase_self (db : Db) : (w.committed s i db).phase i = .finished true :=
  Function.update_self ..

end Moves

section Locking

/-- What a transaction that holds the lock has sent, in terms of the committed row. -/
def LockHeld (s : System) (i : ℕ) : Phase → Prop
  | .flushed period row executed => s.lock = some i ∧ ∃ stored, w.stored s = some stored ∧
      executed = flushStatements period row stored
  | .eventWritten period row event executed => s.lock = some i ∧ ∃ stored now amount,
      w.stored s = some stored ∧
      computeExpectedAmount w.agreement (row.actualSpend.map FixedPoint.value) = .ok (some amount) ∧
      (∃ batch, w.calls i = .ingest batch now) ∧
      event = { s.recalculationEvent row amount now with id := event.id } ∧
      executed = flushStatements period row stored ++
        eventStatements row (flushedRow period row stored) event now
  | _ => True

variable {w} {i j : ℕ} {s s' : System} {db : Db} {executed : List Statement}

theorem LockHeld.congr {phase : Phase} (hDb : s'.db = s.db)
    (hLock : s.lock = some i → s'.lock = some i) (h : w.LockHeld s i phase) :
    w.LockHeld s' i phase := by
  have hStored : w.stored s' = w.stored s := by rw [stored, stored, hDb]
  cases phase with
  | flushed period row executed => exact ⟨hLock h.1, hStored ▸ h.2⟩
  | eventWritten period row event executed =>
    obtain ⟨hHeld, stored, now, amount, hRow, hAmount, hCall, hEvent, hExecuted⟩ := h
    refine ⟨hLock hHeld, stored, now, amount, hStored ▸ hRow, hAmount, hCall, ?_, hExecuted⟩
    rw [hEvent]
    simp only [System.recalculationEvent, expectedAmountEvent, hDb]
  | _ => trivial

theorem sent_cases (hSent : w.sent s i = some executed) :
    (∃ batch now, w.calls i = .ingest batch now ∧ ((s.phase i = .unaffected ∧ executed = []) ∨
      ∃ period row event, s.phase i = .eventWritten period row event executed)) ∨
    (∀ batch now, w.calls i ≠ .ingest batch now) ∧ ∃ period row,
      s.phase i = .flushed period row executed := by
  unfold sent at hSent
  split at hSent
  · next hCall hPhase =>
    cases hSent
    exact .inl ⟨_, _, hCall, .inr ⟨_, _, _, hPhase⟩⟩
  · next hCall hPhase =>
    cases hSent
    exact .inl ⟨_, _, hCall, .inl ⟨hPhase, rfl⟩⟩
  · next hCall hPhase =>
    cases hSent
    exact .inr ⟨fun batch now hIngest => (by cases hCall.symm.trans hIngest), _, _, hPhase⟩
  · next hCall hPhase =>
    cases hSent
    exact .inr ⟨fun batch now hIngest => (by cases hCall.symm.trans hIngest), _, _, hPhase⟩
  · cases hSent

theorem lock_of_sent (hLocked : ∀ j, w.LockHeld s j (s.phase j))
    (hSent : w.sent s i = some executed) : s.lock = some i ∨ executed = [] := by
  have hHeld := hLocked i
  obtain ⟨batch, now, -, ⟨-, rfl⟩ | ⟨period, row, event, hPhase⟩⟩ | ⟨-, period, row, hPhase⟩ :=
    sent_cases hSent
  · exact .inr rfl
  · rw [hPhase] at hHeld
    exact .inl hHeld.1
  · rw [hPhase] at hHeld
    exact .inl hHeld.1

theorem lockHeld_move (hLocked : ∀ j, w.LockHeld s j (s.phase j)) (hMove : w.Move i s s') (j : ℕ) :
    w.LockHeld s' j (s'.phase j) := by
  by_cases hNe : j ≠ i
  · rw [hMove.phase_of_ne hNe]
    exact (hLocked j).congr hMove.db_eq (hMove.lock_of_ne hNe)
  obtain rfl := not_ne_iff.mp hNe
  have hHeld := hLocked j
  cases hMove with
  | flush hPhase hLock hStored =>
    simp only [System.enter, Function.update_self]
    exact ⟨rfl, _, hStored, rfl⟩
  | writeEvent hCall hPhase hStored hAmount =>
    rw [hPhase] at hHeld
    obtain ⟨hLock, stored, hStored', rfl⟩ := hHeld
    obtain rfl := Option.some.inj (hStored.symm.trans hStored')
    simp only [System.enter, Function.update_self]
    exact ⟨hLock, _, _, _, hStored, hAmount, ⟨_, hCall⟩, rfl, rfl⟩
  | _ =>
    simp only [System.enter, System.release, Function.update_self]
    trivial

theorem lockHeld_commit (hLocked : ∀ j, w.LockHeld s j (s.phase j))
    (hSent : w.sent s i = some executed) (hDb : s.db.commitTransaction executed = some db) (j : ℕ) :
    w.LockHeld (w.committed s i db) j ((w.committed s i db).phase j) := by
  by_cases hNe : j ≠ i
  · rw [committed_phase_of_ne hNe]
    obtain hLock | rfl := lock_of_sent hLocked hSent
    · have hHeld := hLocked j
      cases hPhase : s.phase j with
      | flushed period row executed =>
        rw [hPhase] at hHeld
        exact absurd (Option.some.inj (hHeld.1.symm.trans hLock)) hNe
      | eventWritten period row event executed =>
        rw [hPhase] at hHeld
        exact absurd (Option.some.inj (hHeld.1.symm.trans hLock)) hNe
      | _ => trivial
    · obtain rfl : s.db = db := by
        simpa [Db.commitTransaction, Db.executeAll] using hDb
      refine @LockHeld.congr w j s _ _ rfl ?_ (hLocked j)
      exact release_lock hNe
  · obtain rfl := not_ne_iff.mp hNe
    rw [committed_phase_self]
    trivial

theorem Commit.locked (hCommit : w.Commit i s s') (hLocked : ∀ j, w.LockHeld s j (s.phase j))
    (j : ℕ) : w.LockHeld s' j (s'.phase j) := by
  obtain ⟨hSent, hDb⟩ := hCommit
  exact lockHeld_commit hLocked hSent hDb j

theorem Commit.commits_eq (hCommit : w.Commit i s s') : s'.commits = s.commits ++ [i] := by
  cases hCommit
  rfl

theorem Commit.ledger_eq (hCommit : w.Commit i s s') : s'.ledger = w.visible s i := by
  cases hCommit
  rfl

theorem Commit.phase_of_ne (hCommit : w.Commit i s s') (hNe : j ≠ i) : s'.phase j = s.phase j := by
  cases hCommit
  exact committed_phase_of_ne hNe _

theorem Commit.phase_self (hCommit : w.Commit i s s') : s'.phase i = .finished true := by
  cases hCommit
  exact committed_phase_self _

/-- What the commit of an ingestion that has written its event leaves behind. -/
structure EventCommitted (s s' : System) (period row stored : RebatePeriodActual)
    (event : FinancialAmountStatusEvent) (now : Timestamp) : Prop where
  amount : ∃ amount, computeExpectedAmount w.agreement (row.actualSpend.map FixedPoint.value) =
    .ok (some amount) ∧ event = { s.recalculationEvent row amount now with id := event.id }
  stored : w.stored s' =
    some (flushedRow row (recalculatedRow row event.new event.id now) (flushedRow period row stored))
  events : s'.db.events = s.db.events ++ [event]

/-- Every commit acts on the row as it is committed then, since the lock has kept it. -/
theorem Commit.effect (hLocked : ∀ j, w.LockHeld s j (s.phase j)) (hCommit : w.Commit i s s')
    {stored : RebatePeriodActual} (hStored : w.stored s = some stored) :
    (s.phase i = .unaffected ∧ s'.db = s.db) ∨
      (∃ period row executed, s.phase i = .flushed period row executed ∧
        (∀ batch now, w.calls i ≠ .ingest batch now) ∧
        w.stored s' = some (flushedRow period row stored) ∧ s'.db.events = s.db.events) ∨
      ∃ period row event executed batch now, s.phase i = .eventWritten period row event executed ∧
        w.calls i = .ingest batch now ∧ w.EventCommitted s s' period row stored event now := by
  obtain ⟨hSent, hDb⟩ := hCommit
  obtain ⟨hRun, -⟩ := Db.commitTransaction_eq_some.mp hDb
  have hHeld := hLocked i
  obtain ⟨batch, now, hCall, ⟨hPhase, rfl⟩ | ⟨period, row, event, hPhase⟩⟩ | ⟨hCall, period, row,
      hPhase⟩ :=
    sent_cases hSent
  · cases hRun
    exact .inl ⟨hPhase, rfl⟩
  · rw [hPhase] at hHeld
    obtain ⟨-, stored', now', amount, hStored', hAmount, ⟨batch', hCall'⟩, hEvent, rfl⟩ := hHeld
    obtain rfl := Option.some.inj (hStored.symm.trans hStored')
    cases hCall.symm.trans hCall'
    rw [Db.executeAll, List.foldlM_append, Option.bind_eq_bind, Option.bind_eq_some_iff] at hRun
    obtain ⟨flushed, hFlush, hWrite⟩ := hRun
    obtain ⟨hFlushed, hEvents⟩ := executeAll_flushStatements hStored hFlush
    obtain ⟨hWritten, hEvents'⟩ := executeAll_eventStatements hFlushed hWrite
    exact .inr (.inr ⟨period, row, event, _, batch, now, hPhase, hCall, ⟨amount, hAmount, hEvent⟩,
      hWritten, hEvents'.trans (by rw [hEvents])⟩)
  · rw [hPhase] at hHeld
    obtain ⟨-, stored', hStored', rfl⟩ := hHeld
    obtain rfl := Option.some.inj (hStored.symm.trans hStored')
    obtain ⟨hFlushed, hEvents⟩ := executeAll_flushStatements hStored hRun
    exact .inr (.inl ⟨period, row, _, hPhase, hCall, hFlushed, hEvents⟩)

theorem Commit.valid (hDb : s.db.Valid) (hLocked : ∀ j, w.LockHeld s j (s.phase j))
    (hOwn : ∀ period row event executed, s.phase i = .eventWritten period row event executed →
      row.id = w.periodId)
    (hCommit : w.Commit i s s') : s'.db.Valid := by
  obtain ⟨hSent, hTransaction⟩ := hCommit
  refine hDb.commit ?_ hTransaction
  intro t ht e he measure parentId hGoverns
  have hFlush : ∀ {loaded changed stored}, ∀ t ∈ flushStatements loaded changed stored,
      t.insertedEvents = [] := by
    intro loaded changed stored t ht
    unfold flushStatements at ht
    split at ht
    · cases ht
    · rw [List.mem_singleton.mp ht]
      rfl
  have hHeld := hLocked i
  obtain ⟨batch, now, hCall, ⟨-, rfl⟩ | ⟨period, row, event, hPhase⟩⟩ | ⟨-, period, row, hPhase⟩ :=
    sent_cases hSent
  · cases ht
  · rw [hPhase] at hHeld
    obtain ⟨-, stored, now', amount, hStored, -, -, hEvent, rfl⟩ := hHeld
    refine ⟨_, List.mem_append_right _ (List.mem_cons_of_mem _ List.mem_cons_self), ?_⟩
    obtain ht | ht := List.mem_append.mp ht
    · rw [hFlush t ht] at he
      cases he
    · have hInserted : e = event := by
        simp only [eventStatements, List.mem_cons, List.not_mem_nil, or_false] at ht
        obtain rfl | rfl := ht
        · exact List.mem_singleton.mp he
        · cases he
      obtain ⟨hParent, -⟩ := hGoverns
      rw [hInserted, hEvent] at hParent
      cases measure with
      | expectedAmount =>
        refine ⟨rfl, ?_⟩
        calc
          stored.id = w.periodId := key_of_lookup hStored
          _ = row.id := (hOwn _ _ _ _ hPhase).symm
          _ = parentId := Option.some.inj hParent
      | annualFinancialImpact | realisedSavings => cases hParent
  · rw [hPhase] at hHeld
    obtain ⟨-, stored, hStored, rfl⟩ := hHeld
    rw [hFlush t ht] at he
    cases he

/-- Only an event that repeats the past of the latest one passes the chain trigger. -/
theorem EventCommitted.past {period row stored : RebatePeriodActual}
    {event : FinancialAmountStatusEvent} {now : Timestamp}
    (h : w.EventCommitted s s' period row stored event now) (hDb : s.db.Valid) (hDb' : s'.db.Valid)
    (hStored : w.stored s = some stored) (hOwn : row.id = w.periodId) :
    row.expectedAmountSnapshot.columns = stored.expectedAmountSnapshot.columns := by
  obtain ⟨amount, -, hEvent⟩ := h.amount
  obtain ⟨latest, hCurrent⟩ :=
    hDb.snapshotsAgree .expectedAmount w.periodId stored.expectedAmountSnapshot
      (congrArg (Option.map _) hStored)
  have hVersion : event.eventVersion = latest.eventVersion + 1 := by
    rw [hEvent, ← nextVersion_of_current hDb.events hCurrent, ← hOwn]
    rfl
  have hPositive :=
    FinancialAmountStatusEvent.eventVersion_pos (hDb.events.accepted latest hCurrent.mem)
  have hMem : event ∈ s'.db.events := h.events ▸ List.mem_append_right _ List.mem_cons_self
  have hLatest : latest ∈ s'.db.events := h.events ▸ List.mem_append_left _ hCurrent.mem
  have hGoverns : Measure.expectedAmount.governs w.periodId event := by
    rw [hEvent, ← hOwn]
    exact ⟨rfl, rfl⟩
  have hSeries := (Measure.governs_iff_series (hDb'.events.accepted event hMem)).mp hGoverns
  have hSeries' :=
    (Measure.governs_iff_series (hDb'.events.accepted latest hLatest)).mp hCurrent.governs
  obtain ⟨prev, hPrev, hKey, hPrevVersion, hContinues⟩ :=
    hDb'.chain.predecessor event hMem (by omega)
  obtain rfl : prev = latest :=
    hDb'.events.sequence hPrev hLatest (hKey.trans (hSeries.trans hSeries'.symm)) (by omega)
  have hOld : event.old = row.expectedAmountSnapshot.columns := by
    have hNotFirst : (s.recalculationEvent row amount now).eventVersion ≠ 1 := by
      rw [hEvent] at hVersion
      exact fun hFirst => by
        have hSame : (s.recalculationEvent row amount now).eventVersion = prev.eventVersion + 1 :=
          hVersion
        omega
    rw [hEvent]
    exact if_neg hNotFirst
  rw [hCurrent.columns, ← hContinues.1, hOld]
  rfl

end Locking

end PeriodCalls

end ProcureFoundation.Rebate
