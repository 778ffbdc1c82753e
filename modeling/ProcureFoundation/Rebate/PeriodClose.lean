import ProcureFoundation.Rebate.PeriodConcurrency
import ProcureFoundation.Rebate.RecalculationAccepted

/-!
# Closed periods

A period counts as closed while its earned amount is not null. The close copies that
amount from the row it has loaded, and neither the close nor an upload looks at the row
again when it commits. A close is permanent in the runs in which each close copies a known
amount that is still the expected one, and no upload commits on a closed period.
-/

namespace ProcureFoundation.Rebate

open Outcome Evidence KeyedRows Ledger

section Calls

variable {period row : RebatePeriodActual} {asOfDate : Date} {now : Timestamp}
  {payload : RebateReceiptRecord}

def closedColumns (row : RebatePeriodActual) :
    (EntrySource × Option Money × Option Money) × Option Money × Option Money :=
  (figures row, row.expectedAmount, row.earnedAmount)

theorem closedColumns_of_refreshStatus {receivedAmount : Option ℚ} {periodClosed : Bool}
    (h : refreshStatus period receivedAmount periodClosed now = .ok row) :
    closedColumns row = closedColumns period := by
  unfold refreshStatus at h
  split at h
  · cases h
    rfl
  · split at h
    · cases h
    · cases h
      rfl

theorem closedColumns_of_closePeriod (h : closePeriod period asOfDate now = .ok row) :
    period.earnedAmount = none ∧
      closedColumns row = (figures period, period.expectedAmount, period.expectedAmount) := by
  unfold closePeriod at h
  split at h
  · cases h
  · split at h
    · cases h
    · next hOpen =>
      refine ⟨Option.not_isSome_iff_eq_none.mp hOpen, ?_⟩
      rw [closedColumns_of_refreshStatus h]
      rfl

theorem closedColumns_of_recordReceipt {leakage : Option Money}
    (h : recordReceipt period payload now = .ok (row, leakage)) :
    closedColumns row = closedColumns period := by
  unfold recordReceipt at h
  obtain ⟨refreshed, hRefresh, hRest⟩ := exists_of_bind_eq_ok h
  have hColumns : closedColumns refreshed = closedColumns period :=
    (closedColumns_of_refreshStatus hRefresh).trans rfl
  split at hRest
  · cases hRest
    exact hColumns
  · split at hRest
    · cases hRest
    · cases hRest
      exact hColumns

theorem closePeriod_of_earned (h : period.earnedAmount.isSome) (asOfDate : Date) (now : Timestamp) :
    ∃ message, closePeriod period asOfDate now = .error (.conflict message) := by
  unfold closePeriod
  split
  · exact ⟨_, rfl⟩
  · exact ⟨_, rfl⟩

end Calls

def Call.isClose : Call → Bool
  | .closePeriod _ _ => true
  | .ingest _ _ | .recordReceipt _ _ => false

namespace PeriodCalls

variable (w : PeriodCalls)

/-- A row is changed as its transaction's call says, and only an upload aggregates. -/
def Derived (i : ℕ) : Phase → Prop
  | .loaded _ | .invoicesRead _ _ | .eventWritten _ _ _ _ | .unaffected =>
    ∃ batch now, w.calls i = .ingest batch now
  | .computed loaded row | .flushed loaded row _ =>
    ∀ result, (w.calls i).change loaded = some result → result = .ok row
  | .idle | .finished _ => True

/-- The commit of a close copies a known amount that is still the expected one, and that of an
upload finds the period open. -/
def Undisturbed (i : ℕ) (s : System) : Prop :=
  match s.phase i, w.stored s with
  | .flushed loaded _ _, some stored =>
    (w.calls i).isClose → loaded.expectedAmount.isSome ∧
      loaded.expectedAmount = stored.expectedAmount
  | .eventWritten _ _ _ _, some stored => stored.earnedAmount = none
  | _, _ => True

def UndisturbedStep (s s' : System) : Prop :=
  ∃ i, w.Move i s s' ∨ (w.Commit i s s' ∧ w.Undisturbed i s)

structure Idle (start : System) : Prop where
  phase : ∀ i, start.phase i = .idle
  lock : start.lock = none

/-- The period is as the close has left it, and a further close is refused. -/
def ClosedAs (period : RebatePeriodActual) (s : System) : Prop :=
  ∃ stored, w.stored s = some stored ∧
    closedColumns stored = (figures period, period.expectedAmount, period.expectedAmount) ∧
    ∀ asOfDate now, ∃ message, closePeriod stored asOfDate now = .error (.conflict message)

structure Ordered (s : System) : Prop where
  locked : ∀ i, w.LockHeld s i (s.phase i)
  derived : ∀ i, w.Derived i (s.phase i)

variable {w} {i : ℕ} {start s s' : System} {period stored : RebatePeriodActual}

theorem Idle.ordered (h : Idle start) : w.Ordered start where
  locked i := by
    rw [h.phase i]
    trivial
  derived i := by
    rw [h.phase i]
    trivial

theorem derived_move (hDerived : ∀ j, w.Derived j (s.phase j)) (hMove : w.Move i s s') (j : ℕ) :
    w.Derived j (s'.phase j) := by
  have hOld := hDerived j
  by_cases hNe : j ≠ i
  · rw [hMove.phase_of_ne hNe]
    exact hOld
  obtain rfl := not_ne_iff.mp hNe
  cases hMove with
  | load hCall hPhase hPeriod =>
    simp only [System.enter, Function.update_self]
    exact ⟨_, _, hCall⟩
  | loadNothing hCall hPhase hNone =>
    simp only [System.enter, Function.update_self]
    exact ⟨_, _, hCall⟩
  | readInvoices hPhase =>
    rw [hPhase] at hOld
    simp only [System.enter, Function.update_self]
    exact hOld
  | readTransactions hPhase hRow =>
    rw [hPhase] at hOld
    obtain ⟨batch, now, hCall⟩ := hOld
    simp only [System.enter, Function.update_self]
    intro result hResult
    rw [hCall] at hResult
    cases hResult
  | keepManual hPhase hRow =>
    rw [hPhase] at hOld
    simp only [System.enter, Function.update_self]
    exact hOld
  | change hPhase hStored hRow =>
    simp only [System.enter, Function.update_self]
    intro result hResult
    exact Option.some.inj (hResult.symm.trans hRow)
  | flush hPhase hLock hStored =>
    rw [hPhase] at hOld
    simp only [System.enter, Function.update_self]
    exact hOld
  | writeEvent hCall hPhase hStored hAmount =>
    simp only [System.enter, Function.update_self]
    exact ⟨_, _, hCall⟩
  | refuse hPhase hStored hError =>
    simp only [System.enter, Function.update_self]
    trivial
  | abort hPhase =>
    simp only [System.enter, System.release, Function.update_self]
    trivial

theorem Ordered.step (h : w.Ordered s) (hStep : w.Step s s') : w.Ordered s' := by
  obtain ⟨i, hMove | hCommit⟩ := hStep
  · exact ⟨lockHeld_move h.locked hMove, derived_move h.derived hMove⟩
  · refine ⟨hCommit.locked h.locked, ?_⟩
    intro j
    by_cases hNe : j ≠ i
    · rw [hCommit.phase_of_ne hNe]
      exact h.derived j
    · obtain rfl := not_ne_iff.mp hNe
      rw [hCommit.phase_self]
      trivial

theorem Ordered.run (h : w.Ordered s) (hRun : Relation.ReflTransGen w.Step s s') :
    w.Ordered s' := by
  induction hRun with
  | refl => exact h
  | tail _ hStep ih => exact ih.step hStep

theorem flushed_columns {loaded row : RebatePeriodActual} (hFigures : figures row = figures loaded)
    (hExpected : row.expectedAmount = loaded.expectedAmount) :
    closedColumns (flushedRow loaded row stored) = (figures stored, stored.expectedAmount,
      sentColumn loaded.earnedAmount row.earnedAmount stored.earnedAmount) := by
  obtain ⟨hSource, hSpend, hVolume⟩ : row.entrySource = loaded.entrySource ∧
      row.actualSpend = loaded.actualSpend ∧ row.actualVolume = loaded.actualVolume := by
    simpa [figures] using hFigures
  simp only [closedColumns, figures, flushedRow, hSource, hSpend, hVolume, hExpected,
    sentColumn_unchanged]

theorem closedAs_of_columns (hStored : w.stored s = some stored)
    (hKnown : period.expectedAmount.isSome)
    (hColumns : closedColumns stored =
      (figures period, period.expectedAmount, period.expectedAmount)) :
    w.ClosedAs period s := by
  refine ⟨stored, hStored, hColumns, closePeriod_of_earned ?_⟩
  have hEarned : stored.earnedAmount = period.expectedAmount :=
    congrArg (fun columns => columns.2.2) hColumns
  rwa [hEarned]

theorem Ordered.closed_of_close (h : w.Ordered s) (hStored : w.stored s = some stored)
    (hClose : (w.calls i).isClose) (hCommit : w.Commit i s s') (hUndisturbed : w.Undisturbed i s) :
    stored.expectedAmount.isSome ∧ w.ClosedAs stored s' := by
  have hDerived := h.derived i
  obtain ⟨asOfDate, now, hCall⟩ : ∃ asOfDate now, w.calls i = .closePeriod asOfDate now := by
    cases hCall : w.calls i with
    | closePeriod asOfDate now => exact ⟨asOfDate, now, rfl⟩
    | ingest batch now | recordReceipt payload now =>
      rw [hCall] at hClose
      cases hClose
  obtain ⟨hPhase, -⟩ | ⟨loaded, row, executed, hPhase, -, hStored', -⟩ |
      ⟨loaded, row, event, executed, batch, now', hPhase, hIngest, -⟩ :=
        hCommit.effect h.locked hStored
  · rw [hPhase] at hDerived
    obtain ⟨batch, now', hIngest⟩ := hDerived
    cases hCall.symm.trans hIngest
  · rw [hPhase] at hDerived
    have hChange : (w.calls i).change loaded = some (closePeriod loaded asOfDate now) := by
      rw [hCall]
      rfl
    obtain ⟨hOpen, hRow⟩ := closedColumns_of_closePeriod (hDerived _ hChange)
    simp only [closedColumns, Prod.mk.injEq] at hRow
    obtain ⟨hFigures, hExpected, hEarned⟩ := hRow
    simp only [Undisturbed, hPhase, hStored] at hUndisturbed
    obtain ⟨hKnown, hSame⟩ := hUndisturbed hClose
    have hColumns := @flushed_columns stored _ _ hFigures hExpected
    have hSent : loaded.expectedAmount ≠ none := Option.isSome_iff_ne_none.mp hKnown
    rw [hOpen, hEarned, sentColumn, if_neg hSent, hSame] at hColumns
    exact ⟨hSame ▸ hKnown, closedAs_of_columns hStored' (hSame ▸ hKnown) hColumns⟩
  · cases hCall.symm.trans hIngest

/-- On a closed period only receipts and closes commit, and they keep what the close has left. -/
theorem Ordered.closedAs_commit (h : w.Ordered s) (hKnown : period.expectedAmount.isSome)
    (hClosed : w.ClosedAs period s) (hCommit : w.Commit i s s') (hUndisturbed : w.Undisturbed i s) :
    w.ClosedAs period s' := by
  obtain ⟨stored, hStored, hColumns, hRefused⟩ := hClosed
  have hDerived := h.derived i
  obtain ⟨hPhase, hDb⟩ | ⟨loaded, row, executed, hPhase, hCall, hStored', -⟩ |
      ⟨loaded, row, event, executed, batch, now', hPhase, -⟩ := hCommit.effect h.locked hStored
  · refine ⟨stored, ?_, hColumns, hRefused⟩
    rw [PeriodCalls.stored, hDb]
    exact hStored
  · cases hKind : w.calls i with
    | ingest batch now => exact absurd hKind (hCall batch now)
    | closePeriod asOfDate now =>
      have hClose : (w.calls i).isClose := by
        rw [hKind]
        rfl
      obtain ⟨-, after, hAfter, hAfterColumns, hAfterRefused⟩ :=
        h.closed_of_close hStored hClose hCommit hUndisturbed
      refine ⟨after, hAfter, hAfterColumns.trans ?_, hAfterRefused⟩
      simp only [closedColumns, Prod.mk.injEq] at hColumns
      rw [hColumns.1, hColumns.2.1]
    | recordReceipt payload now =>
      rw [hPhase] at hDerived
      have hChange : (w.calls i).change loaded =
          some ((recordReceipt loaded payload now).map Prod.fst) := by
        rw [hKind]
        rfl
      have hResult := hDerived _ hChange
      cases hReceipt : recordReceipt loaded payload now with
      | error error =>
        rw [hReceipt] at hResult
        cases hResult
      | ok result =>
        rw [hReceipt] at hResult
        cases hResult
        have hKept := closedColumns_of_recordReceipt hReceipt
        simp only [closedColumns, Prod.mk.injEq] at hKept
        have hAfter := @flushed_columns stored _ _ hKept.1 hKept.2.1
        rw [hKept.2.2, sentColumn_unchanged] at hAfter
        exact closedAs_of_columns hStored' hKnown (hAfter.trans hColumns)
  · simp only [Undisturbed, hPhase, hStored] at hUndisturbed
    have hEarned : stored.earnedAmount = period.expectedAmount :=
      congrArg (fun columns => columns.2.2) hColumns
    rw [← hEarned, hUndisturbed] at hKnown
    cases hKnown

theorem Ordered.closedAs_run (h : w.Ordered s) (hKnown : period.expectedAmount.isSome)
    (hClosed : w.ClosedAs period s) (hRun : Relation.ReflTransGen w.UndisturbedStep s s') :
    w.Ordered s' ∧ w.ClosedAs period s' := by
  induction hRun with
  | refl => exact ⟨h, hClosed⟩
  | tail _ hStep ih =>
    obtain ⟨hOrdered, stored, hStored, hRest⟩ := ih
    obtain ⟨i, hMove | ⟨hCommit, hUndisturbed⟩⟩ := hStep
    · refine ⟨hOrdered.step ⟨i, .inl hMove⟩, stored, ?_, hRest⟩
      rw [PeriodCalls.stored, hMove.db_eq]
      exact hStored
    · exact ⟨hOrdered.step ⟨i, .inr hCommit⟩,
        hOrdered.closedAs_commit hKnown ⟨stored, hStored, hRest⟩ hCommit hUndisturbed⟩

/-- A close whose commit is undisturbed is permanent while the later commits are. -/
theorem close_is_permanent {before after : System} (hIdle : Idle start)
    (hBefore : Relation.ReflTransGen w.Step start before) (hStored : w.stored before = some period)
    (hClose : (w.calls i).isClose) (hCommit : w.Commit i before s)
    (hUndisturbed : w.Undisturbed i before)
    (hAfter : Relation.ReflTransGen w.UndisturbedStep s after) : w.ClosedAs period after := by
  have hOrdered : w.Ordered before := hIdle.ordered.run hBefore
  obtain ⟨hKnown, hClosed⟩ := hOrdered.closed_of_close hStored hClose hCommit hUndisturbed
  exact ((hOrdered.step ⟨i, .inr hCommit⟩).closedAs_run hKnown hClosed hAfter).2

section QuarterEnd

def quarterCloses : PeriodCalls where
  periodId := 1
  supplierId := 1
  agreement := flatAgreement
  calls i := .closePeriod ⟨2026, 4, 1, by decide⟩ i

def quarterStart (db : Db) : System := ⟨db, ⟨[], [], [], []⟩, none, 3, fun _ => .idle, []⟩

def quarterClosing (db : Db) (loaded row : RebatePeriodActual) : System :=
  { ((quarterStart db).enter 0 (.computed loaded row)).enter 0
      (.flushed loaded row (flushStatements loaded row loaded)) with
    lock := some 0 }

theorem quarterClosing_reached {db : Db} {loaded row : RebatePeriodActual}
    (hLoaded : quarterCloses.stored (quarterStart db) = some loaded)
    (hRow : closePeriod loaded ⟨2026, 4, 1, by decide⟩ 0 = .ok row) :
    Relation.ReflTransGen quarterCloses.Step (quarterStart db) (quarterClosing db loaded row) := by
  have hChange : (quarterCloses.calls 0).change loaded = some (.ok row) := congrArg some hRow
  have hCompute : quarterCloses.Step (quarterStart db)
      ((quarterStart db).enter 0 (.computed loaded row)) :=
    ⟨0, .inl (.change rfl hLoaded hChange)⟩
  exact (Relation.ReflTransGen.single hCompute).tail ⟨0, .inl (.flush rfl rfl hLoaded)⟩

theorem estimated_quarter_closed : ∃ s, s.commits = [0] ∧
    quarterCloses.ClosedAs (withExpectedAmount openQuarter datedState 2) s := by
  let loaded := withExpectedAmount openQuarter datedState 2
  let row : RebatePeriodActual :=
    { loaded with
      earnedAmount := some ⟨1000000⟩
      earnedAt := some 0
      status := .periodClosedAwaitingPayment
      statusCalculatedAt := some 0 }
  have hLoaded : quarterCloses.stored (quarterStart (quarterDb datedState)) = some loaded := by
    decide +kernel
  have hRow : closePeriod loaded ⟨2026, 4, 1, by decide⟩ 0 = .ok row := by decide +kernel
  obtain ⟨final, hFinal⟩ : ∃ final,
    (quarterDb datedState).commitTransaction (flushStatements loaded row loaded) =
      some final := Option.isSome_iff_exists.mp (by decide +kernel)
  have hUndisturbed :
      quarterCloses.Undisturbed 0 (quarterClosing (quarterDb datedState) loaded row) := by
    have hStored : quarterCloses.stored (quarterClosing (quarterDb datedState) loaded row) =
      some loaded := hLoaded
    have hPhase : (quarterClosing (quarterDb datedState) loaded row).phase 0 =
      .flushed loaded row (flushStatements loaded row loaded) := rfl
    rw [Undisturbed, hPhase, hStored]
    exact fun _ => ⟨rfl, rfl⟩
  exact ⟨_, rfl,
    close_is_permanent ⟨fun _ => rfl, rfl⟩ (quarterClosing_reached hLoaded hRow) hLoaded rfl
    (.commit rfl hFinal) hUndisturbed .refl⟩

theorem unknown_quarter_not_closed :
    ¬∀ (w : PeriodCalls) (i : ℕ) (start before s after : System) (period : RebatePeriodActual),
      Idle start →
      Relation.ReflTransGen w.Step start before → w.stored before = some period →
        (w.calls i).isClose →
      w.Commit i before s → Relation.ReflTransGen w.Step s after → w.ClosedAs period after := by
  intro h
  let loaded : RebatePeriodActual := { openQuarter with expectedAmountCurrentEventId := some 1 }
  let row : RebatePeriodActual := { loaded with earnedAt := some 0, statusCalculatedAt := some 0 }
  have hLoaded : quarterCloses.stored (quarterStart openQuarterDb) = some loaded := rfl
  have hRow : closePeriod loaded ⟨2026, 4, 1, by decide⟩ 0 = .ok row := by decide +kernel
  have hFinal : openQuarterDb.commitTransaction (flushStatements loaded row loaded) =
      some { openQuarterDb with rebatePeriodActuals := [row] } := by decide +kernel
  obtain ⟨stored, hStored, -, hRefused⟩ := h quarterCloses 0 _ _ _ _ loaded ⟨fun _ => rfl, rfl⟩
    (quarterClosing_reached hLoaded hRow) hLoaded rfl (.commit rfl hFinal) .refl
  obtain rfl : row = stored := Option.some.inj hStored
  obtain ⟨message, hMessage⟩ := hRefused ⟨2026, 4, 1, by decide⟩ 1
  have hAgain : closePeriod row ⟨2026, 4, 1, by decide⟩ 1 =
      .ok { row with earnedAt := some 1, statusCalculatedAt := some 1 } := by decide +kernel
  cases hAgain.symm.trans hMessage

end QuarterEnd

end PeriodCalls

end ProcureFoundation.Rebate
