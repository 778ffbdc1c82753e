import ProcureFoundation.Evidence.Session

/-!
# The rebate service

Recording a period and recalculating its expected amount both end in one event and one
snapshot. The row that a function has loaded is the row it changes; its changes reach
the database as an UPDATE before the next query.
-/

namespace ProcureFoundation.Rebate

open Outcome Evidence ThreeValued KeyedRows

def unknownAmount : AmountState := { AmountState.null with status := some "unknown" }

def calculatedAmount (amount : Money) (now : Timestamp) : AmountState :=
  { AmountState.null with
    amount := some amount
    status := some "calculated"
    sourceBasis := some "contract_terms_calculation"
    calculatedAt := some now }

/-- The event as the locked row determines it; a genesis event records no past. -/
def expectedAmountEvent (locked : RebatePeriodActual) (eventId : ℕ) (version : ℤ)
    (new : AmountState) (actorUserId : Option ℕ) (changeReference changeReasonCode : String) :
    FinancialAmountStatusEvent where
  id := eventId
  organisationId := locked.organisationId
  rebatePeriodActualId := some locked.id
  opportunityId := none
  measureCode := "expected_amount"
  eventVersion := version
  old := if version = 1 then AmountState.null else
    { amount := locked.expectedAmount
      status := some locked.expectedAmountStatus
      sourceBasis := locked.expectedAmountSourceBasis
      calculatedAt := locked.expectedAmountCalculatedAt
      approvedAt := locked.expectedAmountApprovedAt
      approvedByUserId := locked.expectedAmountApprovedByUserId
      effectivePeriodStart := none
      effectivePeriodEnd := none }
  new := new
  actorUserId := actorUserId
  changeReference := changeReference
  changeReasonCode := changeReasonCode

def withExpectedAmount (locked : RebatePeriodActual) (new : AmountState) (eventId : ℕ) :
    RebatePeriodActual :=
  { locked with
    expectedAmount := new.amount
    expectedAmountStatus := new.status.getD ""
    expectedAmountSourceBasis := new.sourceBasis
    expectedAmountCalculatedAt := new.calculatedAt
    expectedAmountApprovedAt := new.approvedAt
    expectedAmountApprovedByUserId := new.approvedByUserId
    expectedAmountCurrentEventId := some eventId }

/-- Returns the row with its last changes still unsent. -/
def writeExpectedAmountEvent (session : Session) (periodActual : RebatePeriodActual)
    (new : AmountState) (actorUserId : Option ℕ) (changeReference changeReasonCode : String) :
    Except ServiceError (Session × RebatePeriodActual) := do
  let locked ← session.run (.updateRebatePeriodActual periodActual)
  let version := nextVersion locked.db.events .expectedAmount periodActual.id
  let event :=
    expectedAmountEvent periodActual locked.nextEventId version new actorUserId changeReference
      changeReasonCode
  let inserted ← locked.insertEvent event
  return (inserted, withExpectedAmount periodActual new event.id)

/-- The spend is the one the session holds, which a column may still have to round. -/
def recalculateExpected (session : Session) (agreement : RebateAgreement)
    (periodActual : RebatePeriodActual) (actualSpend : Option ℚ) (now : Timestamp)
    (actorUserId : Option ℕ) (changeReference changeReasonCode : String) :
    Except ServiceError (Session × RebatePeriodActual) := do
  let newAmount ← (computeExpectedAmount agreement actualSpend).mapError ServiceError.value
  let new := match newAmount with
    | none => unknownAmount
    | some amount => calculatedAmount amount now
  let (session, periodActual) ←
    writeExpectedAmountEvent session periodActual new actorUserId changeReference changeReasonCode
  let periodActual := { periodActual with statusCalculatedAt := some now }
  let session ← session.run (.updateRebatePeriodActual periodActual)
  return (session, periodActual)

structure RebatePeriodActualCreate where
  periodStart : Date
  periodEnd : Date
  actualSpend : ℚ
  actualVolume : Option ℚ
deriving DecidableEq

/-- The row as it is first flushed, with a placeholder status until its genesis event. -/
def newPeriodActual (id organisationId : ℕ) (agreement : RebateAgreement)
    (payload : RebatePeriodActualCreate) : RebatePeriodActual where
  id := id
  organisationId := organisationId
  rebateAgreementId := agreement.id
  periodStart := payload.periodStart
  periodEnd := payload.periodEnd
  actualSpend := some (FixedPoint.assign 4 payload.actualSpend)
  actualVolume := payload.actualVolume.map (FixedPoint.assign 4)
  entrySource := .manual
  expectedAmount := none
  expectedAmountStatus := "unknown"
  expectedAmountSourceBasis := none
  expectedAmountCalculatedAt := none
  expectedAmountApprovedAt := none
  expectedAmountApprovedByUserId := none
  expectedAmountCurrentEventId := none
  earnedAmount := none
  earnedAt := none
  receivedAmount := none
  receivedReference := none
  status := .onTrack
  statusCalculatedAt := none

/-- The identity column of the period table supplies the id. -/
def recordPeriodActual (session : Session) (periodId organisationId userId : ℕ)
    (agreement : RebateAgreement) (payload : RebatePeriodActualCreate) (now : Timestamp) :
    Except ServiceError (Session × RebatePeriodActual) := do
  let periodActual := newPeriodActual periodId organisationId agreement payload
  let session ← session.run (.insertRebatePeriodActual periodActual)
  recalculateExpected session agreement periodActual (some payload.actualSpend) now (some userId)
    ("rebate_period_actual_created:" ++ toString periodActual.id) "manual_estimate"

/-- The received amount is the one the session holds; no classification without an
expectation to classify against, and a missing one raises. -/
def refreshStatus (periodActual : RebatePeriodActual) (receivedAmount : Option ℚ)
    (periodClosed : Bool) (now : Timestamp) : Except ServiceError RebatePeriodActual :=
  if periodActual.expectedAmountStatus ∈ ["unknown", "legacy_unverified"] then
    .ok { periodActual with statusCalculatedAt := some now }
  else
    match periodActual.expectedAmount with
    | none => .error .invalidOperation
    | some expectedAmount => .ok { periodActual with
        status := classifyRebateStatus expectedAmount.value receivedAmount periodClosed false
        statusCalculatedAt := some now }

def closePeriod (periodActual : RebatePeriodActual) (asOfDate : Date) (now : Timestamp) :
    Except ServiceError RebatePeriodActual :=
  if !isPeriodDueForClose periodActual.periodEnd asOfDate then
    .error (.conflict
      ("Period ends " ++ periodActual.periodEnd.isoFormat ++ ", not yet due for close as of " ++
      asOfDate.isoFormat))
  else if periodActual.earnedAmount.isSome then .error (.conflict "Period has already been closed")
  else
    refreshStatus { periodActual with earnedAmount := periodActual.expectedAmount, earnedAt := some now }
      (periodActual.receivedAmount.map FixedPoint.value) true now

structure RebateReceiptRecord where
  receivedAmount : ℚ
  receivedReference : String
deriving DecidableEq

/-- Returns the row with the leakage, which is missing where there is nothing to compare with. -/
def recordReceipt (periodActual : RebatePeriodActual) (payload : RebateReceiptRecord)
    (now : Timestamp) : Except ServiceError (RebatePeriodActual × Option Money) := do
  let periodActual ← refreshStatus { periodActual with
      receivedAmount := some (FixedPoint.assign 4 payload.receivedAmount)
      receivedReference := some payload.receivedReference }
    (some payload.receivedAmount) periodActual.earnedAmount.isSome now
  let leakage ←
    if periodActual.expectedAmountStatus ∈ ["unknown", "legacy_unverified"] then .ok none
    else
      match periodActual.expectedAmount with
      | none => .error .invalidOperation
      | some expectedAmount =>
        .ok (some (calculateRebateLeakage expectedAmount.value (some payload.receivedAmount)))
  return (periodActual, leakage)

def IsRecalculated (new : AmountState) : Prop :=
  new = unknownAmount ∨ ∃ amount now, fitsNumeric 18 (some amount) ∧
    new = calculatedAmount amount now

section Acceptance

variable {new : AmountState} {changeReasonCode : String}

theorem IsRecalculated.fits (h : IsRecalculated new) : fitsNumeric 18 new.amount := by
  obtain rfl | ⟨amount, now, hFits, rfl⟩ := h
  · rfl
  · exact hFits

theorem expectedAmountEvent_rowAccepted {locked : RebatePeriodActual}
    (hLocked : fitsNumeric 18 locked.expectedAmount) (eventId : ℕ) {version : ℤ}
    (hVersion : 0 < version) (hNew : IsRecalculated new) (actorUserId : Option ℕ)
    (changeReference : String)
    (hReason : changeReasonCode = "recalculation" ∨ changeReasonCode = "manual_estimate") :
    (expectedAmountEvent locked eventId version new actorUserId changeReference
      changeReasonCode).rowAccepted := by
  have hGenesis : passes (ckFamevGenesisOldFieldsNull
      (expectedAmountEvent locked eventId version new actorUserId changeReference changeReasonCode)) := by
    by_cases hFirst : version = 1
    · simp [ckFamevGenesisOldFieldsNull, expectedAmountEvent, hFirst, AmountState.null]
    · simp [ckFamevGenesisOldFieldsNull, expectedAmountEvent, hFirst]
  have hReasonCode : passes (ckFamevReasonCodeVocabulary
      (expectedAmountEvent locked eventId version new actorUserId changeReference changeReasonCode)) := by
    obtain rfl | rfl := hReason <;> simp [ckFamevReasonCodeVocabulary, expectedAmountEvent]
  have hOld : fitsNumeric 18
      (expectedAmountEvent locked eventId version new actorUserId changeReference
        changeReasonCode).old.amount := by
    unfold expectedAmountEvent
    dsimp only
    split
    · rfl
    · exact hLocked
  have hFits : fitsNumeric 18
      (expectedAmountEvent locked eventId version new actorUserId changeReference
        changeReasonCode).new.amount :=
    hNew.fits
  simp only [FinancialAmountStatusEvent.rowAccepted, hGenesis, hReasonCode, hOld, hFits,
    Bool.and_true]
  obtain rfl | ⟨amount, now, -, rfl⟩ := hNew
  · simp [ckFamevMeasureCode, ckFamevExactlyOneParent, ckFamevRebateParentMeasure,
      ckFamevOpportunityParentMeasure, ckFamevVersionPositive, ckFamevStatusValidForMeasure,
      ckFamevStateCombination, expectedAmountEvent, unknownAmount, AmountState.null, below,
      hVersion]
  · simp [ckFamevMeasureCode, ckFamevExactlyOneParent, ckFamevRebateParentMeasure,
      ckFamevOpportunityParentMeasure, ckFamevVersionPositive, ckFamevStatusValidForMeasure,
      ckFamevStateCombination, expectedAmountEvent, calculatedAmount, AmountState.null, below,
      hVersion]

theorem withExpectedAmount_rowAccepted {row : RebatePeriodActual} (hRow : row.rowAccepted)
    (hNew : IsRecalculated new) (eventId : ℕ) :
    (withExpectedAmount row new eventId).rowAccepted := by
  simp only [RebatePeriodActual.rowAccepted, Bool.and_eq_true] at hRow ⊢
  obtain ⟨⟨⟨⟨⟨hDates, -⟩, -⟩, -⟩, -⟩, hFigures⟩ := hRow
  refine ⟨⟨⟨⟨⟨hDates, ?_⟩, ?_⟩, ?_⟩, hNew.fits⟩, hFigures⟩
  all_goals
    obtain rfl | ⟨amount, now, -, rfl⟩ := hNew <;>
      simp [ckRpaExpectedAmountStatusValid, ckRpaExpectedAmountSourceBasisVocabulary,
        ckRpaExpectedAmountStateCombination, withExpectedAmount, unknownAmount, calculatedAmount,
        AmountState.null]

/-- The row differs from the stored one at most in its figures. -/
def SameRecord (old row : RebatePeriodActual) : Prop :=
  row = { old with
    actualSpend := row.actualSpend
    actualVolume := row.actualVolume
    entrySource := row.entrySource }

variable {db : Db} {old row : RebatePeriodActual}

theorem SameRecord.key (h : SameRecord old row) : row.id = old.id := by rw [h]

theorem SameRecord.pointer (h : SameRecord old row) :
    row.expectedAmountCurrentEventId = old.expectedAmountCurrentEventId := by rw [h]

theorem SameRecord.uqRebatePeriod (h : SameRecord old row) :
    uqRebatePeriod row = uqRebatePeriod old := by
  rw [h]
  rfl

theorem SameRecord.snapshot (h : SameRecord old row) :
    row.expectedAmountSnapshot = old.expectedAmountSnapshot := by
  rw [h]
  rfl

theorem SameRecord.rowAccepted (h : SameRecord old row) (hOld : old.rowAccepted)
    (hFigures : row.figuresFit) : row.rowAccepted := by
  simp only [RebatePeriodActual.rowAccepted, Bool.and_eq_true] at hOld ⊢
  refine ⟨?_, hFigures⟩
  rw [h]
  exact hOld.1

theorem SameRecord.expectedAmount_fits (h : SameRecord old row) (hOld : old.rowAccepted) :
    fitsNumeric 18 row.expectedAmount := by
  simp only [RebatePeriodActual.rowAccepted, Bool.and_eq_true] at hOld
  rw [h]
  exact hOld.1.2

theorem rowAccepted_of_accepts (hStored : ∃ stored ∈ db.rebatePeriodActuals, stored.id = row.id)
    (h : db.accepts (.updateRebatePeriodActual row)) : row.rowAccepted := by
  obtain ⟨stored, hMem, hId⟩ := hStored
  simp only [Db.accepts, Db.acceptsRebatePeriodActual, Bool.or_eq_true, Bool.and_eq_true,
    List.all_eq_true, bne_iff_ne] at h
  obtain hNone | ⟨⟨hRow, -⟩, -⟩ := h
  · exact absurd hId (hNone stored hMem)
  · exact hRow

theorem accepts_update (hDb : db.Constrained) (hOld : old ∈ db.rebatePeriodActuals)
    (hRow : row.rowAccepted) (hId : row.id = old.id)
    (hPeriod : uqRebatePeriod row = uqRebatePeriod old)
    (hPointer : db.eventExists row.expectedAmountCurrentEventId) :
    db.accepts (.updateRebatePeriodActual row) := by
  simp only [Db.accepts, Db.acceptsRebatePeriodActual, Bool.or_eq_true, Bool.and_eq_true,
    List.all_eq_true]
  refine .inr ⟨⟨hRow, hPointer⟩, ?_⟩
  intro other hOther
  by_cases hSame : other.id = old.id
  · exact .inl (by simp [hId, hSame])
  · exact .inr (hPeriod ▸ hDb.periods.compatible old hOld other hOther hSame)

theorem pointer_exists (hDb : db.Constrained) (hOld : old ∈ db.rebatePeriodActuals) :
    db.eventExists old.expectedAmountCurrentEventId := by
  have hLookup := lookup_of_mem hDb.periods.keys hOld
  exact hDb.pointers .expectedAmount old.id _ (congrArg (Option.map _) hLookup)

theorem accepts_expectedAmountEvent (hDb : db.Constrained) {locked : RebatePeriodActual}
    {eventId : ℕ} (hLocked : fitsNumeric 18 locked.expectedAmount)
    (hParent : ∃ stored ∈ db.rebatePeriodActuals, stored.id = locked.id)
    (hFresh : ∀ e ∈ db.events, e.id < eventId) (hNew : IsRecalculated new) (actorUserId : Option ℕ)
    (changeReference : String)
    (hReason : changeReasonCode = "recalculation" ∨ changeReasonCode = "manual_estimate") :
    db.accepts (.insertEvent
      (expectedAmountEvent locked eventId (nextVersion db.events .expectedAmount locked.id)
      new actorUserId changeReference changeReasonCode)) := by
  obtain ⟨hPositive, hHighest, -⟩ := nextVersion_spec hDb.events .expectedAmount locked.id
  have hRow := expectedAmountEvent_rowAccepted hLocked eventId hPositive hNew actorUserId
    changeReference hReason
  simp only [Db.accepts, Db.acceptsEvent, Bool.and_eq_true, List.all_eq_true, bne_iff_ne]
  refine ⟨⟨⟨⟨hRow, ?_⟩, ?_⟩, ?_⟩, rfl⟩
  · intro f hf
    exact (hFresh f hf).ne
  · intro f hf
    have hGoverns : Measure.expectedAmount.governs locked.id (expectedAmountEvent locked eventId
        (nextVersion db.events .expectedAmount locked.id) new actorUserId changeReference
          changeReasonCode) :=
      ⟨rfl, rfl⟩
    exact uqFamevSeq_of_governs hRow hGoverns fun hOther => (hHighest f hf hOther).ne
  · obtain ⟨stored, hStored, hId⟩ := hParent
    exact List.any_eq_true.mpr ⟨stored, hStored, by simp [hId]⟩

end Acceptance

section Recalculation

def recalculatedRow (periodActual : RebatePeriodActual) (new : AmountState) (eventId : ℕ)
    (now : Timestamp) : RebatePeriodActual :=
  { withExpectedAmount periodActual new eventId with statusCalculatedAt := some now }

def recalculatedSession (session : Session) (periodActual : RebatePeriodActual)
    (event : FinancialAmountStatusEvent) (now : Timestamp) : Session where
  db := ((session.db.apply (.updateRebatePeriodActual periodActual)).apply (.insertEvent event)).apply
    (.updateRebatePeriodActual (recalculatedRow periodActual event.new event.id now))
  executed := session.executed ++ [.updateRebatePeriodActual periodActual] ++
    [.insertEvent event] ++
    [.updateRebatePeriodActual (recalculatedRow periodActual event.new event.id now)]
  nextEventId := session.nextEventId + 1

variable {start : Db} {session : Session} {agreement : RebateAgreement}
  {old periodActual : RebatePeriodActual} {new : AmountState} {now : Timestamp}
  {actorUserId : Option ℕ} {changeReference changeReasonCode : String}

def nextExpectedAmountEvent (session : Session) (periodActual : RebatePeriodActual)
    (new : AmountState) (actorUserId : Option ℕ) (changeReference changeReasonCode : String) :
    FinancialAmountStatusEvent :=
  expectedAmountEvent periodActual session.nextEventId
    (nextVersion session.db.events .expectedAmount periodActual.id) new actorUserId changeReference
    changeReasonCode

theorem recalculatedSession_extends (session : Session) (periodActual : RebatePeriodActual)
    (event : FinancialAmountStatusEvent) (now : Timestamp) :
    session.Extends (recalculatedSession session periodActual event now) where
  executed := by simp only [recalculatedSession, List.append_assoc, List.subset_append_left]
  events := List.subset_append_left _ _

theorem recalculatedSession_sound (hSound : session.Sound start)
    (hOld : old ∈ session.db.rebatePeriodActuals) (hSame : SameRecord old periodActual)
    (hFits : periodActual.figuresFit) (hNew : IsRecalculated new) (actorUserId : Option ℕ)
    (changeReference : String)
    (hReason : changeReasonCode = "recalculation" ∨ changeReasonCode = "manual_estimate")
    (now : Timestamp) :
    let event :=
  nextExpectedAmountEvent session periodActual new actorUserId changeReference changeReasonCode
    let flushed := session.db.apply (.updateRebatePeriodActual periodActual)
    session.db.accepts (.updateRebatePeriodActual periodActual) ∧
      flushed.accepts (.insertEvent event) ∧ (flushed.apply (.insertEvent event)).accepts
        (.updateRebatePeriodActual (recalculatedRow periodActual event.new event.id now)) ∧
      (recalculatedSession session periodActual event now).Sound start := by
  intro event flushed
  have hConstrained := hSound.constrained
  have hOldAccepted := hConstrained.periods.accepted old hOld
  have hRowAccepted := hSame.rowAccepted hOldAccepted hFits
  have hFigures : session.db.accepts (.updateRebatePeriodActual periodActual) :=
    accepts_update hConstrained hOld hRowAccepted hSame.key hSame.uqRebatePeriod
      (hSame.pointer ▸ pointer_exists hConstrained hOld)
  have hFlushed := hSound.apply hFigures hSound.fresh
  have hRow : periodActual ∈ flushed.rebatePeriodActuals := mem_replace_self hOld hSame.key.symm
  have hEvent : flushed.accepts (.insertEvent event) :=
    accepts_expectedAmountEvent hFlushed.constrained (hSame.expectedAmount_fits hOldAccepted)
      ⟨periodActual, hRow, rfl⟩
      hSound.fresh hNew actorUserId changeReference hReason
  have hFresh : ∀ e ∈ (flushed.apply (.insertEvent event)).events,
      e.id < session.nextEventId + 1 := by
    intro e he
    obtain he | he := List.mem_append.mp he
    · exact (hSound.fresh e he).trans (Nat.lt_succ_self _)
    · rw [List.mem_singleton.mp he]
      exact Nat.lt_succ_self _
  have hInserted := hFlushed.apply hEvent hFresh
  have hSnapshot : (flushed.apply (.insertEvent event)).accepts
      (.updateRebatePeriodActual (recalculatedRow periodActual event.new event.id now)) := by
    refine accepts_update hInserted.constrained hRow
      (withExpectedAmount_rowAccepted hRowAccepted hNew event.id) rfl
      rfl ?_
    exact List.any_eq_true.mpr ⟨event, List.mem_append_right _ (List.mem_singleton.mpr rfl),
      beq_self_eq_true _⟩
  exact ⟨hFigures, hEvent, hSnapshot, hInserted.apply hSnapshot hInserted.fresh⟩

theorem writeExpectedAmountEvent_eq_ok
    (hFigures : session.db.accepts (.updateRebatePeriodActual periodActual))
    (hEvent : (session.db.apply (.updateRebatePeriodActual periodActual)).accepts (.insertEvent
      (nextExpectedAmountEvent session periodActual new actorUserId changeReference changeReasonCode))) :
    let event :=
  nextExpectedAmountEvent session periodActual new actorUserId changeReference changeReasonCode
    writeExpectedAmountEvent session periodActual new actorUserId changeReference changeReasonCode =
      .ok (⟨(session.db.apply (.updateRebatePeriodActual periodActual)).apply (.insertEvent event),
        session.executed ++ [.updateRebatePeriodActual periodActual] ++ [.insertEvent event],
        session.nextEventId + 1⟩, withExpectedAmount periodActual new event.id) := by
  intro event
  have hFlush := (@Session.run_eq_ok session _ _).mpr ⟨hFigures, rfl⟩
  have hInsert :=
    @Session.insertEvent_eq_ok ⟨session.db.apply (.updateRebatePeriodActual periodActual),
      session.executed ++ [.updateRebatePeriodActual periodActual],
      session.nextEventId⟩ event rfl hEvent
  have hReturn := bind_of_eq_ok hInsert fun inserted =>
    (Except.ok (inserted, withExpectedAmount periodActual new event.id) :
      Except ServiceError (Session × RebatePeriodActual))
  rw [writeExpectedAmountEvent, bind_of_eq_ok hFlush]
  exact hReturn

/-- The figures of a period fit their columns, and so does the amount that the agreement makes of
its spend. -/
structure Recordable (agreement : RebateAgreement) (periodActual : RebatePeriodActual)
    (actualSpend : Option ℚ) : Prop where
  figures : periodActual.figuresFit
  amount : ∃ amount, computeExpectedAmount agreement actualSpend = .ok (some amount) ∧
    fitsNumeric 18 (some amount)

theorem recalculateExpected_eq_ok (hSound : session.Sound start)
    (hOld : old ∈ session.db.rebatePeriodActuals) (hSame : SameRecord old periodActual)
    {actualSpend : Option ℚ} (hRecordable : Recordable agreement periodActual actualSpend)
    (hReason : changeReasonCode = "recalculation" ∨ changeReasonCode = "manual_estimate") :
    ∃ amount, fitsNumeric 18 (some amount) ∧
      let event :=
  nextExpectedAmountEvent session periodActual (calculatedAmount amount now) actorUserId
        changeReference changeReasonCode
      recalculateExpected session agreement periodActual actualSpend now actorUserId changeReference
          changeReasonCode =
        .ok (recalculatedSession session periodActual event now,
          recalculatedRow periodActual event.new event.id now) := by
  obtain ⟨amount, hAmount, hFits⟩ := hRecordable.amount
  obtain ⟨hFigures, hEvent, hSnapshot, -⟩ :=
    recalculatedSession_sound hSound hOld hSame hRecordable.figures
      (.inr ⟨amount, now, hFits, rfl⟩) actorUserId changeReference hReason now
  refine ⟨amount, hFits, ?_⟩
  have hNewAmount : (computeExpectedAmount agreement actualSpend).mapError ServiceError.value =
      .ok (some amount) := by
    rw [hAmount]
    rfl
  rw [recalculateExpected, bind_of_eq_ok hNewAmount,
    bind_of_eq_ok (writeExpectedAmountEvent_eq_ok hFigures hEvent)]
  exact bind_of_eq_ok (Session.run_eq_ok.mpr ⟨hSnapshot, rfl⟩) _

/-- What a spend is recalculated to has been stored, so it fits. -/
theorem recordable_of_recalculateExpected
    (hStored : ∃ stored ∈ session.db.rebatePeriodActuals, stored.id = periodActual.id)
    {spend : ℚ} {result : Session × RebatePeriodActual}
    (h : recalculateExpected session agreement periodActual (some spend) now actorUserId changeReference
      changeReasonCode = .ok result) : Recordable agreement periodActual (some spend) := by
  rw [recalculateExpected] at h
  obtain ⟨newAmount, hMapped, hRest⟩ := exists_of_bind_eq_ok h
  obtain ⟨written, hWrite, -⟩ := exists_of_bind_eq_ok hRest
  have hComputed := eq_ok_of_mapError hMapped
  obtain ⟨amount, -, hAmount⟩ := exists_of_bind_eq_ok hComputed
  cases hAmount
  rw [writeExpectedAmountEvent] at hWrite
  obtain ⟨locked, hRun, hRest⟩ := exists_of_bind_eq_ok hWrite
  obtain ⟨inserted, hInsert, -⟩ := exists_of_bind_eq_ok hRest
  have hRow := rowAccepted_of_accepts hStored (Session.run_eq_ok.mp hRun).1
  simp only [RebatePeriodActual.rowAccepted, Bool.and_eq_true] at hRow
  exact ⟨hRow.2, amount, hComputed, Session.fits_of_insertEvent hInsert⟩

end Recalculation

end ProcureFoundation.Rebate
