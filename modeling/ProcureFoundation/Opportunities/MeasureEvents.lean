import ProcureFoundation.Opportunities.Service

/-!
# Events of the opportunity measures

The helper writes one event for one measure and hands back the row with the measure's
columns changed. Until that row is sent, the measures of its opportunity are pending,
and everything else is as it was.
-/

namespace ProcureFoundation.Opportunities

open Outcome Evidence ThreeValued KeyedRows

/-- The states that the service writes, each for its measure. -/
inductive Written : Measure → AmountState → Prop
  | unknownImpact : Written .annualFinancialImpact unknownState
  | unknownSavings : Written .realisedSavings unknownState
  | estimated (amount : Money) (effectiveFrom : Date) (hFits : fitsNumeric 18 (some amount)) :
      Written .annualFinancialImpact (estimatedState amount (some effectiveFrom))
  | confirmed (amount : Money) (approvedAt : Timestamp) (userId : ℕ) (periodStart periodEnd : Date)
      (hPeriod : periodStart ≤ periodEnd) (hFits : fitsNumeric 18 (some amount)) :
      Written .realisedSavings (confirmedState amount approvedAt userId periodStart periodEnd)

def OfOpportunity (id : ℕ) (measure : Measure) (parentId : ℕ) : Prop :=
  measure ≠ .expectedAmount ∧ parentId = id

structure Sendable (db : Db) (row : Opportunity) : Prop where
  stored : ∃ old ∈ db.opportunities, old.id = row.id
  accepted : row.rowAccepted
  impactPointer : db.eventExists row.annualFinancialImpactCurrentEventId
  savingsPointer : db.eventExists row.realisedSavingsCurrentEventId

section Rows

variable {measure : Measure} {new : AmountState} {row : Opportunity} {db : Db}

theorem Written.ne_expectedAmount (h : Written measure new) : measure ≠ .expectedAmount := by
  cases h <;> decide

theorem Written.impact_unconfirmed (h : Written .annualFinancialImpact new) :
    ∃ status, new.status = some status ∧ status ≠ "confirmed" := by
  cases h with
  | unknownImpact => exact ⟨"unknown", rfl, by decide⟩
  | estimated => exact ⟨"estimated", rfl, by decide⟩

theorem Written.fits (h : Written measure new) : fitsNumeric 18 new.amount := by
  cases h with
  | unknownImpact | unknownSavings => rfl
  | estimated _ _ hFits => exact hFits
  | confirmed _ _ _ _ _ _ hFits => exact hFits

theorem rowAccepted_fits (hRow : row.rowAccepted) :
    fitsNumeric 18 (measureSnapshot row measure).columns.amount := by
  simp only [Opportunity.rowAccepted, Bool.and_eq_true] at hRow
  obtain ⟨⟨-, hImpact⟩, hSavings⟩ := hRow
  unfold measureSnapshot
  split
  · exact hImpact
  · exact hSavings

theorem measureEvent_rowAccepted {locked : Opportunity} (hLocked : locked.rowAccepted) (eventId : ℕ)
    {version : ℤ} (hVersion : 0 < version) (hNew : Written measure new) (actorUserId : Option ℕ)
    (changeReference : String) {changeReasonCode : String}
    (hReason : changeReasonCode = "manual_estimate" ∨ changeReasonCode = "evidence_received") :
    (measureEvent locked measure eventId version new actorUserId changeReference
      changeReasonCode).rowAccepted := by
  have hGenesis : passes (ckFamevGenesisOldFieldsNull
      (measureEvent locked measure eventId version new actorUserId changeReference
        changeReasonCode)) := by
    by_cases hFirst : version = 1
    · simp [ckFamevGenesisOldFieldsNull, measureEvent, hFirst, AmountState.null]
    · simp [ckFamevGenesisOldFieldsNull, measureEvent, hFirst]
  have hReasonCode : passes (ckFamevReasonCodeVocabulary
      (measureEvent locked measure eventId version new actorUserId changeReference
        changeReasonCode)) := by
    obtain rfl | rfl := hReason <;> simp [ckFamevReasonCodeVocabulary, measureEvent]
  have hOld : fitsNumeric 18
      (measureEvent locked measure eventId version new actorUserId changeReference
        changeReasonCode).old.amount := by
    unfold measureEvent
    dsimp only
    split
    · rfl
    · exact rowAccepted_fits hLocked
  have hFits : fitsNumeric 18
      (measureEvent locked measure eventId version new actorUserId changeReference
        changeReasonCode).new.amount :=
    hNew.fits
  simp only [FinancialAmountStatusEvent.rowAccepted, hGenesis, hReasonCode, hOld, hFits,
    Bool.and_true]
  cases hNew with
  | unknownImpact | unknownSavings | estimated amount effectiveFrom hAmount =>
    simp [ckFamevMeasureCode, ckFamevExactlyOneParent, ckFamevRebateParentMeasure,
      ckFamevOpportunityParentMeasure, ckFamevVersionPositive, ckFamevStatusValidForMeasure,
      ckFamevStateCombination, measureEvent, Measure.code, unknownState, estimatedState,
      AmountState.null, below, hVersion]
  | confirmed amount approvedAt userId periodStart periodEnd hPeriod hAmount =>
    simp [ckFamevMeasureCode, ckFamevExactlyOneParent, ckFamevRebateParentMeasure,
      ckFamevOpportunityParentMeasure, ckFamevVersionPositive, ckFamevStatusValidForMeasure,
      ckFamevStateCombination, measureEvent, Measure.code, confirmedState, AmountState.null, below,
      hVersion, atMost, hPeriod]

theorem withMeasure_rowAccepted (hRow : row.rowAccepted) (hNew : Written measure new)
    (eventId : ℕ) : (withMeasure row measure new eventId).rowAccepted := by
  simp only [Opportunity.rowAccepted, Bool.and_eq_true] at hRow ⊢
  obtain ⟨⟨⟨⟨⟨⟨⟨hImpactStatus, hImpactBasis⟩, hImpact⟩, hSavingsStatus⟩, hSavingsBasis⟩, hSavings⟩,
    hImpactFits⟩, hSavingsFits⟩ := hRow
  have hFits := hNew.fits
  cases hNew with
  | unknownImpact | estimated amount effectiveFrom hAmount =>
    refine ⟨⟨⟨⟨⟨⟨⟨?_, ?_⟩, ?_⟩, hSavingsStatus⟩, hSavingsBasis⟩, hSavings⟩, hFits⟩, hSavingsFits⟩
    all_goals
      simp [ckOppAfiStatusValid, ckOppAfiSourceBasisVocabulary, ckOppAfiStateCombination,
        withMeasure, unknownState, estimatedState, AmountState.null]
  | unknownSavings =>
    refine ⟨⟨⟨⟨⟨⟨⟨hImpactStatus, hImpactBasis⟩, hImpact⟩, ?_⟩, ?_⟩, ?_⟩, hImpactFits⟩, hFits⟩
    all_goals
      simp [ckOppRsStatusValid, ckOppRsSourceBasisVocabulary, ckOppRsStateCombination, withMeasure,
        unknownState, AmountState.null]
  | confirmed amount approvedAt userId periodStart periodEnd hPeriod hAmount =>
    refine ⟨⟨⟨⟨⟨⟨⟨hImpactStatus, hImpactBasis⟩, hImpact⟩, ?_⟩, ?_⟩, ?_⟩, hImpactFits⟩, hFits⟩
    all_goals
      simp [ckOppRsStatusValid, ckOppRsSourceBasisVocabulary, ckOppRsStateCombination, withMeasure,
        confirmedState, AmountState.null, atMost, hPeriod]

theorem withMeasure_id (row : Opportunity) (measure : Measure) (new : AmountState) (eventId : ℕ) :
    (withMeasure row measure new eventId).id = row.id := by
  unfold withMeasure
  split
  · rfl
  · rfl

theorem measureSnapshot_withMeasure (hNew : Written measure new) (eventId : ℕ) :
    measureSnapshot (withMeasure row measure new eventId) measure =
      ⟨row.organisationId, some eventId, measure.mirrored new⟩ := by
  cases hNew <;> rfl

theorem Sendable.accepts (h : Sendable db row) : db.accepts (.updateOpportunity row) := by
  simp [Db.accepts, Db.acceptsOpportunity, h.accepted, h.impactPointer, h.savingsPointer]

theorem governs_measureEvent (locked : Opportunity) (hMeasure : measure ≠ .expectedAmount)
    (eventId : ℕ) (version : ℤ) (new : AmountState) (actorUserId : Option ℕ)
    (changeReference changeReasonCode : String) : measure.governs locked.id
      (measureEvent locked measure eventId version new actorUserId changeReference changeReasonCode) := by
  cases measure with
  | expectedAmount => exact absurd rfl hMeasure
  | annualFinancialImpact | realisedSavings => exact ⟨rfl, rfl⟩

end Rows

section Helper

variable {start : Db} {session : Session} {opportunity : Opportunity} {measure : Measure}
  {new : AmountState} {actorUserId : Option ℕ} {changeReference changeReasonCode : String}
  {pending : Measure → ℕ → Prop}

def nextMeasureEvent (session : Session) (opportunity : Opportunity) (measure : Measure)
    (new : AmountState) (actorUserId : Option ℕ) (changeReference changeReasonCode : String) :
    FinancialAmountStatusEvent :=
  measureEvent opportunity measure session.nextEventId
    (nextVersion session.db.events measure opportunity.id) new
    actorUserId changeReference changeReasonCode

def writtenSession (session : Session) (opportunity : Opportunity)
    (event : FinancialAmountStatusEvent) : Session where
  db := (session.db.apply (.updateOpportunity opportunity)).apply (.insertEvent event)
  executed := session.executed ++ [.updateOpportunity opportunity] ++ [.insertEvent event]
  nextEventId := session.nextEventId + 1

theorem accepts_measureEvent {db : Db} (hDb : db.Constrained) {eventId : ℕ}
    (hLocked : opportunity.rowAccepted)
    (hParent : ∃ stored ∈ db.opportunities, stored.id = opportunity.id)
    (hFresh : ∀ e ∈ db.events, e.id < eventId) (hNew : Written measure new) (actorUserId : Option ℕ)
    (changeReference : String)
    (hReason : changeReasonCode = "manual_estimate" ∨ changeReasonCode = "evidence_received") :
    db.accepts (.insertEvent (measureEvent opportunity measure eventId
      (nextVersion db.events measure opportunity.id) new actorUserId changeReference
        changeReasonCode)) := by
  obtain ⟨hPositive, hHighest, -⟩ := nextVersion_spec hDb.events measure opportunity.id
  have hRow :=
    measureEvent_rowAccepted hLocked eventId hPositive hNew actorUserId changeReference hReason
  simp only [Db.accepts, Db.acceptsEvent, Bool.and_eq_true, List.all_eq_true, bne_iff_ne]
  refine ⟨⟨⟨⟨hRow, ?_⟩, ?_⟩, rfl⟩, ?_⟩
  · intro f hf
    exact (hFresh f hf).ne
  · intro f hf
    have hGoverns := governs_measureEvent opportunity hNew.ne_expectedAmount eventId
      (nextVersion db.events measure opportunity.id) new actorUserId changeReference changeReasonCode
    exact uqFamevSeq_of_governs hRow hGoverns fun hOther => (hHighest f hf hOther).ne
  · obtain ⟨stored, hStored, hId⟩ := hParent
    exact List.any_eq_true.mpr ⟨stored, hStored, by simp [hId]⟩

structure WriteOutcome (start : Db) (session session' : Session) (opportunity : Opportunity)
    (measure : Measure) (new : AmountState) (event : FinancialAmountStatusEvent) : Prop where
  sound : session'.Sound start
  chained : session'.db.Chained (OfOpportunity opportunity.id)
  sendable : Sendable session'.db (withMeasure opportunity measure new event.id)
  events : session'.db.events = session.db.events ++ [event]
  evidence : session'.db.evidence = session.db.evidence
  governs : measure.governs opportunity.id event
  state : event.new = new
  organisation : event.organisationId = opportunity.organisationId
  agrees : (measureSnapshot (withMeasure opportunity measure new event.id) measure).Agrees
    (session.db.events ++ [event]) measure opportunity.id

/-- An event that is stored has an amount that fits its column. -/
theorem fits_of_writeOpportunityMeasureEvent {result : Session × Opportunity × ℕ}
    (h : writeOpportunityMeasureEvent session opportunity measure new actorUserId changeReference
      changeReasonCode = .ok result) : fitsNumeric 18 new.amount := by
  unfold writeOpportunityMeasureEvent at h
  obtain ⟨locked, -, hRest⟩ := exists_of_bind_eq_ok h
  split at hRest
  · cases hRest
  · obtain ⟨inserted, hInsert, -⟩ := exists_of_bind_eq_ok hRest
    exact Session.fits_of_insertEvent hInsert

/-- The helper goes through and leaves only the measures of its opportunity pending. -/
theorem writeOpportunityMeasureEvent_spec (hSound : session.Sound start)
    (hChained : session.db.Chained pending) (hSendable : Sendable session.db opportunity)
    (hPending : ∀ measure parentId, pending measure parentId →
      OfOpportunity opportunity.id measure parentId)
    (hNew : Written measure new) (actorUserId : Option ℕ) (changeReference : String)
    (hReason : changeReasonCode = "manual_estimate" ∨ changeReasonCode = "evidence_received")
    (hContinues : ∀ latest ∈ session.db.events, measure.governs opportunity.id latest →
      latest.eventVersion = nextVersion session.db.events measure opportunity.id - 1 →
        Continues latest
        (nextMeasureEvent session opportunity measure new actorUserId changeReference changeReasonCode)) :
    ∃ session' event,
      writeOpportunityMeasureEvent session opportunity measure new actorUserId changeReference
        changeReasonCode = .ok (session', withMeasure opportunity measure new event.id, event.id) ∧
      WriteOutcome start session session' opportunity measure new event := by
  set event :=
    nextMeasureEvent session opportunity measure new actorUserId changeReference changeReasonCode
  have hFlush := hSendable.accepts
  have hFlushed := hSound.apply hFlush hSound.fresh
  obtain ⟨old, hOld, hId⟩ := hSendable.stored
  have hRow : opportunity ∈ (session.db.apply (.updateOpportunity opportunity)).opportunities :=
    mem_replace_self hOld hId
  have hEvent : (session.db.apply (.updateOpportunity opportunity)).accepts (.insertEvent event) :=
    accepts_measureEvent hFlushed.constrained hSendable.accepted
      ⟨opportunity, hRow, rfl⟩ hSound.fresh hNew actorUserId
      changeReference hReason
  have hGoverns : measure.governs opportunity.id event :=
    governs_measureEvent opportunity hNew.ne_expectedAmount _ _ new actorUserId changeReference
      changeReasonCode
  have hFresh :
    ∀ e ∈ ((session.db.apply (.updateOpportunity opportunity)).apply (.insertEvent event)).events,
      e.id < session.nextEventId + 1 := by
    intro e he
    obtain he | he := List.mem_append.mp he
    · exact (hSound.fresh e he).trans (Nat.lt_succ_self _)
    · rw [List.mem_singleton.mp he]
      exact Nat.lt_succ_self _
  refine ⟨writtenSession session opportunity event, event, ?_, ?_⟩
  · have hRun := (@Session.run_eq_ok session _ _).mpr ⟨hFlush, rfl⟩
    have hInsert := @Session.insertEvent_eq_ok ⟨session.db.apply (.updateOpportunity opportunity),
      session.executed ++ [.updateOpportunity opportunity], session.nextEventId⟩ event rfl hEvent
    rw [writeOpportunityMeasureEvent, bind_of_eq_ok hRun, if_neg hNew.ne_expectedAmount]
    exact bind_of_eq_ok hInsert fun inserted =>
      .ok (inserted, withMeasure opportunity measure new event.id, event.id)
  constructor
  case sound => exact hFlushed.apply hEvent hFresh
  case chained =>
    have hRest : (session.db.apply (.updateOpportunity opportunity)).Chained
        (OfOpportunity opportunity.id) := by
      apply hChained.apply_row hFlush rfl
      · intro measure' parentId snapshot hTouches hNotPending
        exact absurd ⟨hTouches.1, hTouches.2.symm⟩ hNotPending
      · intro measure' parentId hNotPending _ hIs
        exact hNotPending (hPending measure' parentId hIs)
    refine hRest.apply_insertEvent hEvent hGoverns rfl hContinues ?_
    intro measure' parentId hNotPending
    refine ⟨hNotPending, ?_⟩
    rintro hIs
    obtain ⟨rfl, rfl⟩ := Prod.mk.inj hIs
    exact hNotPending ⟨hNew.ne_expectedAmount, rfl⟩
  case sendable =>
    have hPointers : ∀ pointer, session.db.eventExists pointer →
        (writtenSession session opportunity event).db.eventExists pointer :=
      fun pointer h => Db.eventExists_apply (Db.eventExists_apply h)
    have hOwn : (writtenSession session opportunity event).db.eventExists (some event.id) :=
      List.any_eq_true.mpr ⟨event, List.mem_append_right _ (List.mem_singleton.mpr rfl),
        beq_self_eq_true _⟩
    refine ⟨⟨opportunity, hRow, (withMeasure_id _ _ _ _).symm⟩,
      withMeasure_rowAccepted hSendable.accepted hNew _, ?_, ?_⟩
    · cases hNew with
      | unknownImpact | estimated => exact hOwn
      | unknownSavings | confirmed => exact hPointers _ hSendable.impactPointer
    · cases hNew with
      | unknownImpact | estimated => exact hPointers _ hSendable.savingsPointer
      | unknownSavings | confirmed => exact hOwn
  case agrees =>
    rw [measureSnapshot_withMeasure hNew]
    exact Snapshot.agrees_of_inserted hSound.constrained.events hGoverns rfl rfl rfl rfl
  case governs => exact hGoverns
  all_goals rfl

end Helper

end ProcureFoundation.Opportunities
