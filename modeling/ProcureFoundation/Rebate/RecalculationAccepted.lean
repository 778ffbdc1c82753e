import ProcureFoundation.Rebate.SourceWaterfall

/-!
# When a recalculation is accepted

A recalculation always writes a calculated amount for the reason "recalculation". The
chain trigger lets that follow every event except a confirmed one, which needs one of
the downgrade reasons, and except one with an effective period, which the period row
has no columns for. Recording a period is accepted, and both only store what their columns
can hold.
-/

namespace ProcureFoundation.Rebate

open Outcome Evidence ThreeValued KeyedRows Ledger

def AcceptsRecalculation (events : List FinancialAmountStatusEvent) (periodId : ℕ) : Prop :=
  ∀ latest ∈ events, Measure.expectedAmount.governs periodId latest →
    (∀ f ∈ events, Measure.expectedAmount.governs periodId f →
      f.eventVersion ≤ latest.eventVersion) →
    latest.new.status ≠ some "confirmed" ∧ latest.new.effectivePeriodStart = none ∧
      latest.new.effectivePeriodEnd = none

section Step

variable {start : Db} {session : Session} {old period row : RebatePeriodActual} {amount : Money}
  {now : Timestamp} {actorUserId : Option ℕ} {changeReference changeReasonCode : String}
  {latest event : FinancialAmountStatusEvent}

/-- A calculated amount for the reason of a recalculation continues exactly the events
below confirmed whose governed values the period row repeats in full. -/
theorem continues_recalculation_iff (hReason : event.changeReasonCode = "recalculation")
    (hNew : event.new = calculatedAmount amount now)
    (hOld : event.old = Measure.expectedAmount.mirrored latest.new) :
    Continues latest event ↔ latest.new.status ≠ some "confirmed" ∧
      latest.new.effectivePeriodStart = none ∧ latest.new.effectivePeriodEnd = none := by
  have hMirrored : event.old = latest.new ↔
      latest.new.effectivePeriodStart = none ∧ latest.new.effectivePeriodEnd = none := by
    rw [hOld]
    obtain ⟨a, b, c, d, e, f, g, h⟩ := latest.new
    simp [Measure.mirrored, eq_comm]
  rw [Continues, hMirrored, and_comm, hReason, hNew]
  apply and_congr_left
  intro _
  constructor
  · intro h hConfirmed
    have hDowngrade := h 4 3 (tier_eq_four.mpr hConfirmed) rfl (by decide)
    revert hDowngrade
    decide
  · intro hNotConfirmed before after hBefore hAfter hLt
    obtain rfl : 3 = after := Option.some.inj hAfter
    have hLe := tier_le_four hBefore
    obtain rfl : before = 4 := by omega
    exact absurd (tier_eq_four.mp hBefore) hNotConfirmed

theorem acceptsRecalculation_iff {events : List FinancialAmountStatusEvent}
    (hStored : EventsStored events) {periodId : ℕ} {snapshot : Snapshot}
    (hCurrent : IsCurrentEvent events .expectedAmount periodId snapshot latest) :
    AcceptsRecalculation events periodId ↔ latest.new.status ≠ some "confirmed" ∧
      latest.new.effectivePeriodStart = none ∧ latest.new.effectivePeriodEnd = none := by
  constructor
  · intro h
    exact h latest hCurrent.mem hCurrent.governs hCurrent.latest
  · intro h other hOther hGoverns hLatest
    have hSeries := (Measure.governs_iff_series (hStored.accepted other hOther)).mp hGoverns
    have hSeries' :=
      (Measure.governs_iff_series (hStored.accepted latest hCurrent.mem)).mp hCurrent.governs
    have hVersion : other.eventVersion = latest.eventVersion :=
      le_antisymm (hCurrent.latest other hOther hGoverns) (hLatest latest hCurrent.mem hCurrent.governs)
    rw [hStored.sequence hOther hCurrent.mem (hSeries.trans hSeries'.symm) hVersion]
    exact h

theorem aggregationEvent_old {events : List FinancialAmountStatusEvent}
    (hStored : EventsStored events) (hEvents : session.db.events = events)
    (hSame : SameRecord period row)
    (hCurrent : IsCurrentEvent events .expectedAmount period.id period.expectedAmountSnapshot latest) :
    (aggregationEvent session row amount now).old = Measure.expectedAmount.mirrored latest.new ∧
      (aggregationEvent session row amount now).eventVersion = latest.eventVersion + 1 := by
  have hVersion := nextVersion_of_current hStored hCurrent
  have hPositive :=
    FinancialAmountStatusEvent.eventVersion_pos (hStored.accepted latest hCurrent.mem)
  have hEvent : (aggregationEvent session row amount now).eventVersion =
      latest.eventVersion + 1 := by
    rw [← hVersion, ← hEvents, ← hSame.key]
    rfl
  refine ⟨?_, hEvent⟩
  have hNotFirst : (aggregationEvent session row amount now).eventVersion ≠ 1 := by omega
  calc
    (aggregationEvent session row amount now).old = row.expectedAmountSnapshot.columns :=
      if_neg hNotFirst
    _ = period.expectedAmountSnapshot.columns := by rw [hSame.snapshot]
    _ = Measure.expectedAmount.mirrored latest.new := hCurrent.columns

variable {pending : Measure → ℕ → Prop} {new : AmountState}

theorem recalculatedSession_chained (hSound : session.Sound start)
    (hOld : old ∈ session.db.rebatePeriodActuals) (hSame : SameRecord old row)
    (hFits : row.figuresFit) (hNew : IsRecalculated new)
    (hReason : changeReasonCode = "recalculation" ∨ changeReasonCode = "manual_estimate")
    (hChained : session.db.Chained pending)
    (hPending : ∀ measure parentId, pending measure parentId →
      (measure, parentId) = (.expectedAmount, row.id))
    (hContinues : ∀ latest ∈ session.db.events, Measure.expectedAmount.governs row.id latest →
      latest.eventVersion = nextVersion session.db.events .expectedAmount row.id - 1 →
      Continues latest
        (nextExpectedAmountEvent session row new actorUserId changeReference changeReasonCode)) :
    (recalculatedSession session row
      (nextExpectedAmountEvent session row new actorUserId changeReference changeReasonCode)
        now).db.Chained
        fun _ _ => False := by
  obtain ⟨hFigures, hEvent, hSnapshot, -⟩ :=
    recalculatedSession_sound hSound hOld hSame hFits hNew actorUserId changeReference hReason now
  have hFlushed : (session.db.apply (.updateRebatePeriodActual row)).Chained fun measure parentId =>
      (measure, parentId) = (.expectedAmount, row.id) := by
    apply hChained.apply_row hFigures rfl
    · rintro measure parentId snapshot ⟨rfl, rfl⟩ hNotPending
      exact absurd rfl hNotPending
    · intro measure parentId hNotPending _ hIs
      exact hNotPending (hPending measure parentId hIs)
  have hGoverns : Measure.expectedAmount.governs row.id
      (nextExpectedAmountEvent session row new actorUserId changeReference changeReasonCode) :=
        ⟨rfl, rfl⟩
  have hInserted := hFlushed.apply_insertEvent hEvent hGoverns rfl hContinues
    fun measure parentId (hNot : ¬(measure, parentId) = (.expectedAmount, row.id)) => ⟨hNot, hNot⟩
  apply hInserted.apply_row hSnapshot rfl
  · rintro measure parentId snapshot ⟨rfl, rfl⟩ - hWritten
    cases hWritten
    refine Snapshot.agrees_of_inserted hSound.constrained.events ⟨rfl, rfl⟩ rfl rfl rfl ?_
    obtain rfl | ⟨amount, at_, -, rfl⟩ := hNew
    · rfl
    · rfl
  · rintro measure parentId - hUntouched hIs
    obtain ⟨rfl, rfl⟩ := Prod.mk.inj hIs
    exact hUntouched ⟨rfl, rfl⟩

theorem recalculatedSession_valid (hSound : session.Sound start)
    (hOld : old ∈ session.db.rebatePeriodActuals) (hSame : SameRecord old row)
    (hFits : row.figuresFit) (hNew : IsRecalculated new)
    (hReason : changeReasonCode = "recalculation" ∨ changeReasonCode = "manual_estimate")
    (hChained : session.db.Chained pending)
    (hPending : ∀ measure parentId, pending measure parentId →
      (measure, parentId) = (.expectedAmount, row.id))
    (hEvidence : ∀ e ∈ session.db.events,
      checkConfirmedEventHasSufficientEvidence session.db.evidence e)
    (hContinues : ∀ latest ∈ session.db.events, Measure.expectedAmount.governs row.id latest →
      latest.eventVersion = nextVersion session.db.events .expectedAmount row.id - 1 →
      Continues latest
        (nextExpectedAmountEvent session row new actorUserId changeReference changeReasonCode)) :
    (recalculatedSession session row
      (nextExpectedAmountEvent session row new actorUserId changeReference changeReasonCode)
        now).db.Valid := by
  refine (recalculatedSession_chained hSound hOld hSame hFits hNew hReason hChained hPending
    hContinues).valid ?_
  intro e he
  obtain he | he := List.mem_append.mp he
  · exact hEvidence e he
  · obtain rfl := List.mem_singleton.mp he
    obtain rfl | ⟨amount, at_, -, rfl⟩ := hNew
    · exact checkConfirmedEventHasSufficientEvidence_of_unconfirmed _ rfl (by decide)
    · exact checkConfirmedEventHasSufficientEvidence_of_unconfirmed _ rfl (by decide)

end Step

section Loop

variable {start : Db} {session : Session} {ledger : PurchaseLedger}
  {agreements : List RebateAgreement} {supplierId : ℕ} {now : Timestamp}
  {period row : RebatePeriodActual} {updated : List RebatePeriodActual} {amount : Money}
  {aggregated : RebatePeriodActual → Option RebatePeriodActual}

theorem aggregationEvent_continues_iff (hDb : session.db.Valid)
    (hMem : period ∈ session.db.rebatePeriodActuals) (hSame : SameRecord period row) :
    ∃ latest ∈ session.db.events, Measure.expectedAmount.governs row.id latest ∧
      (aggregationEvent session row amount now).eventVersion = latest.eventVersion + 1 ∧
      (Continues latest (aggregationEvent session row amount now) ↔
        AcceptsRecalculation session.db.events period.id) := by
  have hLookup := lookup_of_mem hDb.periods.keys hMem
  obtain ⟨latest, hCurrent⟩ :=
    hDb.snapshotsAgree .expectedAmount period.id _ (congrArg (Option.map _) hLookup)
  obtain ⟨hOld, hVersion⟩ := aggregationEvent_old hDb.events rfl hSame hCurrent
  refine ⟨latest, hCurrent.mem, hSame.key ▸ hCurrent.governs, hVersion, ?_⟩
  rw [acceptsRecalculation_iff hDb.events hCurrent]
  exact continues_recalculation_iff rfl rfl hOld

theorem recalculatedSession_valid_of_accepts (hSound : session.Sound start) (hDb : session.db.Valid)
    (hMem : period ∈ session.db.rebatePeriodActuals) (hSame : SameRecord period row)
    (hFigures : row.figuresFit) (hAmount : fitsNumeric 18 (some amount))
    (hAccepts : AcceptsRecalculation session.db.events period.id) :
    (recalculatedSession session row (aggregationEvent session row amount now) now).db.Valid := by
  refine recalculatedSession_valid hSound hMem hSame hFigures (.inr ⟨amount, now, hAmount, rfl⟩)
    (.inl rfl) hDb.chained
    (fun _ _ h => h.elim) hDb.evidenceSufficient ?_
  intro other hOther hGoverns hVersion
  obtain ⟨latest, hLatest, hLatestGoverns, hLatestVersion, hIff⟩ :=
    @aggregationEvent_continues_iff session now period row amount hDb hMem hSame
  have hSeries := (Measure.governs_iff_series (hDb.events.accepted other hOther)).mp hGoverns
  have hSeries' :=
    (Measure.governs_iff_series (hDb.events.accepted latest hLatest)).mp hLatestGoverns
  have hSameVersion : other.eventVersion = latest.eventVersion := by
    change nextVersion session.db.events .expectedAmount row.id =
      latest.eventVersion + 1 at hLatestVersion
    omega
  rw [hDb.events.sequence hOther hLatest (hSeries.trans hSeries'.symm) hSameVersion]
  exact hIff.mpr hAccepts

theorem accepts_of_commit (hDb : session.db.Valid) (hMem : period ∈ session.db.rebatePeriodActuals)
    (hSame : SameRecord period row) {session' : Session}
    (hExtends : (recalculatedSession session row (aggregationEvent session row amount now)
      now).Extends session')
    (hSound' : session'.Sound start) {final : Db} (hCommit : session'.commit = .ok final) :
    AcceptsRecalculation session.db.events period.id := by
  obtain ⟨latest, hLatest, hGoverns, hVersion, hIff⟩ :=
    @aggregationEvent_continues_iff session now period row amount hDb hMem hSame
  obtain ⟨hPass, -⟩ := Session.commit_eq_ok.mp hCommit
  have hExecuted : .insertEvent (aggregationEvent session row amount now) ∈ session'.executed := by
    apply hExtends.executed
    simp [recalculatedSession]
  obtain ⟨-, hChain⟩ :=
    Statement.triggersPass_insertedEvents (List.mem_singleton.mpr rfl) (hPass _ hExecuted)
  have hEvents := hSound'.constrained.events
  have hLatest' : latest ∈ session'.db.events :=
    hExtends.events (List.mem_append_left _ hLatest)
  have hEvent : aggregationEvent session row amount now ∈ session'.db.events :=
    hSound'.inserted _ hExecuted _ (List.mem_singleton.mpr rfl)
  have hPositive := FinancialAmountStatusEvent.eventVersion_pos (hDb.events.accepted latest hLatest)
  obtain hFirst | ⟨prev, hFound, hContinues⟩ := checkEventChainIntegrity_eq_true.mp hChain
  · omega
  · obtain ⟨hPrev, hSeries, hPrevVersion⟩ := precedingEvent_some hFound
    have hGovernsEvent : Measure.expectedAmount.governs row.id
      (aggregationEvent session row amount now) := ⟨rfl, rfl⟩
    have hSeriesEvent := (Measure.governs_iff_series (hEvents.accepted _ hEvent)).mp hGovernsEvent
    have hSeriesLatest :=
      (Measure.governs_iff_series (hDb.events.accepted latest hLatest)).mp hGoverns
    have hSameSeries := (hSeries.trans hSeriesEvent).trans hSeriesLatest.symm
    have hSameVersion : prev.eventVersion = latest.eventVersion := by omega
    rw [hEvents.sequence hPrev hLatest' hSameSeries hSameVersion] at hContinues
    exact hIff.mp hContinues

theorem acceptsRecalculation_append {events : List FinancialAmountStatusEvent}
    {event : FinancialAmountStatusEvent} {periodId : ℕ}
    (hOther : ¬Measure.expectedAmount.governs periodId event) :
    AcceptsRecalculation (events ++ [event]) periodId ↔ AcceptsRecalculation events periodId := by
  constructor
  · intro h latest hLatest hGoverns hMax
    apply h latest (List.mem_append_left _ hLatest) hGoverns
    intro f hf hfGoverns
    obtain hf | hf := List.mem_append.mp hf
    · exact hMax f hf hfGoverns
    · exact absurd (List.mem_singleton.mp hf ▸ hfGoverns) hOther
  · intro h latest hLatest hGoverns hMax
    obtain hLatest | hLatest := List.mem_append.mp hLatest
    · exact h latest hLatest hGoverns fun f hf => hMax f (List.mem_append_left _ hf)
    · exact absurd (List.mem_singleton.mp hLatest ▸ hGoverns) hOther

/-- The loop's transaction commits exactly when each period it re-aggregates accepts it. -/
theorem recalculatePeriodsBy_commits_iff (hBy : Aggregates aggregated)
    (hSound : session.Sound start) (hDb : session.db.Valid) (periods : List RebatePeriodActual)
    (hMem : ∀ period ∈ periods, period ∈ session.db.rebatePeriodActuals)
    (hIds : (periods.map RebatePeriodActual.id).Nodup)
    (hFits : ∀ period ∈ periods, AggregateFitsBy aggregated agreements period) :
    ∃ session' updated', periods.foldlM (recalculatePeriodBy aggregated agreements now)
    (session, updated) =
        .ok (session', updated') ∧
      ((∃ final, session'.commit = .ok final) ↔ ∀ period ∈ periods,
        (aggregated period).isSome →
          AcceptsRecalculation session.db.events period.id) := by
  induction periods generalizing session updated with
  | nil =>
    refine ⟨session, updated, rfl, iff_of_true ⟨_, hSound.commit_of_valid hDb⟩ ?_⟩
    exact fun _ h => nomatch h
  | cons head rest ih =>
    rw [List.map_cons, List.nodup_cons] at hIds
    have hHead := hMem head List.mem_cons_self
    have hRest : ∀ period ∈ rest, period ∈ session.db.rebatePeriodActuals :=
      fun period h => hMem period (List.mem_cons_of_mem _ h)
    have hRestFits : ∀ period ∈ rest, AggregateFitsBy aggregated agreements period :=
      fun period h => hFits period (List.mem_cons_of_mem _ h)
    cases hRow : aggregated head with
    | none =>
      obtain ⟨session', updated', hFold, hIff⟩ := ih hSound hDb hRest hIds.2 hRestFits
      refine ⟨session', updated', ?_, hIff.trans ?_⟩
      · rw [List.foldlM_cons, bind_of_eq_ok (recalculatePeriodBy_none hRow)]
        exact hFold
      · simp [hRow]
    | some row =>
      have hSame := hBy.sameRecord hRow
      obtain ⟨hFigures, amount, hAmount, hStep, hStepSound⟩ :=
        recalculatePeriodBy_some now updated hBy hSound hHead (hFits head List.mem_cons_self) hRow
      have hKept : ∀ period ∈ rest, period ∈ (recalculatedSession session row
          (aggregationEvent session row amount now) now).db.rebatePeriodActuals :=
        kept_of_recalculatedSession hSame hIds.1 hRest
      by_cases hAccepts : AcceptsRecalculation session.db.events head.id
      · have hStepDb :=
          @recalculatedSession_valid_of_accepts start session now head row amount hSound hDb hHead
            hSame hFigures hAmount hAccepts
        obtain ⟨session', updated', hFold, hIff⟩ := ih hStepSound hStepDb hKept hIds.2 hRestFits
        refine ⟨session', updated', ?_, hIff.trans ?_⟩
        · rw [List.foldlM_cons, bind_of_eq_ok hStep]
          exact hFold
        · have hOthers : ∀ period ∈ rest, (AcceptsRecalculation (session.db.events ++
              [aggregationEvent session row amount now]) period.id ↔
                AcceptsRecalculation session.db.events period.id) := by
            intro period hPeriod
            apply acceptsRecalculation_append
            rintro ⟨hParent, -⟩
            have hId : row.id = period.id := Option.some.inj hParent
            exact hIds.1 (hSame.key ▸ hId ▸ List.mem_map_of_mem hPeriod)
          rw [List.forall_mem_cons, and_iff_right fun _ => hAccepts]
          exact forall₂_congr fun period hPeriod => imp_congr_right fun _ => hOthers period hPeriod
      · obtain ⟨session', updated', hFold, hSound', hExtends, -, -⟩ :=
          recalculatePeriodsBy_spec hBy hStepSound rest hKept hIds.2 hRestFits
        refine ⟨session', updated', ?_, iff_of_false ?_ ?_⟩
        · rw [List.foldlM_cons, bind_of_eq_ok hStep]
          exact hFold
        · rintro ⟨final, hCommit⟩
          exact hAccepts (accepts_of_commit hDb hHead hSame hExtends hSound' hCommit)
        · intro hAll
          exact hAccepts (hAll head List.mem_cons_self (hRow ▸ rfl))

/-- The commit of a call is the last of its refusals. -/
theorem recalculateAffectedPeriodsBy_commits_iff (hBy : Aggregates aggregated)
    (hSound : session.Sound start) (hDb : session.db.Valid) (agreements : List RebateAgreement)
    (supplierId : ℕ) (minDate maxDate : Date) (now : Timestamp) :
    (∃ session' updated final,
      recalculateAffectedPeriodsBy aggregated session agreements supplierId minDate maxDate
        now = .ok (session', updated) ∧ session'.commit = .ok final) ↔
      ∀ period ∈ affectedPeriods session.db.rebatePeriodActuals (supplierAgreements agreements supplierId) minDate
          maxDate, AggregateFitsBy aggregated (supplierAgreements agreements supplierId) period ∧
        ((aggregated period).isSome → AcceptsRecalculation session.db.events period.id) := by
  have hOk := @recalculateAffectedPeriodsBy_ok_iff start session agreements aggregated hBy hSound
    supplierId minDate
    maxDate now
  have hCommits :
    (∀ period ∈ affectedPeriods session.db.rebatePeriodActuals (supplierAgreements agreements supplierId)
      minDate maxDate,
      AggregateFitsBy aggregated (supplierAgreements agreements supplierId) period) →
      ∃ session' updated,
        recalculateAffectedPeriodsBy aggregated session agreements supplierId minDate maxDate now =
        .ok (session', updated) ∧ ((∃ final, session'.commit = .ok final) ↔
          ∀ period ∈ affectedPeriods session.db.rebatePeriodActuals (supplierAgreements agreements supplierId) minDate
            maxDate, (aggregated period).isSome →
              AcceptsRecalculation session.db.events period.id) := fun hFits =>
    recalculatePeriodsBy_commits_iff hBy hSound hDb _ affectedPeriods_subset
      (affectedPeriods_nodup hSound _ _) hFits
  constructor
  · rintro ⟨session', updated, final, hCall, hCommit⟩ period hPeriod
    have hFits := hOk.mp ⟨_, hCall⟩
    obtain ⟨same, sameUpdated, hSame, hIff⟩ := hCommits hFits
    obtain ⟨rfl, -⟩ := Prod.mk.inj (Except.ok.inj (hCall.symm.trans hSame))
    exact ⟨hFits period hPeriod, hIff.mp ⟨final, hCommit⟩ period hPeriod⟩
  · intro hAll
    obtain ⟨session', updated, hCall, hIff⟩ :=
      hCommits fun period hPeriod => (hAll period hPeriod).1
    obtain ⟨final, hCommit⟩ := hIff.mpr fun period hPeriod => (hAll period hPeriod).2
    exact ⟨session', updated, final, hCall, hCommit⟩

end Loop

section Record

variable {db : Db} {agreement : RebateAgreement} {periodId : ℕ} {payload : RebatePeriodActualCreate}

/-- The identity column gives an id of its own, the agreement has no such period yet, and
the schema has compared the dates. -/
structure NewPeriod (db : Db) (agreement : RebateAgreement) (periodId : ℕ)
    (payload : RebatePeriodActualCreate) : Prop where
  id : ∀ row ∈ db.rebatePeriodActuals, row.id ≠ periodId
  period : ∀ row ∈ db.rebatePeriodActuals, ¬(row.rebateAgreementId = agreement.id ∧
    row.periodStart = payload.periodStart ∧ row.periodEnd = payload.periodEnd)
  ends : payload.periodStart < payload.periodEnd

theorem newPeriodActual_accepted (hNew : NewPeriod db agreement periodId payload)
    {organisationId : ℕ}
    (hFigures : (newPeriodActual periodId organisationId agreement payload).figuresFit) :
    db.accepts (.insertRebatePeriodActual
      (newPeriodActual periodId organisationId agreement payload)) := by
  have hAmount :
    fitsNumeric 18 (newPeriodActual periodId organisationId agreement payload).expectedAmount := rfl
  have hRow : (newPeriodActual periodId organisationId agreement payload).rowAccepted := by
    rw [RebatePeriodActual.rowAccepted, hFigures, hAmount]
    simp [ckRebatePeriodEndAfterStart, ckRpaExpectedAmountStatusValid,
      ckRpaExpectedAmountSourceBasisVocabulary,
      ckRpaExpectedAmountStateCombination, newPeriodActual, below, hNew.ends]
  simp only [Db.accepts, Db.acceptsRebatePeriodActual, Bool.and_eq_true, List.all_eq_true,
    bne_iff_ne, Bool.or_eq_true]
  refine ⟨hNew.id, ⟨hRow, rfl⟩, ?_⟩
  intro other hOther
  right
  have hPeriod := hNew.period other hOther
  rw [uqRebatePeriod, Bool.not_eq_true', ← Bool.not_eq_true]
  simpa only [newPeriodActual, Bool.and_eq_true, beq_iff_eq, and_assoc] using hPeriod

theorem recordPeriodActual_commits (hDb : db.Valid) {nextEventId : ℕ}
    (hFresh : ∀ e ∈ db.events, e.id < nextEventId) (hNew : NewPeriod db agreement periodId payload)
    {organisationId : ℕ}
    (hRecordable : Recordable agreement (newPeriodActual periodId organisationId agreement payload)
      (some payload.actualSpend)) (userId : ℕ) (now : Timestamp) :
    ∃ session row, recordPeriodActual ⟨db, [], nextEventId⟩ periodId organisationId userId agreement
      payload now = .ok (session, row) ∧ session.commit = .ok session.db := by
  set row := newPeriodActual periodId organisationId agreement payload
  have hInsert := newPeriodActual_accepted hNew hRecordable.figures
  have hBegin := Session.Sound.begin hDb.toConstrained hFresh
  have hSound := hBegin.apply hInsert hFresh
  have hChained : (db.apply (.insertRebatePeriodActual row)).Chained fun measure parentId =>
      (measure, parentId) = (.expectedAmount, periodId) := by
    apply hDb.chained.apply_row hInsert rfl
    · rintro measure parentId snapshot ⟨rfl, rfl⟩ hNotPending
      exact absurd rfl hNotPending
    · exact fun _ _ _ _ h => h
  have hNoEvent : ∀ e ∈ db.events, ¬Measure.expectedAmount.governs periodId e := by
    intro e he hGoverns
    have hParent := hDb.eventParents e he .expectedAmount periodId hGoverns
    rw [Db.snapshot, Option.isSome_map, lookup_isSome] at hParent
    obtain ⟨other, hOther, hId⟩ := List.mem_map.mp hParent
    exact hNew.id other hOther hId
  have hSame : SameRecord row row := rfl
  have hMem : row ∈ (db.apply (.insertRebatePeriodActual row)).rebatePeriodActuals :=
    List.mem_append_right _ (List.mem_singleton.mpr rfl)
  obtain ⟨amount, hAmount, hRecalculate⟩ := @recalculateExpected_eq_ok db
    ⟨db.apply (.insertRebatePeriodActual row), [.insertRebatePeriodActual row], nextEventId⟩
      agreement row row now
    (some userId) ("rebate_period_actual_created:" ++ toString row.id) "manual_estimate" hSound hMem
      hSame _ hRecordable
    (.inr rfl)
  have hNewAmount : IsRecalculated (calculatedAmount amount now) := .inr ⟨amount, now, hAmount, rfl⟩
  obtain ⟨-, -, -, hSound'⟩ :=
    recalculatedSession_sound hSound hMem hSame hRecordable.figures hNewAmount (some userId)
      ("rebate_period_actual_created:" ++ toString row.id) (.inr rfl) now
  have hRun := (@Session.run_eq_ok ⟨db, [], nextEventId⟩ _ _).mpr ⟨hInsert, rfl⟩
  refine ⟨_, _, (bind_of_eq_ok hRun _).trans hRecalculate, hSound'.commit_of_valid ?_⟩
  apply recalculatedSession_valid hSound hMem hSame hRecordable.figures hNewAmount
    (.inr rfl) hChained (fun _ _ h => h)
    hDb.evidenceSufficient
  intro latest hLatest hGoverns
  exact absurd hGoverns (hNoEvent latest hLatest)

theorem recordable_of_recordPeriodActual {session session' : Session} {row : RebatePeriodActual}
    {organisationId userId : ℕ} {now : Timestamp}
    (h : recordPeriodActual session periodId organisationId userId agreement payload now =
      .ok (session', row)) :
    Recordable agreement (newPeriodActual periodId organisationId agreement payload)
    (some payload.actualSpend) := by
  rw [recordPeriodActual] at h
  obtain ⟨inserted, hInsert, hRest⟩ := exists_of_bind_eq_ok h
  obtain ⟨-, rfl⟩ := Session.run_eq_ok.mp hInsert
  refine recordable_of_recalculateExpected ⟨_, ?_, rfl⟩ hRest
  exact List.mem_append_right _ (List.mem_singleton.mpr rfl)

end Record

/-- From a valid state a call stores what it sums up exactly when it fits, and its commit succeeds
exactly when each period it re-aggregates accepts it too. A new period is recorded exactly when its
figures fit. -/
theorem recalculation_commits_iff {db : Db} (hDb : db.Valid) {nextEventId : ℕ}
    (hFresh : ∀ e ∈ db.events, e.id < nextEventId) :
    (∀ ledger agreements supplierId minDate maxDate now,
      let affected :=
        affectedPeriods db.rebatePeriodActuals (supplierAgreements agreements supplierId) minDate maxDate
      ((∃ result, recalculateAffectedPeriods ⟨db, [], nextEventId⟩ ledger agreements supplierId
        minDate maxDate now =
          .ok result) ↔
        ∀ period ∈ affected,
        AggregateFits ledger (supplierAgreements agreements supplierId) supplierId period) ∧
      ((∃ session updated final,
        recalculateAffectedPeriods ⟨db, [], nextEventId⟩ ledger agreements supplierId minDate
          maxDate now = .ok (session, updated) ∧ session.commit = .ok final) ↔
        ∀ period ∈ affected,
        AggregateFits ledger (supplierAgreements agreements supplierId) supplierId period ∧
          ((aggregatedRow ledger supplierId period).isSome →
            AcceptsRecalculation db.events period.id))) ∧
    ∀ agreement periodId payload organisationId userId now,
      NewPeriod db agreement periodId payload →
      ((∃ session row final,
        recordPeriodActual ⟨db, [], nextEventId⟩ periodId organisationId userId agreement payload
          now = .ok (session, row) ∧ session.commit = .ok final) ↔
        Recordable agreement (newPeriodActual periodId organisationId agreement payload)
        (some payload.actualSpend)) := by
  have hBegin := Session.Sound.begin hDb.toConstrained hFresh
  constructor
  · intro ledger agreements supplierId minDate maxDate now affected
    have hBy := aggregates_aggregatedRow ledger supplierId
    exact ⟨recalculateAffectedPeriods_ok_iff hBegin ledger supplierId minDate maxDate now,
      recalculateAffectedPeriodsBy_commits_iff hBy hBegin hDb agreements supplierId minDate maxDate now⟩
  · intro agreement periodId payload organisationId userId now hNew
    constructor
    · rintro ⟨session, row, final, hRecord, -⟩
      exact recordable_of_recordPeriodActual hRecord
    · intro hRecordable
      obtain ⟨session, row, hRecord, hCommit⟩ :=
        recordPeriodActual_commits hDb hFresh hNew hRecordable userId now
      exact ⟨session, row, _, hRecord, hCommit⟩

theorem march_recalculation_commits : ∃ session updated final,
    recalculateAffectedPeriods ⟨openQuarterDb, [], 2⟩ marchLedger [flatAgreement] 1 marchDay marchDay 0 =
      .ok (session, updated) ∧ session.commit = .ok final := by
  have hDb := Db.empty_valid.touching_run (.single openQuarterRecorded_step)
  obtain ⟨hOk, hIff⟩ :=
    (recalculation_commits_iff hDb openQuarterSession_sound.fresh).1 marchLedger [flatAgreement] 1
      marchDay marchDay 0
  obtain ⟨result, hCall, -⟩ :=
    @exists_of_any _ _ (recalculateAffectedPeriods ⟨openQuarterDb, [], 2⟩ marchLedger
      [flatAgreement] 1 marchDay marchDay 0) (fun _ => true) (by decide +kernel)
  refine hIff.mpr fun period hPeriod =>
    ⟨hOk.mp ⟨_, hCall⟩ period hPeriod, fun _ latest hLatest _ _ => ?_⟩
  obtain rfl := List.mem_singleton.mp hLatest
  decide

section Refused

def quarterStatements (new : AmountState) : List Statement :=
  [.insertEvent { openQuarterGenesis with
      id := 2
      eventVersion := 2
      old := openQuarterGenesis.new
      new := new
      changeReasonCode := "evidence_received" },
    .insertEvidence ⟨1, 2, "supplier_statement", "ST-1"⟩,
    .updateRebatePeriodActual (withExpectedAmount openQuarter new 2)]

def confirmedState : AmountState :=
  { AmountState.null with
    amount := some ⟨1000000⟩
    status := some "confirmed"
    sourceBasis := some "supplier_statement"
    approvedAt := some 1
    approvedByUserId := some 1 }

def datedState : AmountState :=
  { AmountState.null with
    amount := some ⟨1000000⟩
    status := some "estimated"
    sourceBasis := some "manual_estimate"
    effectivePeriodStart := some openQuarter.periodStart }

def quarterDb (new : AmountState) : Db :=
  (openQuarterDb.commitTransaction (quarterStatements new)).getD Db.empty

theorem quarterDb_valid {new : AmountState}
    (h : (openQuarterDb.commitTransaction (quarterStatements new)).isSome) :
    (quarterDb new).Valid := by
  obtain ⟨final, hCommit⟩ := Option.isSome_iff_exists.mp h
  have hDb := Db.empty_valid.touching_run (.single openQuarterRecorded_step)
  rw [quarterDb, hCommit, Option.getD_some]
  refine hDb.touching_run (.single ⟨quarterStatements new, ?_, hCommit⟩)
  intro s hs e he measure parentId hGoverns
  simp only [quarterStatements, List.mem_cons, List.not_mem_nil, or_false] at hs
  obtain rfl | rfl | rfl := hs
  · obtain rfl := List.mem_singleton.mp he
    cases measure with
    | expectedAmount =>
      cases hGoverns.1
      exact ⟨_, List.mem_cons_of_mem _ (List.mem_cons_of_mem _ List.mem_cons_self), rfl, rfl⟩
    | annualFinancialImpact | realisedSavings => cases hGoverns.1
  · cases he
  · cases he

def marchUploadCommit (new : AmountState) : Except ServiceError Db :=
  (recalculateAffectedPeriods ⟨quarterDb new, [], 3⟩ marchLedger [flatAgreement] 1 marchDay marchDay
    2).bind fun result => result.1.commit

/-- An upload of March is rolled back in two valid states: after a confirmed amount, and
after an estimate with an effective date. -/
theorem march_recalculation_refused :
    ((quarterDb confirmedState).Valid ∧ marchUploadCommit confirmedState = .error .database) ∧
      (quarterDb datedState).Valid ∧ marchUploadCommit datedState = .error .database := by
  constructor
  · exact ⟨quarterDb_valid (by decide +kernel), by decide +kernel⟩
  · exact ⟨quarterDb_valid (by decide +kernel), by decide +kernel⟩

end Refused

end ProcureFoundation.Rebate
