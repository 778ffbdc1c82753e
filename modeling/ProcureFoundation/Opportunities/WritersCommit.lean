import ProcureFoundation.Opportunities.MeasureEvents

/-!
# What the writers of opportunities commit

A writer that goes through the helper for each measure it changes, and sends the row
last, commits. A row built without the helper has no events and is refused, whether or
not it carries an impact.
-/

namespace ProcureFoundation.Opportunities

open Outcome Evidence ThreeValued KeyedRows

section Commit

variable {start db : Db} {session : Session} {row : Opportunity} {pending : Measure → ℕ → Prop}

/-- What is asked of a written opportunity at commit. -/
structure GovernedAtCommit (db : Db) (row : Opportunity) : Prop where
  stored : row ∈ db.opportunities
  impactPointer : row.annualFinancialImpactCurrentEventId.isSome
  savingsPointer : row.realisedSavingsCurrentEventId.isSome
  impactState : passes (ckOppAfiStateCombination row)
  savingsState : passes (ckOppRsStateCombination row)
  impactAgrees : row.annualFinancialImpactSnapshot.Agrees db.events .annualFinancialImpact row.id
  savingsAgrees : row.realisedSavingsSnapshot.Agrees db.events .realisedSavings row.id

/-- The operation goes through, its commit succeeds, and the row is in order. -/
def LeavesGoverned (result : Except ServiceError (Session × Opportunity)) : Prop :=
  ∃ session row, result = .ok (session, row) ∧ session.commit = .ok session.db ∧
    GovernedAtCommit session.db row

theorem pointer_isSome_of_agrees {events : List FinancialAmountStatusEvent} {measure : Measure}
    {parentId : ℕ} {snapshot : Snapshot} (h : snapshot.Agrees events measure parentId) :
    snapshot.currentEventId.isSome := by
  obtain ⟨e, hCurrent⟩ := h
  rw [hCurrent.pointer]
  rfl

theorem agrees_of_valid (hDb : db.Valid) (hRow : row ∈ db.opportunities) :
    row.annualFinancialImpactSnapshot.Agrees db.events .annualFinancialImpact row.id ∧
      row.realisedSavingsSnapshot.Agrees db.events .realisedSavings row.id := by
  have hLookup := lookup_of_mem hDb.opportunities.keys hRow
  exact ⟨hDb.snapshotsAgree .annualFinancialImpact row.id _ (congrArg (Option.map _) hLookup),
    hDb.snapshotsAgree .realisedSavings row.id _ (congrArg (Option.map _) hLookup)⟩

theorem governedAtCommit_of_valid (hDb : db.Valid) (hRow : row ∈ db.opportunities) :
    GovernedAtCommit db row := by
  obtain ⟨hImpact, hSavings⟩ := agrees_of_valid hDb hRow
  have hAccepted := hDb.opportunities.accepted row hRow
  simp only [Opportunity.rowAccepted, Bool.and_eq_true] at hAccepted
  obtain ⟨⟨⟨⟨⟨⟨-, hImpactState⟩, -⟩, -⟩, hSavingsState⟩, -⟩, -⟩ := hAccepted
  exact ⟨hRow, pointer_isSome_of_agrees hImpact, pointer_isSome_of_agrees hSavings, hImpactState,
    hSavingsState, hImpact, hSavings⟩

theorem sendable_of_valid (hDb : db.Valid) (hRow : row ∈ db.opportunities) : Sendable db row := by
  have hLookup := lookup_of_mem hDb.opportunities.keys hRow
  exact ⟨⟨row, hRow, rfl⟩, hDb.opportunities.accepted row hRow,
    hDb.pointers .annualFinancialImpact row.id _ (congrArg (Option.map _) hLookup),
    hDb.pointers .realisedSavings row.id _ (congrArg (Option.map _) hLookup)⟩

/-- A writer that sends its row last, with both measures in agreement, commits. -/
theorem sendLast (hSound : session.Sound start) (hChained : session.db.Chained pending)
    (hSendable : Sendable session.db row)
    (hPending : ∀ measure parentId, pending measure parentId →
      OfOpportunity row.id measure parentId)
    (hEvidence : ∀ e ∈ session.db.events,
      checkConfirmedEventHasSufficientEvidence session.db.evidence e)
    (hImpact : row.annualFinancialImpactSnapshot.Agrees session.db.events .annualFinancialImpact row.id)
    (hSavings : row.realisedSavingsSnapshot.Agrees session.db.events .realisedSavings row.id) :
    ∃ session', session.run (.updateOpportunity row) = .ok session' ∧
      session'.commit = .ok session'.db ∧ GovernedAtCommit session'.db row := by
  have hAccepts := hSendable.accepts
  have hSound' := hSound.apply hAccepts hSound.fresh
  have hSent : (session.db.apply (.updateOpportunity row)).Chained fun _ _ => False := by
    apply hChained.apply_row hAccepts rfl
    · rintro measure parentId snapshot ⟨hMeasure, rfl⟩ - hWritten
      cases measure with
      | expectedAmount => exact absurd rfl hMeasure
      | annualFinancialImpact =>
        cases hWritten
        exact hImpact
      | realisedSavings =>
        cases hWritten
        exact hSavings
    · intro measure parentId _ hUntouched hIs
      obtain ⟨hMeasure, rfl⟩ := hPending measure parentId hIs
      exact hUntouched ⟨hMeasure, rfl⟩
  have hValid := hSent.valid hEvidence
  obtain ⟨old, hOld, hId⟩ := hSendable.stored
  exact ⟨_, Session.run_eq_ok.mpr ⟨hAccepts, rfl⟩, hSound'.commit_of_valid hValid,
    governedAtCommit_of_valid hValid (mem_replace_self hOld hId)⟩

theorem newOpportunity_accepted {id : ℕ} (hId : ∀ old ∈ db.opportunities, old.id ≠ id)
    (organisationId : ℕ) :
    db.accepts (.insertOpportunity (newOpportunity id organisationId none)) := by
  simp only [Db.accepts, Bool.and_eq_true, List.all_eq_true, bne_iff_ne]
  exact ⟨hId, rfl⟩

theorem no_event_of_new_id (hDb : db.Constrained) {id : ℕ}
    (hId : ∀ old ∈ db.opportunities, old.id ≠ id) {measure : Measure}
    (hMeasure : measure ≠ .expectedAmount) {e : FinancialAmountStatusEvent} (he : e ∈ db.events) :
    ¬measure.governs id e := by
  intro hGoverns
  have hParent := hDb.eventParents e he measure id hGoverns
  cases measure with
  | expectedAmount => exact hMeasure rfl
  | annualFinancialImpact | realisedSavings =>
    rw [Db.snapshot, Option.isSome_map, lookup_isSome] at hParent
    obtain ⟨old, hOld, hOldId⟩ := List.mem_map.mp hParent
    exact hId old hOld hOldId

theorem createdImpact_amount (payload : OpportunityCreate) :
    (createdImpact payload).amount = payload.annualFinancialImpact.map (FixedPoint.assign 4) := by
  unfold createdImpact
  cases payload.annualFinancialImpact with
  | none => rfl
  | some amount => rfl

theorem createdImpact_written {payload : OpportunityCreate}
    (hPayload : payload.annualFinancialImpact.isSome →
      payload.annualFinancialImpactEffectiveFrom.isSome)
    (hFits : fitsNumeric 18 (payload.annualFinancialImpact.map (FixedPoint.assign 4))) :
    Written .annualFinancialImpact (createdImpact payload) := by
  unfold createdImpact
  cases hAmount : payload.annualFinancialImpact with
  | none => exact .unknownImpact
  | some amount =>
    rw [hAmount] at hPayload hFits
    obtain ⟨effectiveFrom, hFrom⟩ := Option.isSome_iff_exists.mp (hPayload rfl)
    rw [hFrom]
    exact .estimated _ effectiveFrom hFits

theorem createOpportunity_leavesGoverned (hDb : db.Valid) {nextEventId : ℕ}
    (hFresh : ∀ e ∈ db.events, e.id < nextEventId) {opportunityId : ℕ}
    (hId : ∀ old ∈ db.opportunities, old.id ≠ opportunityId) {supplierPublicIds : List ℕ}
    {payload : OpportunityCreate}
    (hSupplier : ∀ publicId ∈ payload.supplierPublicId, publicId ∈ supplierPublicIds)
    (hPayload : payload.annualFinancialImpact.isSome →
      payload.annualFinancialImpactEffectiveFrom.isSome)
    (hColumns : payload.columnsFit)
    (hFits : fitsNumeric 18 (payload.annualFinancialImpact.map (FixedPoint.assign 4)))
    (organisationId userId : ℕ) :
    LeavesGoverned
      (createOpportunity ⟨db, [], nextEventId⟩ supplierPublicIds opportunityId organisationId userId
      payload) := by
  set row := newOpportunity opportunityId organisationId none
  set reference := "opportunity_created:" ++ toString row.id
  have hInsert := newOpportunity_accepted hId organisationId
  have hRun := (@Session.run_eq_ok ⟨db, [], nextEventId⟩ _ _).mpr ⟨hInsert, rfl⟩
  have hChained : (db.apply (.insertOpportunity row)).Chained (OfOpportunity opportunityId) := by
    apply hDb.chained.apply_row hInsert rfl
    · intro measure parentId snapshot hTouches hNotPending
      exact absurd ⟨hTouches.1, hTouches.2.symm⟩ hNotPending
    · exact fun _ _ _ _ h => h
  have hSendable : Sendable (db.apply (.insertOpportunity row)) row :=
    ⟨⟨row, List.mem_append_right _ (List.mem_singleton.mpr rfl), rfl⟩, rfl, rfl, rfl⟩
  have hNone : ∀ measure ≠ Measure.expectedAmount, ∀ e ∈ db.events,
      ¬measure.governs opportunityId e :=
    fun measure hMeasure e he => no_event_of_new_id hDb.toConstrained hId hMeasure he
  have hImpactWritten := createdImpact_written hPayload hFits
  obtain ⟨session₁, event₁, hImpactRun, hImpact⟩ := writeOpportunityMeasureEvent_spec
    ((Session.Sound.begin hDb.toConstrained hFresh).apply hInsert hFresh) hChained hSendable
      (fun _ _ h => h)
    hImpactWritten (some userId) reference (.inl rfl)
    fun latest hLatest hGoverns _ => absurd hGoverns (hNone _ (by decide) latest hLatest)
  have hEvents₁ : session₁.db.events = db.events ++ [event₁] := hImpact.events
  obtain ⟨session₂, event₂, hSavingsRun, hSavings⟩ :=
    writeOpportunityMeasureEvent_spec hImpact.sound
      hImpact.chained hImpact.sendable (fun _ _ h => h) .unknownSavings (some userId) reference
        (.inl rfl) (by
        intro latest hLatest hGoverns
        rw [hEvents₁] at hLatest
        obtain hLatest | hLatest := List.mem_append.mp hLatest
        · exact absurd hGoverns (hNone _ (by decide) latest hLatest)
        · rw [List.mem_singleton.mp hLatest] at hGoverns
          exact absurd hGoverns (Measure.not_governs_of_code_ne hImpact.governs (by decide)))
  have hEvents₂ : session₂.db.events = db.events ++ [event₁] ++ [event₂] :=
    hEvents₁ ▸ hSavings.events
  have hEvidence : ∀ e ∈ session₂.db.events,
      checkConfirmedEventHasSufficientEvidence session₂.db.evidence e := by
    intro e he
    rw [hSavings.evidence, hImpact.evidence]
    rw [hEvents₂, List.mem_append, List.mem_append, List.mem_singleton, List.mem_singleton] at he
    obtain (he | rfl) | rfl := he
    · exact hDb.evidenceSufficient e he
    · obtain ⟨status, hStatus, hUnconfirmed⟩ := hImpactWritten.impact_unconfirmed
      exact checkConfirmedEventHasSufficientEvidence_of_unconfirmed _
        (hImpact.state ▸ hStatus) hUnconfirmed
    · exact checkConfirmedEventHasSufficientEvidence_of_unconfirmed _ (congrArg _ hSavings.state)
        (by decide)
  have hImpactAgrees : (withMeasure row .annualFinancialImpact (createdImpact payload)
      event₁.id).annualFinancialImpactSnapshot.Agrees session₂.db.events .annualFinancialImpact
        opportunityId := by
    rw [hEvents₂]
    apply hImpact.agrees.of_no_new_event
    rw [List.forall_mem_singleton]
    exact Measure.not_governs_of_code_ne hSavings.governs (by decide)
  obtain ⟨session₃, hSend, hCommit, hGoverned⟩ :=
    sendLast hSavings.sound hSavings.chained hSavings.sendable
      (fun _ _ h => h) hEvidence hImpactAgrees (hSavings.events ▸ hSavings.agrees)
  refine ⟨session₃, _, ?_, hCommit, hGoverned⟩
  have hNoSupplier : ¬payload.supplierPublicId.any
      (fun publicId => decide (publicId ∉ supplierPublicIds)) := by
    cases hPublicId : payload.supplierPublicId with
    | none => simp
    | some publicId => simpa using hSupplier publicId hPublicId
  have hNoConflict : ¬(payload.annualFinancialImpact.isSome ∧
      payload.annualFinancialImpactEffectiveFrom.isNone) := by
    rintro ⟨hAmount, hNoDate⟩
    have hDate := hPayload hAmount
    rw [Option.isNone_iff_eq_none.mp hNoDate] at hDate
    cases hDate
  rw [createOpportunity, if_neg hNoSupplier, if_neg hNoConflict, if_neg (not_not_intro hColumns)]
  refine (bind_of_eq_ok hRun _).trans ?_
  refine (bind_of_eq_ok hImpactRun _).trans ?_
  refine (bind_of_eq_ok hSavingsRun _).trans ?_
  exact bind_of_eq_ok hSend _

/-- The order admits the move, or the target is one of the two terminal stages. -/
def Admits (status : WaterfallStage) (targetStatus : String) : Prop :=
  targetStatus = "rejected" ∨ targetStatus = "expired" ∨ ∃ target ∈ waterfallOrder,
    target.text = targetStatus ∧ waterfallIndex target = waterfallIndex status + 1

theorem advancedRow_eq_ok {targetStatus : String} (h : Admits row.status targetStatus) (userId : ℕ)
    (now : Timestamp) : ∃ advanced, advancedRow row userId targetStatus now = .ok advanced ∧
      ∃ status approvedByUserId approvedAt, advanced = { row with
        status := status, approvedByUserId := approvedByUserId, approvedAt := approvedAt } := by
  unfold advancedRow
  by_cases hRejected : targetStatus = "rejected"
  · rw [if_pos hRejected]
    exact ⟨_, rfl, _, _, _, rfl⟩
  by_cases hExpired : targetStatus = "expired"
  · rw [if_neg hRejected, if_pos hExpired]
    exact ⟨_, rfl, _, _, _, rfl⟩
  rw [if_neg hRejected, if_neg hExpired]
  obtain h | h | ⟨target, hTarget, rfl, hIndex⟩ := h
  · exact absurd h hRejected
  · exact absurd h hExpired
  have hFind : waterfallOrder.find? (fun stage => stage.text == target.text) = some target := by
    cases target <;> first | rfl | exact absurd rfl hRejected | exact absurd rfl hExpired
  simp only [hFind, hIndex, ne_eq, not_true_eq_false, if_false]
  split
  · exact ⟨_, rfl, _, _, _, rfl⟩
  · exact ⟨_, rfl, _, _, _, rfl⟩

theorem advanceWaterfallStage_leavesGoverned (hDb : db.Valid) {nextEventId : ℕ}
    (hFresh : ∀ e ∈ db.events, e.id < nextEventId) (hRow : row ∈ db.opportunities)
    {targetStatus : String} (hAdmits : Admits row.status targetStatus) (userId : ℕ)
    (now : Timestamp) :
    LeavesGoverned (advanceWaterfallStage ⟨db, [], nextEventId⟩ userId row targetStatus now) := by
  obtain ⟨advanced, hAdvanced, status, approvedByUserId, approvedAt, rfl⟩ :=
    advancedRow_eq_ok hAdmits userId now
  have hStored := sendable_of_valid hDb hRow
  obtain ⟨hImpact, hSavings⟩ := agrees_of_valid hDb hRow
  have hSendable : Sendable db { row with
      status := status, approvedByUserId := approvedByUserId, approvedAt := approvedAt } :=
    ⟨hStored.stored, hStored.accepted, hStored.impactPointer, hStored.savingsPointer⟩
  obtain ⟨session', hSend, hCommit, hGoverned⟩ :=
    sendLast (Session.Sound.begin hDb.toConstrained hFresh) hDb.chained
      hSendable (fun _ _ h => h.elim) hDb.evidenceSufficient hImpact hSavings
  refine ⟨session', _, ?_, hCommit, hGoverned⟩
  rw [advanceWaterfallStage, bind_of_eq_ok hAdvanced]
  exact bind_of_eq_ok hSend _

theorem insertEvidence_spec (rows : List FinancialAmountEvidence) (hSound : session.Sound start)
    (hChained : session.db.Chained pending)
    (hRows : ∀ evidence ∈ rows, session.db.acceptsEvidence evidence) :
    ∃ session', rows.foldlM (fun session evidence => session.run (.insertEvidence evidence)) session =
        .ok session' ∧ session'.Sound start ∧ session'.db.Chained pending ∧
      session'.db = { session.db with evidence := session.db.evidence ++ rows } := by
  induction rows generalizing session with
  | nil => exact ⟨session, rfl, hSound, hChained, by rw [List.append_nil]⟩
  | cons head rest ih =>
    have hAccepts : session.db.accepts (.insertEvidence head) := hRows head List.mem_cons_self
    have hSound' := hSound.apply hAccepts hSound.fresh
    have hChained' : (session.db.apply (.insertEvidence head)).Chained pending :=
      hChained.apply_row hAccepts rfl (fun _ _ _ hTouches => hTouches.elim) fun _ _ hNot _ => hNot
    obtain ⟨session', hFold, hSound'', hChained'', hDb⟩ :=
      ih hSound' hChained' fun evidence hEvidence =>
        hRows evidence (List.mem_cons_of_mem _ hEvidence)
    refine ⟨session', ?_, hSound'', hChained'', ?_⟩
    · rw [List.foldlM_cons, bind_of_eq_ok (Session.run_eq_ok.mpr ⟨hAccepts, rfl⟩)]
      exact hFold
    · rw [hDb]
      simp [Db.apply]

theorem continues_confirmed (hDb : db.Valid) {nextEventId : ℕ} (hRow : row ∈ db.opportunities)
    {amount : Money} {now : Timestamp} {userId : ℕ} {periodStart periodEnd : Date}
    {changeReference : String} {latest : FinancialAmountStatusEvent} (hLatest : latest ∈ db.events)
    (hGoverns : Measure.realisedSavings.governs row.id latest)
    (hVersion : latest.eventVersion = nextVersion db.events .realisedSavings row.id - 1) :
    Continues latest (nextMeasureEvent ⟨db, [], nextEventId⟩ row .realisedSavings
      (confirmedState amount now userId periodStart periodEnd) (some userId) changeReference
      "evidence_received") := by
  obtain ⟨-, current, hCurrent⟩ := agrees_of_valid hDb hRow
  have hNext := nextVersion_of_current hDb.events hCurrent
  have hPositive :=
    FinancialAmountStatusEvent.eventVersion_pos (hDb.events.accepted current hCurrent.mem)
  have hSeries := (Measure.governs_iff_series (hDb.events.accepted latest hLatest)).mp hGoverns
  have hSeries' :=
    (Measure.governs_iff_series (hDb.events.accepted current hCurrent.mem)).mp hCurrent.governs
  obtain rfl : latest = current :=
    hDb.events.sequence hLatest hCurrent.mem (hSeries.trans hSeries'.symm) (by omega)
  constructor
  · have hNotFirst : nextVersion db.events .realisedSavings row.id ≠ 1 := by omega
    exact (if_neg hNotFirst).trans hCurrent.columns
  · intro before after hBefore hAfter hLt
    obtain rfl : 4 = after := Option.some.inj hAfter
    have hLe := tier_le_four hBefore
    omega

theorem recordRealisedSavings_leavesGoverned (hDb : db.Valid) {nextEventId : ℕ}
    (hFresh : ∀ e ∈ db.events, e.id < nextEventId) (hRow : row ∈ db.opportunities)
    (hStatus : row.status = .implementation) {payload : OpportunityRealise}
    (hPeriod : payload.effectivePeriodStart ≤ payload.effectivePeriodEnd) (userId : ℕ)
    {changeReference : String} (hColumns : payload.columnsFit changeReference)
    (hFits : fitsNumeric 18 (some (FixedPoint.assign 4 payload.realisedSavings)))
    (now : Timestamp) :
    LeavesGoverned (recordRealisedSavings ⟨db, [], nextEventId⟩ row.organisationId userId row payload
      changeReference now) := by
  obtain ⟨hImpact, -⟩ := agrees_of_valid hDb hRow
  obtain ⟨session₁, event, hRun, hWritten⟩ := writeOpportunityMeasureEvent_spec
    (Session.Sound.begin hDb.toConstrained hFresh) hDb.chained (sendable_of_valid hDb hRow)
    (fun _ _ h => h.elim)
    (.confirmed (FixedPoint.assign 4 payload.realisedSavings) now userId payload.effectivePeriodStart
      payload.effectivePeriodEnd hPeriod hFits) (some userId) changeReference (.inr rfl)
    fun latest hLatest hGoverns hVersion => continues_confirmed hDb hRow hLatest hGoverns hVersion
  have hEvents₁ : session₁.db.events = db.events ++ [event] := hWritten.events
  have hMem : event ∈ session₁.db.events :=
    hEvents₁ ▸ List.mem_append_right _ (List.mem_singleton.mpr rfl)
  have hAccepted : ∀ evidence ∈ realisedEvidence row.organisationId event.id payload,
      session₁.db.acceptsEvidence evidence := by
    have hEvent : ∃ e ∈ session₁.db.events, e.id = event.id ∧
        e.organisationId = row.organisationId :=
      ⟨event, hMem, rfl, hWritten.organisation⟩
    simp [realisedEvidence, Db.acceptsEvidence, hEvent, ckFamevEvidTypeVocabulary]
  obtain ⟨session₂, hFold, hSound₂, hChained₂, hDb₂⟩ :=
    insertEvidence_spec _ hWritten.sound hWritten.chained hAccepted
  have hEvents₂ : session₂.db.events = db.events ++ [event] := by rw [hDb₂, ← hEvents₁]
  have hEvidence₂ : session₂.db.evidence =
      db.evidence ++ realisedEvidence row.organisationId event.id payload := by
    rw [hDb₂, hWritten.evidence]
  have hSufficient : ∀ e ∈ session₂.db.events,
      checkConfirmedEventHasSufficientEvidence session₂.db.evidence e := by
    intro e he
    rw [hEvidence₂]
    rw [hEvents₂] at he
    obtain he | he := List.mem_append.mp he
    · exact checkConfirmedEventHasSufficientEvidence_mono (List.subset_append_left _ _)
        (hDb.evidenceSufficient e he)
    · rw [List.mem_singleton.mp he]
      simp [checkConfirmedEventHasSufficientEvidence, hWritten.state, confirmedState,
        hWritten.governs.2, Measure.code, realisedEvidence]
  set written :=
    withMeasure row .realisedSavings (confirmedState (FixedPoint.assign 4 payload.realisedSavings) now
      userId payload.effectivePeriodStart payload.effectivePeriodEnd) event.id
  have hStored := hWritten.sendable
  have hSendable : Sendable session₂.db { written with status := .realised } := by
    rw [hDb₂]
    exact ⟨hStored.stored, hStored.accepted, hStored.impactPointer, hStored.savingsPointer⟩
  have hImpactAgrees : written.annualFinancialImpactSnapshot.Agrees session₂.db.events
    .annualFinancialImpact
      row.id := by
    rw [hEvents₂]
    apply hImpact.of_no_new_event
    rw [List.forall_mem_singleton]
    exact Measure.not_governs_of_code_ne hWritten.governs (by decide)
  obtain ⟨session₃, hSend, hCommit, hGoverned⟩ :=
    sendLast hSound₂ hChained₂ hSendable (fun _ _ h => h) hSufficient
      hImpactAgrees (hEvents₂ ▸ hWritten.agrees)
  refine ⟨session₃, _, ?_, hCommit, hGoverned⟩
  rw [recordRealisedSavings, if_neg (not_not_intro hStatus), if_neg (not_lt.mpr hPeriod),
    if_neg (not_not_intro hColumns)]
  refine (bind_of_eq_ok hRun _).trans ?_
  refine (bind_of_eq_ok hFold _).trans ?_
  exact bind_of_eq_ok hSend _

/-- A call that goes through has passed its checks, and so has each of its steps. -/
theorem createOpportunity_of_ok {supplierPublicIds : List ℕ}
    {opportunityId organisationId userId : ℕ} {payload : OpportunityCreate} {session' : Session}
    (h : createOpportunity session supplierPublicIds opportunityId organisationId userId payload =
      .ok (session', row)) :
    let new := newOpportunity opportunityId organisationId none
    let reference := "opportunity_created:" ++ toString new.id
    payload.columnsFit ∧ ∃ inserted session₁ row₁ eventId₁ session₂ eventId₂,
      session.run (.insertOpportunity new) = .ok inserted ∧
      writeOpportunityMeasureEvent inserted new .annualFinancialImpact (createdImpact payload)
        (some userId) reference
        "manual_estimate" = .ok (session₁, row₁, eventId₁) ∧
      writeOpportunityMeasureEvent session₁ row₁ .realisedSavings unknownState (some userId) reference
        "manual_estimate" = .ok (session₂, row, eventId₂) ∧
      session₂.run (.updateOpportunity row) = .ok session' := by
  by_cases hSupplier : payload.supplierPublicId.any fun publicId =>
    decide (publicId ∉ supplierPublicIds)
  · rw [createOpportunity, if_pos hSupplier] at h
    cases h
  by_cases hDate : payload.annualFinancialImpact.isSome ∧
    payload.annualFinancialImpactEffectiveFrom.isNone
  · rw [createOpportunity, if_neg hSupplier, if_pos hDate] at h
    cases h
  by_cases hColumns : ¬payload.columnsFit
  · rw [createOpportunity, if_neg hSupplier, if_neg hDate, if_pos hColumns] at h
    cases h
  rw [createOpportunity, if_neg hSupplier, if_neg hDate, if_neg hColumns] at h
  obtain ⟨inserted, hInsert, hRest⟩ := exists_of_bind_eq_ok h
  obtain ⟨⟨session₁, row₁, eventId₁⟩, hImpact, hRest⟩ := exists_of_bind_eq_ok hRest
  obtain ⟨⟨session₂, row₂, eventId₂⟩, hSavings, hRest⟩ := exists_of_bind_eq_ok hRest
  obtain ⟨sent, hSend, hResult⟩ := exists_of_bind_eq_ok hRest
  cases hResult
  exact ⟨not_not.mp hColumns, inserted, session₁, row₁, eventId₁, session₂, eventId₂, hInsert,
    hImpact, hSavings, hSend⟩

theorem fits_of_createOpportunity {supplierPublicIds : List ℕ}
    {opportunityId organisationId userId : ℕ} {payload : OpportunityCreate} {session' : Session}
    (h : createOpportunity session supplierPublicIds opportunityId organisationId userId payload =
      .ok (session', row)) :
    payload.columnsFit ∧
      fitsNumeric 18 (payload.annualFinancialImpact.map (FixedPoint.assign 4)) := by
  obtain ⟨hColumns, inserted, session₁, row₁, eventId₁, session₂, eventId₂, -, hImpact, -⟩ :=
    createOpportunity_of_ok h
  refine ⟨hColumns, ?_⟩
  rw [← createdImpact_amount]
  exact fits_of_writeOpportunityMeasureEvent hImpact

theorem recordRealisedSavings_of_ok {organisationId userId : ℕ} {payload : OpportunityRealise}
    {changeReference : String} {now : Timestamp} {session' : Session} {row' : Opportunity}
    (h : recordRealisedSavings session organisationId userId row payload changeReference now =
      .ok (session', row')) :
    row.status = .implementation ∧ payload.columnsFit changeReference ∧
      ∃ session₁ row₁ eventId session₂, writeOpportunityMeasureEvent session row .realisedSavings
        (confirmedState (FixedPoint.assign 4 payload.realisedSavings) now userId
          payload.effectivePeriodStart
          payload.effectivePeriodEnd) (some userId) changeReference "evidence_received" =
        .ok (session₁, row₁, eventId) ∧
      (realisedEvidence organisationId eventId payload).foldlM
        (fun session evidence => session.run (.insertEvidence evidence)) session₁ = .ok session₂ ∧
      row' = { row₁ with status := .realised } ∧ session₂.run (.updateOpportunity row') =
        .ok session' := by
  by_cases hStatus : row.status ≠ .implementation
  · rw [recordRealisedSavings, if_pos hStatus] at h
    cases h
  by_cases hPeriod : payload.effectivePeriodEnd < payload.effectivePeriodStart
  · rw [recordRealisedSavings, if_neg hStatus, if_pos hPeriod] at h
    cases h
  by_cases hColumns : ¬payload.columnsFit changeReference
  · rw [recordRealisedSavings, if_neg hStatus, if_neg hPeriod, if_pos hColumns] at h
    cases h
  rw [recordRealisedSavings, if_neg hStatus, if_neg hPeriod, if_neg hColumns] at h
  obtain ⟨⟨session₁, row₁, eventId⟩, hWrite, hRest⟩ := exists_of_bind_eq_ok h
  obtain ⟨session₂, hFold, hRest⟩ := exists_of_bind_eq_ok hRest
  obtain ⟨sent, hSend, hResult⟩ := exists_of_bind_eq_ok hRest
  cases hResult
  exact ⟨not_not.mp hStatus, not_not.mp hColumns, session₁, row₁, eventId, session₂, hWrite, hFold,
    rfl, hSend⟩

theorem fits_of_recordRealisedSavings {organisationId userId : ℕ} {payload : OpportunityRealise}
    {changeReference : String} {now : Timestamp} {session' : Session} {row' : Opportunity}
    (h : recordRealisedSavings session organisationId userId row payload changeReference now =
      .ok (session', row')) :
    payload.columnsFit changeReference ∧
      fitsNumeric 18 (some (FixedPoint.assign 4 payload.realisedSavings)) := by
  obtain ⟨-, hColumns, session₁, row₁, eventId, session₂, hWrite, -⟩ :=
    recordRealisedSavings_of_ok h
  exact ⟨hColumns, fits_of_writeOpportunityMeasureEvent hWrite⟩

/-- Without events the row has no pointers, so it is never in order. -/
theorem createOpportunityFromLine_not_leavesGoverned (session : Session)
    (opportunityId organisationId : ℕ) (line : PriceReviewLine) :
    ¬LeavesGoverned (createOpportunityFromLine session opportunityId organisationId line) := by
  rintro ⟨session', row, hResult, -, hGoverned⟩
  rw [createOpportunityFromLine] at hResult
  cases hRun : session.run
    (.insertOpportunity (newOpportunity opportunityId organisationId line.annualImpact)) with
  | error e =>
    simp only [hRun] at hResult
    cases hResult
  | ok inserted =>
    rw [bind_of_eq_ok hRun] at hResult
    obtain ⟨-, rfl⟩ := Prod.mk.inj (Except.ok.inj hResult)
    cases hGoverned.impactPointer

end Commit

/-- The operations that create an opportunity or change a governed measure of one. -/
inductive OpportunityOperation where
  | createOpportunity (payload : OpportunityCreate)
  | createOpportunityFromLine (line : PriceReviewLine)
  | advanceWaterfallStage (opportunity : Opportunity) (targetStatus : String)
  | recordRealisedSavings (opportunity : Opportunity) (payload : OpportunityRealise)
      (changeReference : String)

namespace OpportunityOperation

/-- One request of a user; a new opportunity takes the next id of its table. -/
def perform (session : Session) (supplierPublicIds : List ℕ)
    (opportunityId organisationId userId : ℕ) (now : Timestamp) :
    OpportunityOperation → Except ServiceError (Session × Opportunity)
  | .createOpportunity payload =>
    Opportunities.createOpportunity session supplierPublicIds opportunityId organisationId userId payload
  | .createOpportunityFromLine line =>
    Opportunities.createOpportunityFromLine session opportunityId organisationId line
  | .advanceWaterfallStage opportunity targetStatus =>
    Opportunities.advanceWaterfallStage session userId opportunity targetStatus now
  | .recordRealisedSavings opportunity payload changeReference =>
    Opportunities.recordRealisedSavings session organisationId userId opportunity payload
      changeReference now

/-- What the schemas, the row-level security and the guards of the services let through. -/
def ValidInput (db : Db) (supplierPublicIds : List ℕ) (organisationId : ℕ) :
    OpportunityOperation → Prop
  | .createOpportunity payload =>
    (∀ publicId ∈ payload.supplierPublicId, publicId ∈ supplierPublicIds) ∧
      (payload.annualFinancialImpact.isSome → payload.annualFinancialImpactEffectiveFrom.isSome)
  | .createOpportunityFromLine _ => True
  | .advanceWaterfallStage opportunity targetStatus =>
    opportunity ∈ db.opportunities ∧ Admits opportunity.status targetStatus
  | .recordRealisedSavings opportunity payload _ =>
    opportunity ∈ db.opportunities ∧ opportunity.organisationId = organisationId ∧
      opportunity.status = .implementation ∧ payload.effectivePeriodStart ≤
        payload.effectivePeriodEnd

/-- The columns take the texts and the amounts of the input. -/
def ColumnsFit : OpportunityOperation → Prop
  | .createOpportunity payload =>
    payload.columnsFit ∧ fitsNumeric 18 (payload.annualFinancialImpact.map (FixedPoint.assign 4))
  | .createOpportunityFromLine _ | .advanceWaterfallStage _ _ => True
  | .recordRealisedSavings _ payload changeReference =>
    payload.columnsFit changeReference ∧
      fitsNumeric 18 (some (FixedPoint.assign 4 payload.realisedSavings))

end OpportunityOperation

section Operations

variable {db : Db} {nextEventId opportunityId : ℕ} {supplierPublicIds : List ℕ} {organisationId : ℕ}

theorem perform_leavesGoverned (hDb : db.Valid) (hFresh : ∀ e ∈ db.events, e.id < nextEventId)
    (hId : ∀ old ∈ db.opportunities, old.id ≠ opportunityId) (userId : ℕ) (now : Timestamp)
    {operation : OpportunityOperation}
    (hInput : operation.ValidInput db supplierPublicIds organisationId)
    (hLine : ∀ line, operation ≠ .createOpportunityFromLine line)
    (hColumns : operation.ColumnsFit) :
    LeavesGoverned
      (operation.perform ⟨db, [], nextEventId⟩ supplierPublicIds opportunityId organisationId userId
      now) := by
  cases operation with
  | createOpportunity payload =>
    exact createOpportunity_leavesGoverned hDb hFresh hId hInput.1 hInput.2 hColumns.1 hColumns.2
      organisationId userId
  | createOpportunityFromLine line => exact absurd rfl (hLine line)
  | advanceWaterfallStage opportunity targetStatus =>
    exact advanceWaterfallStage_leavesGoverned hDb hFresh hInput.1 hInput.2 userId now
  | recordRealisedSavings opportunity payload changeReference =>
    obtain ⟨hRow, rfl, hStatus, hPeriod⟩ := hInput
    exact recordRealisedSavings_leavesGoverned hDb hFresh hRow hStatus hPeriod userId hColumns.1
      hColumns.2 now

/-- An operation on a valid state commits a row in order exactly when its columns take the
input and it does not build its row from a price-review line. -/
theorem leavesGoverned_iff (hDb : db.Valid) (hFresh : ∀ e ∈ db.events, e.id < nextEventId)
    (hId : ∀ old ∈ db.opportunities, old.id ≠ opportunityId) (userId : ℕ) (now : Timestamp)
    {operation : OpportunityOperation}
    (hInput : operation.ValidInput db supplierPublicIds organisationId) :
    LeavesGoverned
      (operation.perform ⟨db, [], nextEventId⟩ supplierPublicIds opportunityId organisationId userId
      now) ↔ (∀ line, operation ≠ .createOpportunityFromLine line) ∧ operation.ColumnsFit := by
  constructor
  · intro h
    cases operation with
    | createOpportunity payload =>
      obtain ⟨session, row, hResult, -⟩ := h
      exact ⟨(fun _ hLine => nomatch hLine), fits_of_createOpportunity hResult⟩
    | createOpportunityFromLine line =>
      exact absurd h (createOpportunityFromLine_not_leavesGoverned _ opportunityId organisationId line)
    | advanceWaterfallStage opportunity targetStatus =>
      exact ⟨(fun _ hLine => nomatch hLine), trivial⟩
    | recordRealisedSavings opportunity payload changeReference =>
      obtain ⟨session, row, hResult, -⟩ := h
      exact ⟨(fun _ hLine => nomatch hLine), fits_of_recordRealisedSavings hResult⟩
  · rintro ⟨hLine, hColumns⟩
    exact perform_leavesGoverned hDb hFresh hId userId now hInput hLine hColumns

def challenge (annualFinancialImpact : Option ℚ) (effectiveFrom : Option Date) :
    OpportunityCreate :=
  ⟨"Flour", "price_increase_challenge", none, none, annualFinancialImpact, effectiveFrom, none⟩

theorem estimate_leavesGoverned : LeavesGoverned
    ((OpportunityOperation.createOpportunity
      (challenge (some 1000) (some ⟨2026, 1, 1, by decide⟩))).perform
      ⟨Db.empty, [], 1⟩ [] 1 1 1 0) := by
  refine (leavesGoverned_iff Db.empty_valid (fun _ h => absurd h List.not_mem_nil)
    (fun _ h => absurd h List.not_mem_nil)
    1 0 ?_).mpr ⟨by
      rintro _ ⟨⟩, by
        decide, by norm_num [challenge, fitsNumeric, FixedPoint.assign, roundHalfAway]⟩
  exact ⟨by rintro _ ⟨⟩, fun _ => rfl⟩

theorem opportunity_from_line_refused :
    ((createOpportunityFromLine ⟨Db.empty, [], 1⟩ 1 1 ⟨1, none⟩).bind fun result =>
      result.1.commit) =
        .error .database ∧
      ((createOpportunityFromLine ⟨Db.empty, [], 1⟩ 1 1 ⟨1, some ⟨1000000⟩⟩).bind fun result =>
        result.1.commit) = .error .database := by
  decide

end Operations

end ProcureFoundation.Opportunities
