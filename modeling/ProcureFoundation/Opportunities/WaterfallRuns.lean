import ProcureFoundation.Opportunities.WritersCommit

/-!
# Runs through the waterfall

A request loads one opportunity, changes that row alone, and commits or leaves no trace.
Over a run of requests the stages of one opportunity are read off the rows as they are
committed. Two facts that the stages suggest do not hold by themselves: a move into
`realised` brings no evidence, and a terminal stage stands before the first stage of the
order, so that the sequence can be started again.
-/

namespace ProcureFoundation.Opportunities

open Outcome Evidence ThreeValued KeyedRows

section Writing

/-- A row change that concerns one opportunity. -/
def WritesOpportunity (id : ℕ) : Statement → Prop
  | .insertEvent e => e.rebatePeriodActualId = none ∧ e.opportunityId = some id
  | .insertEvidence _ => True
  | .insertOpportunity row | .updateOpportunity row => row.id = id
  | .insertRebatePeriodActual _ | .updateRebatePeriodActual _ => False

/-- A session that works on one opportunity. -/
structure Writing (start : Db) (id : ℕ) (session : Session) : Prop extends
    session.Sends (WritesOpportunity id) start where
  stored : id ∈ session.db.opportunities.map Opportunity.id

variable {start db final : Db} {session session' : Session} {id : ℕ} {row row' : Opportunity}
  {statement : Statement} {statements : List Statement}

theorem mem_ids_apply (h : id ∈ db.opportunities.map Opportunity.id) (statement : Statement) :
    id ∈ (db.apply statement).opportunities.map Opportunity.id := by
  cases statement with
  | insertOpportunity row =>
    rw [Db.apply, List.map_append]
    exact List.mem_append_left _ h
  | updateOpportunity row =>
    rw [Db.apply, map_key_replace]
    exact h
  | _ => exact h

theorem Writing.begin (hDb : db.Constrained) {nextEventId : ℕ}
    (hFresh : ∀ e ∈ db.events, e.id < nextEventId) (hRow : row ∈ db.opportunities) :
    Writing db row.id ⟨db, [], nextEventId⟩ :=
  ⟨.begin hDb hFresh, List.mem_map_of_mem hRow⟩

theorem Writing.run (h : Writing start id session) (hRun : session.run statement = .ok session')
    (hNoEvent : statement.insertedEvents = []) (hWrites : WritesOpportunity id statement) :
    Writing start id session' := by
  refine ⟨h.toSends.run hRun hNoEvent hWrites, ?_⟩
  obtain ⟨-, rfl⟩ := Session.run_eq_ok.mp hRun
  exact mem_ids_apply h.stored statement

theorem Writing.writeMeasure (h : Writing start id session) (hId : row.id = id) {measure : Measure}
    {new : AmountState} {actorUserId : Option ℕ} {changeReference changeReasonCode : String}
    {eventId : ℕ}
    (hWrite : writeOpportunityMeasureEvent session row measure new actorUserId changeReference
      changeReasonCode = .ok (session', row', eventId)) :
    Writing start id session' ∧ row' = withMeasure row measure new eventId := by
  unfold writeOpportunityMeasureEvent at hWrite
  obtain ⟨locked, hRun, hRest⟩ := exists_of_bind_eq_ok hWrite
  have hLocked := h.run hRun rfl hId
  split at hRest
  · cases hRest
  obtain ⟨inserted, hInsert, hResult⟩ := exists_of_bind_eq_ok hRest
  obtain ⟨hSends, hDb⟩ := hLocked.toSends.insertEvent hInsert ⟨rfl, congrArg some hId⟩
  cases hResult
  exact ⟨⟨hSends, hDb ▸ mem_ids_apply hLocked.stored _⟩, rfl⟩

theorem Writing.touchesParents (h : Writing start id session)
    (hUpdate : ∃ row, Statement.updateOpportunity row ∈ session.executed) :
    TouchesParents session.executed := by
  intro s hs e he measure parentId hGoverns
  obtain ⟨row, hRow⟩ := hUpdate
  have hRowId : row.id = id := h.sent _ hRow
  cases s with
  | insertEvent inserted =>
    obtain rfl := List.mem_singleton.mp he
    obtain ⟨hNoPeriod, hOpportunity⟩ := h.sent _ hs
    obtain ⟨hParent, -⟩ := hGoverns
    refine ⟨_, hRow, ?_⟩
    cases measure with
    | expectedAmount => cases hNoPeriod.symm.trans hParent
    | annualFinancialImpact | realisedSavings =>
      exact ⟨by decide, hRowId.trans (Option.some.inj (hOpportunity.symm.trans hParent))⟩
  | _ => cases he

theorem other_of_executeAll (hWrites : ∀ s ∈ statements, WritesOpportunity id s)
    (h : db.executeAll statements = some final) (hNe : row.id ≠ id) :
    row ∈ final.opportunities ↔ row ∈ db.opportunities := by
  induction statements generalizing db with
  | nil =>
    cases h
    rfl
  | cons head rest ih =>
    obtain ⟨-, hRest⟩ := Db.executeAll_cons.mp h
    rw [ih (fun s hs => hWrites s (List.mem_cons_of_mem _ hs)) hRest]
    have hHead := hWrites head List.mem_cons_self
    cases head with
    | insertOpportunity new =>
      have hOther : row ≠ new := fun hEq => hNe (hEq ▸ hHead)
      simp [Db.apply, hOther]
    | updateOpportunity new =>
      constructor
      · intro hRow
        obtain ⟨rfl, -⟩ | ⟨hOld, -⟩ := mem_replace hRow
        · exact absurd hHead hNe
        · exact hOld
      · intro hOld
        exact mem_replace_of_ne hOld fun hEq => hNe (hEq.trans hHead)
    | _ => rfl

/-- What a request that sends its row last leaves behind when it commits. -/
structure Replaced (db db' : Db) (row : Opportunity) : Prop where
  valid : db'.Valid
  stored : row ∈ db'.opportunities
  others : ∀ other : Opportunity, other.id ≠ row.id →
    (other ∈ db'.opportunities ↔ other ∈ db.opportunities)

theorem Writing.commit (h : Writing start id session) (hStart : start.Valid) (hId : row.id = id)
    (hSend : session.run (.updateOpportunity row) = .ok session')
    (hCommit : session'.commit = .ok db) : Replaced start db row := by
  have hSent := h.run hSend rfl hId
  have hTransaction := hSent.toSound.commit_eq_ok.mp hCommit
  have hRun := (Db.commitTransaction_eq_some.mp hTransaction).1
  obtain ⟨-, rfl⟩ := Session.run_eq_ok.mp hSend
  have hDb : db = session.db.apply (.updateOpportunity row) := (Session.commit_eq_ok.mp hCommit).2
  have hUpdate : Statement.updateOpportunity row ∈ session.executed ++ [.updateOpportunity row] :=
    List.mem_append_right _ List.mem_cons_self
  refine ⟨hStart.commit (hSent.touchesParents ⟨row, hUpdate⟩) hTransaction, ?_, ?_⟩
  · obtain ⟨old, hOld, hOldId⟩ := List.mem_map.mp h.stored
    rw [hDb]
    exact mem_replace_self hOld (hOldId.trans hId.symm)
  · intro other hNe
    exact other_of_executeAll hSent.sent hRun (hId ▸ hNe)

end Writing

namespace OpportunityOperation

/-- A request works on a row as it is committed; the price review's writer is not one of them. -/
def Loaded (db : Db) : OpportunityOperation → Prop
  | .createOpportunity _ => True
  | .createOpportunityFromLine _ => False
  | .advanceWaterfallStage opportunity _ | .recordRealisedSavings opportunity _ _ =>
    opportunity ∈ db.opportunities

/-- The request goes through and commits. -/
def Commits (operation : OpportunityOperation) (db db' : Db) (row : Opportunity) : Prop :=
  ∃ supplierPublicIds opportunityId organisationId userId now nextEventId session,
    (∀ e ∈ db.events, e.id < nextEventId) ∧ (∀ old ∈ db.opportunities, old.id ≠ opportunityId) ∧
      operation.Loaded db ∧
        operation.perform ⟨db, [], nextEventId⟩ supplierPublicIds opportunityId organisationId
        userId now = .ok (session, row) ∧ session.commit = .ok db'

/-- What the operation makes of its opportunity. -/
def Moves (db : Db) (row : Opportunity) : OpportunityOperation → Prop
  | .createOpportunity _ => row.status = .identified ∧ row.realisedSavingsStatus = "unknown" ∧
    ∀ old ∈ db.opportunities, old.id ≠ row.id
  | .createOpportunityFromLine _ => False
  | .advanceWaterfallStage opportunity targetStatus => opportunity ∈ db.opportunities ∧
    ∃ userId now, advancedRow opportunity userId targetStatus now = .ok row
  | .recordRealisedSavings opportunity _ _ => opportunity ∈ db.opportunities ∧
    opportunity.status = .implementation ∧ row.id = opportunity.id ∧ row.status = .realised ∧
      row.realisedSavingsStatus = "confirmed"

end OpportunityOperation

section Requests

variable {db db' : Db} {row row' : Opportunity} {session session' : Session} {nextEventId : ℕ}

theorem advancedRow_of_ok {userId : ℕ} {targetStatus : String} {now : Timestamp}
    (h : advancedRow row userId targetStatus now = .ok row') :
    (∃ approvedByUserId approvedAt, row' = { row with
        status := row'.status, approvedByUserId := approvedByUserId, approvedAt := approvedAt }) ∧
      row'.status.text = targetStatus ∧ (row'.status = .rejected ∨ row'.status = .expired ∨
        row'.status ∈ waterfallOrder ∧ waterfallIndex row'.status = waterfallIndex row.status +
          1) := by
  unfold advancedRow at h
  split at h
  · next hTarget =>
    cases h
    exact ⟨⟨_, _, rfl⟩, hTarget.symm, .inl rfl⟩
  split at h
  · next hTarget =>
    cases h
    exact ⟨⟨_, _, rfl⟩, hTarget.symm, .inr (.inl rfl)⟩
  split at h
  · cases h
  · next target hFind =>
    have hFound := List.find?_some hFind
    have hText : target.text = targetStatus := beq_iff_eq.mp hFound
    have hOrdered := List.mem_of_find?_eq_some hFind
    split at h
    · cases h
    · next hIndex =>
      have hNext := not_not.mp hIndex
      split at h
      · cases h
        exact ⟨⟨_, _, rfl⟩, hText, .inr (.inr ⟨hOrdered, hNext⟩)⟩
      · cases h
        exact ⟨⟨_, _, rfl⟩, hText, .inr (.inr ⟨hOrdered, hNext⟩)⟩

theorem advanceWaterfallStage_commits (hDb : db.Valid)
    (hFresh : ∀ e ∈ db.events, e.id < nextEventId) (hRow : row ∈ db.opportunities) {userId : ℕ}
    {targetStatus : String} {now : Timestamp}
    (h : advanceWaterfallStage ⟨db, [], nextEventId⟩ userId row targetStatus now =
      .ok (session, row'))
    (hCommit : session.commit = .ok db') :
    Replaced db db' row' ∧ advancedRow row userId targetStatus now = .ok row' := by
  obtain ⟨advanced, hAdvanced, hRest⟩ := exists_of_bind_eq_ok h
  obtain ⟨sent, hSend, hResult⟩ := exists_of_bind_eq_ok hRest
  cases hResult
  obtain ⟨⟨approvedByUserId, approvedAt, hSame⟩, -⟩ := advancedRow_of_ok hAdvanced
  have hId : row'.id = row.id := by rw [hSame]
  exact ⟨(Writing.begin hDb.toConstrained hFresh hRow).commit hDb hId hSend hCommit, hAdvanced⟩

theorem recordRealisedSavings_commits (hDb : db.Valid)
    (hFresh : ∀ e ∈ db.events, e.id < nextEventId) (hRow : row ∈ db.opportunities)
    {organisationId userId : ℕ} {payload : OpportunityRealise} {changeReference : String}
    {now : Timestamp}
    (h : recordRealisedSavings ⟨db, [], nextEventId⟩ organisationId userId row payload
      changeReference now = .ok (session, row')) (hCommit : session.commit = .ok db') :
    Replaced db db' row' ∧ row.status = .implementation ∧ row'.id = row.id ∧
      row'.status = .realised ∧ row'.realisedSavingsStatus = "confirmed" := by
  obtain ⟨hStatus, -, session₁, row₁, eventId, session₂, hWrite, hFold, rfl, hSend⟩ :=
    recordRealisedSavings_of_ok h
  obtain ⟨hWriting, rfl⟩ := (Writing.begin hDb.toConstrained hFresh hRow).writeMeasure rfl hWrite
  have hEvidence : ∀ (rows : List FinancialAmountEvidence) {session session' : Session},
      Writing db row.id session →
        rows.foldlM (fun session evidence => session.run (.insertEvidence evidence))
        session = .ok session' → Writing db row.id session' := by
    intro rows
    induction rows with
    | nil =>
      intro session session' hWriting hFold
      cases hFold
      exact hWriting
    | cons head rest ih =>
      intro session session' hWriting hFold
      obtain ⟨next, hRun, hRest⟩ := exists_of_bind_eq_ok hFold
      exact ih (hWriting.run hRun rfl trivial) hRest
  exact ⟨(hEvidence _ hWriting hFold).commit hDb (withMeasure_id row _ _ _) hSend hCommit, hStatus,
    withMeasure_id row _ _ _, rfl, rfl⟩

theorem createOpportunity_commits (hDb : db.Valid) (hFresh : ∀ e ∈ db.events, e.id < nextEventId)
    {opportunityId : ℕ} {supplierPublicIds : List ℕ} {organisationId userId : ℕ}
    {payload : OpportunityCreate}
    (h : createOpportunity ⟨db, [], nextEventId⟩ supplierPublicIds opportunityId organisationId
      userId payload = .ok (session, row')) (hCommit : session.commit = .ok db') :
    Replaced db db' row' ∧ row'.status = .identified ∧ row'.realisedSavingsStatus = "unknown" ∧
      row'.id = opportunityId := by
  obtain ⟨-, inserted, session₁, row₁, eventId₁, session₂, eventId₂, hInsert, hImpact, hSavings,
      hSend⟩ :=
    createOpportunity_of_ok h
  have hBegun : Writing db opportunityId inserted := by
    refine ⟨(Session.Sends.begin hDb.toConstrained hFresh).run hInsert rfl rfl, ?_⟩
    obtain ⟨-, rfl⟩ := Session.run_eq_ok.mp hInsert
    rw [Db.apply, List.map_append]
    exact List.mem_append_right _ List.mem_cons_self
  obtain ⟨hWriting₁, rfl⟩ := hBegun.writeMeasure rfl hImpact
  obtain ⟨hWriting₂, rfl⟩ := hWriting₁.writeMeasure rfl hSavings
  exact ⟨hWriting₂.commit hDb rfl hSend hCommit, rfl, rfl, rfl⟩

/-- A request that commits leaves a valid state and has changed its own opportunity only. -/
theorem OpportunityOperation.Commits.spec {operation : OpportunityOperation} (hDb : db.Valid)
    (h : operation.Commits db db' row) : Replaced db db' row ∧ operation.Moves db row := by
  obtain ⟨supplierPublicIds, opportunityId, organisationId, userId, now, nextEventId, session,
    hFresh, hNew, hLoaded, hPerform, hCommit⟩ := h
  cases operation with
  | createOpportunity payload =>
    obtain ⟨hReplaced, hStatus, hSavings, rfl⟩ :=
      createOpportunity_commits hDb hFresh hPerform hCommit
    exact ⟨hReplaced, hStatus, hSavings, hNew⟩
  | createOpportunityFromLine line => exact hLoaded.elim
  | advanceWaterfallStage opportunity targetStatus =>
    obtain ⟨hReplaced, hAdvanced⟩ :=
      advanceWaterfallStage_commits hDb hFresh hLoaded hPerform hCommit
    exact ⟨hReplaced, hLoaded, userId, now, hAdvanced⟩
  | recordRealisedSavings opportunity payload changeReference =>
    obtain ⟨hReplaced, hMoves⟩ := recordRealisedSavings_commits hDb hFresh hLoaded hPerform hCommit
    exact ⟨hReplaced, hLoaded, hMoves⟩

theorem OpportunityOperation.commits_of_leavesGoverned {operation : OpportunityOperation}
    {supplierPublicIds : List ℕ} {opportunityId organisationId userId : ℕ} {now : Timestamp}
    (hFresh : ∀ e ∈ db.events, e.id < nextEventId)
    (hNew : ∀ old ∈ db.opportunities, old.id ≠ opportunityId) (hLoaded : operation.Loaded db)
    (h : LeavesGoverned
      (operation.perform ⟨db, [], nextEventId⟩ supplierPublicIds opportunityId organisationId
      userId now)) : ∃ db' row, operation.Commits db db' row := by
  obtain ⟨session, row, hPerform, hCommit, -⟩ := h
  exact ⟨session.db, row, supplierPublicIds, opportunityId, organisationId, userId, now,
    nextEventId, session, hFresh, hNew, hLoaded, hPerform, hCommit⟩

theorem exists_fresh_ids (db : Db) : ∃ nextEventId opportunityId : ℕ,
    (∀ e ∈ db.events, e.id < nextEventId) ∧ ∀ old ∈ db.opportunities, old.id ≠ opportunityId := by
  refine ⟨(db.events.map FinancialAmountStatusEvent.id).sum + 1,
    (db.opportunities.map Opportunity.id).sum + 1, ?_, ?_⟩
  · intro e he
    exact Nat.lt_succ_of_le (List.le_sum_of_mem (List.mem_map_of_mem he))
  · intro old hOld
    exact (Nat.lt_succ_of_le (List.le_sum_of_mem (List.mem_map_of_mem hOld))).ne

theorem OpportunityOperation.exists_commits (hDb : db.Valid) {operation : OpportunityOperation}
    (hLoaded : operation.Loaded db) {supplierPublicIds : List ℕ} {organisationId : ℕ}
    (hInput : operation.ValidInput db supplierPublicIds organisationId)
    (hColumns : operation.ColumnsFit) : ∃ db' row, operation.Commits db db' row := by
  obtain ⟨nextEventId, opportunityId, hFresh, hNew⟩ := exists_fresh_ids db
  have hLine : ∀ line, operation ≠ .createOpportunityFromLine line := by
    rintro line rfl
    exact hLoaded
  exact commits_of_leavesGoverned hFresh hNew hLoaded
    (perform_leavesGoverned hDb hFresh hNew 1 0 hInput hLine hColumns)

theorem text_injective {stage stage' : WaterfallStage} (h : stage.text = stage'.text) :
    stage = stage' := by
  cases stage <;> cases stage' <;> first | rfl | exact absurd h (by decide)

theorem exists_advance (hDb : db.Valid) (hRow : row ∈ db.opportunities) {next : WaterfallStage}
    (hAdmits : Admits row.status next.text) :
    ∃ db' row', (OpportunityOperation.advanceWaterfallStage row next.text).Commits db db' row' ∧
      Replaced db db' row' ∧ row'.id = row.id ∧ row'.status = next ∧
      row'.realisedSavingsStatus = row.realisedSavingsStatus := by
  obtain ⟨db', row', hCommits⟩ := @OpportunityOperation.exists_commits db hDb
    (.advanceWaterfallStage row next.text) hRow [] 0 ⟨hRow, hAdmits⟩ trivial
  obtain ⟨hReplaced, -, userId, now, hAdvanced⟩ := hCommits.spec hDb
  obtain ⟨⟨approvedByUserId, approvedAt, hSame⟩, hText, -⟩ := advancedRow_of_ok hAdvanced
  exact ⟨db', row', hCommits, hReplaced, by rw [hSame], text_injective hText, by rw [hSame]⟩

theorem exists_create (hDb : db.Valid) : ∃ db' row',
    (OpportunityOperation.createOpportunity (challenge none none)).Commits db db' row' ∧
      Replaced db db' row' ∧
      row'.status = .identified ∧ row'.realisedSavingsStatus = "unknown" := by
  obtain ⟨db', row', hCommits⟩ := @OpportunityOperation.exists_commits db hDb
    (.createOpportunity (challenge none none)) trivial [] 0 ⟨(fun _ h => nomatch h), fun h => nomatch h⟩
    ⟨by decide, rfl⟩
  obtain ⟨hReplaced, hStatus, hSavings, -⟩ := hCommits.spec hDb
  exact ⟨db', row', hCommits, hReplaced, hStatus, hSavings⟩

end Requests

end ProcureFoundation.Opportunities
