import ProcureFoundation.Evidence.Snapshots
import ProcureFoundation.Foundation.VersionedLog

/-!
# Transactions on the evidence-state tables

A transaction is a list of row changes. CHECKs, unique constraints and foreign keys
judge each change as it is made; the constraint triggers wait for the commit and then
judge the final rows, once for every row that a change has fired them on. A failing
judgement of either kind leaves the committed state as it was.
-/

namespace ProcureFoundation.Evidence

open ThreeValued KeyedRows

structure Db where
  events : List FinancialAmountStatusEvent
  evidence : List FinancialAmountEvidence
  rebatePeriodActuals : List RebatePeriodActual
  opportunities : List Opportunity
deriving DecidableEq

/-- The application role inserts into the two evidence tables and never changes them. -/
inductive Statement where
  | insertEvent (event : FinancialAmountStatusEvent)
  | insertEvidence (evidence : FinancialAmountEvidence)
  | insertRebatePeriodActual (row : RebatePeriodActual)
  | updateRebatePeriodActual (row : RebatePeriodActual)
  | insertOpportunity (row : Opportunity)
  | updateOpportunity (row : Opportunity)
deriving DecidableEq

def uqRebatePeriod (row other : RebatePeriodActual) : Bool :=
  !(other.rebateAgreementId == row.rebateAgreementId && other.periodStart == row.periodStart &&
    other.periodEnd == row.periodEnd)

namespace Db

def eventExists (db : Db) (pointer : Option ℕ) : Bool :=
  pointer.all fun id => db.events.any fun e => e.id == id

def acceptsEvent (db : Db) (e : FinancialAmountStatusEvent) : Bool :=
  e.rowAccepted && db.events.all (fun f => f.id != e.id) && db.events.all (uqFamevSeq e) &&
    e.rebatePeriodActualId.all (fun id => db.rebatePeriodActuals.any fun row => row.id == id) &&
    e.opportunityId.all (fun id => db.opportunities.any fun row => row.id == id)

def acceptsEvidence (db : Db) (evidence : FinancialAmountEvidence) : Bool :=
  passes (ckFamevEvidTypeVocabulary evidence) &&
    db.events.any fun e => e.id == evidence.eventId && e.organisationId == evidence.organisationId

def acceptsRebatePeriodActual (db : Db) (row : RebatePeriodActual) : Bool :=
  row.rowAccepted && db.eventExists row.expectedAmountCurrentEventId &&
    db.rebatePeriodActuals.all fun other => other.id == row.id || uqRebatePeriod row other

def acceptsOpportunity (db : Db) (row : Opportunity) : Bool :=
  row.rowAccepted && db.eventExists row.annualFinancialImpactCurrentEventId &&
    db.eventExists row.realisedSavingsCurrentEventId

/-- What CHECKs, unique constraints and foreign keys say to one change; an UPDATE that
matches no row has nothing to be judged. -/
def accepts (db : Db) : Statement → Bool
  | .insertEvent e => db.acceptsEvent e
  | .insertEvidence evidence => db.acceptsEvidence evidence
  | .insertRebatePeriodActual row =>
    db.rebatePeriodActuals.all (fun other => other.id != row.id) && db.acceptsRebatePeriodActual row
  | .updateRebatePeriodActual row =>
    db.rebatePeriodActuals.all (fun other => other.id != row.id) || db.acceptsRebatePeriodActual row
  | .insertOpportunity row =>
    db.opportunities.all (fun other => other.id != row.id) && db.acceptsOpportunity row
  | .updateOpportunity row =>
    db.opportunities.all (fun other => other.id != row.id) || db.acceptsOpportunity row

def apply (db : Db) : Statement → Db
  | .insertEvent e => { db with events := db.events ++ [e] }
  | .insertEvidence evidence => { db with evidence := db.evidence ++ [evidence] }
  | .insertRebatePeriodActual row =>
    { db with rebatePeriodActuals := db.rebatePeriodActuals ++ [row] }
  | .updateRebatePeriodActual row =>
    { db with rebatePeriodActuals := replace RebatePeriodActual.id row db.rebatePeriodActuals }
  | .insertOpportunity row => { db with opportunities := db.opportunities ++ [row] }
  | .updateOpportunity row =>
    { db with opportunities := replace Opportunity.id row db.opportunities }

def execute (db : Db) (statement : Statement) : Option Db :=
  if db.accepts statement then some (db.apply statement) else none

/-- The deferred triggers that one row change has queued, run on the final rows. -/
def triggersPass (final : Db) : Statement → Bool
  | .insertEvent e =>
    checkConfirmedEventHasSufficientEvidence final.evidence e &&
      checkEventChainIntegrity final.events e
  | .insertEvidence _ => true
  | .insertRebatePeriodActual row | .updateRebatePeriodActual row =>
    checkRpaExpectedAmountMatchesEvent final.events final.rebatePeriodActuals row.id
  | .insertOpportunity row | .updateOpportunity row =>
    checkOppAnnualFinancialImpactMatchesEvent final.events final.opportunities row.id &&
      checkOppRealisedSavingsMatchesEvent final.events final.opportunities row.id

def executeAll (db : Db) (statements : List Statement) : Option Db := statements.foldlM execute db

def commitTransaction (db : Db) (statements : List Statement) : Option Db :=
  (db.executeAll statements).filter fun final => statements.all final.triggersPass

def snapshot (db : Db) (measure : Measure) (parentId : ℕ) : Option Snapshot :=
  match measure with
  | .expectedAmount =>
    (lookup RebatePeriodActual.id db.rebatePeriodActuals parentId).map
      RebatePeriodActual.expectedAmountSnapshot
  | .annualFinancialImpact =>
    (lookup Opportunity.id db.opportunities parentId).map Opportunity.annualFinancialImpactSnapshot
  | .realisedSavings =>
    (lookup Opportunity.id db.opportunities parentId).map Opportunity.realisedSavingsSnapshot

end Db

def Statement.touches (measure : Measure) (parentId : ℕ) : Statement → Prop
  | .insertRebatePeriodActual row | .updateRebatePeriodActual row =>
    measure = .expectedAmount ∧ row.id = parentId
  | .insertOpportunity row | .updateOpportunity row => measure ≠ .expectedAmount ∧ row.id = parentId
  | .insertEvent _ | .insertEvidence _ => False

def Statement.written (measure : Measure) : Statement → Option Snapshot
  | .insertRebatePeriodActual row | .updateRebatePeriodActual row =>
    match measure with
    | .expectedAmount => some row.expectedAmountSnapshot
    | .annualFinancialImpact | .realisedSavings => none
  | .insertOpportunity row | .updateOpportunity row =>
    match measure with
    | .expectedAmount => none
    | .annualFinancialImpact => some row.annualFinancialImpactSnapshot
    | .realisedSavings => some row.realisedSavingsSnapshot
  | .insertEvent _ | .insertEvidence _ => none

def Statement.insertedEvents : Statement → List FinancialAmountStatusEvent
  | .insertEvent e => [e]
  | _ => []

/-- What CHECKs and unique constraints promise about every state, in the middle of a
transaction too. -/
structure Db.Constrained (db : Db) : Prop where
  events : EventsStored db.events
  eventParents : ∀ e ∈ db.events, ∀ measure parentId, Measure.governs measure parentId e →
    (db.snapshot measure parentId).isSome
  pointers : ∀ measure parentId snapshot, db.snapshot measure parentId = some snapshot →
    db.eventExists snapshot.currentEventId
  periods : Table RebatePeriodActual.id RebatePeriodActual.rowAccepted uqRebatePeriod
    db.rebatePeriodActuals
  opportunities : Table Opportunity.id Opportunity.rowAccepted (fun _ _ => true) db.opportunities

def Db.SnapshotsAgree (db : Db) : Prop :=
  ∀ measure parentId snapshot, db.snapshot measure parentId = some snapshot →
    snapshot.Agrees db.events measure parentId

/-- A committed state in which every constraint and every trigger is satisfied. -/
structure Db.Valid (db : Db) : Prop extends db.Constrained where
  chain : VersionedLog.Linked FinancialAmountStatusEvent.series FinancialAmountStatusEvent.eventVersion
    Continues {e | e ∈ db.events}
  evidenceSufficient : ∀ e ∈ db.events, checkConfirmedEventHasSufficientEvidence db.evidence e
  snapshotsAgree : db.SnapshotsAgree

theorem uqRebatePeriod_comm (row other : RebatePeriodActual) :
    uqRebatePeriod row other = uqRebatePeriod other row := by
  simp only [uqRebatePeriod, Bool.beq_comm]

section Execution

variable {db db' : Db} {statement : Statement} {statements : List Statement}

theorem Db.execute_eq_some :
    db.execute statement = some db' ↔ db.accepts statement ∧ db.apply statement = db' := by
  rw [execute, Option.ite_none_right_eq_some, Option.some.injEq]

@[simp] theorem Db.apply_events (db : Db) (statement : Statement) :
    (db.apply statement).events = db.events ++ statement.insertedEvents := by
  cases statement <;> simp [apply, Statement.insertedEvents]

theorem Db.apply_evidence_subset (db : Db) (statement : Statement) :
    db.evidence ⊆ (db.apply statement).evidence := by
  cases statement <;> simp [apply]

theorem Db.apply_snapshot {measure : Measure} {parentId : ℕ}
    (hUntouched : ¬statement.touches measure parentId) :
    (db.apply statement).snapshot measure parentId = db.snapshot measure parentId := by
  cases statement with
  | insertEvent e | insertEvidence evidence => rfl
  | insertRebatePeriodActual row | updateRebatePeriodActual row =>
    cases measure with
    | expectedAmount =>
      have hNe : row.id ≠ parentId := fun hId => hUntouched ⟨rfl, hId⟩
      simp only [snapshot, apply, lookup_append_of_ne hNe, lookup_replace_of_ne hNe]
    | annualFinancialImpact | realisedSavings => rfl
  | insertOpportunity row | updateOpportunity row =>
    cases measure with
    | expectedAmount => rfl
    | annualFinancialImpact | realisedSavings =>
      have hNe : row.id ≠ parentId := fun hId => hUntouched ⟨by decide, hId⟩
      simp only [snapshot, apply, lookup_append_of_ne hNe, lookup_replace_of_ne hNe]

theorem Db.apply_snapshot_isSome {measure : Measure} {parentId : ℕ}
    (h : (db.snapshot measure parentId).isSome) :
    ((db.apply statement).snapshot measure parentId).isSome := by
  cases measure with
  | expectedAmount =>
    simp only [snapshot, Option.isSome_map, lookup_isSome] at h ⊢
    cases statement with
    | insertRebatePeriodActual row =>
      simp only [apply, List.map_append, List.mem_append, h, true_or]
    | updateRebatePeriodActual row => simpa only [apply, map_key_replace] using h
    | _ => exact h
  | annualFinancialImpact | realisedSavings =>
    simp only [snapshot, Option.isSome_map, lookup_isSome] at h ⊢
    cases statement with
    | insertOpportunity row => simp only [apply, List.map_append, List.mem_append, h, true_or]
    | updateOpportunity row => simpa only [apply, map_key_replace] using h
    | _ => exact h

theorem Db.apply_snapshot_written {measure : Measure} {parentId : ℕ} {s : Snapshot}
    (hAccepted : db.accepts statement) (hTouches : statement.touches measure parentId)
    (h : (db.apply statement).snapshot measure parentId = some s) :
    statement.written measure = some s := by
  cases statement with
  | insertEvent e | insertEvidence evidence => exact hTouches.elim
  | insertRebatePeriodActual row =>
    obtain ⟨rfl, rfl⟩ := hTouches
    simp only [accepts, Bool.and_eq_true, List.all_eq_true, bne_iff_ne] at hAccepted
    rwa [snapshot, apply, lookup_append_self hAccepted.1] at h
  | updateRebatePeriodActual row =>
    obtain ⟨rfl, rfl⟩ := hTouches
    simpa only [Statement.written] using map_lookup_replace_self h
  | insertOpportunity row =>
    obtain ⟨hMeasure, rfl⟩ := hTouches
    simp only [accepts, Bool.and_eq_true, List.all_eq_true, bne_iff_ne] at hAccepted
    cases measure with
    | expectedAmount => exact absurd rfl hMeasure
    | annualFinancialImpact | realisedSavings =>
      rwa [snapshot, apply, lookup_append_self hAccepted.1] at h
  | updateOpportunity row =>
    obtain ⟨hMeasure, rfl⟩ := hTouches
    cases measure with
    | expectedAmount => exact absurd rfl hMeasure
    | annualFinancialImpact | realisedSavings =>
      simpa only [Statement.written] using map_lookup_replace_self h

theorem Db.eventExists_apply {pointer : Option ℕ} (h : db.eventExists pointer) :
    (db.apply statement).eventExists pointer := by
  cases pointer with
  | none => rfl
  | some id =>
    simp only [eventExists, Option.all_some, List.any_eq_true, beq_iff_eq] at h ⊢
    obtain ⟨e, he, hId⟩ := h
    exact ⟨e, db.apply_events statement ▸ List.mem_append_left _ he, hId⟩

theorem Db.eventExists_of_accepts {measure : Measure} {parentId : ℕ} {s : Snapshot}
    (hAccepted : db.accepts statement) (hTouches : statement.touches measure parentId)
    (h : (db.apply statement).snapshot measure parentId = some s) :
    db.eventExists s.currentEventId := by
  have hWritten := apply_snapshot_written hAccepted hTouches h
  cases statement with
  | insertEvent e | insertEvidence evidence => exact hTouches.elim
  | insertRebatePeriodActual row =>
    obtain ⟨rfl, rfl⟩ := hTouches
    simp only [accepts, acceptsRebatePeriodActual, Bool.and_eq_true] at hAccepted
    cases hWritten
    exact hAccepted.2.1.2
  | updateRebatePeriodActual row =>
    obtain ⟨rfl, rfl⟩ := hTouches
    simp only [accepts, Bool.or_eq_true, List.all_eq_true, bne_iff_ne] at hAccepted
    obtain hAbsent | hAccepted := hAccepted
    · rw [snapshot, apply, replace_of_absent hAbsent, lookup_eq_none.mpr hAbsent] at h
      cases h
    · simp only [acceptsRebatePeriodActual, Bool.and_eq_true] at hAccepted
      cases hWritten
      exact hAccepted.1.2
  | insertOpportunity row =>
    obtain ⟨hMeasure, rfl⟩ := hTouches
    simp only [accepts, acceptsOpportunity, Bool.and_eq_true] at hAccepted
    cases measure with
    | expectedAmount => exact absurd rfl hMeasure
    | annualFinancialImpact =>
      cases hWritten
      exact hAccepted.2.1.2
    | realisedSavings =>
      cases hWritten
      exact hAccepted.2.2
  | updateOpportunity row =>
    obtain ⟨hMeasure, rfl⟩ := hTouches
    simp only [accepts, Bool.or_eq_true, List.all_eq_true, bne_iff_ne] at hAccepted
    obtain hAbsent | hAccepted := hAccepted
    · cases measure with
      | expectedAmount => exact absurd rfl hMeasure
      | annualFinancialImpact | realisedSavings =>
        rw [snapshot, apply, replace_of_absent hAbsent, lookup_eq_none.mpr hAbsent] at h
        cases h
    · simp only [acceptsOpportunity, Bool.and_eq_true] at hAccepted
      cases measure with
      | expectedAmount => exact absurd rfl hMeasure
      | annualFinancialImpact =>
        cases hWritten
        exact hAccepted.1.2
      | realisedSavings =>
        cases hWritten
        exact hAccepted.2

theorem Db.parent_of_acceptsEvent {e : FinancialAmountStatusEvent} (hAccepted : db.acceptsEvent e)
    {measure : Measure} {parentId : ℕ} (hGoverns : measure.governs parentId e) :
    (db.snapshot measure parentId).isSome := by
  simp only [acceptsEvent, Bool.and_eq_true] at hAccepted
  obtain ⟨⟨-, hPeriod⟩, hOpportunity⟩ := hAccepted
  obtain ⟨hParent, -⟩ := hGoverns
  cases measure with
  | expectedAmount =>
    rw [show e.rebatePeriodActualId = some parentId from hParent] at hPeriod
    simpa [snapshot, lookup_isSome] using hPeriod
  | annualFinancialImpact | realisedSavings =>
    rw [show e.opportunityId = some parentId from hParent] at hOpportunity
    simpa [snapshot, lookup_isSome] using hOpportunity

theorem Db.Constrained.apply (hDb : db.Constrained) (hAccepted : db.accepts statement) :
    (db.apply statement).Constrained := by
  have hParents : ∀ e ∈ (db.apply statement).events, ∀ measure parentId,
    Measure.governs measure parentId e →
      ((db.apply statement).snapshot measure parentId).isSome := by
    intro e he measure parentId hGoverns
    apply apply_snapshot_isSome
    obtain hOld | hNew := List.mem_append.mp (db.apply_events statement ▸ he)
    · exact hDb.eventParents e hOld measure parentId hGoverns
    · cases statement with
      | insertEvent inserted =>
        cases List.mem_singleton.mp hNew
        exact parent_of_acceptsEvent hAccepted hGoverns
      | _ => cases hNew
  have hPointers : ∀ measure parentId s, (db.apply statement).snapshot measure parentId = some s →
      (db.apply statement).eventExists s.currentEventId := by
    intro measure parentId s hSnapshot
    apply eventExists_apply
    by_cases hTouches : statement.touches measure parentId
    · exact eventExists_of_accepts hAccepted hTouches hSnapshot
    · exact hDb.pointers measure parentId s (apply_snapshot hTouches ▸ hSnapshot)
  cases statement with
  | insertEvent e =>
    simp only [accepts, acceptsEvent, Bool.and_eq_true, List.all_eq_true, bne_iff_ne] at hAccepted
    obtain ⟨⟨⟨⟨hRow, hId⟩, hUnique⟩, -⟩, -⟩ := hAccepted
    exact { hDb with
      events := hDb.events.append hRow hId uqFamevSeq_comm hUnique
      eventParents := hParents
      pointers := hPointers }
  | insertEvidence evidence => exact { hDb with }
  | insertRebatePeriodActual row =>
    simp only [accepts, acceptsRebatePeriodActual, Bool.and_eq_true, List.all_eq_true, bne_iff_ne]
      at hAccepted
    obtain ⟨hFresh, ⟨hRow, -⟩, hUnique⟩ := hAccepted
    refine { hDb with
      eventParents := hParents
      pointers := hPointers
      periods := hDb.periods.append hRow hFresh uqRebatePeriod_comm ?_ }
    intro old hOld
    simpa [hFresh old hOld] using hUnique old hOld
  | updateRebatePeriodActual row =>
    simp only [accepts, Bool.or_eq_true, List.all_eq_true, bne_iff_ne] at hAccepted
    obtain hAbsent | hAccepted := hAccepted
    · rw [Db.apply, replace_of_absent hAbsent]
      exact hDb
    · simp only [acceptsRebatePeriodActual, Bool.and_eq_true, List.all_eq_true] at hAccepted
      obtain ⟨⟨hRow, -⟩, hUnique⟩ := hAccepted
      refine { hDb with
        eventParents := hParents
        pointers := hPointers
        periods := hDb.periods.replace hRow uqRebatePeriod_comm ?_ }
      intro old hOld hNe
      simpa [hNe] using hUnique old hOld
  | insertOpportunity row =>
    simp only [accepts, acceptsOpportunity, Bool.and_eq_true, List.all_eq_true, bne_iff_ne]
      at hAccepted
    obtain ⟨hFresh, ⟨hRow, -⟩, -⟩ := hAccepted
    exact { hDb with
      eventParents := hParents
      pointers := hPointers
      opportunities := hDb.opportunities.append hRow hFresh (fun _ _ => rfl) fun _ _ => rfl }
  | updateOpportunity row =>
    simp only [accepts, Bool.or_eq_true, List.all_eq_true, bne_iff_ne] at hAccepted
    obtain hAbsent | hAccepted := hAccepted
    · rw [Db.apply, replace_of_absent hAbsent]
      exact hDb
    · simp only [acceptsOpportunity, Bool.and_eq_true] at hAccepted
      obtain ⟨⟨hRow, -⟩, -⟩ := hAccepted
      exact { hDb with
        eventParents := hParents
        pointers := hPointers
        opportunities := hDb.opportunities.replace hRow (fun _ _ => rfl) fun _ _ _ => rfl }

theorem Db.executeAll_cons {rest : List Statement} {final : Db} :
    db.executeAll (statement :: rest) = some final ↔
      db.accepts statement ∧ (db.apply statement).executeAll rest = some final := by
  rw [executeAll, List.foldlM_cons, Option.bind_eq_bind, Option.bind_eq_some_iff]
  constructor
  · rintro ⟨next, hNext, hRest⟩
    obtain ⟨hAccepted, rfl⟩ := execute_eq_some.mp hNext
    exact ⟨hAccepted, hRest⟩
  · rintro ⟨hAccepted, hRest⟩
    exact ⟨_, execute_eq_some.mpr ⟨hAccepted, rfl⟩, hRest⟩

/-- What a run of accepted changes leaves behind: the constraints hold, the two evidence
tables have only grown, and untouched snapshots are the same. -/
theorem Db.executeAll_spec (hDb : db.Constrained) (h : db.executeAll statements = some db') :
    db'.Constrained ∧ db'.events = db.events ++ statements.flatMap Statement.insertedEvents ∧
      db.evidence ⊆ db'.evidence ∧ ∀ measure parentId,
        (∀ s ∈ statements, ¬s.touches measure parentId) →
          db'.snapshot measure parentId = db.snapshot measure parentId := by
  induction statements generalizing db with
  | nil =>
    cases h
    exact ⟨hDb, (List.append_nil _).symm, List.Subset.refl _, fun _ _ _ => rfl⟩
  | cons head rest ih =>
    obtain ⟨hAccepted, hRest⟩ := executeAll_cons.mp h
    obtain ⟨hConstrained, hEvents, hEvidence, hSnapshot⟩ := ih (hDb.apply hAccepted) hRest
    refine ⟨hConstrained, ?_, List.Subset.trans (db.apply_evidence_subset head) hEvidence, ?_⟩
    · rw [hEvents, apply_events, List.flatMap_cons, List.append_assoc]
    · intro measure parentId hUntouched
      rw [hSnapshot measure parentId fun s hs => hUntouched s (List.mem_cons_of_mem _ hs)]
      exact apply_snapshot (hUntouched head List.mem_cons_self)

theorem Db.commitTransaction_eq_some :
    db.commitTransaction statements = some db' ↔
      db.executeAll statements = some db' ∧ ∀ s ∈ statements, db'.triggersPass s := by
  rw [commitTransaction, Option.filter_eq_some_iff, List.all_eq_true]

theorem Statement.triggersPass_insertedEvents {e : FinancialAmountStatusEvent}
    (he : e ∈ statement.insertedEvents) (hPass : db.triggersPass statement) :
    checkConfirmedEventHasSufficientEvidence db.evidence e ∧
      checkEventChainIntegrity db.events e := by
  cases statement with
  | insertEvent inserted =>
    cases List.mem_singleton.mp he
    exact Bool.and_eq_true_iff.mp hPass
  | _ => cases he

/-- The parent triggers that a row change has queued accept exactly the rows whose
snapshots agree with the log, if they are still there. -/
theorem Db.triggersPass_iff_agrees (hStored : EventsStored db.events)
    (hNoEvent : statement.insertedEvents = []) :
    db.triggersPass statement = true ↔ ∀ measure parentId snapshot,
      statement.touches measure parentId →
      db.snapshot measure parentId = some snapshot →
        snapshot.Agrees db.events measure parentId := by
  cases statement with
  | insertEvent e => cases hNoEvent
  | insertEvidence evidence => exact iff_of_true rfl fun _ _ _ hTouches => hTouches.elim
  | insertRebatePeriodActual row | updateRebatePeriodActual row =>
    refine (checkRpaExpectedAmountMatchesEvent_eq_true hStored).trans ⟨?_, ?_⟩
    · rintro h _ _ snapshot ⟨rfl, rfl⟩ hSnapshot
      obtain ⟨found, hFound, rfl⟩ := Option.map_eq_some_iff.mp hSnapshot
      exact h found hFound
    · intro h found hFound
      exact h .expectedAmount row.id _ ⟨rfl, rfl⟩ (congrArg (Option.map _) hFound)
  | insertOpportunity row | updateOpportunity row =>
    refine Bool.and_eq_true_iff.trans
      ((and_congr (checkOppAnnualFinancialImpactMatchesEvent_eq_true hStored)
      (checkOppRealisedSavingsMatchesEvent_eq_true hStored)).trans ⟨?_, ?_⟩)
    · rintro ⟨hImpact, hSavings⟩ measure _ snapshot ⟨hMeasure, rfl⟩ hSnapshot
      cases measure with
      | expectedAmount => exact absurd rfl hMeasure
      | annualFinancialImpact =>
        obtain ⟨found, hFound, rfl⟩ := Option.map_eq_some_iff.mp hSnapshot
        exact hImpact found hFound
      | realisedSavings =>
        obtain ⟨found, hFound, rfl⟩ := Option.map_eq_some_iff.mp hSnapshot
        exact hSavings found hFound
    · intro h
      refine ⟨?_, ?_⟩
      · intro found hFound
        exact h .annualFinancialImpact row.id _ ⟨by decide, rfl⟩ (congrArg (Option.map _) hFound)
      · intro found hFound
        exact h .realisedSavings row.id _ ⟨by decide, rfl⟩ (congrArg (Option.map _) hFound)

theorem Db.agrees_of_triggersPass (hStored : EventsStored db.events) {measure : Measure}
    {parentId : ℕ} (hTouches : statement.touches measure parentId)
    (hPass : db.triggersPass statement) {snapshot : Snapshot}
    (hSnapshot : db.snapshot measure parentId = some snapshot) :
    snapshot.Agrees db.events measure parentId := by
  have hNoEvent : statement.insertedEvents = [] := by
    cases statement with
    | insertEvent e => exact hTouches.elim
    | _ => rfl
  exact (Db.triggersPass_iff_agrees hStored hNoEvent).mp hPass measure parentId snapshot hTouches
    hSnapshot

theorem Db.Valid.chainIntegrity (hDb : db.Valid) {e : FinancialAmountStatusEvent}
    (he : e ∈ db.events) : checkEventChainIntegrity db.events e = true := by
  rw [checkEventChainIntegrity_eq_true]
  by_cases hFirst : e.eventVersion = 1
  · exact .inl hFirst
  · obtain ⟨prev, hPrev, hSeries, hVersion, hContinues⟩ := hDb.chain.predecessor e he hFirst
    obtain ⟨found, hFound⟩ := precedingEvent_isSome hPrev hSeries hVersion
    obtain ⟨hMem, hFoundSeries, hFoundVersion⟩ := precedingEvent_some hFound
    have hSame := hDb.events.sequence hMem hPrev (hFoundSeries.trans hSeries.symm)
      (hFoundVersion.trans hVersion.symm)
    exact .inr ⟨found, hFound, hSame ▸ hContinues⟩

theorem Db.Valid.triggersPass (hDb : db.Valid)
    (hEvents : ∀ e ∈ statement.insertedEvents, e ∈ db.events) : db.triggersPass statement := by
  cases statement with
  | insertEvent e =>
    have he := hEvents e (List.mem_singleton.mpr rfl)
    exact Bool.and_eq_true_iff.mpr ⟨hDb.evidenceSufficient e he, hDb.chainIntegrity he⟩
  | _ =>
    refine (Db.triggersPass_iff_agrees hDb.events rfl).mpr ?_
    exact fun measure parentId snapshot _ hSnapshot =>
      hDb.snapshotsAgree measure parentId snapshot hSnapshot

end Execution

end ProcureFoundation.Evidence
