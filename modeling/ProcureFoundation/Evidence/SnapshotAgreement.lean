import Mathlib.Logic.Relation
import ProcureFoundation.Evidence.Transactions

/-!
# Snapshots over whole runs

The parent triggers hang on the parent tables alone. A transaction that inserts an
event and leaves its parent row untouched therefore commits unjudged, and the snapshot
stays behind. When every event travels with a change of its parent row, validity and
with it the agreement of all snapshots are invariants of every run; conversely a commit
keeps the agreement only in that case.
-/

namespace ProcureFoundation.Evidence

open KeyedRows VersionedLog

/-- Every inserted event travels with an insert or update of its parent row. -/
def TouchesParents (statements : List Statement) : Prop :=
  ∀ s ∈ statements, ∀ e ∈ s.insertedEvents, ∀ measure parentId, Measure.governs measure parentId e →
    ∃ t ∈ statements, t.touches measure parentId

def CommitStep (db db' : Db) : Prop := ∃ statements, db.commitTransaction statements = some db'

def TouchingCommitStep (db db' : Db) : Prop :=
  ∃ statements, TouchesParents statements ∧ db.commitTransaction statements = some db'

section Commit

variable {db db' : Db} {statements : List Statement}

theorem Db.Valid.commit_chain (hDb : db.Valid)
    (hCommit : db.commitTransaction statements = some db') :
    Linked FinancialAmountStatusEvent.series FinancialAmountStatusEvent.eventVersion Continues
      {e | e ∈ db'.events} := by
  obtain ⟨hRun, hPass⟩ := Db.commitTransaction_eq_some.mp hCommit
  obtain ⟨hConstrained, hEvents, -, -⟩ := Db.executeAll_spec hDb.toConstrained hRun
  constructor
  · intro e he
    exact FinancialAmountStatusEvent.eventVersion_pos (hConstrained.events.accepted e he)
  · intro e he f hf hSeries hVersion
    exact hConstrained.events.sequence he hf hSeries hVersion
  · intro e he hNotFirst
    obtain hOld | hNew := List.mem_append.mp (hEvents ▸ he)
    · obtain ⟨prev, hPrev, hLinked⟩ := hDb.chain.predecessor e hOld hNotFirst
      exact ⟨prev, hEvents ▸ List.mem_append_left _ hPrev, hLinked⟩
    · obtain ⟨s, hs, hInserted⟩ := List.mem_flatMap.mp hNew
      have hChain := (Statement.triggersPass_insertedEvents hInserted (hPass s hs)).2
      obtain hFirst | ⟨prev, hFound, hContinues⟩ := checkEventChainIntegrity_eq_true.mp hChain
      · exact absurd hFirst hNotFirst
      · obtain ⟨hMem, hSeries, hVersion⟩ := precedingEvent_some hFound
        exact ⟨prev, hMem, hSeries, hVersion, hContinues⟩

theorem Db.Valid.commit_evidenceSufficient (hDb : db.Valid)
    (hCommit : db.commitTransaction statements = some db') :
    ∀ e ∈ db'.events, checkConfirmedEventHasSufficientEvidence db'.evidence e := by
  obtain ⟨hRun, hPass⟩ := Db.commitTransaction_eq_some.mp hCommit
  obtain ⟨-, hEvents, hEvidence, -⟩ := Db.executeAll_spec hDb.toConstrained hRun
  intro e he
  obtain hOld | hNew := List.mem_append.mp (hEvents ▸ he)
  · exact checkConfirmedEventHasSufficientEvidence_mono hEvidence (hDb.evidenceSufficient e hOld)
  · obtain ⟨s, hs, hInserted⟩ := List.mem_flatMap.mp hNew
    exact (Statement.triggersPass_insertedEvents hInserted (hPass s hs)).1

/-- An event of one measure leaves the others as they were. -/
theorem Measure.not_governs_of_code_ne {event : FinancialAmountStatusEvent}
    {measure other : Measure} {parentId otherId : ℕ} (hOther : other.governs otherId event)
    (hNe : measure.code ≠ other.code) : ¬measure.governs parentId event :=
  fun hGoverns => hNe (hGoverns.2.symm.trans hOther.2)

/-- An untouched snapshot keeps its event, which stays the latest one unless the
transaction has inserted an event for it. -/
theorem Snapshot.Agrees.of_no_new_event {events inserted : List FinancialAmountStatusEvent}
    {measure : Measure} {parentId : ℕ} {snapshot : Snapshot}
    (h : snapshot.Agrees events measure parentId)
    (hInserted : ∀ e ∈ inserted, ¬measure.governs parentId e) :
    snapshot.Agrees (events ++ inserted) measure parentId := by
  obtain ⟨e, hCurrent⟩ := h
  refine ⟨e, { hCurrent with mem := List.mem_append_left _ hCurrent.mem, latest := ?_ }⟩
  intro f hf hGoverns
  obtain hf | hf := List.mem_append.mp hf
  · exact hCurrent.latest f hf hGoverns
  · exact absurd hGoverns (hInserted f hf)

theorem Db.Valid.commit_snapshotsAgree (hDb : db.Valid) (hTouches : TouchesParents statements)
    (hCommit : db.commitTransaction statements = some db') : db'.SnapshotsAgree := by
  obtain ⟨hRun, hPass⟩ := Db.commitTransaction_eq_some.mp hCommit
  obtain ⟨hConstrained, hEvents, -, hUntouched⟩ := Db.executeAll_spec hDb.toConstrained hRun
  intro measure parentId snapshot hSnapshot
  by_cases hTouched : ∃ s ∈ statements, s.touches measure parentId
  · obtain ⟨s, hs, hTouch⟩ := hTouched
    exact Db.agrees_of_triggersPass hConstrained.events hTouch (hPass s hs) hSnapshot
  · push Not at hTouched
    rw [hUntouched measure parentId hTouched] at hSnapshot
    rw [hEvents]
    apply (hDb.snapshotsAgree measure parentId snapshot hSnapshot).of_no_new_event
    intro e he hGoverns
    obtain ⟨s, hs, hInserted⟩ := List.mem_flatMap.mp he
    obtain ⟨t, ht, hTouch⟩ := hTouches s hs e hInserted measure parentId hGoverns
    exact hTouched t ht hTouch

theorem Db.Valid.commit (hDb : db.Valid) (hTouches : TouchesParents statements)
    (hCommit : db.commitTransaction statements = some db') : db'.Valid where
  toConstrained :=
    (Db.executeAll_spec hDb.toConstrained (Db.commitTransaction_eq_some.mp hCommit).1).1
  chain := hDb.commit_chain hCommit
  evidenceSufficient := hDb.commit_evidenceSufficient hCommit
  snapshotsAgree := hDb.commit_snapshotsAgree hTouches hCommit

/-- An event whose parent stays untouched is newer than the event the snapshot points to. -/
theorem Db.Valid.touchesParents_of_snapshotsAgree (hDb : db.Valid)
    (hCommit : db.commitTransaction statements = some db') (hAgree : db'.SnapshotsAgree) :
    TouchesParents statements := by
  obtain ⟨hRun, -⟩ := Db.commitTransaction_eq_some.mp hCommit
  obtain ⟨hConstrained, hEvents, -, hUntouched⟩ := Db.executeAll_spec hDb.toConstrained hRun
  intro s hs e he measure parentId hGoverns
  by_contra hNone
  push Not at hNone
  have hNew : e ∈ statements.flatMap Statement.insertedEvents := List.mem_flatMap.mpr ⟨s, hs, he⟩
  have hMem : e ∈ db'.events := hEvents ▸ List.mem_append_right _ hNew
  have hOfOld : ∀ f ∈ db.events, f ∈ db'.events := fun f hf => hEvents ▸ List.mem_append_left _ hf
  obtain ⟨snapshot, hSnapshot⟩ := Option.isSome_iff_exists.mp
    (hConstrained.eventParents e hMem measure parentId hGoverns)
  obtain ⟨current, hCurrent⟩ := hDb.snapshotsAgree measure parentId snapshot
    (hUntouched measure parentId hNone ▸ hSnapshot)
  obtain ⟨current', hCurrent'⟩ := hAgree measure parentId snapshot hSnapshot
  have hId : current'.id = current.id :=
    Option.some.inj (hCurrent'.pointer.symm.trans hCurrent.pointer)
  have hSame : current' = current :=
    List.inj_on_of_nodup_map hConstrained.events.keys hCurrent'.mem (hOfOld current hCurrent.mem) hId
  have hLe : e.eventVersion ≤ current.eventVersion := hSame ▸ hCurrent'.latest e hMem hGoverns
  have hPos := FinancialAmountStatusEvent.eventVersion_pos (hConstrained.events.accepted e hMem)
  have hSeries := (Measure.governs_iff_series (hConstrained.events.accepted e hMem)).mp hGoverns
  have hCurrentSeries :=
    (Measure.governs_iff_series (hDb.events.accepted current hCurrent.mem)).mp hCurrent.governs
  -- The versions of the old log have no gap, so the new event would repeat one of them.
  obtain ⟨f, hf, hfSeries, hfVersion⟩ : e.eventVersion ∈ versions FinancialAmountStatusEvent.series
      FinancialAmountStatusEvent.eventVersion {e | e ∈ db.events} e.series :=
    hDb.chain.mem_versions_of_le ⟨current, hCurrent.mem, hCurrentSeries.trans hSeries.symm, rfl⟩ hPos hLe
  have hOld : e ∈ db.events :=
    hConstrained.events.sequence (hOfOld f hf) hMem hfSeries hfVersion ▸ hf
  have hNodup := hConstrained.events.keys
  rw [hEvents, List.map_append, List.nodup_append] at hNodup
  exact hNodup.2.2 e.id (List.mem_map_of_mem hOld) e.id (List.mem_map_of_mem hNew) rfl

theorem Db.Valid.commit_snapshotsAgree_iff (hDb : db.Valid)
    (hCommit : db.commitTransaction statements = some db') :
    db'.SnapshotsAgree ↔ TouchesParents statements :=
  ⟨hDb.touchesParents_of_snapshotsAgree hCommit, fun hTouches =>
    hDb.commit_snapshotsAgree hTouches hCommit⟩

theorem Db.Valid.touching_run (hDb : db.Valid)
    (hRun : Relation.ReflTransGen TouchingCommitStep db db') : db'.Valid := by
  induction hRun with
  | refl => exact hDb
  | tail _ hStep ih =>
    obtain ⟨statements, hTouches, hCommit⟩ := hStep
    exact ih.commit hTouches hCommit

/-- Snapshots equal their latest event in every state of a run whose transactions all
touch the parents of the events they insert. -/
theorem snapshotsAgree_of_touching_run (hDb : db.Valid)
    (hRun : Relation.ReflTransGen TouchingCommitStep db db') : db'.SnapshotsAgree :=
  (hDb.touching_run hRun).snapshotsAgree

end Commit

section EventOnlyTransaction

def Db.empty : Db := ⟨[], [], [], []⟩

theorem Db.empty_valid : Db.empty.Valid where
  events := Table.nil
  eventParents _ h := nomatch h
  pointers := by
    rintro (_ | _) _ _ h <;> cases h
  periods := Table.nil
  opportunities := Table.nil
  chain := by
    convert Linked.empty
    simp [Db.empty]
  evidenceSufficient _ h := nomatch h
  snapshotsAgree := by
    rintro (_ | _) _ _ h <;> cases h

def openQuarter : RebatePeriodActual where
  id := 1
  organisationId := 1
  rebateAgreementId := 1
  periodStart := ⟨2026, 1, 1, by decide⟩
  periodEnd := ⟨2026, 3, 31, by decide⟩
  actualSpend := none
  actualVolume := none
  entrySource := .manual
  expectedAmount := none
  expectedAmountStatus := "unknown"
  expectedAmountSourceBasis := none
  expectedAmountCalculatedAt := none
  expectedAmountApprovedAt := none
  expectedAmountApprovedByUserId := none
  expectedAmountCurrentEventId := none
  earnedAmount := none
  earnedAt := none
  receivedAmount := none
  receivedReference := none
  status := .onTrack
  statusCalculatedAt := none

def openQuarterGenesis : FinancialAmountStatusEvent where
  id := 1
  organisationId := 1
  rebatePeriodActualId := some 1
  opportunityId := none
  measureCode := "expected_amount"
  eventVersion := 1
  old := .null
  new := { AmountState.null with status := some "unknown" }
  actorUserId := some 1
  changeReference := "rebate_period_actual_created:1"
  changeReasonCode := "manual_estimate"

def openQuarterRecorded : List Statement :=
  [.insertRebatePeriodActual openQuarter, .insertEvent openQuarterGenesis,
    .updateRebatePeriodActual { openQuarter with expectedAmountCurrentEventId := some 1 }]

def openQuarterDb : Db :=
  { Db.empty with
    events := [openQuarterGenesis]
    rebatePeriodActuals := [{ openQuarter with expectedAmountCurrentEventId := some 1 }] }

theorem openQuarterRecorded_step : TouchingCommitStep Db.empty openQuarterDb := by
  refine ⟨openQuarterRecorded, ?_, by decide +kernel⟩
  intro s hs e he measure parentId hGoverns
  have hGenesis : e = openQuarterGenesis := by
    simp only [openQuarterRecorded, List.mem_cons, List.not_mem_nil, or_false] at hs
    obtain rfl | rfl | rfl := hs
    · cases he
    · exact List.mem_singleton.mp he
    · cases he
  subst hGenesis
  cases measure with
  | expectedAmount =>
    cases hGoverns.1
    exact ⟨_, List.mem_cons_self, rfl, rfl⟩
  | annualFinancialImpact | realisedSavings => cases hGoverns.1

theorem snapshotsAgree_of_recorded_quarter : openQuarterDb.SnapshotsAgree :=
  snapshotsAgree_of_touching_run Db.empty_valid (.single openQuarterRecorded_step)

/-- An estimate inserted without a change of its period commits, and the period keeps
pointing to the event before it. -/
def openQuarterEstimated : FinancialAmountStatusEvent :=
  { openQuarterGenesis with
    id := 2
    eventVersion := 2
    old := openQuarterGenesis.new
    new := { AmountState.null with
      amount := some ⟨1000000⟩
      status := some "estimated"
      sourceBasis := some "manual_estimate" } }

theorem eventOnly_commit_breaks_agreement :
    ¬∀ db db' : Db, db.Valid → Relation.ReflTransGen CommitStep db db' → db'.SnapshotsAgree := by
  intro h
  have hValid := Db.empty_valid.touching_run (.single openQuarterRecorded_step)
  have hCommit : openQuarterDb.commitTransaction [.insertEvent openQuarterEstimated] =
      some { openQuarterDb with events := [openQuarterGenesis, openQuarterEstimated] } := by
    decide +kernel
  have hAgree := h _ _ hValid (.single ⟨_, hCommit⟩)
  have hTouches := (hValid.commit_snapshotsAgree_iff hCommit).mp hAgree
  obtain ⟨t, ht, hTouch⟩ :=
    hTouches _ List.mem_cons_self _ List.mem_cons_self .expectedAmount 1 ⟨rfl, rfl⟩
  cases List.mem_singleton.mp ht
  exact hTouch

end EventOnlyTransaction

end ProcureFoundation.Evidence
