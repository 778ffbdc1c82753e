import ProcureFoundation.Evidence.SnapshotAgreement

/-!
# Transactions of one tenant

The application role sees and writes the rows of its organisation only, in the queries of
the triggers too. CHECKs, unique constraints and foreign keys look at all rows. The two
evidence tables grant no UPDATE and no DELETE; a parent row can be deleted while no event
refers to it.
-/

namespace ProcureFoundation.Evidence

open ThreeValued KeyedRows

/-- The policy, for reading and for writing; an unset organisation equals none. -/
def tenantIsolation (currentOrgId : Option ℕ) (organisationId : ℕ) : Bool :=
  holds (equals (some organisationId) currentOrgId)

theorem tenantIsolation_iff {currentOrgId : Option ℕ} {organisationId : ℕ} :
    tenantIsolation currentOrgId organisationId = true ↔ currentOrgId = some organisationId := by
  cases currentOrgId with
  | none => simp [tenantIsolation, equals]
  | some current => simp [tenantIsolation, eq_comm]

def Db.visible (db : Db) (currentOrgId : Option ℕ) : Db where
  events := db.events.filter fun e => tenantIsolation currentOrgId e.organisationId
  evidence := db.evidence.filter fun evidence =>
    tenantIsolation currentOrgId evidence.organisationId
  rebatePeriodActuals :=
    db.rebatePeriodActuals.filter fun row => tenantIsolation currentOrgId row.organisationId
  opportunities :=
    db.opportunities.filter fun row => tenantIsolation currentOrgId row.organisationId

inductive RowChange where
  | write (statement : Statement)
  | deleteRebatePeriodActual (id : ℕ)
  | deleteOpportunity (id : ℕ)
deriving DecidableEq

def Statement.organisationId : Statement → ℕ
  | .insertEvent e => e.organisationId
  | .insertEvidence evidence => evidence.organisationId
  | .insertRebatePeriodActual row | .updateRebatePeriodActual row => row.organisationId
  | .insertOpportunity row | .updateOpportunity row => row.organisationId

def Statement.reaches (visible : Db) : Statement → Bool
  | .updateRebatePeriodActual row => visible.rebatePeriodActuals.any fun old => old.id == row.id
  | .updateOpportunity row => visible.opportunities.any fun old => old.id == row.id
  | .insertEvent _ | .insertEvidence _ | .insertRebatePeriodActual _ | .insertOpportunity _ => true

/-- The state inside a transaction, with the row changes that have fired triggers. -/
structure TenantTransaction where
  db : Db
  fired : List Statement
deriving DecidableEq

namespace TenantTransaction

variable (currentOrgId : Option ℕ)

def write (transaction : TenantTransaction) (statement : Statement) : Option TenantTransaction :=
  if !statement.reaches (transaction.db.visible currentOrgId) then some transaction
  else if tenantIsolation currentOrgId statement.organisationId &&
    transaction.db.accepts statement then
    some ⟨transaction.db.apply statement, transaction.fired ++ [statement]⟩
  else none

/-- The foreign key of the events holds a parent that has any. -/
def deleteRebatePeriodActual (transaction : TenantTransaction) (id : ℕ) :
    Option TenantTransaction :=
  if !(transaction.db.visible currentOrgId).rebatePeriodActuals.any fun row => row.id == id then
    some transaction
  else if transaction.db.events.any fun e => e.rebatePeriodActualId == some id then none
  else some { transaction with db := { transaction.db with
    rebatePeriodActuals := transaction.db.rebatePeriodActuals.filter fun row => row.id != id } }

def deleteOpportunity (transaction : TenantTransaction) (id : ℕ) : Option TenantTransaction :=
  if !(transaction.db.visible currentOrgId).opportunities.any fun row => row.id == id then
    some transaction
  else if transaction.db.events.any fun e => e.opportunityId == some id then none
  else some { transaction with db := { transaction.db with
    opportunities := transaction.db.opportunities.filter fun row => row.id != id } }

def execute (transaction : TenantTransaction) : RowChange → Option TenantTransaction
  | .write statement => transaction.write currentOrgId statement
  | .deleteRebatePeriodActual id => transaction.deleteRebatePeriodActual currentOrgId id
  | .deleteOpportunity id => transaction.deleteOpportunity currentOrgId id

/-- The deferred triggers, with the eyes of the tenant. -/
def triggersPass (transaction : TenantTransaction) : Bool :=
  transaction.fired.all (transaction.db.visible currentOrgId).triggersPass

end TenantTransaction

def Db.executeAllAs (db : Db) (currentOrgId : Option ℕ) (changes : List RowChange) :
    Option TenantTransaction :=
  changes.foldlM (TenantTransaction.execute currentOrgId) ⟨db, []⟩

def Db.commitAs (db : Db) (currentOrgId : Option ℕ) (changes : List RowChange) : Option Db :=
  ((db.executeAllAs currentOrgId changes).filter fun transaction =>
    transaction.triggersPass currentOrgId).map
    TenantTransaction.db

def TenantCommit (db db' : Db) : Prop :=
  ∃ currentOrgId changes, db.commitAs currentOrgId changes = some db'

theorem Db.commitAs_eq_some {db db' : Db} {currentOrgId : Option ℕ} {changes : List RowChange} :
    db.commitAs currentOrgId changes = some db' ↔ ∃ transaction,
      db.executeAllAs currentOrgId changes = some transaction ∧
        transaction.triggersPass currentOrgId ∧ transaction.db = db' := by
  simp only [commitAs, Option.map_eq_some_iff, Option.filter_eq_some_iff, and_assoc]

section Visible

variable {db : Db} {currentOrgId : Option ℕ} {measure : Measure} {parentId : ℕ}
  {snapshot : Snapshot}

theorem Db.mem_visible_events {e : FinancialAmountStatusEvent} :
    e ∈ (db.visible currentOrgId).events ↔
      e ∈ db.events ∧ currentOrgId = some e.organisationId := by
  rw [visible, List.mem_filter, tenantIsolation_iff]

theorem Db.Constrained.visible_events (hDb : db.Constrained) (currentOrgId : Option ℕ) :
    EventsStored (db.visible currentOrgId).events :=
  hDb.events.filter _

theorem Db.Constrained.visible_snapshot (hDb : db.Constrained) :
    (db.visible currentOrgId).snapshot measure parentId = some snapshot ↔
      db.snapshot measure parentId = some snapshot ∧
        currentOrgId = some snapshot.organisationId := by
  rw [← tenantIsolation_iff]
  have hPeriods := @map_lookup_filter _ _ db.rebatePeriodActuals parentId _
    RebatePeriodActual.expectedAmountSnapshot _ (fun s => tenantIsolation currentOrgId s.organisationId)
    hDb.periods.keys (fun _ => rfl) snapshot
  have hOpportunities : ∀ f : Opportunity → Snapshot,
      (∀ row, (f row).organisationId = row.organisationId) → _ :=
    fun f hf => @map_lookup_filter _ _ db.opportunities parentId _ f _
      (fun s => tenantIsolation currentOrgId s.organisationId) hDb.opportunities.keys
        (fun row => by rw [hf row]) snapshot
  cases measure with
  | expectedAmount => exact hPeriods
  | annualFinancialImpact => exact hOpportunities Opportunity.annualFinancialImpactSnapshot fun _ =>
    rfl
  | realisedSavings => exact hOpportunities Opportunity.realisedSavingsSnapshot fun _ => rfl

theorem Db.Constrained.own_of_visible_period (hDb : db.Constrained) {row : RebatePeriodActual}
    (hVisible : ∃ period ∈ (db.visible currentOrgId).rebatePeriodActuals, period.id = parentId)
    (hRow : lookup RebatePeriodActual.id db.rebatePeriodActuals parentId = some row) :
    currentOrgId = some row.organisationId :=
  tenantIsolation_iff.mp (passes_of_lookup
    (p := fun row : RebatePeriodActual => tenantIsolation currentOrgId row.organisationId)
      hDb.periods.keys hVisible hRow)

theorem Db.Constrained.own_of_visible_opportunity (hDb : db.Constrained) {row : Opportunity}
    (hVisible : ∃ opportunity ∈ (db.visible currentOrgId).opportunities, opportunity.id = parentId)
    (hRow : lookup Opportunity.id db.opportunities parentId = some row) :
    currentOrgId = some row.organisationId :=
  tenantIsolation_iff.mp (passes_of_lookup
    (p := fun row : Opportunity => tenantIsolation currentOrgId row.organisationId)
      hDb.opportunities.keys hVisible hRow)

end Visible

section Removal

variable {db db' : Db} {currentOrgId : Option ℕ} {removed : Measure → ℕ → Prop}

/-- Some visible parents without events are gone, and nothing else has changed. -/
structure Db.Removes (currentOrgId : Option ℕ) (removed : Measure → ℕ → Prop) (db db' : Db) :
    Prop where
  events : db'.events = db.events
  evidence : db'.evidence = db.evidence
  periods : ∃ p, db'.rebatePeriodActuals = db.rebatePeriodActuals.filter p
  opportunities : ∃ p, db'.opportunities = db.opportunities.filter p
  kept : ∀ measure parentId, ¬removed measure parentId →
    db'.snapshot measure parentId = db.snapshot measure parentId
  gone : ∀ measure parentId, removed measure parentId → db'.snapshot measure parentId = none
  visible : ∀ measure parentId snapshot, removed measure parentId →
    db.snapshot measure parentId = some snapshot → currentOrgId = some snapshot.organisationId
  unreferenced : ∀ measure parentId, removed measure parentId → ∀ e ∈ db.events,
    ¬Measure.governs measure parentId e

theorem Db.Removes.snapshot_of_some (h : db.Removes currentOrgId removed db') {measure : Measure}
    {parentId : ℕ} {snapshot : Snapshot}
    (hSnapshot : db'.snapshot measure parentId = some snapshot) :
    db.snapshot measure parentId = some snapshot := by
  by_cases hRemoved : removed measure parentId
  · cases (h.gone measure parentId hRemoved).symm.trans hSnapshot
  · rw [← h.kept measure parentId hRemoved]
    exact hSnapshot

theorem Db.Removes.constrained (h : db.Removes currentOrgId removed db') (hDb : db.Constrained) :
    db'.Constrained where
  events := h.events ▸ hDb.events
  eventParents e he measure parentId hGoverns := by
    rw [h.events] at he
    rw [h.kept measure parentId fun hRemoved =>
      h.unreferenced measure parentId hRemoved e he hGoverns]
    exact hDb.eventParents e he measure parentId hGoverns
  pointers measure parentId snapshot hSnapshot := by
    rw [Db.eventExists, h.events]
    exact hDb.pointers measure parentId snapshot (h.snapshot_of_some hSnapshot)
  periods := by
    obtain ⟨p, hRows⟩ := h.periods
    exact hRows ▸ hDb.periods.filter p
  opportunities := by
    obtain ⟨p, hRows⟩ := h.opportunities
    exact hRows ▸ hDb.opportunities.filter p

variable {transaction transaction' : TenantTransaction} {id : ℕ}

theorem TenantTransaction.removes_rebatePeriodActual (hDb : transaction.db.Constrained)
    (h : transaction.deleteRebatePeriodActual currentOrgId id = some transaction') :
    transaction' = transaction ∨ transaction'.fired = transaction.fired ∧
      transaction.db.Removes currentOrgId
        (fun measure parentId => measure = .expectedAmount ∧ parentId = id)
        transaction'.db := by
  unfold deleteRebatePeriodActual at h
  split at h
  · exact .inl (Option.some.inj h).symm
  · next hVisible =>
    split at h
    · cases h
    · next hReferenced =>
      cases h
      simp only [Bool.not_eq_true', Bool.not_eq_false, List.any_eq_true, beq_iff_eq] at hVisible hReferenced
      refine .inr ⟨rfl, rfl, rfl, ⟨_, rfl⟩, ⟨fun _ => true, by simp⟩, ?_, ?_, ?_, ?_⟩
      · intro measure parentId hKept
        cases measure with
        | expectedAmount =>
          exact congrArg (Option.map _) (lookup_filter_ne fun hEq => hKept ⟨rfl, hEq⟩)
        | annualFinancialImpact | realisedSavings => rfl
      · rintro _ _ ⟨rfl, rfl⟩
        exact congrArg (Option.map _) lookup_filter_self
      · rintro _ _ snapshot ⟨rfl, rfl⟩ hSnapshot
        obtain ⟨found, hFound, rfl⟩ := Option.map_eq_some_iff.mp hSnapshot
        exact hDb.own_of_visible_period hVisible hFound
      · rintro _ _ ⟨rfl, rfl⟩ e he ⟨hParent, -⟩
        exact hReferenced ⟨e, he, hParent⟩

theorem TenantTransaction.removes_opportunity (hDb : transaction.db.Constrained)
    (h : transaction.deleteOpportunity currentOrgId id = some transaction') :
    transaction' = transaction ∨ transaction'.fired = transaction.fired ∧
      transaction.db.Removes currentOrgId
        (fun measure parentId => measure ≠ .expectedAmount ∧ parentId = id)
        transaction'.db := by
  unfold deleteOpportunity at h
  split at h
  · exact .inl (Option.some.inj h).symm
  · next hVisible =>
    split at h
    · cases h
    · next hReferenced =>
      cases h
      simp only [Bool.not_eq_true', Bool.not_eq_false, List.any_eq_true, beq_iff_eq] at hVisible hReferenced
      refine .inr ⟨rfl, rfl, rfl, ⟨fun _ => true, by simp⟩, ⟨_, rfl⟩, ?_, ?_, ?_, ?_⟩
      · intro measure parentId hKept
        cases measure with
        | expectedAmount => rfl
        | annualFinancialImpact | realisedSavings =>
          exact congrArg (Option.map _) (lookup_filter_ne fun hEq => hKept ⟨by decide, hEq⟩)
      · rintro measure _ ⟨hMeasure, rfl⟩
        cases measure with
        | expectedAmount => exact absurd rfl hMeasure
        | annualFinancialImpact | realisedSavings =>
          exact congrArg (Option.map _) lookup_filter_self
      · rintro measure parentId snapshot ⟨hMeasure, rfl⟩ hSnapshot
        cases measure with
        | expectedAmount => exact absurd rfl hMeasure
        | annualFinancialImpact | realisedSavings =>
          obtain ⟨found, hFound, rfl⟩ := Option.map_eq_some_iff.mp hSnapshot
          exact hDb.own_of_visible_opportunity hVisible hFound
      · rintro measure _ ⟨hMeasure, rfl⟩ e he ⟨hParent, -⟩
        cases measure with
        | expectedAmount => exact hMeasure rfl
        | annualFinancialImpact | realisedSavings => exact hReferenced ⟨e, he, hParent⟩

theorem TenantTransaction.execute_cases (hDb : transaction.db.Constrained) {change : RowChange}
    (h : transaction.execute currentOrgId change = some transaction') :
    transaction' = transaction ∨
      (∃ statement : Statement, statement.reaches (transaction.db.visible currentOrgId) ∧
        currentOrgId = some statement.organisationId ∧ transaction.db.accepts statement ∧
        transaction' = ⟨transaction.db.apply statement, transaction.fired ++ [statement]⟩) ∨
      ∃ removed, transaction'.fired = transaction.fired ∧
        transaction.db.Removes currentOrgId removed transaction'.db := by
  cases change with
  | write statement =>
    simp only [execute, write] at h
    split at h
    · exact .inl (Option.some.inj h).symm
    · next hReaches =>
      obtain ⟨hAccepted, hResult⟩ := Option.ite_none_right_eq_some.mp h
      cases hResult
      obtain ⟨hOwn, hAccepts⟩ := Bool.and_eq_true_iff.mp hAccepted
      exact .inr (.inl ⟨statement, by simpa using hReaches, tenantIsolation_iff.mp hOwn, hAccepts, rfl⟩)
  | deleteRebatePeriodActual id =>
    exact (removes_rebatePeriodActual hDb h).imp_right fun hRemoves => .inr ⟨_, hRemoves⟩
  | deleteOpportunity id =>
    exact (removes_opportunity hDb h).imp_right fun hRemoves => .inr ⟨_, hRemoves⟩

end Removal

/-- The tenant-matched foreign key of the evidence table. -/
def Db.EvidenceMatched (db : Db) : Prop :=
  ∀ evidence ∈ db.evidence, ∃ e ∈ db.events, e.id = evidence.eventId ∧
    e.organisationId = evidence.organisationId

structure TenantTransaction.Progress (start : Db) (currentOrgId : Option ℕ)
    (transaction : TenantTransaction) : Prop where
  constrained : transaction.db.Constrained
  events : transaction.db.events = start.events ++
    transaction.fired.flatMap Statement.insertedEvents
  evidence : start.evidence ⊆ transaction.db.evidence
  evidenceMatched : transaction.db.EvidenceMatched
  own : ∀ statement ∈ transaction.fired, currentOrgId = some statement.organisationId
  untouched : ∀ measure parentId snapshot,
    (∀ statement ∈ transaction.fired, ¬statement.touches measure parentId) →
    transaction.db.snapshot measure parentId = some snapshot →
      start.snapshot measure parentId = some snapshot
  foreign : ∀ measure parentId snapshot, currentOrgId ≠ some snapshot.organisationId →
    (transaction.db.snapshot measure parentId = some snapshot ↔
      start.snapshot measure parentId = some snapshot)
  reached : ∀ statement ∈ transaction.fired, ∀ measure parentId snapshot,
    statement.touches measure parentId →
    start.snapshot measure parentId = some snapshot → currentOrgId = some snapshot.organisationId

section Progress

variable {start db : Db} {currentOrgId : Option ℕ} {transaction transaction' : TenantTransaction}
  {statement : Statement} {measure : Measure} {parentId : ℕ} {snapshot : Snapshot}

theorem Statement.written_organisationId (h : statement.written measure = some snapshot) :
    snapshot.organisationId = statement.organisationId := by
  cases statement <;> cases measure <;> cases h <;> rfl

theorem Statement.own_of_touches (hDb : db.Constrained)
    (hReaches : statement.reaches (db.visible currentOrgId)) (hAccepts : db.accepts statement)
    (hTouches : statement.touches measure parentId)
    (hSnapshot : db.snapshot measure parentId = some snapshot) :
    currentOrgId = some snapshot.organisationId := by
  cases statement with
  | insertEvent e | insertEvidence evidence => exact hTouches.elim
  | insertRebatePeriodActual row =>
    obtain ⟨rfl, rfl⟩ := hTouches
    obtain ⟨found, hFound, -⟩ := Option.map_eq_some_iff.mp hSnapshot
    simp only [Db.accepts, Bool.and_eq_true, List.all_eq_true, bne_iff_ne] at hAccepts
    exact absurd (key_of_lookup hFound) (hAccepts.1 found (mem_of_lookup hFound))
  | insertOpportunity row =>
    obtain ⟨hMeasure, rfl⟩ := hTouches
    simp only [Db.accepts, Bool.and_eq_true, List.all_eq_true, bne_iff_ne] at hAccepts
    cases measure with
    | expectedAmount => exact absurd rfl hMeasure
    | annualFinancialImpact | realisedSavings =>
      obtain ⟨found, hFound, -⟩ := Option.map_eq_some_iff.mp hSnapshot
      exact absurd (key_of_lookup hFound) (hAccepts.1 found (mem_of_lookup hFound))
  | updateRebatePeriodActual row =>
    obtain ⟨rfl, rfl⟩ := hTouches
    obtain ⟨found, hFound, rfl⟩ := Option.map_eq_some_iff.mp hSnapshot
    simp only [reaches, List.any_eq_true, beq_iff_eq] at hReaches
    exact hDb.own_of_visible_period hReaches hFound
  | updateOpportunity row =>
    obtain ⟨hMeasure, rfl⟩ := hTouches
    simp only [reaches, List.any_eq_true, beq_iff_eq] at hReaches
    cases measure with
    | expectedAmount => exact absurd rfl hMeasure
    | annualFinancialImpact | realisedSavings =>
      obtain ⟨found, hFound, rfl⟩ := Option.map_eq_some_iff.mp hSnapshot
      exact hDb.own_of_visible_opportunity hReaches hFound

theorem Db.EvidenceMatched.apply (h : db.EvidenceMatched) (hAccepts : db.accepts statement) :
    (db.apply statement).EvidenceMatched := by
  intro evidence hEvidence
  have hOld : evidence ∈ db.evidence → ∃ e ∈ (db.apply statement).events, e.id = evidence.eventId ∧
      e.organisationId = evidence.organisationId := by
    intro hMem
    obtain ⟨e, he, hMatched⟩ := h evidence hMem
    exact ⟨e, db.apply_events statement ▸ List.mem_append_left _ he, hMatched⟩
  cases statement with
  | insertEvidence inserted =>
    obtain hMem | hMem := List.mem_append.mp hEvidence
    · exact hOld hMem
    · obtain rfl := List.mem_singleton.mp hMem
      simp only [accepts, acceptsEvidence, Bool.and_eq_true, List.any_eq_true, beq_iff_eq]
        at hAccepts
      exact hAccepts.2
  | _ => exact hOld hEvidence

theorem TenantTransaction.Progress.begin (hStart : start.Constrained)
    (hEvidence : start.EvidenceMatched) :
    TenantTransaction.Progress start currentOrgId ⟨start, []⟩ where
  constrained := hStart
  events := (List.append_nil _).symm
  evidence := List.Subset.refl _
  evidenceMatched := hEvidence
  own _ h := nomatch h
  untouched _ _ _ _ h := h
  foreign _ _ _ _ := Iff.rfl
  reached _ h := nomatch h

theorem TenantTransaction.Progress.write (h : transaction.Progress start currentOrgId)
    (hReaches : statement.reaches (transaction.db.visible currentOrgId))
    (hOwn : currentOrgId = some statement.organisationId)
    (hAccepts : transaction.db.accepts statement) : TenantTransaction.Progress start currentOrgId
      ⟨transaction.db.apply statement, transaction.fired ++ [statement]⟩ where
  constrained := h.constrained.apply hAccepts
  events := by
    rw [Db.apply_events, h.events, List.append_assoc, List.flatMap_append, List.flatMap_singleton]
  evidence := List.Subset.trans h.evidence (transaction.db.apply_evidence_subset statement)
  evidenceMatched := h.evidenceMatched.apply hAccepts
  own := by
    intro other hOther
    obtain hOther | hOther := List.mem_append.mp hOther
    · exact h.own other hOther
    · rw [List.mem_singleton.mp hOther]
      exact hOwn
  untouched measure parentId snapshot hUntouched hSnapshot := by
    have hNot := hUntouched statement (List.mem_append_right _ (List.mem_singleton.mpr rfl))
    refine h.untouched measure parentId snapshot ?_ (Db.apply_snapshot hNot ▸ hSnapshot)
    exact fun other hOther => hUntouched other (List.mem_append_left _ hOther)
  foreign measure parentId snapshot hForeign := by
    rw [← h.foreign measure parentId snapshot hForeign]
    by_cases hTouches : statement.touches measure parentId
    · constructor
      · intro hSnapshot
        have hWritten := Db.apply_snapshot_written hAccepts hTouches hSnapshot
        exact absurd (Statement.written_organisationId hWritten ▸ hOwn) hForeign
      · intro hSnapshot
        exact absurd (Statement.own_of_touches h.constrained hReaches hAccepts hTouches hSnapshot)
          hForeign
    · rw [Db.apply_snapshot hTouches]
  reached other hOther measure parentId snapshot hTouches hSnapshot := by
    obtain hOther | hOther := List.mem_append.mp hOther
    · exact h.reached other hOther measure parentId snapshot hTouches hSnapshot
    · obtain rfl := List.mem_singleton.mp hOther
      by_contra hForeign
      exact hForeign (Statement.own_of_touches h.constrained hReaches hAccepts hTouches
        ((h.foreign measure parentId snapshot hForeign).mpr hSnapshot))

theorem TenantTransaction.Progress.remove (h : transaction.Progress start currentOrgId)
    {removed : Measure → ℕ → Prop} (hFired : transaction'.fired = transaction.fired)
    (hRemoves : transaction.db.Removes currentOrgId removed transaction'.db) :
    transaction'.Progress start currentOrgId where
  constrained := hRemoves.constrained h.constrained
  events := by rw [hRemoves.events, hFired, h.events]
  evidence := hRemoves.evidence ▸ h.evidence
  evidenceMatched := by
    rw [Db.EvidenceMatched, hRemoves.events, hRemoves.evidence]
    exact h.evidenceMatched
  own := hFired ▸ h.own
  untouched measure parentId snapshot hUntouched hSnapshot :=
    h.untouched measure parentId snapshot (hFired ▸ hUntouched) (hRemoves.snapshot_of_some hSnapshot)
  foreign measure parentId snapshot hForeign := by
    rw [← h.foreign measure parentId snapshot hForeign]
    constructor
    · exact hRemoves.snapshot_of_some
    · intro hSnapshot
      rw [hRemoves.kept measure parentId fun hRemoved =>
        hForeign (hRemoves.visible measure parentId snapshot hRemoved hSnapshot)]
      exact hSnapshot
  reached := hFired ▸ h.reached

theorem TenantTransaction.Progress.execute (h : transaction.Progress start currentOrgId)
    {change : RowChange} (hExecute : transaction.execute currentOrgId change = some transaction') :
    transaction'.Progress start currentOrgId := by
  obtain rfl | ⟨statement, hReaches, hOwn, hAccepts, rfl⟩ | ⟨removed, hFired, hRemoves⟩ :=
    TenantTransaction.execute_cases h.constrained hExecute
  · exact h
  · exact h.write hReaches hOwn hAccepts
  · exact h.remove hFired hRemoves

theorem Db.executeAllAs_progress (hStart : start.Constrained) (hEvidence : start.EvidenceMatched)
    {changes : List RowChange} (h : start.executeAllAs currentOrgId changes = some transaction) :
    transaction.Progress start currentOrgId := by
  suffices hAll : ∀ (changes : List RowChange) {before : TenantTransaction},
    before.Progress start currentOrgId →
      changes.foldlM (TenantTransaction.execute currentOrgId) before = some transaction →
      transaction.Progress start currentOrgId from hAll changes (.begin hStart hEvidence) h
  intro changes
  induction changes with
  | nil =>
    intro before hBefore hRun
    cases hRun
    exact hBefore
  | cons change rest ih =>
    intro before hBefore hRun
    rw [List.foldlM_cons, Option.bind_eq_bind, Option.bind_eq_some_iff] at hRun
    obtain ⟨next, hNext, hRest⟩ := hRun
    exact ih (hBefore.execute hNext) hRest

end Progress

end ProcureFoundation.Evidence
