import ProcureFoundation.Evidence.TenantIsolation

/-!
# What the parent triggers judge

A parent trigger is queued once for every row image and reads the row as it is at commit.
A committed transaction therefore leaves every parent row that it has written, and not
deleted again, on the latest event of its series; and a transaction that does so is not
held up by an image in between.
-/

namespace ProcureFoundation.Evidence

open ThreeValued KeyedRows

def Statement.writesParent : Statement → Bool
  | .insertEvent _ | .insertEvidence _ => false
  | .insertRebatePeriodActual _ | .updateRebatePeriodActual _ | .insertOpportunity
      _ | .updateOpportunity _ => true

namespace TenantTransaction

/-- Every written parent row that is still there points to the latest event of its
measure, in its own organisation, and repeats the event's values. -/
def ParentsAgree (transaction : TenantTransaction) : Prop :=
  ∀ statement ∈ transaction.fired, ∀ measure parentId snapshot, statement.touches measure parentId →
    transaction.db.snapshot measure parentId = some snapshot →
    snapshot.Agrees transaction.db.events measure parentId

def parentTriggersPass (currentOrgId : Option ℕ) (transaction : TenantTransaction) : Bool :=
  (transaction.fired.filter Statement.writesParent).all (transaction.db.visible currentOrgId).triggersPass

variable {start : Db} {currentOrgId : Option ℕ} {transaction : TenantTransaction}
  {statement : Statement} {measure : Measure} {parentId : ℕ} {snapshot : Snapshot}

theorem Progress.own_of_touched (h : transaction.Progress start currentOrgId)
    (hFired : statement ∈ transaction.fired) (hTouches : statement.touches measure parentId)
    (hSnapshot : transaction.db.snapshot measure parentId = some snapshot) :
    currentOrgId = some snapshot.organisationId := by
  by_contra hForeign
  exact hForeign (h.reached statement hFired measure parentId snapshot hTouches
    ((h.foreign measure parentId snapshot hForeign).mp hSnapshot))

theorem Progress.parentsAgree (h : transaction.Progress start currentOrgId)
    (hStart : start.TenantMatched) (hPass : transaction.triggersPass currentOrgId) :
    transaction.ParentsAgree := by
  intro statement hFired measure parentId snapshot hTouches hSnapshot
  have hOwn := h.own_of_touched hFired hTouches hSnapshot
  obtain ⟨current, hCurrent⟩ :=
    Db.agrees_of_triggersPass (h.constrained.visible_events currentOrgId) hTouches
      (List.all_eq_true.mp hPass statement hFired) (h.constrained.visible_snapshot.mpr ⟨hSnapshot, hOwn⟩)
  refine ⟨current, { hCurrent with mem := (Db.mem_visible_events.mp hCurrent.mem).1, latest := ?_ }⟩
  intro f hf hGoverns
  -- No event of the series is hidden from the trigger, since all carry the parent's tenant.
  have hMatched := h.matched hStart hPass hf hGoverns hSnapshot
  exact hCurrent.latest f (Db.mem_visible_events.mpr ⟨hf, hMatched ▸ hOwn⟩) hGoverns

theorem Progress.parentTriggersPass (h : transaction.Progress start currentOrgId)
    (hAgree : transaction.ParentsAgree) : transaction.parentTriggersPass currentOrgId := by
  refine List.all_eq_true.mpr ?_
  intro statement hStatement
  obtain ⟨hFired, hWrites⟩ := List.mem_filter.mp hStatement
  have hNoEvent : statement.insertedEvents = [] := by
    cases statement with
    | insertEvent e => cases hWrites
    | _ => rfl
  refine (Db.triggersPass_iff_agrees (h.constrained.visible_events currentOrgId) hNoEvent).mpr ?_
  intro measure parentId snapshot hTouches hVisible
  obtain ⟨hSnapshot, hOwn⟩ := h.constrained.visible_snapshot.mp hVisible
  obtain ⟨current, hCurrent⟩ := hAgree statement hFired measure parentId snapshot hTouches hSnapshot
  have hMem := Db.mem_visible_events.mpr ⟨hCurrent.mem, hCurrent.organisation.symm ▸ hOwn⟩
  refine ⟨current, { hCurrent with mem := hMem, latest := ?_ }⟩
  exact fun f hf => hCurrent.latest f (Db.mem_visible_events.mp hf).1

end TenantTransaction

/-- A transaction commits only with its parent rows in agreement, and with them in
agreement no parent trigger rejects it, whatever the rows were in between. -/
theorem parent_triggers_judge_final_rows {start : Db} (hStart : start.TenantMatched)
    {currentOrgId : Option ℕ} {changes : List RowChange} {transaction : TenantTransaction}
    (hRun : start.executeAllAs currentOrgId changes = some transaction) :
    ((start.commitAs currentOrgId changes).isSome → transaction.ParentsAgree) ∧
      (transaction.ParentsAgree → transaction.parentTriggersPass currentOrgId) := by
  have hProgress := Db.executeAllAs_progress hStart.toConstrained hStart.evidenceMatched hRun
  refine ⟨?_, hProgress.parentTriggersPass⟩
  intro hCommits
  obtain ⟨db, hCommit⟩ := Option.isSome_iff_exists.mp hCommits
  obtain ⟨committed, hRun', hPass, -⟩ := Db.commitAs_eq_some.mp hCommit
  obtain rfl := Option.some.inj (hRun.symm.trans hRun')
  exact hProgress.parentsAgree hStart hPass

theorem recorded_quarter_judged :
    (⟨openQuarterDb, openQuarterRecorded⟩ : TenantTransaction).ParentsAgree ∧
      TenantTransaction.parentTriggersPass (some 1) ⟨openQuarterDb, openQuarterRecorded⟩ := by
  have hRun : Db.empty.executeAllAs (some 1) (openQuarterRecorded.map .write) =
      some ⟨openQuarterDb, openQuarterRecorded⟩ := by decide +kernel
  obtain ⟨hAgree, hPass⟩ := parent_triggers_judge_final_rows Db.empty_tenantMatched hRun
  have hCommits := hAgree (by decide +kernel)
  exact ⟨hCommits, hPass hCommits⟩

end ProcureFoundation.Evidence
