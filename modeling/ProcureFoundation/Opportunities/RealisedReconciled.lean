import ProcureFoundation.Evidence.ConfirmedEvidence
import ProcureFoundation.Opportunities.WaterfallRuns

/-!
# Realised means reconciled

Two operations reach the stage `realised`. One writes a confirmed saving with its three
documents; the other moves the stage alone. A run keeps every realised opportunity
reconciled exactly as long as the second is only used where the saving is confirmed
already.
-/

namespace ProcureFoundation.Opportunities

open Evidence ThreeValued KeyedRows

/-- The saving is confirmed, has an amount, and its latest event is documented. -/
structure Reconciled (db : Db) (row : Opportunity) : Prop where
  confirmed : row.realisedSavingsStatus = "confirmed"
  amount : row.realisedSavings.isSome
  documented : ∃ e, IsCurrentEvent db.events .realisedSavings row.id row.realisedSavingsSnapshot e ∧
    ∀ type ∈ ["documented_baseline", "actual_cost_source", "variance_calculation_reference"],
      Documented db.evidence e [type]

def RealisedReconciled (db : Db) : Prop :=
  ∀ row ∈ db.opportunities, row.status = .realised → Reconciled db row

/-- A move into `realised` is asked only of an opportunity with a confirmed saving. -/
def OpportunityOperation.RealisesConfirmed : OpportunityOperation → Prop
  | .advanceWaterfallStage opportunity targetStatus =>
    targetStatus = "realised" → opportunity.realisedSavingsStatus = "confirmed"
  | .createOpportunity _ | .createOpportunityFromLine _ | .recordRealisedSavings _ _ _ => True

def OpportunityStep (allowed : OpportunityOperation → Prop) (db db' : Db) : Prop :=
  ∃ operation row, operation.Commits db db' row ∧ allowed operation

section Reconciled

variable {db db' : Db} {row : Opportunity} {operation : OpportunityOperation}

theorem amount_of_confirmed (h : row.rowAccepted)
    (hConfirmed : row.realisedSavingsStatus = "confirmed") : row.realisedSavings.isSome := by
  simp only [Opportunity.rowAccepted, Bool.and_eq_true] at h
  have hState := h.1.1.2
  simp [ckOppRsStateCombination, hConfirmed] at hState
  exact hState.1

theorem reconciled_of_confirmed (hDb : db.Valid) (hRow : row ∈ db.opportunities)
    (hConfirmed : row.realisedSavingsStatus = "confirmed") : Reconciled db row := by
  obtain ⟨-, e, hCurrent⟩ := agrees_of_valid hDb hRow
  have hStatus : e.new.status = some "confirmed" := by
    rw [← hConfirmed]
    exact (congrArg AmountState.status hCurrent.columns).symm
  have hDocuments :=
    (checkConfirmedEventHasSufficientEvidence_eq_true (hDb.events.accepted e hCurrent.mem)
      hCurrent.governs.2 hStatus).mp (hDb.evidenceSufficient e hCurrent.mem)
  refine ⟨hConfirmed, amount_of_confirmed (hDb.opportunities.accepted row hRow) hConfirmed, e,
    hCurrent, ?_⟩
  intro type hType
  apply hDocuments
  simpa [Measure.documents] using hType

theorem status_of_advanced {opportunity : Opportunity} {userId : ℕ} {targetStatus : String}
    {now : Timestamp} (h : advancedRow opportunity userId targetStatus now = .ok row) :
    row.realisedSavingsStatus = opportunity.realisedSavingsStatus ∧
      (row.status = .realised ↔ targetStatus = "realised") := by
  obtain ⟨⟨approvedByUserId, approvedAt, hSame⟩, rfl, -⟩ := advancedRow_of_ok h
  refine ⟨by rw [hSame], ?_⟩
  cases row.status <;> decide

/-- One request keeps realised opportunities reconciled exactly under the condition. -/
theorem realisedReconciled_commits_iff (hDb : db.Valid) (h : RealisedReconciled db)
    (hCommits : operation.Commits db db' row) : RealisedReconciled db' ↔
      operation.RealisesConfirmed := by
  obtain ⟨hReplaced, hMoves⟩ := hCommits.spec hDb
  have hRest : (row.status = .realised → row.realisedSavingsStatus = "confirmed") →
      RealisedReconciled db' := by
    intro hOwn other hOther hRealised
    apply reconciled_of_confirmed hReplaced.valid hOther
    by_cases hId : other.id = row.id
    · obtain rfl := eq_of_key_eq hReplaced.valid.opportunities.keys hOther hReplaced.stored hId
      exact hOwn hRealised
    · exact (h other ((hReplaced.others other hId).mp hOther) hRealised).confirmed
  cases operation with
  | createOpportunity payload =>
    refine iff_of_true (hRest ?_) trivial
    intro hRealised
    cases hMoves.1.symm.trans hRealised
  | createOpportunityFromLine line => exact hMoves.elim
  | advanceWaterfallStage opportunity targetStatus =>
    obtain ⟨-, userId, now, hAdvanced⟩ := hMoves
    obtain ⟨hSavings, hStage⟩ := status_of_advanced hAdvanced
    constructor
    · intro hAfter hTarget
      exact hSavings ▸ (hAfter row hReplaced.stored (hStage.mpr hTarget)).confirmed
    · intro hAllowed
      exact hRest fun hRealised => hSavings.trans (hAllowed (hStage.mp hRealised))
  | recordRealisedSavings opportunity payload changeReference =>
    obtain ⟨-, -, -, -, hConfirmed⟩ := hMoves
    exact iff_of_true (hRest fun _ => hConfirmed) trivial

/-- In every run that meets the condition, a realised opportunity is reconciled. -/
theorem realised_means_reconciled (hDb : db.Valid) (h : RealisedReconciled db)
    (hRun : Relation.ReflTransGen (OpportunityStep OpportunityOperation.RealisesConfirmed) db db') :
    RealisedReconciled db' := by
  suffices hBoth : db'.Valid ∧ RealisedReconciled db' from hBoth.2
  induction hRun with
  | refl => exact ⟨hDb, h⟩
  | tail _ hStep ih =>
    obtain ⟨operation, row, hCommits, hAllowed⟩ := hStep
    exact ⟨(hCommits.spec ih.1).1.valid,
      (realisedReconciled_commits_iff ih.1 ih.2 hCommits).mpr hAllowed⟩

end Reconciled

section Runs

theorem Db.empty_reconciled : RealisedReconciled Db.empty := fun _ h => nomatch h

theorem implementation_reachable : ∃ db row, Relation.ReflTransGen
    (OpportunityStep OpportunityOperation.RealisesConfirmed) Db.empty db ∧ db.Valid ∧
      row ∈ db.opportunities ∧
      row.status = .implementation ∧ row.realisedSavingsStatus = "unknown" := by
  obtain ⟨db₁, row₁, hCreate, hReplaced₁, hStatus₁, hSavings₁⟩ := exists_create Db.empty_valid
  obtain ⟨db₂, row₂, hValidate, hReplaced₂, -, hStatus₂, hSavings₂⟩ :=
    @exists_advance db₁ row₁ hReplaced₁.valid
      hReplaced₁.stored .validated (hStatus₁ ▸ .inr (.inr ⟨.validated, by decide, rfl, by decide⟩))
  obtain ⟨db₃, row₃, hApprove, hReplaced₃, -, hStatus₃, hSavings₃⟩ :=
    @exists_advance db₂ row₂ hReplaced₂.valid
      hReplaced₂.stored .approved (hStatus₂ ▸ .inr (.inr ⟨.approved, by decide, rfl, by decide⟩))
  obtain ⟨db₄, row₄, hImplement, hReplaced₄, -, hStatus₄, hSavings₄⟩ :=
    @exists_advance db₃ row₃ hReplaced₃.valid
      hReplaced₃.stored .implementation
        (hStatus₃ ▸ .inr (.inr ⟨.implementation, by decide, rfl, by decide⟩))
  refine ⟨db₄, row₄, ?_, hReplaced₄.valid, hReplaced₄.stored, hStatus₄, ?_⟩
  · exact (((Relation.ReflTransGen.single ⟨_, _, hCreate, trivial⟩).tail
      ⟨_, _, hValidate, fun h => absurd h (by decide)⟩).tail ⟨_, _, hApprove, fun h =>
        absurd h (by decide)⟩).tail
      ⟨_, _, hImplement, fun h => absurd h (by decide)⟩
  · rw [hSavings₄, hSavings₃, hSavings₂, hSavings₁]

/-- Moved on by its stage alone, the opportunity is realised without a saving. -/
theorem realised_without_saving :
    ¬∀ db, Relation.ReflTransGen (OpportunityStep fun _ => True) Db.empty db →
    RealisedReconciled db := by
  intro hAll
  obtain ⟨db, row, hRun, hDb, hRow, hStatus, hSavings⟩ := implementation_reachable
  obtain ⟨db', row', hRealise, hReplaced, -, hRealised, hSame⟩ :=
    @exists_advance db row hDb hRow .realised
      (hStatus ▸ .inr (.inr ⟨.realised, by decide, rfl, by decide⟩))
  have hFree : Relation.ReflTransGen (OpportunityStep fun _ => True) Db.empty db := by
    refine Relation.ReflTransGen.mono ?_ _ _ hRun
    rintro _ _ ⟨operation, row, hCommits, -⟩
    exact ⟨operation, row, hCommits, trivial⟩
  have hReconciled :=
    hAll db' (hFree.tail ⟨_, _, hRealise, trivial⟩) row' hReplaced.stored hRealised
  have hConfirmed := hReconciled.confirmed
  rw [hSame, hSavings] at hConfirmed
  exact absurd hConfirmed (by decide)

theorem recorded_saving_reconciled : ∃ db, RealisedReconciled db ∧ ∃ row ∈ db.opportunities,
    row.status = .realised := by
  obtain ⟨db, row, hRun, hDb, hRow, hStatus, -⟩ := implementation_reachable
  obtain ⟨db', row', hCommits⟩ := @OpportunityOperation.exists_commits db hDb
    (.recordRealisedSavings row ⟨100, ⟨2026, 1, 1, by decide⟩, ⟨2026, 3, 31, by decide⟩, "baseline",
      "costs", "variance"⟩
      "api_realise_opportunity:1") hRow [] row.organisationId ⟨hRow, rfl, hStatus, by decide⟩
    ⟨by decide, by norm_num [fitsNumeric, FixedPoint.assign, roundHalfAway]⟩
  obtain ⟨hReplaced, -, -, -, hRealised, -⟩ := hCommits.spec hDb
  exact ⟨db', realised_means_reconciled Db.empty_valid Db.empty_reconciled
    (hRun.tail ⟨_, _, hCommits, trivial⟩), row', hReplaced.stored, hRealised⟩

end Runs

end ProcureFoundation.Opportunities
