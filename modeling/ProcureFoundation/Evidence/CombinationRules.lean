import ProcureFoundation.Evidence.Snapshots
import ProcureFoundation.Foundation.KnownConditions

/-!
# One combination rule for events and parents

The rule on the combinations of status, basis and dates is written over the columns of an event and
again over those of each parent. No copy of it is ever unknown, and they accept the same states.
-/

namespace ProcureFoundation.Evidence

open ThreeValued

section Known

variable (e : FinancialAmountStatusEvent) (r : RebatePeriodActual) (o : Opportunity)

theorem known_ckFamevStateCombination (h : e.new.status.isSome) :
    Known (ckFamevStateCombination e) := by
  obtain ⟨status, hStatus⟩ := Option.isSome_iff_exists.mp h
  unfold ckFamevStateCombination
  refine known_anyOf ?_
  simp only [List.forall_mem_cons, hStatus, equals_some, isIn_some]
  refine ⟨?_, ?_, ?_, ?_, ?_, ?_, ?_, ?_, ?_, ?_, ?_, ?_, ?_, fun _ hMem =>
    absurd hMem List.not_mem_nil⟩
  -- every comparison stands behind the null tests of its columns
  all_goals
    repeat first
      | apply known_guarded_atMost
      | apply known_guarded_equals
      | apply known_guarded_isIn
      | apply known_isNull
      | apply known_isNotNull
      | apply known_value
    exact known_some true

theorem known_ckRpaExpectedAmountStateCombination :
    Known (ckRpaExpectedAmountStateCombination r) := by
  unfold ckRpaExpectedAmountStateCombination
  refine known_anyOf ?_
  simp only [List.forall_mem_cons, equals_some, isIn_some]
  refine ⟨?_, ?_, ?_, ?_, ?_, fun _ hMem => absurd hMem List.not_mem_nil⟩
  all_goals
    repeat first
      | apply known_guarded_equals
      | apply known_guarded_isIn
      | apply known_isNull
      | apply known_isNotNull
      | apply known_value
    exact known_some true

theorem known_ckOppAfiStateCombination : Known (ckOppAfiStateCombination o) := by
  unfold ckOppAfiStateCombination
  refine known_anyOf ?_
  simp only [List.forall_mem_cons, equals_some, isIn_some]
  refine ⟨?_, ?_, ?_, ?_, fun _ hMem => absurd hMem List.not_mem_nil⟩
  all_goals
    repeat first
      | apply known_guarded_equals
      | apply known_isNull
      | apply known_isNotNull
      | apply known_value
    exact known_some true

theorem known_ckOppRsStateCombination : Known (ckOppRsStateCombination o) := by
  unfold ckOppRsStateCombination
  refine known_anyOf ?_
  simp only [List.forall_mem_cons, equals_some, isIn_some]
  refine ⟨?_, ?_, ?_, ?_, fun _ hMem => absurd hMem List.not_mem_nil⟩
  all_goals
    repeat first
      | apply known_guarded_atMost
      | apply known_guarded_equals
      | apply known_isNull
      | apply known_isNotNull
      | apply known_value
    exact known_some true

end Known

section Copies

variable {e : FinancialAmountStatusEvent} {r : RebatePeriodActual} {o : Opportunity}

/-- What the two checks of an event say about its outcome. -/
def FinancialAmountStatusEvent.stateAccepted (e : FinancialAmountStatusEvent) : Bool :=
  passes (ckFamevStatusValidForMeasure e) && passes (ckFamevStateCombination e)

theorem stateAccepted_expectedAmount (hCode : e.measureCode = Measure.expectedAmount.code)
    (hNew : e.new = r.expectedAmountSnapshot.columns) : e.stateAccepted =
      (passes (ckRpaExpectedAmountStatusValid r) &&
        passes (ckRpaExpectedAmountStateCombination r)) := by
  simp [FinancialAmountStatusEvent.stateAccepted, ckFamevStatusValidForMeasure,
    ckFamevStateCombination,
    ckRpaExpectedAmountStatusValid, ckRpaExpectedAmountStateCombination, hCode, hNew, Measure.code,
    RebatePeriodActual.expectedAmountSnapshot]

theorem stateAccepted_annualFinancialImpact (hCode : e.measureCode = Measure.annualFinancialImpact.code)
    (hNew : e.new = o.annualFinancialImpactSnapshot.columns) : e.stateAccepted =
      (passes (ckOppAfiStatusValid o) && passes (ckOppAfiStateCombination o)) := by
  simp [FinancialAmountStatusEvent.stateAccepted, ckFamevStatusValidForMeasure,
    ckFamevStateCombination,
    ckOppAfiStatusValid, ckOppAfiStateCombination, hCode, hNew, Measure.code,
    Opportunity.annualFinancialImpactSnapshot]

theorem stateAccepted_realisedSavings (hCode : e.measureCode = Measure.realisedSavings.code)
    (hNew : e.new = o.realisedSavingsSnapshot.columns) : e.stateAccepted =
      (passes (ckOppRsStatusValid o) && passes (ckOppRsStateCombination o)) := by
  simp [FinancialAmountStatusEvent.stateAccepted, ckFamevStatusValidForMeasure,
    ckFamevStateCombination,
    ckOppRsStatusValid, ckOppRsStateCombination, hCode, hNew, Measure.code,
    Opportunity.realisedSavingsSnapshot]

end Copies

/-- The copies of the combination rule are one two-valued rule. -/
structure OneRule (e : FinancialAmountStatusEvent) (r : RebatePeriodActual) (o : Opportunity) :
    Prop where
  event : e.new.status.isSome → Known (ckFamevStateCombination e)
  expectedAmount : Known (ckRpaExpectedAmountStateCombination r)
  annualFinancialImpact : Known (ckOppAfiStateCombination o)
  realisedSavings : Known (ckOppRsStateCombination o)
  sameExpectedAmount : e.measureCode = "expected_amount" →
    e.new = r.expectedAmountSnapshot.columns →
    (passes (ckRpaExpectedAmountStateCombination r) ∧ passes (ckRpaExpectedAmountStatusValid r) ↔
      passes (ckFamevStatusValidForMeasure e) ∧ passes (ckFamevStateCombination e))
  sameAnnualFinancialImpact : e.measureCode = "annual_financial_impact" →
    e.new = o.annualFinancialImpactSnapshot.columns →
    (passes (ckOppAfiStateCombination o) ∧ passes (ckOppAfiStatusValid o) ↔
      passes (ckFamevStatusValidForMeasure e) ∧ passes (ckFamevStateCombination e))
  sameRealisedSavings : e.measureCode = "realised_savings" →
    e.new = o.realisedSavingsSnapshot.columns →
    (passes (ckOppRsStateCombination o) ∧ passes (ckOppRsStatusValid o) ↔
      passes (ckFamevStatusValidForMeasure e) ∧ passes (ckFamevStateCombination e))

theorem combination_rules_agree (e : FinancialAmountStatusEvent) (r : RebatePeriodActual)
    (o : Opportunity) : OneRule e r o where
  event := known_ckFamevStateCombination e
  expectedAmount := known_ckRpaExpectedAmountStateCombination r
  annualFinancialImpact := known_ckOppAfiStateCombination o
  realisedSavings := known_ckOppRsStateCombination o
  sameExpectedAmount hCode hNew := by
    rw [and_comm, ← Bool.and_eq_true, ← Bool.and_eq_true, ← stateAccepted_expectedAmount hCode hNew]
    rfl
  sameAnnualFinancialImpact hCode hNew := by
    rw [and_comm, ← Bool.and_eq_true, ← Bool.and_eq_true, ← stateAccepted_annualFinancialImpact
      hCode hNew]
    rfl
  sameRealisedSavings hCode hNew := by
    rw [and_comm, ← Bool.and_eq_true, ← Bool.and_eq_true, ← stateAccepted_realisedSavings hCode hNew]
    rfl

end ProcureFoundation.Evidence
