import ProcureFoundation.Evidence.Checks

/-!
# Deferred constraint triggers

The trigger functions run at commit. Each is a Boolean: false is the `RAISE EXCEPTION`
that aborts the transaction. The three parent functions share one body, in which a
pointer without an event reads as a row of nulls; each keeps its own column list.
-/

namespace ProcureFoundation.Evidence

open ThreeValued

def checkConfirmedEventHasSufficientEvidence (evidence : List FinancialAmountEvidence)
    (new : FinancialAmountStatusEvent) : Bool :=
  let has := fun types => evidence.any fun row => row.eventId == new.id &&
    decide (row.evidenceType ∈ types)
  if holds (differs new.new.status (some "confirmed")) then true
  else if holds (conj (equals (some new.measureCode) (some "realised_savings"))
      (equals new.new.sourceBasis (some "reconciled_actuals"))) then
    has ["documented_baseline"] && has ["actual_cost_source"] &&
      has ["variance_calculation_reference"]
  else if holds (equals (some new.measureCode) (some "expected_amount")) then
    has ["supplier_statement", "credit_note"]
  else true

/-- Evidence that has sufficed goes on sufficing, since none is ever deleted. -/
theorem checkConfirmedEventHasSufficientEvidence_mono {evidence more : List FinancialAmountEvidence}
    {e : FinancialAmountStatusEvent} (hMore : evidence ⊆ more)
    (h : checkConfirmedEventHasSufficientEvidence evidence e) :
    checkConfirmedEventHasSufficientEvidence more e := by
  have hAny : ∀ p : FinancialAmountEvidence → Bool, evidence.any p → more.any p := by
    intro p hp
    obtain ⟨row, hRow, hHolds⟩ := List.any_eq_true.mp hp
    exact List.any_eq_true.mpr ⟨row, hMore hRow, hHolds⟩
  unfold checkConfirmedEventHasSufficientEvidence at h ⊢
  split
  · rfl
  · rename_i hConfirmed
    rw [if_neg hConfirmed] at h
    split
    · rename_i hSavings
      rw [if_pos hSavings] at h
      simp only [Bool.and_eq_true] at h ⊢
      exact ⟨⟨hAny _ h.1.1, hAny _ h.1.2⟩, hAny _ h.2⟩
    · rename_i hSavings
      rw [if_neg hSavings] at h
      split
      · rename_i hExpected
        rw [if_pos hExpected] at h
        exact hAny _ h
      · rfl

theorem checkConfirmedEventHasSufficientEvidence_of_unconfirmed (evidence : List FinancialAmountEvidence)
    {e : FinancialAmountStatusEvent} {status : String} (hStatus : e.new.status = some status)
    (hUnconfirmed : status ≠ "confirmed") : checkConfirmedEventHasSufficientEvidence evidence e :=
  if_pos (by simp [hStatus, hUnconfirmed])

/-- A CASE without ELSE: any other status has no tier. -/
def tier (status : Option String) : Option ℕ :=
  status.bind fun status =>
    if status = "unknown" then some 0
    else if status = "not_applicable" then some 0
    else if status = "legacy_unverified" then some 1
    else if status = "estimated" then some 2
    else if status = "calculated" then some 3
    else if status = "confirmed" then some 4
    else none

theorem tier_le_four {status : Option String} {n : ℕ} (h : tier status = some n) : n ≤ 4 := by
  obtain ⟨text, rfl, hTier⟩ := Option.bind_eq_some_iff.mp h
  split_ifs at hTier <;> cases hTier <;> decide

theorem tier_eq_four {status : Option String} : tier status = some 4 ↔
    status = some "confirmed" := by
  constructor
  · intro h
    obtain ⟨text, rfl, hTier⟩ := Option.bind_eq_some_iff.mp h
    split_ifs at hTier <;> simp_all
  · rintro rfl
    rfl

def downgradeReasons : List String := ["correction", "evidence_withdrawn", "source_data_restated"]

/-- The preceding event as the trigger's query finds it among the rows it can see. -/
def precedingEvent (visible : List FinancialAmountStatusEvent) (new : FinancialAmountStatusEvent) :
    Option FinancialAmountStatusEvent :=
  visible.find? fun e => e.measureCode == new.measureCode && e.eventVersion ==
    new.eventVersion - 1 &&
    e.rebatePeriodActualId == new.rebatePeriodActualId && e.opportunityId == new.opportunityId

def oldDiffersFromNew (old new : AmountState) : Truth :=
  anyOf [isDistinctFrom old.amount new.amount, isDistinctFrom old.status new.status,
    isDistinctFrom old.sourceBasis new.sourceBasis,
    isDistinctFrom old.calculatedAt new.calculatedAt, isDistinctFrom old.approvedAt new.approvedAt,
    isDistinctFrom old.approvedByUserId new.approvedByUserId,
    isDistinctFrom old.effectivePeriodStart new.effectivePeriodStart,
    isDistinctFrom old.effectivePeriodEnd new.effectivePeriodEnd]

def checkEventChainIntegrity (visible : List FinancialAmountStatusEvent)
    (new : FinancialAmountStatusEvent) : Bool :=
  if new.eventVersion = 1 then true
  else match precedingEvent visible new with
    | none => false
    | some prev =>
      !holds (oldDiffersFromNew new.old prev.new) &&
        !holds (conj (below (tier new.new.status) (tier prev.new.status))
          (notIn (some new.changeReasonCode) downgradeReasons))

theorem oldDiffersFromNew_eq_false (old new : AmountState) :
    holds (oldDiffersFromNew old new) = false ↔ old = new := by
  obtain ⟨a, b, c, d, e, f, g, h⟩ := old
  obtain ⟨a', b', c', d', e', f', g', h'⟩ := new
  simp [oldDiffersFromNew]

theorem precedingEvent_some {visible : List FinancialAmountStatusEvent}
    {new prev : FinancialAmountStatusEvent} (h : precedingEvent visible new = some prev) :
    prev ∈ visible ∧ prev.series = new.series ∧ prev.eventVersion = new.eventVersion - 1 := by
  have hMem := List.mem_of_find?_eq_some h
  have hFound := List.find?_some h
  simp only [Bool.and_eq_true, beq_iff_eq] at hFound
  obtain ⟨⟨⟨hMeasure, hVersion⟩, hPeriod⟩, hOpportunity⟩ := hFound
  refine ⟨hMem, ?_, hVersion⟩
  simp only [FinancialAmountStatusEvent.series, hMeasure, hPeriod, hOpportunity]

theorem precedingEvent_isSome {visible : List FinancialAmountStatusEvent}
    {new prev : FinancialAmountStatusEvent} (hMem : prev ∈ visible)
    (hSeries : prev.series = new.series) (hVersion : prev.eventVersion = new.eventVersion - 1) :
    ∃ found, precedingEvent visible new = some found := by
  simp only [FinancialAmountStatusEvent.series, Prod.mk.injEq] at hSeries
  obtain ⟨hPeriod, hOpportunity, hMeasure⟩ := hSeries
  apply Option.isSome_iff_exists.mp
  rw [precedingEvent, List.find?_isSome]
  exact ⟨prev, hMem, by simp [hPeriod, hOpportunity, hMeasure, hVersion]⟩

/-- One event continues another: the recorded past is the other's outcome, and a drop
in evidence tier names a reason that admits it. -/
def Continues (prev next : FinancialAmountStatusEvent) : Prop :=
  next.old = prev.new ∧ ∀ before after, tier prev.new.status = some before →
    tier next.new.status = some after → after < before → next.changeReasonCode ∈ downgradeReasons

theorem chainBody_eq_true {prev next : FinancialAmountStatusEvent} :
    (!holds (oldDiffersFromNew next.old prev.new) &&
      !holds (conj (below (tier next.new.status) (tier prev.new.status))
        (notIn (some next.changeReasonCode) downgradeReasons))) = true ↔ Continues prev next := by
  rw [Bool.and_eq_true, Bool.not_eq_true', Bool.not_eq_true', oldDiffersFromNew_eq_false, Continues]
  apply and_congr_right
  intro _
  cases hBefore : tier prev.new.status with
  | none => cases tier next.new.status <;> simp [below]
  | some before =>
    cases hAfter : tier next.new.status with
    | none => simp [below]
    | some after =>
      simp only [below, notIn_some, holds_conj, holds_some, Bool.and_eq_false_iff,
        decide_eq_false_iff_not, Bool.not_eq_false', decide_eq_true_eq, Option.some.injEq]
      constructor
      · rintro (hLe | hReason) _ _ rfl rfl hLt
        · exact absurd hLt hLe
        · exact hReason
      · intro h
        exact (Classical.em (after < before)).symm.imp_right (h before after rfl rfl)

/-- The chain trigger accepts exactly the first versions and the events that continue
the predecessor it finds. -/
theorem checkEventChainIntegrity_eq_true {visible : List FinancialAmountStatusEvent}
    {new : FinancialAmountStatusEvent} :
    checkEventChainIntegrity visible new = true ↔ new.eventVersion = 1 ∨
      ∃ prev, precedingEvent visible new = some prev ∧ Continues prev new := by
  unfold checkEventChainIntegrity
  by_cases hFirst : new.eventVersion = 1
  · simp [hFirst]
  · rw [if_neg hFirst, or_iff_right hFirst]
    cases hFound : precedingEvent visible new with
    | none => simp
    | some prev =>
      simp only [Option.some.injEq, exists_eq_left']
      exact chainBody_eq_true

section Parents

def latestEvent (events : List FinancialAmountStatusEvent)
    (parentOf : FinancialAmountStatusEvent → Option ℕ) (measure : String) (parentId : ℕ) :
    Option FinancialAmountStatusEvent :=
  @List.argmax _ ℤ Int.instLinearOrder.toPreorder _ FinancialAmountStatusEvent.eventVersion
    (events.filter fun e => parentOf e == some parentId && e.measureCode == measure)

def matchesCurrentEvent (events : List FinancialAmountStatusEvent)
    (parentOf : FinancialAmountStatusEvent → Option ℕ) (measure : String)
    (parentId organisationId : ℕ) (currentEventId : Option ℕ)
    (differences : AmountState → List Truth) : Bool :=
  match currentEventId with
  | none => false
  | some pointer =>
    let ev := events.find? fun e => e.id == pointer
    let evNew := (ev.map FinancialAmountStatusEvent.new).getD AmountState.null
    !holds (anyOf [differs (ev.map FinancialAmountStatusEvent.organisationId) (some organisationId),
        differs (ev.bind parentOf) (some parentId),
        differs (ev.map FinancialAmountStatusEvent.measureCode) (some measure)]) &&
      !holds (anyOf (differences evNew)) &&
      !holds (differs ((latestEvent events parentOf measure parentId).map FinancialAmountStatusEvent.id)
        (some pointer))

def checkRpaExpectedAmountMatchesEvent (events : List FinancialAmountStatusEvent)
    (rows : List RebatePeriodActual) (id : ℕ) : Bool :=
  match rows.find? fun row => row.id == id with
  | none => true
  | some row =>
    matchesCurrentEvent events FinancialAmountStatusEvent.rebatePeriodActualId "expected_amount"
      row.id row.organisationId row.expectedAmountCurrentEventId fun ev =>
        [isDistinctFrom row.expectedAmount ev.amount,
          isDistinctFrom (some row.expectedAmountStatus) ev.status,
          isDistinctFrom row.expectedAmountSourceBasis ev.sourceBasis,
          isDistinctFrom row.expectedAmountCalculatedAt ev.calculatedAt,
          isDistinctFrom row.expectedAmountApprovedAt ev.approvedAt,
          isDistinctFrom row.expectedAmountApprovedByUserId ev.approvedByUserId]

def checkOppAnnualFinancialImpactMatchesEvent (events : List FinancialAmountStatusEvent)
    (rows : List Opportunity) (id : ℕ) : Bool :=
  match rows.find? fun row => row.id == id with
  | none => true
  | some row =>
    matchesCurrentEvent events FinancialAmountStatusEvent.opportunityId "annual_financial_impact"
      row.id row.organisationId row.annualFinancialImpactCurrentEventId fun ev =>
        [isDistinctFrom row.annualFinancialImpact ev.amount,
          isDistinctFrom (some row.annualFinancialImpactStatus) ev.status,
          isDistinctFrom row.annualFinancialImpactSourceBasis ev.sourceBasis,
          isDistinctFrom row.annualFinancialImpactCalculatedAt ev.calculatedAt,
          isDistinctFrom row.annualFinancialImpactEffectiveFrom ev.effectivePeriodStart]

def checkOppRealisedSavingsMatchesEvent (events : List FinancialAmountStatusEvent)
    (rows : List Opportunity) (id : ℕ) : Bool :=
  match rows.find? fun row => row.id == id with
  | none => true
  | some row =>
    matchesCurrentEvent events FinancialAmountStatusEvent.opportunityId "realised_savings"
      row.id row.organisationId row.realisedSavingsCurrentEventId fun ev =>
        [isDistinctFrom row.realisedSavings ev.amount,
          isDistinctFrom (some row.realisedSavingsStatus) ev.status,
          isDistinctFrom row.realisedSavingsSourceBasis ev.sourceBasis,
          isDistinctFrom row.realisedSavingsCalculatedAt ev.calculatedAt,
          isDistinctFrom row.realisedSavingsApprovedAt ev.approvedAt,
          isDistinctFrom row.realisedSavingsApprovedByUserId ev.approvedByUserId,
          isDistinctFrom row.realisedSavingsEffectivePeriodStart ev.effectivePeriodStart,
          isDistinctFrom row.realisedSavingsEffectivePeriodEnd ev.effectivePeriodEnd]

end Parents

end ProcureFoundation.Evidence
