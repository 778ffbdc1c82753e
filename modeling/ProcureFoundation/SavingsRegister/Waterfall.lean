import ProcureFoundation.Opportunities.Service

/-!
# The savings waterfall

The register reads every opportunity at its stage, with its realised savings once it is realised and
its annual impact before. The stage totals add all types of savings up, the release of working
capital among them, so they are those of the recurring savings exactly where the released amounts
cancel out. Sums of column values stay below the digits of the arithmetic context, so they are exact
here.
-/

namespace ProcureFoundation.SavingsRegister

open Evidence ThreeValued

inductive SavingsType where
  | hardSaving
  | costAvoidance
  | workingCapital
  | marginProtection
  | efficiencySaving
deriving DecidableEq

/-- An opportunity and its type of savings; the checks of the table relate its amounts and their
statuses. -/
structure RegisterRow where
  opportunity : Opportunity
  savingsType : Option SavingsType
  accepted : opportunity.rowAccepted = true

def roundCurrency (value : ℚ) : Money := FixedPoint.quantize 4 value

structure WaterfallEntry where
  status : WaterfallStage
  amount : ℚ
  isOneTime : Bool
deriving DecidableEq

structure SavingsWaterfallTotals where
  identified : Money
  validated : Money
  approved : Money
  implementation : Money
  realised : Money
deriving DecidableEq

def waterfallStages : List WaterfallStage :=
  [.identified, .validated, .approved, .implementation, .realised]

def addEntry (totals : WaterfallStage → ℚ) (entry : WaterfallEntry) : WaterfallStage → ℚ :=
  if entry.status ∈ waterfallStages then
    Function.update totals entry.status (totals entry.status + entry.amount)
  else totals

def calculateSavingsWaterfall (opportunities : List WaterfallEntry) : SavingsWaterfallTotals :=
  let totals := opportunities.foldl addEntry fun _ => 0
  { identified := roundCurrency (totals .identified)
    validated := roundCurrency (totals .validated)
    approved := roundCurrency (totals .approved)
    implementation := roundCurrency (totals .implementation)
    realised := roundCurrency (totals .realised) }

structure Tally where
  tuples : List WaterfallEntry
  excludedUnknown : ℕ
  excludedLegacyUnverified : ℕ
deriving DecidableEq

def Tally.exclude (tally : Tally) (evidenceStatus : String) : Tally :=
  if evidenceStatus = "legacy_unverified" then
    { tally with excludedLegacyUnverified := tally.excludedLegacyUnverified + 1 }
  else { tally with excludedUnknown := tally.excludedUnknown + 1 }

/-- A missing amount has no number; the checks of the table leave none under these statuses. -/
def Tally.add (tally : Tally) (row : RegisterRow) (amount : Option Money) : Except String Tally :=
  match amount with
  | none => .error "InvalidOperation"
  | some amount => .ok { tally with tuples := tally.tuples ++
      [⟨row.opportunity.status, amount.value, decide (row.savingsType = some .workingCapital)⟩] }

def Tally.count (tally : Tally) (row : RegisterRow) : Except String Tally :=
  if row.opportunity.status = .realised then
    if row.opportunity.realisedSavingsStatus ∉ ["calculated", "confirmed"] then
      .ok (tally.exclude row.opportunity.realisedSavingsStatus)
    else tally.add row row.opportunity.realisedSavings
  else
    if row.opportunity.annualFinancialImpactStatus ∉ ["estimated", "calculated"] then
      .ok (tally.exclude row.opportunity.annualFinancialImpactStatus)
    else tally.add row row.opportunity.annualFinancialImpact

structure WaterfallResponse where
  totals : SavingsWaterfallTotals
  excludedCount : ℕ
  excludedUnknown : ℕ
  excludedLegacyUnverified : ℕ
deriving DecidableEq

def getSavingsWaterfall (opportunities : List RegisterRow) : Except String WaterfallResponse := do
  let tally ← opportunities.foldlM Tally.count ⟨[], 0, 0⟩
  return {
    totals := calculateSavingsWaterfall tally.tuples
    excludedCount := tally.excludedUnknown + tally.excludedLegacyUnverified
    excludedUnknown := tally.excludedUnknown
    excludedLegacyUnverified := tally.excludedLegacyUnverified }

def SavingsWaterfallTotals.at (totals : SavingsWaterfallTotals) : WaterfallStage → Money
  | .identified => totals.identified
  | .validated => totals.validated
  | .approved => totals.approved
  | .implementation => totals.implementation
  | .realised => totals.realised
  | .rejected | .expired => 0

namespace RegisterRow

/-- Whether the evidence lets the register read the amount. -/
def isUsable (row : RegisterRow) : Bool :=
  if row.opportunity.status = .realised then
    decide (row.opportunity.realisedSavingsStatus ∈ ["calculated", "confirmed"])
  else decide (row.opportunity.annualFinancialImpactStatus ∈ ["estimated", "calculated"])

def amount (row : RegisterRow) : Option Money :=
  if row.opportunity.status = .realised then row.opportunity.realisedSavings
    else row.opportunity.annualFinancialImpact

def isOneTime (row : RegisterRow) : Bool := decide (row.savingsType = some .workingCapital)

def value (row : RegisterRow) : ℚ := (row.amount.map FixedPoint.value).getD 0

def entry (row : RegisterRow) : WaterfallEntry := ⟨row.opportunity.status, row.value, row.isOneTime⟩

end RegisterRow

/-- The sum of the usable amounts at a stage, either of the one-time savings or of the recurring
ones. -/
def stageSum (opportunities : List RegisterRow) (stage : WaterfallStage) (isOneTime : Bool) : ℚ :=
  ((opportunities.filter fun row => row.opportunity.status = stage ∧ row.isUsable = true ∧
    row.isOneTime = isOneTime).map
    RegisterRow.value).sum

/-- Every stage total is that of the recurring savings at the stage. -/
def RecurringOnly (opportunities : List RegisterRow) (response : WaterfallResponse) : Prop :=
  ∀ stage ∈ waterfallStages, (response.totals.at stage).value = stageSum opportunities stage false

section Totals

variable {opportunities : List RegisterRow} {row : RegisterRow} {entries : List WaterfallEntry}
  {totals : WaterfallStage → ℚ} {stage : WaterfallStage} {tally : Tally}

theorem foldl_addEntry (hStage : stage ∈ waterfallStages) : entries.foldl addEntry totals stage =
    totals stage +
      ((entries.filter fun entry => entry.status = stage).map WaterfallEntry.amount).sum := by
  induction entries generalizing totals with
  | nil => simp
  | cons entry entries ih =>
    rw [List.foldl_cons, ih, addEntry]
    by_cases hEntry : entry.status = stage
    · subst hEntry
      rw [if_pos hStage, Function.update_self, List.filter_cons_of_pos (by simp), List.map_cons,
        List.sum_cons, add_assoc]
    · rw [List.filter_cons_of_neg (by simpa using hEntry)]
      split
      · rw [Function.update_of_ne (Ne.symm hEntry)]
      · rfl

theorem at_calculateSavingsWaterfall (hStage : stage ∈ waterfallStages) :
    (calculateSavingsWaterfall entries).at stage =
      roundCurrency
        ((entries.filter fun entry => entry.status = stage).map WaterfallEntry.amount).sum := by
  have hTotal := @foldl_addEntry entries (fun _ => 0) stage hStage
  rw [zero_add] at hTotal
  rw [← hTotal]
  cases stage with
  | rejected => exact absurd hStage (by decide)
  | expired => exact absurd hStage (by decide)
  | _ => rfl

theorem isSome_realisedSavings (h : row.opportunity.realisedSavingsStatus ∈ ["calculated", "confirmed"]) :
    row.opportunity.realisedSavings.isSome = true := by
  have hAccepted := row.accepted
  simp only [Opportunity.rowAccepted, Bool.and_eq_true] at hAccepted
  have hState := hAccepted.1.1.2
  obtain hStatus | hStatus := List.mem_pair.mp h
  · simp [ckOppRsStateCombination, hStatus] at hState
    exact hState.1
  · simp [ckOppRsStateCombination, hStatus] at hState
    exact hState.1

theorem isSome_annualFinancialImpact
    (h : row.opportunity.annualFinancialImpactStatus ∈ ["estimated", "calculated"]) :
    row.opportunity.annualFinancialImpact.isSome = true := by
  have hAccepted := row.accepted
  simp only [Opportunity.rowAccepted, Bool.and_eq_true] at hAccepted
  have hState := hAccepted.1.1.1.1.1.2
  obtain hStatus | hStatus := List.mem_pair.mp h
  · simp [ckOppAfiStateCombination, hStatus] at hState
    exact hState.1
  · simp [ckOppAfiStateCombination, hStatus] at hState
    exact hState.1

theorem isSome_amount (h : row.isUsable = true) : row.amount.isSome = true := by
  unfold RegisterRow.isUsable at h
  unfold RegisterRow.amount
  split at h
  · rename_i hRealised
    rw [if_pos hRealised]
    exact isSome_realisedSavings (of_decide_eq_true h)
  · rename_i hNotRealised
    rw [if_neg hNotRealised]
    exact isSome_annualFinancialImpact (of_decide_eq_true h)

theorem tuples_exclude (evidenceStatus : String) :
    (tally.exclude evidenceStatus).tuples = tally.tuples := by
  unfold Tally.exclude
  split <;> rfl

theorem add_eq_ok {amount : Option Money} (h : amount.isSome = true)
    (hAmount : row.amount = amount) :
    ∃ next, tally.add row amount = .ok next ∧ next.tuples = tally.tuples ++ [row.entry] := by
  obtain ⟨value, rfl⟩ := Option.isSome_iff_exists.mp h
  refine ⟨_, rfl, ?_⟩
  rw [RegisterRow.entry, RegisterRow.value, hAmount]
  rfl

/-- A row is counted with its amount when it is usable, and always counted. -/
theorem count_returns (tally : Tally) (row : RegisterRow) : ∃ next, tally.count row = .ok next ∧
    next.tuples = tally.tuples ++ (if row.isUsable = true then [row.entry] else []) := by
  by_cases hUsable : row.isUsable = true
  · have hSome := isSome_amount hUsable
    rw [if_pos hUsable]
    unfold RegisterRow.isUsable at hUsable
    unfold Tally.count
    by_cases hRealised : row.opportunity.status = .realised
    · rw [if_pos hRealised] at hUsable ⊢
      have hAmount : row.amount = row.opportunity.realisedSavings := if_pos hRealised
      rw [if_neg (not_not.mpr (of_decide_eq_true hUsable))]
      exact add_eq_ok (hAmount ▸ hSome) hAmount
    · rw [if_neg hRealised] at hUsable ⊢
      have hAmount : row.amount = row.opportunity.annualFinancialImpact := if_neg hRealised
      rw [if_neg (not_not.mpr (of_decide_eq_true hUsable))]
      exact add_eq_ok (hAmount ▸ hSome) hAmount
  · rw [if_neg hUsable, List.append_nil]
    unfold RegisterRow.isUsable at hUsable
    unfold Tally.count
    by_cases hRealised : row.opportunity.status = .realised
    · rw [if_pos hRealised] at hUsable ⊢
      rw [if_pos fun hStatus => hUsable (decide_eq_true hStatus)]
      exact ⟨_, rfl, tuples_exclude _⟩
    · rw [if_neg hRealised] at hUsable ⊢
      rw [if_pos fun hStatus => hUsable (decide_eq_true hStatus)]
      exact ⟨_, rfl, tuples_exclude _⟩

theorem foldlM_count : ∃ result, opportunities.foldlM Tally.count tally = .ok result ∧
    result.tuples = tally.tuples ++
      (opportunities.filter RegisterRow.isUsable).map RegisterRow.entry := by
  induction opportunities generalizing tally with
  | nil => exact ⟨tally, rfl, (List.append_nil _).symm⟩
  | cons row opportunities ih =>
    obtain ⟨next, hNext, hTuples⟩ := count_returns tally row
    obtain ⟨result, hResult, hRest⟩ := @ih next
    refine ⟨result, ?_, ?_⟩
    · rw [List.foldlM_cons, Outcome.bind_of_eq_ok hNext]
      exact hResult
    · rw [hRest, hTuples]
      by_cases hUsable : row.isUsable = true
      · rw [if_pos hUsable, List.filter_cons_of_pos hUsable, List.map_cons, List.append_assoc]
        rfl
      · rw [if_neg hUsable, List.filter_cons_of_neg hUsable, List.append_nil]

theorem sum_stage (opportunities : List RegisterRow) (stage : WaterfallStage) :
    ((((opportunities.filter RegisterRow.isUsable).map RegisterRow.entry).filter fun entry =>
      entry.status = stage).map
      WaterfallEntry.amount).sum = stageSum opportunities stage false + stageSum opportunities stage
        true := by
  induction opportunities with
  | nil => exact (add_zero 0).symm
  | cons row opportunities ih =>
    unfold stageSum at ih ⊢
    by_cases hStatus : row.opportunity.status = stage
    · cases hUsable : row.isUsable with
      | false => simpa [hUsable] using ih
      | true =>
        cases hOneTime : row.isOneTime
        all_goals
          simp only [List.filter_cons, List.map_cons, List.sum_cons, RegisterRow.entry, hStatus,
            hUsable, hOneTime, ih,
            and_self, decide_true, if_true, reduceCtorEq, and_false, decide_false,
            Bool.false_eq_true, if_false]
          ring
    · cases hUsable : row.isUsable with
      | false => simpa [hUsable] using ih
      | true => simpa [hUsable, hStatus, RegisterRow.entry] using ih

theorem exists_value (row : RegisterRow) : ∃ amount : Money, amount.value = row.value := by
  unfold RegisterRow.value
  cases row.amount with
  | none => exact ⟨0, FixedPoint.value_zero⟩
  | some amount => exact ⟨amount, rfl⟩

/-- The route always answers, and its stage totals add recurring and one-time savings up. -/
theorem getSavingsWaterfall_returns (opportunities : List RegisterRow) :
    ∃ response, getSavingsWaterfall opportunities = .ok response ∧ ∀ stage ∈ waterfallStages,
      (response.totals.at stage).value = stageSum opportunities stage false +
        stageSum opportunities stage true := by
  obtain ⟨tally, hTally, hTuples⟩ := @foldlM_count opportunities ⟨[], 0, 0⟩
  refine ⟨_, Outcome.bind_of_eq_ok hTally _, fun stage hStage => ?_⟩
  have hValues :
    ∀ value ∈ (((opportunities.filter RegisterRow.isUsable).map RegisterRow.entry).filter
      fun entry => entry.status = stage).map WaterfallEntry.amount, ∃ amount : Money,
      amount.value = value := by
    intro value hValue
    obtain ⟨entry, hEntry, rfl⟩ := List.mem_map.mp hValue
    obtain ⟨row, -, rfl⟩ := List.mem_map.mp (List.mem_filter.mp hEntry).1
    exact exists_value row
  rw [List.nil_append] at hTuples
  rw [at_calculateSavingsWaterfall hStage, hTuples, roundCurrency,
    FixedPoint.value_quantize_sum _ hValues, sum_stage]

/-- The stage totals are those of the recurring savings exactly when the one-time amounts at every
stage cancel out. -/
theorem waterfall_recurring_iff (opportunities : List RegisterRow) :
    ∃ response, getSavingsWaterfall opportunities = .ok response ∧
      (RecurringOnly opportunities response ↔
        ∀ stage ∈ waterfallStages, stageSum opportunities stage true = 0) := by
  obtain ⟨response, hResponse, hTotals⟩ := getSavingsWaterfall_returns opportunities
  refine ⟨response, hResponse, forall₂_congr fun stage hStage => ?_⟩
  rw [hTotals stage hStage, add_eq_left]

end Totals

def estimatedOpportunity (id : ℕ) (amount : Money) : Opportunity :=
  { Opportunities.newOpportunity id 1 (some amount) with
    annualFinancialImpactStatus := "estimated"
    annualFinancialImpactSourceBasis := some "manual_estimate"
    annualFinancialImpactEffectiveFrom := some ⟨2026, 2, 1, by decide⟩ }

def flourSaving : RegisterRow := ⟨estimatedOpportunity 1 ⟨10000000⟩, some .hardSaving, by decide⟩

def paymentTermsRelease : RegisterRow :=
  ⟨estimatedOpportunity 2 ⟨5000000⟩, some .workingCapital, by decide⟩

/-- A saving of 1000 and a one-time release of 500 make a stage total of 1500. -/
theorem release_blended : ∃ response, getSavingsWaterfall [flourSaving, paymentTermsRelease] =
    .ok response ∧
    response.totals.identified.value = 1500 ∧
      ¬ RecurringOnly [flourSaving, paymentTermsRelease] response := by
  obtain ⟨response, hResponse, hTotals⟩ :=
    getSavingsWaterfall_returns [flourSaving, paymentTermsRelease]
  have hRecurring : stageSum [flourSaving, paymentTermsRelease] .identified false = 1000 := by
    change FixedPoint.value (⟨10000000⟩ : Money) + 0 = 1000
    norm_num [FixedPoint.value]
  have hOneTime : stageSum [flourSaving, paymentTermsRelease] .identified true = 500 := by
    change FixedPoint.value (⟨5000000⟩ : Money) + 0 = 500
    norm_num [FixedPoint.value]
  have hTotal := hTotals .identified (by decide)
  rw [hRecurring, hOneTime] at hTotal
  refine ⟨response, hResponse, hTotal.trans (by norm_num), fun hOnly => ?_⟩
  have hSame := hOnly .identified (by decide)
  rw [hTotal, hRecurring] at hSame
  norm_num at hSame

end ProcureFoundation.SavingsRegister
