import ProcureFoundation.Evidence.Rows
import ProcureFoundation.Foundation.StoredColumns

/-!
# CHECK constraints of the evidence-state migration

Each constraint is the condition written in the migration, in three-valued logic and
with its branches in the same order. The state-combination rule is written twice there,
once over the event's `new_*` columns and once for each parent measure.
-/

namespace ProcureFoundation.Evidence

open ThreeValued

section Events

variable (e : FinancialAmountStatusEvent)

def ckFamevMeasureCode : Truth :=
  isIn (some e.measureCode) ["expected_amount", "annual_financial_impact", "realised_savings"]

def ckFamevExactlyOneParent : Truth :=
  anyOf [allOf [isNotNull e.rebatePeriodActualId, isNull e.opportunityId],
    allOf [isNull e.rebatePeriodActualId, isNotNull e.opportunityId]]

def ckFamevRebateParentMeasure : Truth :=
  anyOf [isNull e.rebatePeriodActualId, equals (some e.measureCode) (some "expected_amount")]

def ckFamevOpportunityParentMeasure : Truth :=
  anyOf [isNull e.opportunityId,
    isIn (some e.measureCode) ["annual_financial_impact", "realised_savings"]]

def ckFamevVersionPositive : Truth := below (some 0) (some e.eventVersion)

def ckFamevGenesisOldFieldsNull : Truth :=
  anyOf [differs (some e.eventVersion) (some 1),
    allOf [isNull e.old.amount, isNull e.old.status, isNull e.old.sourceBasis,
      isNull e.old.calculatedAt, isNull e.old.approvedAt, isNull e.old.approvedByUserId,
      isNull e.old.effectivePeriodStart, isNull e.old.effectivePeriodEnd]]

def ckFamevReasonCodeVocabulary : Truth :=
  isIn (some e.changeReasonCode) ["initial_backfill", "manual_estimate", "recalculation",
    "evidence_received", "correction", "evidence_withdrawn", "source_data_restated"]

def ckFamevStatusValidForMeasure : Truth :=
  anyOf [
    allOf [equals (some e.measureCode) (some "expected_amount"), isIn e.new.status
      ["unknown", "not_applicable", "legacy_unverified", "estimated", "calculated", "confirmed"]],
    allOf [equals (some e.measureCode) (some "annual_financial_impact"), isIn e.new.status
      ["unknown", "not_applicable", "legacy_unverified", "estimated", "calculated"]],
    allOf [equals (some e.measureCode) (some "realised_savings"), isIn e.new.status
      ["unknown", "not_applicable", "legacy_unverified", "calculated", "confirmed"]]]

def ckFamevStateCombination : Truth :=
  let measureIs := fun code => equals (some e.measureCode) (some code)
  let statusIs := fun status => equals e.new.status (some status)
  let basisIs := fun basis => equals e.new.sourceBasis (some basis)
  anyOf [
    allOf [measureIs "expected_amount", isIn e.new.status ["unknown", "not_applicable"],
      isNull e.new.amount, isNull e.new.sourceBasis, isNull e.new.calculatedAt,
      isNull e.new.approvedAt, isNull e.new.approvedByUserId],
    allOf [measureIs "expected_amount", statusIs "legacy_unverified",
      isNotNull e.new.amount, isNull e.new.sourceBasis, isNull e.new.calculatedAt,
      isNull e.new.approvedAt, isNull e.new.approvedByUserId],
    allOf [measureIs "expected_amount", statusIs "estimated",
      isNotNull e.new.amount, isNotNull e.new.sourceBasis, basisIs "manual_estimate",
      isNull e.new.calculatedAt, isNull e.new.approvedAt, isNull e.new.approvedByUserId],
    allOf [measureIs "expected_amount", statusIs "calculated",
      isNotNull e.new.amount, isNotNull e.new.sourceBasis, basisIs "contract_terms_calculation",
      isNotNull e.new.calculatedAt, isNull e.new.approvedAt, isNull e.new.approvedByUserId],
    allOf [measureIs "expected_amount", statusIs "confirmed",
      isNotNull e.new.amount, isNotNull e.new.sourceBasis,
      isIn e.new.sourceBasis ["supplier_statement", "credit_note"],
      isNull e.new.calculatedAt, isNotNull e.new.approvedAt, isNotNull e.new.approvedByUserId],
    allOf [measureIs "annual_financial_impact", isIn e.new.status ["unknown", "not_applicable"],
      isNull e.new.amount, isNull e.new.sourceBasis, isNull e.new.calculatedAt,
      isNull e.new.approvedAt, isNull e.new.approvedByUserId,
      isNull e.new.effectivePeriodStart, isNull e.new.effectivePeriodEnd],
    allOf [measureIs "annual_financial_impact", statusIs "legacy_unverified",
      isNotNull e.new.amount, isNull e.new.sourceBasis, isNull e.new.calculatedAt,
      isNull e.new.approvedAt, isNull e.new.approvedByUserId,
      isNull e.new.effectivePeriodStart, isNull e.new.effectivePeriodEnd],
    allOf [measureIs "annual_financial_impact", statusIs "estimated",
      isNotNull e.new.amount, isNotNull e.new.sourceBasis, basisIs "manual_estimate",
      isNull e.new.calculatedAt, isNull e.new.approvedAt, isNull e.new.approvedByUserId,
      isNotNull e.new.effectivePeriodStart, isNull e.new.effectivePeriodEnd],
    allOf [measureIs "annual_financial_impact", statusIs "calculated",
      isNotNull e.new.amount, isNotNull e.new.sourceBasis, basisIs "price_review_calculation",
      isNotNull e.new.calculatedAt, isNull e.new.approvedAt, isNull e.new.approvedByUserId,
      isNotNull e.new.effectivePeriodStart, isNull e.new.effectivePeriodEnd],
    allOf [measureIs "realised_savings", isIn e.new.status ["unknown", "not_applicable"],
      isNull e.new.amount, isNull e.new.sourceBasis, isNull e.new.calculatedAt,
      isNull e.new.approvedAt, isNull e.new.approvedByUserId,
      isNull e.new.effectivePeriodStart, isNull e.new.effectivePeriodEnd],
    allOf [measureIs "realised_savings", statusIs "legacy_unverified",
      isNotNull e.new.amount, isNull e.new.sourceBasis, isNull e.new.calculatedAt,
      isNull e.new.approvedAt, isNull e.new.approvedByUserId,
      isNull e.new.effectivePeriodStart, isNull e.new.effectivePeriodEnd],
    allOf [measureIs "realised_savings", statusIs "calculated",
      isNotNull e.new.amount, isNotNull e.new.sourceBasis, basisIs "actual_cost_data_calculation",
      isNotNull e.new.calculatedAt, isNull e.new.approvedAt, isNull e.new.approvedByUserId,
      isNotNull e.new.effectivePeriodStart, isNotNull e.new.effectivePeriodEnd,
      atMost e.new.effectivePeriodStart e.new.effectivePeriodEnd],
    allOf [measureIs "realised_savings", statusIs "confirmed",
      isNotNull e.new.amount, isNotNull e.new.sourceBasis, basisIs "reconciled_actuals",
      isNull e.new.calculatedAt, isNotNull e.new.approvedAt, isNotNull e.new.approvedByUserId,
      isNotNull e.new.effectivePeriodStart, isNotNull e.new.effectivePeriodEnd,
      atMost e.new.effectivePeriodStart e.new.effectivePeriodEnd]]

/-- NOT NULL on `new_status`, every CHECK of the event table, and the digits of its amounts. -/
def FinancialAmountStatusEvent.rowAccepted : Bool :=
  e.new.status.isSome && passes (ckFamevMeasureCode e) && passes (ckFamevExactlyOneParent e) &&
    passes (ckFamevRebateParentMeasure e) && passes (ckFamevOpportunityParentMeasure e) &&
    passes (ckFamevVersionPositive e) && passes (ckFamevGenesisOldFieldsNull e) &&
    passes (ckFamevReasonCodeVocabulary e) && passes (ckFamevStatusValidForMeasure e) &&
    passes (ckFamevStateCombination e) && fitsNumeric 18 e.old.amount && fitsNumeric 18 e.new.amount

/-- The two sequence constraints, in which a null parent equals nothing. -/
def uqFamevRebateSeq (f : FinancialAmountStatusEvent) : Bool :=
  !(holds (equals f.rebatePeriodActualId e.rebatePeriodActualId) && f.measureCode ==
    e.measureCode &&
    f.eventVersion == e.eventVersion)

def uqFamevOpportunitySeq (f : FinancialAmountStatusEvent) : Bool :=
  !(holds (equals f.opportunityId e.opportunityId) && f.measureCode == e.measureCode &&
    f.eventVersion == e.eventVersion)

end Events

def ckFamevEvidTypeVocabulary (evidence : FinancialAmountEvidence) : Truth :=
  isIn (some evidence.evidenceType) ["invoice", "credit_note", "supplier_statement", "gl_posting",
    "documented_baseline", "actual_cost_source", "variance_calculation_reference",
    "supporting_document"]

section RebatePeriodActuals

variable (r : RebatePeriodActual)

def ckRebatePeriodEndAfterStart : Truth := below (some r.periodStart) (some r.periodEnd)

def ckRpaExpectedAmountStatusValid : Truth :=
  isIn (some r.expectedAmountStatus)
    ["unknown", "not_applicable", "legacy_unverified", "estimated", "calculated", "confirmed"]

def ckRpaExpectedAmountSourceBasisVocabulary : Truth :=
  anyOf [isNull r.expectedAmountSourceBasis, isIn r.expectedAmountSourceBasis
    ["manual_estimate", "contract_terms_calculation", "supplier_statement", "credit_note"]]

def ckRpaExpectedAmountStateCombination : Truth :=
  let statusIs := fun status => equals (some r.expectedAmountStatus) (some status)
  let basisIs := fun basis => equals r.expectedAmountSourceBasis (some basis)
  anyOf [
    allOf [isIn (some r.expectedAmountStatus) ["unknown", "not_applicable"],
      isNull r.expectedAmount, isNull r.expectedAmountSourceBasis,
      isNull r.expectedAmountCalculatedAt, isNull r.expectedAmountApprovedAt,
      isNull r.expectedAmountApprovedByUserId],
    allOf [statusIs "legacy_unverified",
      isNotNull r.expectedAmount, isNull r.expectedAmountSourceBasis,
      isNull r.expectedAmountCalculatedAt, isNull r.expectedAmountApprovedAt,
      isNull r.expectedAmountApprovedByUserId],
    allOf [statusIs "estimated",
      isNotNull r.expectedAmount, isNotNull r.expectedAmountSourceBasis, basisIs "manual_estimate",
      isNull r.expectedAmountCalculatedAt, isNull r.expectedAmountApprovedAt,
      isNull r.expectedAmountApprovedByUserId],
    allOf [statusIs "calculated",
      isNotNull r.expectedAmount, isNotNull r.expectedAmountSourceBasis,
      basisIs "contract_terms_calculation", isNotNull r.expectedAmountCalculatedAt,
      isNull r.expectedAmountApprovedAt, isNull r.expectedAmountApprovedByUserId],
    allOf [statusIs "confirmed",
      isNotNull r.expectedAmount, isNotNull r.expectedAmountSourceBasis,
      isIn r.expectedAmountSourceBasis ["supplier_statement", "credit_note"],
      isNull r.expectedAmountCalculatedAt, isNotNull r.expectedAmountApprovedAt,
      isNotNull r.expectedAmountApprovedByUserId]]

/-- The amounts that are entered or added up have fourteen digits before the point. -/
def RebatePeriodActual.figuresFit : Bool :=
  fitsNumeric 18 r.actualSpend && fitsNumeric 18 r.actualVolume && fitsNumeric 18 r.earnedAmount &&
    fitsNumeric 18 r.receivedAmount

def RebatePeriodActual.rowAccepted : Bool :=
  passes (ckRebatePeriodEndAfterStart r) && passes (ckRpaExpectedAmountStatusValid r) &&
    passes (ckRpaExpectedAmountSourceBasisVocabulary r) &&
    passes (ckRpaExpectedAmountStateCombination r) && fitsNumeric 18 r.expectedAmount &&
      r.figuresFit

end RebatePeriodActuals

section Opportunities

variable (o : Opportunity)

def ckOppAfiStatusValid : Truth :=
  isIn (some o.annualFinancialImpactStatus)
    ["unknown", "not_applicable", "legacy_unverified", "estimated", "calculated"]

def ckOppAfiSourceBasisVocabulary : Truth :=
  anyOf [isNull o.annualFinancialImpactSourceBasis,
    isIn o.annualFinancialImpactSourceBasis ["manual_estimate", "price_review_calculation"]]

def ckOppAfiStateCombination : Truth :=
  let statusIs := fun status => equals (some o.annualFinancialImpactStatus) (some status)
  let basisIs := fun basis => equals o.annualFinancialImpactSourceBasis (some basis)
  anyOf [
    allOf [isIn (some o.annualFinancialImpactStatus) ["unknown", "not_applicable"],
      isNull o.annualFinancialImpact, isNull o.annualFinancialImpactSourceBasis,
      isNull o.annualFinancialImpactCalculatedAt, isNull o.annualFinancialImpactEffectiveFrom],
    allOf [statusIs "legacy_unverified",
      isNotNull o.annualFinancialImpact, isNull o.annualFinancialImpactSourceBasis,
      isNull o.annualFinancialImpactCalculatedAt, isNull o.annualFinancialImpactEffectiveFrom],
    allOf [statusIs "estimated",
      isNotNull o.annualFinancialImpact, isNotNull o.annualFinancialImpactSourceBasis,
      basisIs "manual_estimate", isNull o.annualFinancialImpactCalculatedAt,
      isNotNull o.annualFinancialImpactEffectiveFrom],
    allOf [statusIs "calculated",
      isNotNull o.annualFinancialImpact, isNotNull o.annualFinancialImpactSourceBasis,
      basisIs "price_review_calculation", isNotNull o.annualFinancialImpactCalculatedAt,
      isNotNull o.annualFinancialImpactEffectiveFrom]]

def ckOppRsStatusValid : Truth :=
  isIn (some o.realisedSavingsStatus)
    ["unknown", "not_applicable", "legacy_unverified", "calculated", "confirmed"]

def ckOppRsSourceBasisVocabulary : Truth :=
  anyOf [isNull o.realisedSavingsSourceBasis,
    isIn o.realisedSavingsSourceBasis ["actual_cost_data_calculation", "reconciled_actuals"]]

def ckOppRsStateCombination : Truth :=
  let statusIs := fun status => equals (some o.realisedSavingsStatus) (some status)
  let basisIs := fun basis => equals o.realisedSavingsSourceBasis (some basis)
  anyOf [
    allOf [isIn (some o.realisedSavingsStatus) ["unknown", "not_applicable"],
      isNull o.realisedSavings, isNull o.realisedSavingsSourceBasis,
      isNull o.realisedSavingsCalculatedAt, isNull o.realisedSavingsApprovedAt,
      isNull o.realisedSavingsApprovedByUserId, isNull o.realisedSavingsEffectivePeriodStart,
      isNull o.realisedSavingsEffectivePeriodEnd],
    allOf [statusIs "legacy_unverified",
      isNotNull o.realisedSavings, isNull o.realisedSavingsSourceBasis,
      isNull o.realisedSavingsCalculatedAt, isNull o.realisedSavingsApprovedAt,
      isNull o.realisedSavingsApprovedByUserId, isNull o.realisedSavingsEffectivePeriodStart,
      isNull o.realisedSavingsEffectivePeriodEnd],
    allOf [statusIs "calculated",
      isNotNull o.realisedSavings, isNotNull o.realisedSavingsSourceBasis,
      basisIs "actual_cost_data_calculation", isNotNull o.realisedSavingsCalculatedAt,
      isNull o.realisedSavingsApprovedAt, isNull o.realisedSavingsApprovedByUserId,
      isNotNull o.realisedSavingsEffectivePeriodStart,
      isNotNull o.realisedSavingsEffectivePeriodEnd,
      atMost o.realisedSavingsEffectivePeriodStart o.realisedSavingsEffectivePeriodEnd],
    allOf [statusIs "confirmed",
      isNotNull o.realisedSavings, isNotNull o.realisedSavingsSourceBasis,
      basisIs "reconciled_actuals", isNull o.realisedSavingsCalculatedAt,
      isNotNull o.realisedSavingsApprovedAt, isNotNull o.realisedSavingsApprovedByUserId,
      isNotNull o.realisedSavingsEffectivePeriodStart,
      isNotNull o.realisedSavingsEffectivePeriodEnd,
      atMost o.realisedSavingsEffectivePeriodStart o.realisedSavingsEffectivePeriodEnd]]

def Opportunity.rowAccepted : Bool :=
  passes (ckOppAfiStatusValid o) && passes (ckOppAfiSourceBasisVocabulary o) &&
    passes (ckOppAfiStateCombination o) && passes (ckOppRsStatusValid o) &&
    passes (ckOppRsSourceBasisVocabulary o) && passes (ckOppRsStateCombination o) &&
    fitsNumeric 18 o.annualFinancialImpact && fitsNumeric 18 o.realisedSavings

end Opportunities

end ProcureFoundation.Evidence
