import ProcureFoundation.Foundation.ThreeValued
import ProcureFoundation.Rebate.Calculations

/-!
# Rows of the evidence-state tables

The event log, the evidence attached to its events, and the two parent tables whose
snapshot columns the log governs. Columns that a CHECK restricts to a vocabulary stay
texts, since the CHECK is what restricts them. Columns that nothing below reads or
writes are left out.
-/

namespace ProcureFoundation.Evidence

open Rebate

abbrev Timestamp := ℕ

/-- The eight governed values that an event records before and after a change. -/
structure AmountState where
  amount : Option Money
  status : Option String
  sourceBasis : Option String
  calculatedAt : Option Timestamp
  approvedAt : Option Timestamp
  approvedByUserId : Option ℕ
  effectivePeriodStart : Option Date
  effectivePeriodEnd : Option Date
deriving DecidableEq

def AmountState.null : AmountState := ⟨none, none, none, none, none, none, none, none⟩

structure FinancialAmountStatusEvent where
  id : ℕ
  organisationId : ℕ
  rebatePeriodActualId : Option ℕ
  opportunityId : Option ℕ
  measureCode : String
  eventVersion : ℤ
  old : AmountState
  new : AmountState
  actorUserId : Option ℕ
  changeReference : String
  changeReasonCode : String
deriving DecidableEq

def FinancialAmountStatusEvent.series (e : FinancialAmountStatusEvent) :
    Option ℕ × Option ℕ × String :=
  (e.rebatePeriodActualId, e.opportunityId, e.measureCode)

structure FinancialAmountEvidence where
  organisationId : ℕ
  eventId : ℕ
  evidenceType : String
  externalReference : String
deriving DecidableEq

structure RebatePeriodActual where
  id : ℕ
  organisationId : ℕ
  rebateAgreementId : ℕ
  periodStart : Date
  periodEnd : Date
  actualSpend : Option Money
  actualVolume : Option Money
  entrySource : EntrySource
  expectedAmount : Option Money
  expectedAmountStatus : String
  expectedAmountSourceBasis : Option String
  expectedAmountCalculatedAt : Option Timestamp
  expectedAmountApprovedAt : Option Timestamp
  expectedAmountApprovedByUserId : Option ℕ
  expectedAmountCurrentEventId : Option ℕ
  earnedAmount : Option Money
  earnedAt : Option Timestamp
  receivedAmount : Option Money
  receivedReference : Option String
  status : RebateStatus
  statusCalculatedAt : Option Timestamp
deriving DecidableEq

inductive WaterfallStage where
  | identified
  | validated
  | approved
  | implementation
  | realised
  | rejected
  | expired
deriving DecidableEq

def WaterfallStage.text : WaterfallStage → String
  | .identified => "identified"
  | .validated => "validated"
  | .approved => "approved"
  | .implementation => "implementation"
  | .realised => "realised"
  | .rejected => "rejected"
  | .expired => "expired"

structure Opportunity where
  id : ℕ
  organisationId : ℕ
  annualFinancialImpact : Option Money
  annualFinancialImpactStatus : String
  annualFinancialImpactSourceBasis : Option String
  annualFinancialImpactCalculatedAt : Option Timestamp
  annualFinancialImpactEffectiveFrom : Option Date
  annualFinancialImpactCurrentEventId : Option ℕ
  realisedSavings : Option Money
  realisedSavingsStatus : String
  realisedSavingsSourceBasis : Option String
  realisedSavingsCalculatedAt : Option Timestamp
  realisedSavingsApprovedAt : Option Timestamp
  realisedSavingsApprovedByUserId : Option ℕ
  realisedSavingsEffectivePeriodStart : Option Date
  realisedSavingsEffectivePeriodEnd : Option Date
  realisedSavingsCurrentEventId : Option ℕ
  status : WaterfallStage
  approvedByUserId : Option ℕ
  approvedAt : Option Timestamp
deriving DecidableEq

end ProcureFoundation.Evidence
