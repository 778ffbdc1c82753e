import ProcureFoundation.Evidence.Session

/-!
# The opportunity service

Four functions write opportunities. Three of them go through the helper that writes one
event for one measure; the price review builds the row itself. Messages quote a status
without the escapes that a status with quotes in it would need.
-/

namespace ProcureFoundation.Opportunities

open Evidence ThreeValued KeyedRows

def unknownState : AmountState := { AmountState.null with status := some "unknown" }

def estimatedState (amount : Money) (effectiveFrom : Option Date) : AmountState :=
  { AmountState.null with
    amount := some amount
    status := some "estimated"
    sourceBasis := some "manual_estimate"
    effectivePeriodStart := effectiveFrom }

def confirmedState (amount : Money) (approvedAt : Timestamp) (userId : ℕ)
    (periodStart periodEnd : Date) : AmountState :=
  { AmountState.null with
    amount := some amount
    status := some "confirmed"
    sourceBasis := some "reconciled_actuals"
    approvedAt := some approvedAt
    approvedByUserId := some userId
    effectivePeriodStart := some periodStart
    effectivePeriodEnd := some periodEnd }

def measureSnapshot (opportunity : Opportunity) (measure : Measure) : Snapshot :=
  if measure = .annualFinancialImpact then opportunity.annualFinancialImpactSnapshot
  else opportunity.realisedSavingsSnapshot

def measureEvent (locked : Opportunity) (measure : Measure) (eventId : ℕ) (version : ℤ)
    (new : AmountState) (actorUserId : Option ℕ) (changeReference changeReasonCode : String) :
    FinancialAmountStatusEvent where
  id := eventId
  organisationId := locked.organisationId
  rebatePeriodActualId := none
  opportunityId := some locked.id
  measureCode := measure.code
  eventVersion := version
  old := if version = 1 then AmountState.null else (measureSnapshot locked measure).columns
  new := new
  actorUserId := actorUserId
  changeReference := changeReference
  changeReasonCode := changeReasonCode

def withMeasure (locked : Opportunity) (measure : Measure) (new : AmountState) (eventId : ℕ) :
    Opportunity :=
  if measure = .annualFinancialImpact then
    { locked with
      annualFinancialImpact := new.amount
      annualFinancialImpactStatus := new.status.getD ""
      annualFinancialImpactSourceBasis := new.sourceBasis
      annualFinancialImpactCalculatedAt := new.calculatedAt
      annualFinancialImpactEffectiveFrom := new.effectivePeriodStart
      annualFinancialImpactCurrentEventId := some eventId }
  else
    { locked with
      realisedSavings := new.amount
      realisedSavingsStatus := new.status.getD ""
      realisedSavingsSourceBasis := new.sourceBasis
      realisedSavingsCalculatedAt := new.calculatedAt
      realisedSavingsApprovedAt := new.approvedAt
      realisedSavingsApprovedByUserId := new.approvedByUserId
      realisedSavingsEffectivePeriodStart := new.effectivePeriodStart
      realisedSavingsEffectivePeriodEnd := new.effectivePeriodEnd
      realisedSavingsCurrentEventId := some eventId }

/-- Returns the row with its last changes still unsent, and the event's id. -/
def writeOpportunityMeasureEvent (session : Session) (opportunity : Opportunity) (measure : Measure)
    (new : AmountState) (actorUserId : Option ℕ) (changeReference changeReasonCode : String) :
    Except ServiceError (Session × Opportunity × ℕ) := do
  let locked ← session.run (.updateOpportunity opportunity)
  if measure = .expectedAmount then
    throw (.value "_write_opportunity_measure_event does not support measure_code='expected_amount'")
  let version := nextVersion locked.db.events measure opportunity.id
  let event :=
    measureEvent opportunity measure locked.nextEventId version new actorUserId changeReference
      changeReasonCode
  let inserted ← locked.insertEvent event
  return (inserted, withMeasure opportunity measure new event.id, event.id)

/-- The fields that a pattern restricts are left out. -/
structure OpportunityCreate where
  title : String
  opportunityType : String
  supplierPublicId : Option ℕ
  description : Option String
  annualFinancialImpact : Option ℚ
  annualFinancialImpactEffectiveFrom : Option Date
  baselineValue : Option ℚ
deriving DecidableEq

/-- Whether the columns that hold them take the values that no other function reads. -/
def OpportunityCreate.columnsFit (payload : OpportunityCreate) : Bool :=
  textFits 255 (some payload.title) && textFits 32 (some payload.opportunityType) &&
    textFits 2048 payload.description &&
    fitsNumeric 18 (payload.baselineValue.map (FixedPoint.assign 4))

/-- The row as it is first flushed, with placeholder statuses until the genesis events. -/
def newOpportunity (id organisationId : ℕ) (annualFinancialImpact : Option Money) :
    Opportunity where
  id := id
  organisationId := organisationId
  annualFinancialImpact := annualFinancialImpact
  annualFinancialImpactStatus := "unknown"
  annualFinancialImpactSourceBasis := none
  annualFinancialImpactCalculatedAt := none
  annualFinancialImpactEffectiveFrom := none
  annualFinancialImpactCurrentEventId := none
  realisedSavings := none
  realisedSavingsStatus := "unknown"
  realisedSavingsSourceBasis := none
  realisedSavingsCalculatedAt := none
  realisedSavingsApprovedAt := none
  realisedSavingsApprovedByUserId := none
  realisedSavingsEffectivePeriodStart := none
  realisedSavingsEffectivePeriodEnd := none
  realisedSavingsCurrentEventId := none
  status := .identified
  approvedByUserId := none
  approvedAt := none

/-- What the genesis event of the impact says about the given amount. -/
def createdImpact (payload : OpportunityCreate) : AmountState :=
  match payload.annualFinancialImpact with
  | some amount =>
    estimatedState (FixedPoint.assign 4 amount) payload.annualFinancialImpactEffectiveFrom
  | none => unknownState

/-- The public ids of the suppliers that the query can see are a parameter. -/
def createOpportunity (session : Session) (supplierPublicIds : List ℕ)
    (opportunityId organisationId userId : ℕ) (payload : OpportunityCreate) :
    Except ServiceError (Session × Opportunity) := do
  if payload.supplierPublicId.any fun publicId => decide (publicId ∉ supplierPublicIds) then
    throw (.notFound "Supplier not found")
  if payload.annualFinancialImpact.isSome ∧ payload.annualFinancialImpactEffectiveFrom.isNone then
    throw (.conflict ("annual_financial_impact requires annual_financial_impact_effective_from to be " ++
      "given alongside it - an estimate with no stated period can't be recorded as one"))
  if ¬payload.columnsFit then throw .database
  let opportunity := newOpportunity opportunityId organisationId none
  let reference := "opportunity_created:" ++ toString opportunity.id
  let session ← session.run (.insertOpportunity opportunity)
  let (session, opportunity, _) ← writeOpportunityMeasureEvent session opportunity .annualFinancialImpact
    (createdImpact payload) (some userId) reference "manual_estimate"
  let (session, opportunity, _) ← writeOpportunityMeasureEvent session opportunity .realisedSavings
    unknownState
    (some userId) reference "manual_estimate"
  let session ← session.run (.updateOpportunity opportunity)
  return (session, opportunity)

def waterfallOrder : List WaterfallStage :=
  [.identified, .validated, .approved, .implementation, .realised]

/-- Rejected and expired stand before the first stage of the order. -/
def waterfallIndex (stage : WaterfallStage) : ℤ :=
  if stage ∈ waterfallOrder then waterfallOrder.idxOf stage else -1

def advancedRow (opportunity : Opportunity) (userId : ℕ) (targetStatus : String) (now : Timestamp) :
    Except ServiceError Opportunity :=
  if targetStatus = "rejected" then .ok { opportunity with status := .rejected }
  else if targetStatus = "expired" then .ok { opportunity with status := .expired }
  else
    match waterfallOrder.find? fun stage => stage.text == targetStatus with
    | none => .error (.conflict ("Unknown waterfall stage: '" ++ targetStatus ++ "'"))
    | some target =>
      if waterfallIndex target ≠ waterfallIndex opportunity.status + 1 then
        .error (.conflict ("Cannot move from '" ++ opportunity.status.text ++ "' to '" ++ targetStatus ++
          "' - the waterfall advances one stage at a time"))
      else if target = .approved then
        .ok { opportunity with status := target, approvedByUserId := some userId, approvedAt := some now }
      else .ok { opportunity with status := target }

def advanceWaterfallStage (session : Session) (userId : ℕ) (opportunity : Opportunity)
    (targetStatus : String) (now : Timestamp) : Except ServiceError (Session × Opportunity) := do
  let opportunity ← advancedRow opportunity userId targetStatus now
  let session ← session.run (.updateOpportunity opportunity)
  return (session, opportunity)

structure OpportunityRealise where
  realisedSavings : ℚ
  effectivePeriodStart : Date
  effectivePeriodEnd : Date
  documentedBaselineReference : String
  actualCostSourceReference : String
  varianceCalculationReference : String
deriving DecidableEq

def OpportunityRealise.columnsFit (payload : OpportunityRealise) (changeReference : String) :
    Bool :=
  textFits 128 (some payload.documentedBaselineReference) &&
    textFits 128 (some payload.actualCostSourceReference) &&
    textFits 128 (some payload.varianceCalculationReference) && textFits 128 (some changeReference)

def realisedEvidence (organisationId eventId : ℕ) (payload : OpportunityRealise) :
    List FinancialAmountEvidence :=
  [⟨organisationId, eventId, "documented_baseline", payload.documentedBaselineReference⟩,
    ⟨organisationId, eventId, "actual_cost_source", payload.actualCostSourceReference⟩,
    ⟨organisationId, eventId, "variance_calculation_reference",
      payload.varianceCalculationReference⟩]

def recordRealisedSavings (session : Session) (organisationId userId : ℕ)
    (opportunity : Opportunity) (payload : OpportunityRealise) (changeReference : String)
    (now : Timestamp) :
    Except ServiceError (Session × Opportunity) := do
  if opportunity.status ≠ .implementation then
    throw (.conflict ("Cannot record realised savings from status '" ++ opportunity.status.text ++
      "' - an opportunity must be in 'implementation' first"))
  if payload.effectivePeriodEnd < payload.effectivePeriodStart then
    throw (.conflict "effective_period_start must not be after effective_period_end")
  if ¬payload.columnsFit changeReference then throw .database
  let (session, opportunity, eventId) ← writeOpportunityMeasureEvent session opportunity .realisedSavings
    (confirmedState (FixedPoint.assign 4 payload.realisedSavings) now userId payload.effectivePeriodStart
      payload.effectivePeriodEnd) (some userId) changeReference "evidence_received"
  let opportunity := { opportunity with status := WaterfallStage.realised }
  let session ← (realisedEvidence organisationId eventId payload).foldlM
    (fun session evidence => session.run (.insertEvidence evidence)) session
  let session ← session.run (.updateOpportunity opportunity)
  return (session, opportunity)

/-- The price-review line as far as an opportunity's governed columns come from it. -/
structure PriceReviewLine where
  id : ℕ
  annualImpact : Option Money
deriving DecidableEq

/-- The impact of the line, whatever it is, under the statuses that the columns default to. -/
def createOpportunityFromLine (session : Session) (opportunityId organisationId : ℕ)
    (line : PriceReviewLine) : Except ServiceError (Session × Opportunity) := do
  let opportunity := newOpportunity opportunityId organisationId line.annualImpact
  let session ← session.run (.insertOpportunity opportunity)
  return (session, opportunity)

end ProcureFoundation.Opportunities
