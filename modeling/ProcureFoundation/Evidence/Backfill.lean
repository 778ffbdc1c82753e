import ProcureFoundation.Evidence.Transactions

/-!
# The backfill of the evidence-state migration

The migration adds the columns of the evidence state to the two parent tables, writes a status for
every amount, inserts a first event for every measure of every row and points the rows to their
events. The constraints of the parents are created afterwards and judge all rows at once. It runs as
the owner of the database, whom no row policy binds.
-/

namespace ProcureFoundation.Evidence

open Rebate ThreeValued KeyedRows

/-- The columns of `rebate_period_actuals` before the migration. -/
structure PeriodColumns where
  id : ℕ
  organisationId : ℕ
  rebateAgreementId : ℕ
  periodStart : Date
  periodEnd : Date
  actualSpend : Option Money
  actualVolume : Option Money
  entrySource : EntrySource
  expectedAmount : Option Money
  earnedAmount : Option Money
  earnedAt : Option Timestamp
  receivedAmount : Option Money
  receivedReference : Option String
  status : RebateStatus
  statusCalculatedAt : Option Timestamp

/-- The columns of `opportunities` before the migration. -/
structure OpportunityColumns where
  id : ℕ
  organisationId : ℕ
  annualFinancialImpact : Option Money
  realisedSavings : Option Money
  status : WaterfallStage
  approvedByUserId : Option ℕ
  approvedAt : Option Timestamp

/-- The columns of amounts have fourteen digits before the point. -/
def PeriodColumns.fits (row : PeriodColumns) : Bool :=
  fitsNumeric 18 row.expectedAmount &&
    (fitsNumeric 18 row.actualSpend && fitsNumeric 18 row.actualVolume &&
    fitsNumeric 18 row.earnedAmount && fitsNumeric 18 row.receivedAmount)

def OpportunityColumns.fits (row : OpportunityColumns) : Bool :=
  fitsNumeric 18 row.annualFinancialImpact && fitsNumeric 18 row.realisedSavings

/-- The parent tables before the migration, with the constraints that they have by then. -/
structure LegacyTables where
  rebatePeriodActuals : List PeriodColumns
  opportunities : List OpportunityColumns
  periodIds : (rebatePeriodActuals.map PeriodColumns.id).Nodup
  opportunityIds : (opportunities.map OpportunityColumns.id).Nodup
  periodsFit : ∀ row ∈ rebatePeriodActuals, row.fits = true
  opportunitiesFit : ∀ row ∈ opportunities, row.fits = true
  periodEndAfterStart : ∀ row ∈ rebatePeriodActuals, row.periodStart < row.periodEnd
  uqRebatePeriod : (rebatePeriodActuals.map fun row =>
    (row.rebateAgreementId, row.periodStart, row.periodEnd)).Nodup

/-- The new columns are nullable until the backfill is done. -/
structure MigratingPeriod extends PeriodColumns where
  expectedAmountStatus : Option String
  expectedAmountSourceBasis : Option String
  expectedAmountCalculatedAt : Option Timestamp
  expectedAmountApprovedAt : Option Timestamp
  expectedAmountApprovedByUserId : Option ℕ
  expectedAmountCurrentEventId : Option ℕ

structure MigratingOpportunity extends OpportunityColumns where
  annualFinancialImpactStatus : Option String
  annualFinancialImpactSourceBasis : Option String
  annualFinancialImpactCalculatedAt : Option Timestamp
  annualFinancialImpactEffectiveFrom : Option Date
  annualFinancialImpactCurrentEventId : Option ℕ
  realisedSavingsStatus : Option String
  realisedSavingsSourceBasis : Option String
  realisedSavingsCalculatedAt : Option Timestamp
  realisedSavingsApprovedAt : Option Timestamp
  realisedSavingsApprovedByUserId : Option ℕ
  realisedSavingsEffectivePeriodStart : Option Date
  realisedSavingsEffectivePeriodEnd : Option Date
  realisedSavingsCurrentEventId : Option ℕ

structure MigratingDb where
  periods : List MigratingPeriod
  opportunities : List MigratingOpportunity
  events : List FinancialAmountStatusEvent

def PeriodColumns.addColumns (row : PeriodColumns) : MigratingPeriod :=
  { row with
    expectedAmountStatus := none
    expectedAmountSourceBasis := none
    expectedAmountCalculatedAt := none
    expectedAmountApprovedAt := none
    expectedAmountApprovedByUserId := none
    expectedAmountCurrentEventId := none }

def OpportunityColumns.addColumns (row : OpportunityColumns) : MigratingOpportunity :=
  { row with
    annualFinancialImpactStatus := none
    annualFinancialImpactSourceBasis := none
    annualFinancialImpactCalculatedAt := none
    annualFinancialImpactEffectiveFrom := none
    annualFinancialImpactCurrentEventId := none
    realisedSavingsStatus := none
    realisedSavingsSourceBasis := none
    realisedSavingsCalculatedAt := none
    realisedSavingsApprovedAt := none
    realisedSavingsApprovedByUserId := none
    realisedSavingsEffectivePeriodStart := none
    realisedSavingsEffectivePeriodEnd := none
    realisedSavingsCurrentEventId := none }

def LegacyTables.addColumns (tables : LegacyTables) : MigratingDb where
  periods := tables.rebatePeriodActuals.map PeriodColumns.addColumns
  opportunities := tables.opportunities.map OpportunityColumns.addColumns
  events := []

def backfilledStatus (amount : Option Money) : String :=
  if holds (isNull amount) then "unknown" else "legacy_unverified"

def MigratingDb.backfillStatuses (db : MigratingDb) : MigratingDb where
  periods := db.periods.map fun row =>
    { row with expectedAmountStatus := some (backfilledStatus row.expectedAmount) }
  opportunities := db.opportunities.map fun row =>
    { row with
      annualFinancialImpactStatus := some (backfilledStatus row.annualFinancialImpact)
      realisedSavingsStatus := some (backfilledStatus row.realisedSavings) }
  events := db.events

/-- The identity column of the event table never gives an identifier twice. -/
structure EventIdentity where
  next : Measure → ℕ → ℕ
  unique : ∀ {m n : Measure} {p q : ℕ}, next m p = next n q → m = n ∧ p = q

/-- One identifier after the other, row by row. -/
instance : Inhabited EventIdentity where
  default :=
    { next := fun measure parentId => 3 * parentId + measure.ctorIdx
      unique := by
        intro m n p q h
        cases m <;> cases n <;>
          simp only [Measure.ctorIdx, reduceCtorEq, true_and, false_and] at h ⊢ <;> omega }

section Inserts

variable (identity : EventIdentity)

def genesisEvent (measure : Measure) (rebatePeriodActualId opportunityId : Option ℕ)
    (parentId organisationId : ℕ) (amount : Option Money) (status : Option String) :
    FinancialAmountStatusEvent where
  id := identity.next measure parentId
  organisationId := organisationId
  rebatePeriodActualId := rebatePeriodActualId
  opportunityId := opportunityId
  measureCode := measure.code
  eventVersion := 1
  old := AmountState.null
  new := { AmountState.null with amount, status }
  actorUserId := none
  changeReference := "system_backfill_migration_0021"
  changeReasonCode := "initial_backfill"

def expectedAmountGenesis (row : MigratingPeriod) : FinancialAmountStatusEvent :=
  genesisEvent identity .expectedAmount (some row.id) none row.id row.organisationId row.expectedAmount
    row.expectedAmountStatus

def annualFinancialImpactGenesis (row : MigratingOpportunity) : FinancialAmountStatusEvent :=
  genesisEvent identity .annualFinancialImpact none (some row.id) row.id row.organisationId
    row.annualFinancialImpact
    row.annualFinancialImpactStatus

def realisedSavingsGenesis (row : MigratingOpportunity) : FinancialAmountStatusEvent :=
  genesisEvent identity .realisedSavings none (some row.id) row.id row.organisationId row.realisedSavings
    row.realisedSavingsStatus

end Inserts

/-- The table takes new events if its checks and unique constraints hold of all rows then, and their
parents exist. -/
def MigratingDb.insertEvents (db : MigratingDb) (inserted : List FinancialAmountStatusEvent) :
    Except String MigratingDb :=
  let events := db.events ++ inserted
  if (∀ e ∈ inserted, e.rowAccepted = true) ∧ (events.map FinancialAmountStatusEvent.id).Nodup ∧
      events.Pairwise (fun e f => uqFamevSeq e f = true) ∧
      ∀ e ∈ inserted, (∀ id ∈ e.rebatePeriodActualId, id ∈ db.periods.map fun row => row.id) ∧
        ∀ id ∈ e.opportunityId, id ∈ db.opportunities.map fun row => row.id then
    .ok { db with events }
  else .error "new row violates a constraint of financial_amount_status_events"

/-- The pointer of a parent after an update from the events joined with it. -/
def joinedEventId (events : List FinancialAmountStatusEvent)
    (parentOf : FinancialAmountStatusEvent → Option ℕ) (measure : String) (parentId : ℕ)
    (current : Option ℕ) : Option ℕ :=
  match events.find? fun ev => holds (equals (parentOf ev) (some parentId)) && ev.measureCode ==
    measure with
  | some ev => some ev.id
  | none => current

def MigratingPeriod.pointExpectedAmount (events : List FinancialAmountStatusEvent)
    (row : MigratingPeriod) : MigratingPeriod :=
  { row with
    expectedAmountCurrentEventId :=
      joinedEventId events FinancialAmountStatusEvent.rebatePeriodActualId
        "expected_amount" row.id row.expectedAmountCurrentEventId }

def MigratingOpportunity.pointAnnualFinancialImpact (events : List FinancialAmountStatusEvent)
    (row : MigratingOpportunity) : MigratingOpportunity :=
  { row with
    annualFinancialImpactCurrentEventId :=
      joinedEventId events FinancialAmountStatusEvent.opportunityId
        "annual_financial_impact" row.id row.annualFinancialImpactCurrentEventId }

def MigratingOpportunity.pointRealisedSavings (events : List FinancialAmountStatusEvent)
    (row : MigratingOpportunity) : MigratingOpportunity :=
  { row with
    realisedSavingsCurrentEventId := joinedEventId events FinancialAmountStatusEvent.opportunityId
      "realised_savings" row.id row.realisedSavingsCurrentEventId }

def MigratingDb.pointExpectedAmount (db : MigratingDb) : MigratingDb :=
  { db with periods := db.periods.map (MigratingPeriod.pointExpectedAmount db.events) }

def MigratingDb.pointAnnualFinancialImpact (db : MigratingDb) : MigratingDb :=
  { db with opportunities := db.opportunities.map (MigratingOpportunity.pointAnnualFinancialImpact db.events) }

def MigratingDb.pointRealisedSavings (db : MigratingDb) : MigratingDb :=
  { db with opportunities := db.opportunities.map (MigratingOpportunity.pointRealisedSavings db.events) }

/-- The two event triggers run on the events that have been inserted. -/
def MigratingDb.setConstraintsImmediate (db : MigratingDb) : Except String Unit :=
  if ∀ e ∈ db.events, checkConfirmedEventHasSufficientEvidence [] e = true ∧
      checkEventChainIntegrity db.events e = true then .ok ()
  else .error "an event trigger raised"

def MigratingPeriod.notNull (row : MigratingPeriod) : Except String RebatePeriodActual :=
  match row.expectedAmountStatus with
  | none => .error "column \"expected_amount_status\" contains null values"
  | some expectedAmountStatus => .ok { row with expectedAmountStatus }

def MigratingOpportunity.notNull (row : MigratingOpportunity) : Except String Opportunity :=
  match row.annualFinancialImpactStatus, row.realisedSavingsStatus with
  | some annualFinancialImpactStatus, some realisedSavingsStatus =>
    .ok { row with annualFinancialImpactStatus, realisedSavingsStatus }
  | _, _ => .error "a status column contains null values"

/-- The constraints of the parents are validated as they are created. -/
def MigratingDb.addConstraints (db : MigratingDb) : Except String Db := do
  let rebatePeriodActuals ← db.periods.mapM MigratingPeriod.notNull
  let opportunities ← db.opportunities.mapM MigratingOpportunity.notNull
  if (∀ row ∈ rebatePeriodActuals, row.rowAccepted = true) ∧ ∀ row ∈ opportunities,
    row.rowAccepted = true then
    return { events := db.events, evidence := [], rebatePeriodActuals, opportunities }
  else .error "a check constraint is violated by some row"

def upgrade (identity : EventIdentity) (tables : LegacyTables) : Except String Db := do
  let backfilled := tables.addColumns.backfillStatuses
  let db ← backfilled.insertEvents (backfilled.periods.map (expectedAmountGenesis identity))
  let db := db.pointExpectedAmount
  let db ← db.insertEvents (db.opportunities.map (annualFinancialImpactGenesis identity))
  let db := db.pointAnnualFinancialImpact
  let db ← db.insertEvents (db.opportunities.map (realisedSavingsGenesis identity))
  let db := db.pointRealisedSavings
  db.setConstraintsImmediate
  db.addConstraints

end ProcureFoundation.Evidence
