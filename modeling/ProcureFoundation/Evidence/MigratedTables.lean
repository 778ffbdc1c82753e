import ProcureFoundation.Evidence.Backfill
import ProcureFoundation.Foundation.Outcomes

/-!
# The tables after the backfill

The six statements of the backfill have a closed form: one first event for every measure of every
parent, and parents that repeat it. Every constraint and every trigger of the evidence-state tables
accepts what they leave behind.
-/

namespace ProcureFoundation.Evidence

open Rebate ThreeValued KeyedRows Outcome

/-- What the first event of a measure takes from its parent. -/
structure GenesisRow where
  measure : Measure
  parentId : ℕ
  organisationId : ℕ
  amount : Option Money

def GenesisRow.key (row : GenesisRow) : Measure × ℕ := (row.measure, row.parentId)

def GenesisRow.event (identity : EventIdentity) (row : GenesisRow) : FinancialAmountStatusEvent :=
  genesisEvent identity row.measure (if row.measure = .expectedAmount then some row.parentId
    else none)
    (if row.measure = .expectedAmount then none else some row.parentId) row.parentId
      row.organisationId row.amount
    (some (backfilledStatus row.amount))

namespace LegacyTables

def periodRows (tables : LegacyTables) : List GenesisRow :=
  tables.rebatePeriodActuals.map fun row =>
    ⟨.expectedAmount, row.id, row.organisationId, row.expectedAmount⟩

def impactRows (tables : LegacyTables) : List GenesisRow :=
  tables.opportunities.map fun row =>
    ⟨.annualFinancialImpact, row.id, row.organisationId, row.annualFinancialImpact⟩

def savingsRows (tables : LegacyTables) : List GenesisRow :=
  tables.opportunities.map fun row =>
    ⟨.realisedSavings, row.id, row.organisationId, row.realisedSavings⟩

def genesisRows (tables : LegacyTables) : List GenesisRow :=
  tables.periodRows ++ tables.impactRows ++ tables.savingsRows

end LegacyTables

def PeriodColumns.migrated (identity : EventIdentity) (row : PeriodColumns) : RebatePeriodActual :=
  { row with
    expectedAmountStatus := backfilledStatus row.expectedAmount
    expectedAmountSourceBasis := none
    expectedAmountCalculatedAt := none
    expectedAmountApprovedAt := none
    expectedAmountApprovedByUserId := none
    expectedAmountCurrentEventId := some (identity.next .expectedAmount row.id) }

def OpportunityColumns.migrated (identity : EventIdentity) (row : OpportunityColumns) :
    Opportunity :=
  { row with
    annualFinancialImpactStatus := backfilledStatus row.annualFinancialImpact
    annualFinancialImpactSourceBasis := none
    annualFinancialImpactCalculatedAt := none
    annualFinancialImpactEffectiveFrom := none
    annualFinancialImpactCurrentEventId := some (identity.next .annualFinancialImpact row.id)
    realisedSavingsStatus := backfilledStatus row.realisedSavings
    realisedSavingsSourceBasis := none
    realisedSavingsCalculatedAt := none
    realisedSavingsApprovedAt := none
    realisedSavingsApprovedByUserId := none
    realisedSavingsEffectivePeriodStart := none
    realisedSavingsEffectivePeriodEnd := none
    realisedSavingsCurrentEventId := some (identity.next .realisedSavings row.id) }

def LegacyTables.migrated (identity : EventIdentity) (tables : LegacyTables) : Db where
  events := tables.genesisRows.map (GenesisRow.event identity)
  evidence := []
  rebatePeriodActuals := tables.rebatePeriodActuals.map (PeriodColumns.migrated identity)
  opportunities := tables.opportunities.map (OpportunityColumns.migrated identity)

section Events

variable {identity : EventIdentity} {tables : LegacyTables} {row other : GenesisRow}
  {rows : List GenesisRow} {measure : Measure} {parentId : ℕ}

theorem backfilledStatus_ne_confirmed (amount : Option Money) :
    backfilledStatus amount ≠ "confirmed" := by
  cases amount with
  | none => decide
  | some amount => exact (by decide : "legacy_unverified" ≠ "confirmed")

theorem GenesisRow.rowAccepted_event (h : fitsNumeric 18 row.amount = true) :
    (row.event identity).rowAccepted = true := by
  obtain ⟨measure, parentId, organisationId, amount⟩ := row
  have hNew : fitsNumeric 18
    (event identity ⟨measure, parentId, organisationId, amount⟩).new.amount = true := h
  rw [FinancialAmountStatusEvent.rowAccepted, hNew, Bool.and_true]
  cases measure <;> cases amount <;> rfl

theorem GenesisRow.governs_event : measure.governs parentId (row.event identity) ↔
    row.key = (measure, parentId) := by
  obtain ⟨rowMeasure, rowParentId, organisationId, amount⟩ := row
  cases measure <;> cases rowMeasure <;>
    simp [Measure.governs, Measure.parentOf, Measure.code, event, genesisEvent, key]

theorem GenesisRow.uqFamevSeq_event (h : row.key ≠ other.key) :
    uqFamevSeq (row.event identity) (other.event identity) = true := by
  obtain ⟨rowMeasure, rowParentId, organisationId, amount⟩ := row
  obtain ⟨otherMeasure, otherParentId, otherOrganisationId, otherAmount⟩ := other
  have hKey := h.symm
  simp only [key, ne_eq, Prod.mk.injEq, not_and] at hKey
  cases rowMeasure <;> cases otherMeasure <;>
    simp [uqFamevSeq, uqFamevRebateSeq, uqFamevOpportunitySeq, equals, Measure.code, event,
      genesisEvent]
  all_goals exact hKey rfl

theorem GenesisRow.id_event : (row.event identity).id = identity.next row.measure row.parentId :=
  rfl

theorem nodup_ids (h : (rows.map GenesisRow.key).Nodup) :
    ((rows.map (GenesisRow.event identity)).map FinancialAmountStatusEvent.id).Nodup := by
  have hIds : (rows.map (GenesisRow.event identity)).map FinancialAmountStatusEvent.id =
      (rows.map GenesisRow.key).map fun key => identity.next key.1 key.2 := by
    rw [List.map_map, List.map_map]
    rfl
  rw [hIds]
  refine h.map fun key other hSame => ?_
  obtain ⟨hMeasure, hParentId⟩ := identity.unique hSame
  exact Prod.ext hMeasure hParentId

theorem pairwise_uqFamevSeq (h : (rows.map GenesisRow.key).Nodup) :
    (rows.map (GenesisRow.event identity)).Pairwise fun e f => uqFamevSeq e f = true := by
  rw [List.pairwise_map]
  exact (List.pairwise_map.mp h).imp GenesisRow.uqFamevSeq_event

theorem forall_mem_events {P : FinancialAmountStatusEvent → Prop} :
    (∀ e ∈ rows.map (GenesisRow.event identity), P e) ↔ ∀ row ∈ rows, P (row.event identity) :=
  List.forall_mem_map

/-- The rows that an insert finds its parents among. -/
def MigratingDb.parentIds (db : MigratingDb) : Measure → List ℕ
  | .expectedAmount => db.periods.map fun row => row.id
  | .annualFinancialImpact | .realisedSavings => db.opportunities.map fun row => row.id

theorem insertEvents_genesis {db : MigratingDb} {old new : List GenesisRow}
    (hEvents : db.events = old.map (GenesisRow.event identity))
    (hKeys : ((old ++ new).map GenesisRow.key).Nodup)
    (hFits : ∀ row ∈ new, fitsNumeric 18 row.amount = true)
    (hParents : ∀ row ∈ new, row.parentId ∈ db.parentIds row.measure) :
    db.insertEvents (new.map (GenesisRow.event identity)) =
      .ok { db with events := (old ++ new).map (GenesisRow.event identity) } := by
  unfold MigratingDb.insertEvents
  rw [hEvents, ← List.map_append]
  refine if_pos ⟨forall_mem_events.mpr fun row hRow =>
    GenesisRow.rowAccepted_event (hFits row hRow), nodup_ids hKeys,
    pairwise_uqFamevSeq hKeys, forall_mem_events.mpr fun row hRow => ?_⟩
  have hParent := hParents row hRow
  obtain ⟨measure, parentId, organisationId, amount⟩ := row
  cases measure with
  | expectedAmount => exact ⟨fun id hId => Option.some.inj hId ▸ hParent, fun id hId =>
    absurd hId (Option.not_mem_none id)⟩
  | annualFinancialImpact | realisedSavings =>
    exact ⟨fun id hId => absurd hId (Option.not_mem_none id), fun id hId =>
      Option.some.inj hId ▸ hParent⟩

/-- The join finds the first event of the parent's measure. -/
theorem joinedEventId_genesis (current : Option ℕ) (h : row ∈ rows) :
    joinedEventId (rows.map (GenesisRow.event identity)) row.measure.parentOf row.measure.code
      row.parentId current = some (identity.next row.measure row.parentId) := by
  unfold joinedEventId
  have hJoins : ∀ other : GenesisRow,
    (holds (equals (row.measure.parentOf (other.event identity)) (some row.parentId)) &&
      (other.event identity).measureCode == row.measure.code) = true ↔ other.key = row.key := by
    intro other
    rw [show row.key = (row.measure, row.parentId) from rfl, ← GenesisRow.governs_event,
      Bool.and_eq_true, beq_iff_eq]
    refine and_congr_left fun _ => ?_
    cases row.measure.parentOf (other.event identity) <;> simp [equals]
  cases hFound : (rows.map (GenesisRow.event identity)).find? fun ev =>
      holds (equals (row.measure.parentOf ev) (some row.parentId)) && ev.measureCode ==
        row.measure.code with
  | none =>
    rw [List.find?_eq_none] at hFound
    exact absurd ((hJoins row).mpr rfl) (hFound _ (List.mem_map_of_mem h))
  | some ev =>
    obtain ⟨other, -, rfl⟩ := List.mem_map.mp (List.mem_of_find?_eq_some hFound)
    have hJoined := List.find?_some hFound
    have hKey := (hJoins other).mp hJoined
    exact congrArg (fun key : Measure × ℕ => some (identity.next key.1 key.2)) hKey

end Events

section Statements

variable {identity : EventIdentity} {tables : LegacyTables}

theorem LegacyTables.nodup_keys : (tables.genesisRows.map GenesisRow.key).Nodup := by
  have hPeriods : tables.periodRows.map GenesisRow.key =
      (tables.rebatePeriodActuals.map PeriodColumns.id).map (Prod.mk .expectedAmount) := by
    rw [periodRows, List.map_map, List.map_map]
    rfl
  have hImpacts : tables.impactRows.map GenesisRow.key =
      (tables.opportunities.map OpportunityColumns.id).map (Prod.mk .annualFinancialImpact) := by
    rw [impactRows, List.map_map, List.map_map]
    rfl
  have hSavings : tables.savingsRows.map GenesisRow.key =
      (tables.opportunities.map OpportunityColumns.id).map (Prod.mk .realisedSavings) := by
    rw [savingsRows, List.map_map, List.map_map]
    rfl
  have hMeasures : ∀ {m n : Measure} {ps qs : List ℕ}, m ≠ n →
      (ps.map (Prod.mk m)).Disjoint (qs.map (Prod.mk n)) := by
    intro m n ps qs hNe key hLeft hRight
    obtain ⟨p, -, rfl⟩ := List.mem_map.mp hLeft
    obtain ⟨q, -, hEq⟩ := List.mem_map.mp hRight
    exact hNe (Prod.mk.inj hEq).1.symm
  rw [genesisRows, List.map_append, List.map_append, hPeriods, hImpacts, hSavings]
  refine ((tables.periodIds.map (Prod.mk_right_injective _)).append
    (tables.opportunityIds.map (Prod.mk_right_injective _)) (hMeasures (by decide))).append
      (tables.opportunityIds.map (Prod.mk_right_injective _)) ?_
  rw [List.disjoint_append_left]
  exact ⟨hMeasures (by decide), hMeasures (by decide)⟩

theorem LegacyTables.genesisRows_fit :
    ∀ row ∈ tables.genesisRows, fitsNumeric 18 row.amount = true := by
  intro row hRow
  rw [genesisRows, List.mem_append, List.mem_append] at hRow
  obtain (hRow | hRow) | hRow := hRow
  · obtain ⟨columns, hColumns, rfl⟩ := List.mem_map.mp hRow
    exact (Bool.and_eq_true _ _ ▸ tables.periodsFit columns hColumns).1
  · obtain ⟨columns, hColumns, rfl⟩ := List.mem_map.mp hRow
    exact (Bool.and_eq_true _ _ ▸ tables.opportunitiesFit columns hColumns).1
  · obtain ⟨columns, hColumns, rfl⟩ := List.mem_map.mp hRow
    exact (Bool.and_eq_true _ _ ▸ tables.opportunitiesFit columns hColumns).2

def PeriodColumns.backfilled (row : PeriodColumns) : MigratingPeriod :=
  { row.addColumns with expectedAmountStatus := some (backfilledStatus row.expectedAmount) }

def OpportunityColumns.backfilled (row : OpportunityColumns) : MigratingOpportunity :=
  { row.addColumns with
    annualFinancialImpactStatus := some (backfilledStatus row.annualFinancialImpact)
    realisedSavingsStatus := some (backfilledStatus row.realisedSavings) }

theorem backfillStatuses_addColumns : tables.addColumns.backfillStatuses =
    ⟨tables.rebatePeriodActuals.map PeriodColumns.backfilled,
      tables.opportunities.map OpportunityColumns.backfilled, []⟩ := by
  rw [MigratingDb.backfillStatuses, LegacyTables.addColumns, List.map_map, List.map_map]
  rfl

theorem notNull_period {row : PeriodColumns} (h : row ∈ tables.rebatePeriodActuals) :
    (row.backfilled.pointExpectedAmount (tables.periodRows.map (GenesisRow.event identity))).notNull =
      .ok (row.migrated identity) := by
  have hRow : ⟨.expectedAmount, row.id, row.organisationId, row.expectedAmount⟩ ∈
      tables.periodRows :=
    List.mem_map_of_mem h
  have hPointer := @joinedEventId_genesis identity _ _ none hRow
  unfold MigratingPeriod.pointExpectedAmount
  exact congrArg (fun pointer =>
    Except.ok { row.migrated identity with expectedAmountCurrentEventId := pointer }) hPointer

theorem notNull_opportunity {row : OpportunityColumns} {impacts savings : List GenesisRow}
    (hImpact : ⟨.annualFinancialImpact, row.id, row.organisationId, row.annualFinancialImpact⟩ ∈
      impacts)
    (hSavings : ⟨.realisedSavings, row.id, row.organisationId, row.realisedSavings⟩ ∈ savings) :
    ((row.backfilled.pointAnnualFinancialImpact
      (impacts.map (GenesisRow.event identity))).pointRealisedSavings
      (savings.map (GenesisRow.event identity))).notNull = .ok (row.migrated identity) := by
  have hImpactPointer := @joinedEventId_genesis identity _ _ none hImpact
  have hSavingsPointer := @joinedEventId_genesis identity _ _ none hSavings
  unfold MigratingOpportunity.pointRealisedSavings MigratingOpportunity.pointAnnualFinancialImpact
  exact congrArg₂ (fun impact savings => Except.ok { row.migrated identity with
    annualFinancialImpactCurrentEventId := impact
    realisedSavingsCurrentEventId := savings }) hImpactPointer hSavingsPointer

theorem setConstraintsImmediate_genesis {db : MigratingDb} {rows : List GenesisRow}
    (hEvents : db.events = rows.map (GenesisRow.event identity)) :
    db.setConstraintsImmediate = .ok () := by
  unfold MigratingDb.setConstraintsImmediate
  rw [hEvents]
  refine if_pos (forall_mem_events.mpr fun row _ => ⟨?_, checkEventChainIntegrity_eq_true.mpr (.inl rfl)⟩)
  exact checkConfirmedEventHasSufficientEvidence_of_unconfirmed [] rfl
    (backfilledStatus_ne_confirmed row.amount)

theorem rowAccepted_period {row : PeriodColumns} (h : row ∈ tables.rebatePeriodActuals) :
    (row.migrated identity).rowAccepted = true := by
  have hDates : passes (ckRebatePeriodEndAfterStart (row.migrated identity)) = true := by
    rw [ckRebatePeriodEndAfterStart, below, passes_some]
    exact decide_eq_true (tables.periodEndAfterStart row h)
  have hFits := tables.periodsFit row h
  rw [PeriodColumns.fits, Bool.and_eq_true] at hFits
  have hAmount : fitsNumeric 18 (row.migrated identity).expectedAmount = true := hFits.1
  have hFigures : (row.migrated identity).figuresFit = true := hFits.2
  rw [RebatePeriodActual.rowAccepted, hDates, hAmount, hFigures, Bool.true_and, Bool.and_true,
    Bool.and_true]
  unfold PeriodColumns.migrated
  cases row.expectedAmount <;> rfl

theorem rowAccepted_opportunity {row : OpportunityColumns} (h : row ∈ tables.opportunities) :
    (row.migrated identity).rowAccepted = true := by
  have hFits := tables.opportunitiesFit row h
  rw [OpportunityColumns.fits, Bool.and_eq_true] at hFits
  have hImpact : fitsNumeric 18 (row.migrated identity).annualFinancialImpact = true := hFits.1
  have hSavings : fitsNumeric 18 (row.migrated identity).realisedSavings = true := hFits.2
  rw [Opportunity.rowAccepted, hImpact, hSavings, Bool.and_true, Bool.and_true]
  unfold OpportunityColumns.migrated
  cases row.annualFinancialImpact <;> cases row.realisedSavings <;> rfl

theorem addConstraints_genesis {db : MigratingDb} {rows impacts savings : List GenesisRow}
    (hEvents : db.events = rows.map (GenesisRow.event identity))
    (hPeriods : db.periods = tables.rebatePeriodActuals.map fun row =>
      row.backfilled.pointExpectedAmount (tables.periodRows.map (GenesisRow.event identity)))
    (hOpportunities : db.opportunities = tables.opportunities.map fun row =>
      (row.backfilled.pointAnnualFinancialImpact
        (impacts.map (GenesisRow.event identity))).pointRealisedSavings
        (savings.map (GenesisRow.event identity)))
    (hImpacts : tables.impactRows ⊆ impacts) (hSavings : tables.savingsRows ⊆ savings) :
    db.addConstraints = .ok ⟨rows.map (GenesisRow.event identity), [],
      tables.rebatePeriodActuals.map (PeriodColumns.migrated identity),
      tables.opportunities.map (OpportunityColumns.migrated identity)⟩ := by
  unfold MigratingDb.addConstraints
  rw [hPeriods, hOpportunities, hEvents,
    bind_of_eq_ok (mapM_map_eq_ok fun row hRow => notNull_period hRow),
    bind_of_eq_ok (mapM_map_eq_ok fun row hRow => notNull_opportunity
      (hImpacts (List.mem_map_of_mem hRow)) (hSavings (List.mem_map_of_mem hRow)))]
  refine if_pos ⟨List.forall_mem_map.mpr fun row hRow => rowAccepted_period hRow,
    List.forall_mem_map.mpr fun row hRow => rowAccepted_opportunity hRow⟩

/-- The tables after each of the three inserts. -/
def LegacyTables.expectedAmountInserted (identity : EventIdentity) (tables : LegacyTables) :
    MigratingDb :=
  { tables.addColumns.backfillStatuses with events := tables.periodRows.map (GenesisRow.event identity) }

def LegacyTables.annualFinancialImpactInserted (identity : EventIdentity) (tables : LegacyTables) :
    MigratingDb :=
  { (tables.expectedAmountInserted identity).pointExpectedAmount with
    events := (tables.periodRows ++ tables.impactRows).map (GenesisRow.event identity) }

def LegacyTables.realisedSavingsInserted (identity : EventIdentity) (tables : LegacyTables) :
    MigratingDb :=
  { (tables.annualFinancialImpactInserted identity).pointAnnualFinancialImpact with
    events := tables.genesisRows.map (GenesisRow.event identity) }

theorem insert_expectedAmount : tables.addColumns.backfillStatuses.insertEvents
    (tables.addColumns.backfillStatuses.periods.map (expectedAmountGenesis identity)) =
      .ok (tables.expectedAmountInserted identity) := by
  have hInserted : tables.addColumns.backfillStatuses.periods.map (expectedAmountGenesis identity) =
      tables.periodRows.map (GenesisRow.event identity) := by
    rw [backfillStatuses_addColumns, LegacyTables.periodRows, List.map_map, List.map_map]
    rfl
  have hKeys := tables.nodup_keys
  rw [LegacyTables.genesisRows, List.map_append, List.map_append] at hKeys
  rw [hInserted]
  have hFits : ∀ row ∈ tables.periodRows, fitsNumeric 18 row.amount = true := fun row hRow =>
    tables.genesisRows_fit row (List.mem_append_left _ (List.mem_append_left _ hRow))
  refine @insertEvents_genesis identity _
    [] tables.periodRows rfl hKeys.of_append_left.of_append_left hFits
    fun row hRow => ?_
  obtain ⟨columns, hColumns, rfl⟩ := List.mem_map.mp hRow
  exact List.mem_map_of_mem (List.mem_map_of_mem (List.mem_map_of_mem hColumns))

theorem insert_annualFinancialImpact :
    (tables.expectedAmountInserted identity).pointExpectedAmount.insertEvents
    ((tables.expectedAmountInserted identity).pointExpectedAmount.opportunities.map
      (annualFinancialImpactGenesis identity)) =
        .ok (tables.annualFinancialImpactInserted identity) := by
  have hInserted : tables.addColumns.backfillStatuses.opportunities.map
    (annualFinancialImpactGenesis identity) =
      tables.impactRows.map (GenesisRow.event identity) := by
    rw [backfillStatuses_addColumns, LegacyTables.impactRows, List.map_map, List.map_map]
    rfl
  have hKeys := tables.nodup_keys
  rw [LegacyTables.genesisRows, List.map_append] at hKeys
  have hFits : ∀ row ∈ tables.impactRows, fitsNumeric 18 row.amount = true := fun row hRow =>
    tables.genesisRows_fit row (List.mem_append_left _ (List.mem_append_right _ hRow))
  refine (congrArg _ hInserted).trans
    (insertEvents_genesis rfl hKeys.of_append_left hFits fun row hRow => ?_)
  obtain ⟨columns, hColumns, rfl⟩ := List.mem_map.mp hRow
  exact List.mem_map_of_mem (List.mem_map_of_mem (List.mem_map_of_mem hColumns))

theorem insert_realisedSavings :
    (tables.annualFinancialImpactInserted identity).pointAnnualFinancialImpact.insertEvents
      ((tables.annualFinancialImpactInserted identity).pointAnnualFinancialImpact.opportunities.map
        (realisedSavingsGenesis identity)) = .ok (tables.realisedSavingsInserted identity) := by
  have hInserted :
    (tables.annualFinancialImpactInserted identity).pointAnnualFinancialImpact.opportunities.map
      (realisedSavingsGenesis identity) = tables.savingsRows.map (GenesisRow.event identity) := by
    change ((tables.addColumns.backfillStatuses.opportunities.map _).map _) = _
    rw [backfillStatuses_addColumns, LegacyTables.savingsRows, List.map_map, List.map_map,
      List.map_map]
    rfl
  rw [hInserted]
  have hFits : ∀ row ∈ tables.savingsRows, fitsNumeric 18 row.amount = true := fun row hRow =>
    tables.genesisRows_fit row (List.mem_append_right _ hRow)
  refine insertEvents_genesis rfl tables.nodup_keys hFits fun row hRow => ?_
  obtain ⟨columns, hColumns, rfl⟩ := List.mem_map.mp hRow
  exact List.mem_map_of_mem (List.mem_map_of_mem (List.mem_map_of_mem (List.mem_map_of_mem hColumns)))

/-- The closed form of the migration. -/
theorem upgrade_eq (identity : EventIdentity) (tables : LegacyTables) :
    upgrade identity tables = .ok (tables.migrated identity) := by
  have hConstraints :
    (tables.realisedSavingsInserted identity).pointRealisedSavings.addConstraints =
      .ok (tables.migrated identity) := by
    refine addConstraints_genesis rfl ?_ ?_ (List.subset_append_right tables.periodRows tables.impactRows)
      (List.subset_append_right (tables.periodRows ++ tables.impactRows) tables.savingsRows)
    · change (tables.addColumns.backfillStatuses.periods.map _) = _
      rw [backfillStatuses_addColumns, List.map_map]
      rfl
    · change ((tables.addColumns.backfillStatuses.opportunities.map _).map _) = _
      rw [backfillStatuses_addColumns, List.map_map, List.map_map]
      rfl
  calc
    upgrade identity tables = _ := bind_of_eq_ok insert_expectedAmount _
    _ = _ := bind_of_eq_ok insert_annualFinancialImpact _
    _ = _ := bind_of_eq_ok insert_realisedSavings _
    _ = _ := bind_of_eq_ok (@setConstraintsImmediate_genesis identity _ tables.genesisRows rfl) _
    _ = .ok (tables.migrated identity) := hConstraints

end Statements

def RebatePeriodActual.legacyColumns (row : RebatePeriodActual) : PeriodColumns := { row with }

def Opportunity.legacyColumns (row : Opportunity) : OpportunityColumns := { row with }

/-- The events of a measure of a parent. -/
def Db.eventsOf (db : Db) (measure : Measure) (parentId : ℕ) : List FinancialAmountStatusEvent :=
  db.events.filter fun e => measure.parentOf e = some parentId ∧ e.measureCode = measure.code

/-- The event is the first of a measure of its parent, and the parent repeats it and points to it.
-/
structure IsGenesis (snapshot : Snapshot) (e : FinancialAmountStatusEvent) : Prop where
  version : e.eventVersion = 1
  organisation : e.organisationId = snapshot.organisationId
  amount : e.new.amount = snapshot.columns.amount
  status : e.new.status = snapshot.columns.status
  pointer : snapshot.currentEventId = some e.id

/-- What the migration leaves behind: the columns that were there are unchanged, every measure of a
parent has one event, there are no other events, and no constraint or trigger of the evidence-state
tables objects to any row. -/
structure Established (before : LegacyTables) (db : Db) : Prop where
  periods : db.rebatePeriodActuals.map RebatePeriodActual.legacyColumns = before.rebatePeriodActuals
  opportunities : db.opportunities.map Opportunity.legacyColumns = before.opportunities
  genesis : ∀ measure parentId snapshot, db.snapshot measure parentId = some snapshot →
    ∃ e, db.eventsOf measure parentId = [e] ∧ IsGenesis snapshot e
  noOthers : ∀ e ∈ db.events, ∃ measure parentId snapshot, db.snapshot measure parentId =
    some snapshot ∧ db.eventsOf measure parentId = [e]
  eventChecks : ∀ e ∈ db.events, e.rowAccepted = true
  periodChecks : ∀ row ∈ db.rebatePeriodActuals, row.rowAccepted = true
  opportunityChecks : ∀ row ∈ db.opportunities, row.rowAccepted = true
  eventTriggers : ∀ e ∈ db.events, checkConfirmedEventHasSufficientEvidence db.evidence e = true ∧
    checkEventChainIntegrity db.events e = true
  periodTrigger : ∀ row ∈ db.rebatePeriodActuals,
    checkRpaExpectedAmountMatchesEvent db.events db.rebatePeriodActuals row.id = true
  opportunityTriggers : ∀ row ∈ db.opportunities,
    checkOppAnnualFinancialImpactMatchesEvent db.events db.opportunities row.id = true ∧
      checkOppRealisedSavingsMatchesEvent db.events db.opportunities row.id = true
  valid : db.Valid

section Migrated

variable {identity : EventIdentity} {tables : LegacyTables} {measure : Measure} {parentId : ℕ}
  {snapshot : Snapshot}

theorem eventsStored_migrated : EventsStored (tables.migrated identity).events where
  accepted := forall_mem_events.mpr fun row hRow =>
    GenesisRow.rowAccepted_event (tables.genesisRows_fit row hRow)
  keys := nodup_ids tables.nodup_keys
  compatible e he f hf hNe := by
    obtain ⟨row, hRow, rfl⟩ := List.mem_map.mp he
    obtain ⟨other, hOther, rfl⟩ := List.mem_map.mp hf
    refine GenesisRow.uqFamevSeq_event fun hKey => hNe ?_
    obtain ⟨hMeasure, hParentId⟩ := Prod.mk.inj hKey
    rw [GenesisRow.id_event, GenesisRow.id_event, hMeasure, hParentId]

/-- Every snapshot comes from a row that also gives the first event. -/
theorem exists_genesisRow (h : (tables.migrated identity).snapshot measure parentId = some snapshot) :
    ∃ row ∈ tables.genesisRows, row.key = (measure, parentId) ∧
      snapshot.organisationId = row.organisationId ∧
      snapshot.currentEventId = some (identity.next row.measure row.parentId) ∧
        snapshot.columns = { AmountState.null with
          amount := row.amount
          status := some (backfilledStatus row.amount) } := by
  unfold LegacyTables.genesisRows
  cases measure with
  | expectedAmount =>
    obtain ⟨columns, hColumns, hId, rfl⟩ := exists_of_lookup_map h
    refine ⟨_, List.mem_append_left _ (List.mem_append_left _ (List.mem_map_of_mem hColumns)), ?_,
      rfl, rfl, rfl⟩
    exact congrArg (Prod.mk _) hId
  | annualFinancialImpact =>
    obtain ⟨columns, hColumns, hId, rfl⟩ := exists_of_lookup_map h
    refine ⟨_, List.mem_append_left _ (List.mem_append_right _ (List.mem_map_of_mem hColumns)), ?_,
      rfl, rfl, rfl⟩
    exact congrArg (Prod.mk _) hId
  | realisedSavings =>
    obtain ⟨columns, hColumns, hId, rfl⟩ := exists_of_lookup_map h
    refine ⟨_, List.mem_append_right _ (List.mem_map_of_mem hColumns), ?_, rfl, rfl, rfl⟩
    exact congrArg (Prod.mk _) hId

theorem filter_key_eq_singleton {ρ κ : Type*} [DecidableEq κ] {f : ρ → κ} {rows : List ρ} {row : ρ}
    (h : (rows.map f).Nodup) (hRow : row ∈ rows) :
    rows.filter (fun other => f other = f row) = [row] := by
  induction rows with
  | nil => exact nomatch hRow
  | cons head rest ih =>
    obtain ⟨hFresh, hRest⟩ := List.nodup_cons.mp h
    obtain rfl | hMem := List.mem_cons.mp hRow
    · have hNone : rest.filter (fun other => f other = f row) = [] := by
        refine List.filter_eq_nil_iff.mpr fun other hOther hSame => hFresh ?_
        rw [← of_decide_eq_true hSame]
        exact List.mem_map_of_mem hOther
      rw [List.filter_cons, decide_eq_true rfl, if_pos rfl, hNone]
    · have hNe : f head ≠ f row := by
        intro hSame
        rw [hSame] at hFresh
        exact hFresh (List.mem_map_of_mem hMem)
      rw [List.filter_cons, decide_eq_false hNe, if_neg Bool.false_ne_true, ih hRest hMem]

theorem eventsOf_migrated {row : GenesisRow} (hRow : row ∈ tables.genesisRows) :
    (tables.migrated identity).eventsOf row.measure row.parentId = [row.event identity] := by
  have hGoverns :
    tables.genesisRows.filter ((fun e => decide (row.measure.parentOf e = some row.parentId ∧
      e.measureCode = row.measure.code)) ∘ GenesisRow.event identity) =
        tables.genesisRows.filter fun other => other.key = row.key :=
    List.filter_congr fun other _ => decide_eq_decide.mpr GenesisRow.governs_event
  unfold Db.eventsOf LegacyTables.migrated
  rw [List.filter_map, hGoverns, filter_key_eq_singleton tables.nodup_keys hRow, List.map_singleton]

theorem isGenesis {row : GenesisRow} (hOrganisation : snapshot.organisationId = row.organisationId)
    (hPointer : snapshot.currentEventId = some (identity.next row.measure row.parentId))
    (hColumns : snapshot.columns = { AmountState.null with
      amount := row.amount
      status := some (backfilledStatus row.amount) }) :
      IsGenesis snapshot (row.event identity) where
  version := rfl
  organisation := hOrganisation.symm
  amount := by
    rw [hColumns]
    rfl
  status := by
    rw [hColumns]
    rfl
  pointer := hPointer

theorem snapshot_agrees (h : (tables.migrated identity).snapshot measure parentId = some snapshot) :
    snapshot.Agrees (tables.migrated identity).events measure parentId := by
  obtain ⟨row, hRow, hKey, hOrganisation, hPointer, hColumns⟩ := exists_genesisRow h
  refine ⟨row.event identity, List.mem_map_of_mem hRow, GenesisRow.governs_event.mpr hKey, hPointer,
    hOrganisation.symm, ?_, ?_⟩
  · intro f hf _
    obtain ⟨other, -, rfl⟩ := List.mem_map.mp hf
    exact le_rfl
  · rw [hColumns]
    cases measure <;> rfl

theorem exists_snapshot {row : GenesisRow} (hRow : row ∈ tables.genesisRows) :
    ∃ snapshot, (tables.migrated identity).snapshot row.measure row.parentId = some snapshot := by
  have hPeriods : ∀ columns ∈ tables.rebatePeriodActuals,
      (lookup RebatePeriodActual.id (tables.migrated identity).rebatePeriodActuals
        columns.id).isSome = true := by
    intro columns hColumns
    exact lookup_isSome.mpr (List.mem_map_of_mem (List.mem_map_of_mem hColumns))
  have hOpportunities : ∀ columns ∈ tables.opportunities,
      (lookup Opportunity.id (tables.migrated identity).opportunities columns.id).isSome =
        true := by
    intro columns hColumns
    exact lookup_isSome.mpr (List.mem_map_of_mem (List.mem_map_of_mem hColumns))
  rw [LegacyTables.genesisRows, List.mem_append, List.mem_append] at hRow
  refine Option.isSome_iff_exists.mp ?_
  obtain (hRow | hRow) | hRow := hRow
  · obtain ⟨columns, hColumns, rfl⟩ := List.mem_map.mp hRow
    exact Option.isSome_map.trans (hPeriods columns hColumns)
  · obtain ⟨columns, hColumns, rfl⟩ := List.mem_map.mp hRow
    exact Option.isSome_map.trans (hOpportunities columns hColumns)
  · obtain ⟨columns, hColumns, rfl⟩ := List.mem_map.mp hRow
    exact Option.isSome_map.trans (hOpportunities columns hColumns)

theorem parents_migrated : ∀ e ∈ (tables.migrated identity).events, ∀ measure parentId,
    Measure.governs measure parentId e →
    ((tables.migrated identity).snapshot measure parentId).isSome := by
  intro e he measure parentId hGoverns
  obtain ⟨row, hRow, rfl⟩ := List.mem_map.mp he
  obtain ⟨rfl, rfl⟩ := Prod.mk.inj (GenesisRow.governs_event.mp hGoverns)
  exact Option.isSome_iff_exists.mpr (exists_snapshot hRow)

theorem periods_migrated : Table RebatePeriodActual.id RebatePeriodActual.rowAccepted uqRebatePeriod
    (tables.migrated identity).rebatePeriodActuals where
  accepted := List.forall_mem_map.mpr fun row hRow => rowAccepted_period hRow
  keys := by
    have hIds : (tables.migrated identity).rebatePeriodActuals.map RebatePeriodActual.id =
        tables.rebatePeriodActuals.map PeriodColumns.id := List.map_map
    rw [hIds]
    exact tables.periodIds
  compatible row hRow other hOther hNe := by
    obtain ⟨columns, hColumns, rfl⟩ := List.mem_map.mp hRow
    obtain ⟨others, hOthers, rfl⟩ := List.mem_map.mp hOther
    rw [uqRebatePeriod, Bool.not_eq_true', Bool.eq_false_iff]
    intro hSame
    rw [Bool.and_eq_true, Bool.and_eq_true, beq_iff_eq, beq_iff_eq, beq_iff_eq] at hSame
    have hKey : (others.rebateAgreementId, others.periodStart, others.periodEnd) =
        (columns.rebateAgreementId, columns.periodStart, columns.periodEnd) :=
      Prod.ext hSame.1.1 (Prod.ext hSame.1.2 hSame.2)
    rw [List.inj_on_of_nodup_map tables.uqRebatePeriod hOthers hColumns hKey] at hNe
    exact hNe rfl

theorem opportunities_migrated : Table Opportunity.id Opportunity.rowAccepted (fun _ _ => true)
    (tables.migrated identity).opportunities where
  accepted := List.forall_mem_map.mpr fun row hRow => rowAccepted_opportunity hRow
  keys := by
    have hIds : (tables.migrated identity).opportunities.map Opportunity.id =
        tables.opportunities.map OpportunityColumns.id := List.map_map
    rw [hIds]
    exact tables.opportunityIds
  compatible _ _ _ _ _ := rfl

theorem valid_migrated : (tables.migrated identity).Valid where
  events := eventsStored_migrated
  eventParents := parents_migrated
  pointers measure parentId snapshot h := by
    obtain ⟨row, hRow, -, -, hPointer, -⟩ := exists_genesisRow h
    rw [hPointer, Db.eventExists, Option.all_some, List.any_eq_true]
    exact ⟨row.event identity, List.mem_map_of_mem hRow, beq_self_eq_true _⟩
  periods := periods_migrated
  opportunities := opportunities_migrated
  chain := by
    have hFirst : ∀ e ∈ (tables.migrated identity).events, e.eventVersion = 1 :=
      forall_mem_events.mpr fun _ _ => rfl
    refine ⟨fun e he => ?_, fun e he f hf hSeries hVersion =>
      eventsStored_migrated.sequence he hf hSeries hVersion,
      fun e he hNotFirst => absurd (hFirst e he) hNotFirst⟩
    rw [hFirst e he]
    exact Int.one_pos
  evidenceSufficient := forall_mem_events.mpr fun row _ =>
    checkConfirmedEventHasSufficientEvidence_of_unconfirmed [] rfl
      (backfilledStatus_ne_confirmed row.amount)
  snapshotsAgree measure parentId snapshot h := snapshot_agrees h

end Migrated

/-- The migration succeeds on every content of the parent tables, and establishes the invariant of
the events. -/
theorem upgrade_establishes (identity : EventIdentity) (tables : LegacyTables) :
    ∃ db, upgrade identity tables = .ok db ∧ Established tables db := by
  have hValid := @valid_migrated identity tables
  refine ⟨tables.migrated identity, upgrade_eq identity tables, ?_⟩
  constructor
  · rw [LegacyTables.migrated, List.map_map]
    exact List.map_id _
  · rw [LegacyTables.migrated, List.map_map]
    exact List.map_id _
  · intro measure parentId snapshot h
    obtain ⟨row, hRow, hKey, hOrganisation, hPointer, hColumns⟩ := exists_genesisRow h
    obtain ⟨rfl, rfl⟩ := Prod.mk.inj hKey
    exact ⟨row.event identity, eventsOf_migrated hRow, isGenesis hOrganisation hPointer hColumns⟩
  · intro e he
    obtain ⟨row, hRow, rfl⟩ := List.mem_map.mp he
    obtain ⟨snapshot, hSnapshot⟩ := @exists_snapshot identity tables row hRow
    exact ⟨row.measure, row.parentId, snapshot, hSnapshot, eventsOf_migrated hRow⟩
  · exact hValid.events.accepted
  · exact hValid.periods.accepted
  · exact hValid.opportunities.accepted
  · exact fun e he => ⟨hValid.evidenceSufficient e he, hValid.chainIntegrity he⟩
  · intro row _
    exact (checkRpaExpectedAmountMatchesEvent_eq_true hValid.events).mpr fun found hFound =>
      hValid.snapshotsAgree .expectedAmount row.id _ (congrArg (Option.map _) hFound)
  · intro row _
    exact ⟨(checkOppAnnualFinancialImpactMatchesEvent_eq_true hValid.events).mpr fun found hFound =>
        hValid.snapshotsAgree .annualFinancialImpact row.id _ (congrArg (Option.map _) hFound),
      (checkOppRealisedSavingsMatchesEvent_eq_true hValid.events).mpr fun found hFound =>
        hValid.snapshotsAgree .realisedSavings row.id _ (congrArg (Option.map _) hFound)⟩
  · exact hValid

end ProcureFoundation.Evidence
