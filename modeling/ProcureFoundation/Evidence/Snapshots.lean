import ProcureFoundation.Evidence.Triggers
import ProcureFoundation.Foundation.KeyedRows

/-!
# Snapshots of governed measures

Three measures are governed, and for each of them the parent row mirrors part of the
eight governed values. The parent triggers are shown to accept exactly the rows whose
snapshot is that of the event with the highest version.
-/

namespace ProcureFoundation.Evidence

open ThreeValued KeyedRows

inductive Measure where
  | expectedAmount
  | annualFinancialImpact
  | realisedSavings
deriving DecidableEq

namespace Measure

def code : Measure → String
  | .expectedAmount => "expected_amount"
  | .annualFinancialImpact => "annual_financial_impact"
  | .realisedSavings => "realised_savings"

def parentOf : Measure → FinancialAmountStatusEvent → Option ℕ
  | .expectedAmount => FinancialAmountStatusEvent.rebatePeriodActualId
  | .annualFinancialImpact | .realisedSavings => FinancialAmountStatusEvent.opportunityId

/-- The governed values for which the parent row has a column. -/
def mirrored : Measure → AmountState → AmountState
  | .expectedAmount, s => { s with effectivePeriodStart := none, effectivePeriodEnd := none }
  | .annualFinancialImpact, s =>
    { s with approvedAt := none, approvedByUserId := none, effectivePeriodEnd := none }
  | .realisedSavings, s => s

def governs (measure : Measure) (parentId : ℕ) (e : FinancialAmountStatusEvent) : Prop :=
  measure.parentOf e = some parentId ∧ e.measureCode = measure.code

def series (measure : Measure) (parentId : ℕ) : Option ℕ × Option ℕ × String :=
  match measure with
  | .expectedAmount => (some parentId, none, measure.code)
  | .annualFinancialImpact | .realisedSavings => (none, some parentId, measure.code)

theorem series_injective {m n : Measure} {p q : ℕ} (h : m.series p = n.series q) :
    m = n ∧ p = q := by
  cases m <;> cases n <;> simp [series, code] at h ⊢ <;> exact h

end Measure

structure Snapshot where
  organisationId : ℕ
  currentEventId : Option ℕ
  columns : AmountState
deriving DecidableEq

def RebatePeriodActual.expectedAmountSnapshot (r : RebatePeriodActual) : Snapshot where
  organisationId := r.organisationId
  currentEventId := r.expectedAmountCurrentEventId
  columns := ⟨r.expectedAmount, some r.expectedAmountStatus, r.expectedAmountSourceBasis,
    r.expectedAmountCalculatedAt, r.expectedAmountApprovedAt, r.expectedAmountApprovedByUserId,
    none, none⟩

def Opportunity.annualFinancialImpactSnapshot (o : Opportunity) : Snapshot where
  organisationId := o.organisationId
  currentEventId := o.annualFinancialImpactCurrentEventId
  columns := ⟨o.annualFinancialImpact, some o.annualFinancialImpactStatus,
    o.annualFinancialImpactSourceBasis, o.annualFinancialImpactCalculatedAt, none, none,
    o.annualFinancialImpactEffectiveFrom, none⟩

def Opportunity.realisedSavingsSnapshot (o : Opportunity) : Snapshot where
  organisationId := o.organisationId
  currentEventId := o.realisedSavingsCurrentEventId
  columns := ⟨o.realisedSavings, some o.realisedSavingsStatus, o.realisedSavingsSourceBasis,
    o.realisedSavingsCalculatedAt, o.realisedSavingsApprovedAt, o.realisedSavingsApprovedByUserId,
    o.realisedSavingsEffectivePeriodStart, o.realisedSavingsEffectivePeriodEnd⟩

structure IsCurrentEvent (events : List FinancialAmountStatusEvent) (measure : Measure)
    (parentId : ℕ) (snapshot : Snapshot) (e : FinancialAmountStatusEvent) : Prop where
  mem : e ∈ events
  governs : measure.governs parentId e
  pointer : snapshot.currentEventId = some e.id
  organisation : e.organisationId = snapshot.organisationId
  latest : ∀ f ∈ events, measure.governs parentId f → f.eventVersion ≤ e.eventVersion
  columns : snapshot.columns = measure.mirrored e.new

/-- The snapshot points to the event with the highest version and repeats its values. -/
def Snapshot.Agrees (events : List FinancialAmountStatusEvent) (measure : Measure) (parentId : ℕ)
    (snapshot : Snapshot) : Prop :=
  ∃ e, IsCurrentEvent events measure parentId snapshot e

section Events

variable {e f : FinancialAmountStatusEvent}

theorem FinancialAmountStatusEvent.series_of_rowAccepted (h : e.rowAccepted) :
    ∃ measure parentId, e.series = Measure.series measure parentId := by
  simp only [rowAccepted, Bool.and_eq_true] at h
  obtain ⟨⟨⟨⟨⟨⟨⟨⟨⟨⟨⟨-, -⟩, hOne⟩, hPeriod⟩, hOpportunity⟩, -⟩, -⟩, -⟩, -⟩, -⟩, -⟩, -⟩ := h
  obtain ⟨id, org, period, opportunity, measureCode, version, old, new, actor, ref, reason⟩ := e
  cases period with
  | some p =>
    cases opportunity with
    | some o => simp [ckFamevExactlyOneParent] at hOne
    | none =>
      simp [ckFamevRebateParentMeasure] at hPeriod
      exact ⟨.expectedAmount, p, by simp [series, Measure.series, Measure.code, hPeriod]⟩
  | none =>
    cases opportunity with
    | none => simp [ckFamevExactlyOneParent] at hOne
    | some o =>
      simp [ckFamevOpportunityParentMeasure] at hOpportunity
      obtain hCode | hCode := hOpportunity
      · exact ⟨.annualFinancialImpact, o, by simp [series, Measure.series, Measure.code, hCode]⟩
      · exact ⟨.realisedSavings, o, by simp [series, Measure.series, Measure.code, hCode]⟩

theorem FinancialAmountStatusEvent.eventVersion_pos (h : e.rowAccepted) : 0 < e.eventVersion := by
  simp only [rowAccepted, Bool.and_eq_true] at h
  obtain ⟨⟨⟨⟨⟨⟨⟨-, hPositive⟩, -⟩, -⟩, -⟩, -⟩, -⟩, -⟩ := h
  simpa [ckFamevVersionPositive, below] using hPositive

theorem FinancialAmountStatusEvent.old_eq_null (h : e.rowAccepted) (hFirst : e.eventVersion = 1) :
    e.old = AmountState.null := by
  simp only [rowAccepted, Bool.and_eq_true] at h
  obtain ⟨⟨⟨⟨⟨⟨-, hGenesis⟩, -⟩, -⟩, -⟩, -⟩, -⟩ := h
  obtain ⟨id, org, period, opportunity, measureCode, version, old, new, actor, ref, reason⟩ := e
  obtain ⟨a, b, c, d, e, f, g, h⟩ := old
  obtain rfl : version = 1 := hFirst
  simpa [ckFamevGenesisOldFieldsNull, AmountState.null, and_assoc] using hGenesis

theorem Measure.governs_of_series {measure : Measure} {parentId : ℕ}
    (h : e.series = measure.series parentId) : measure.governs parentId e := by
  cases measure <;> simp_all [FinancialAmountStatusEvent.series, Measure.series, governs, parentOf]

theorem Measure.governs_iff_series {measure : Measure} {parentId : ℕ} (h : e.rowAccepted) :
    measure.governs parentId e ↔ e.series = measure.series parentId := by
  constructor
  · rintro ⟨hParent, hCode⟩
    obtain ⟨m, p, hSeries⟩ := FinancialAmountStatusEvent.series_of_rowAccepted h
    cases measure <;> cases m <;>
      simp_all [FinancialAmountStatusEvent.series, Measure.series, parentOf, code]
  · exact governs_of_series

theorem Measure.parentOf_isSome {measure : Measure} (h : e.rowAccepted)
    (hCode : e.measureCode = measure.code) : ∃ parentId, measure.parentOf e = some parentId := by
  obtain ⟨m, p, hSeries⟩ := FinancialAmountStatusEvent.series_of_rowAccepted h
  refine ⟨p, ?_⟩
  cases measure <;> cases m <;>
    simp_all [FinancialAmountStatusEvent.series, Measure.series, parentOf, code]

/-- The two sequence constraints, of which one has a parent that is not null. -/
def uqFamevSeq (e f : FinancialAmountStatusEvent) : Bool :=
  uqFamevRebateSeq e f && uqFamevOpportunitySeq e f

theorem uqFamevSeq_comm (e f : FinancialAmountStatusEvent) : uqFamevSeq e f = uqFamevSeq f e := by
  have hHolds : ∀ x y : Option ℕ, holds (equals x y) = holds (equals y x) := by
    rintro (_ | x) (_ | y) <;> simp [equals, eq_comm]
  simp only [uqFamevSeq, uqFamevRebateSeq, uqFamevOpportunitySeq, hHolds e.rebatePeriodActualId,
    hHolds e.opportunityId, Bool.beq_comm]

theorem eventVersion_ne_of_uqFamevSeq (he : e.rowAccepted) (hSeries : f.series = e.series)
    (hUnique : uqFamevSeq e f) : f.eventVersion ≠ e.eventVersion := by
  intro hVersion
  obtain ⟨m, p, hOne⟩ := FinancialAmountStatusEvent.series_of_rowAccepted he
  rw [hOne] at hSeries
  cases m <;> simp_all [FinancialAmountStatusEvent.series, Measure.series, uqFamevSeq,
    uqFamevRebateSeq, uqFamevOpportunitySeq]

end Events

section Triggers

variable {events : List FinancialAmountStatusEvent}

/-- What the event table's own constraints promise about the stored events. -/
abbrev EventsStored (events : List FinancialAmountStatusEvent) : Prop :=
  Table FinancialAmountStatusEvent.id FinancialAmountStatusEvent.rowAccepted uqFamevSeq events

theorem EventsStored.sequence (hStored : EventsStored events) {e f : FinancialAmountStatusEvent}
    (he : e ∈ events) (hf : f ∈ events) (hSeries : e.series = f.series)
    (hVersion : e.eventVersion = f.eventVersion) : e = f := by
  by_cases hId : e.id = f.id
  · exact List.inj_on_of_nodup_map hStored.keys he hf hId
  · exact absurd hVersion
      (eventVersion_ne_of_uqFamevSeq (hStored.accepted f hf) hSeries (hStored.compatible f hf e he hId))

theorem latestEvent_eq_some (hStored : EventsStored events) {measure : Measure} {parentId : ℕ}
    {e : FinancialAmountStatusEvent} :
    latestEvent events measure.parentOf measure.code parentId = some e ↔ e ∈ events ∧
      measure.governs parentId e ∧ ∀ f ∈ events, measure.governs parentId f →
        f.eventVersion ≤ e.eventVersion := by
  have hFilter : ∀ f, f ∈ events.filter (fun f => measure.parentOf f == some parentId &&
      f.measureCode == measure.code) ↔ f ∈ events ∧ measure.governs parentId f := by
    intro f
    simp [Measure.governs]
  constructor
  · intro h
    have hMem := (hFilter e).mp (List.argmax_mem h)
    refine ⟨hMem.1, hMem.2, ?_⟩
    intro f hf hGoverns
    exact List.le_of_mem_argmax ((hFilter f).mpr ⟨hf, hGoverns⟩) h
  · rintro ⟨hMem, hGoverns, hLatest⟩
    have hIn := (hFilter e).mpr ⟨hMem, hGoverns⟩
    cases hFound : latestEvent events measure.parentOf measure.code parentId with
    | none =>
      rw [latestEvent, List.argmax_eq_none] at hFound
      rw [hFound] at hIn
      cases hIn
    | some found =>
      obtain ⟨hFoundMem, hFoundGoverns⟩ := (hFilter found).mp (List.argmax_mem hFound)
      have hLe := List.le_of_mem_argmax hIn hFound
      have hGe := hLatest found hFoundMem hFoundGoverns
      have hSeries :=
        (Measure.governs_iff_series (hStored.accepted found hFoundMem)).mp hFoundGoverns
      have hSeries' := (Measure.governs_iff_series (hStored.accepted e hMem)).mp hGoverns
      rw [hStored.sequence hFoundMem hMem (hSeries.trans hSeries'.symm) (le_antisymm hGe hLe)]

theorem sameParent_eq_true {e : FinancialAmountStatusEvent} (he : e.rowAccepted) (measure : Measure)
    (parentId organisationId : ℕ) :
    (!holds (anyOf [differs (some e.organisationId) (some organisationId),
      differs (measure.parentOf e) (some parentId), differs (some e.measureCode)
      (some measure.code)])) = true ↔
    e.organisationId = organisationId ∧ measure.governs parentId e := by
  by_cases hCode : e.measureCode = measure.code
  · obtain ⟨p, hParent⟩ := Measure.parentOf_isSome he hCode
    simp [Measure.governs, hCode, hParent]
  · simp [Measure.governs, hCode]

theorem isLatest_eq_true (hStored : EventsStored events) {measure : Measure} {parentId : ℕ}
    {e : FinancialAmountStatusEvent} (he : e ∈ events) (hGoverns : measure.governs parentId e) :
    (!holds (differs ((latestEvent events measure.parentOf measure.code parentId).map
      FinancialAmountStatusEvent.id) (some e.id))) = true ↔
    ∀ f ∈ events, measure.governs parentId f → f.eventVersion ≤ e.eventVersion := by
  cases hLatest : latestEvent events measure.parentOf measure.code parentId with
  | none =>
    rw [latestEvent, List.argmax_eq_none, List.filter_eq_nil_iff] at hLatest
    exact absurd (by simpa [Measure.governs] using hGoverns) (hLatest e he)
  | some latest =>
    obtain ⟨hMem, hLatestGoverns, hMax⟩ := (latestEvent_eq_some hStored).mp hLatest
    simp only [Option.map_some, differs_some, holds_some, Bool.not_not, decide_eq_true_eq]
    constructor
    · intro hId
      exact List.inj_on_of_nodup_map hStored.keys hMem he hId ▸ hMax
    · intro hLe
      have hEq := (latestEvent_eq_some hStored).mpr ⟨he, hGoverns, hLe⟩
      rw [hLatest] at hEq
      rw [Option.some.inj hEq]

/-- A pointer that leads nowhere compares with nulls, and a status column is never null. -/
theorem matchesCurrentEvent_eq_true (hStored : EventsStored events) (measure : Measure)
    {parentId : ℕ} (snapshot : Snapshot) {differences : AmountState → List Truth}
    (hDifferences : ∀ s, holds (anyOf (differences s)) = false ↔
      snapshot.columns = measure.mirrored s)
    (hStatus : snapshot.columns.status.isSome) :
    matchesCurrentEvent events measure.parentOf measure.code parentId snapshot.organisationId
      snapshot.currentEventId differences = true ↔ snapshot.Agrees events measure parentId := by
  unfold matchesCurrentEvent
  cases hPointer : snapshot.currentEventId with
  | none =>
    refine iff_of_false Bool.false_ne_true ?_
    rintro ⟨e, hCurrent⟩
    cases hPointer.symm.trans hCurrent.pointer
  | some pointer =>
    cases hFound : events.find? fun e => e.id == pointer with
    | none =>
      have hNull : holds (anyOf (differences AmountState.null)) = true := by
        apply Bool.eq_true_of_not_eq_false
        intro hSame
        rw [(hDifferences _).mp hSame] at hStatus
        cases measure <;> cases hStatus
      refine iff_of_false (by simp [hFound, hNull]) ?_
      rintro ⟨e, hCurrent⟩
      cases hPointer.symm.trans hCurrent.pointer
      exact lookup_eq_none.mp hFound e hCurrent.mem rfl
    | some ev =>
      have hMem : ev ∈ events := mem_of_lookup hFound
      obtain rfl : ev.id = pointer := key_of_lookup hFound
      have hAccepted := hStored.accepted ev hMem
      simp only [hFound, Option.map_some, Option.bind_some, Option.getD_some, Bool.and_eq_true]
      rw [sameParent_eq_true hAccepted, Bool.not_eq_true', hDifferences]
      constructor
      · rintro ⟨⟨⟨hOrganisation, hGoverns⟩, hColumns⟩, hLatest⟩
        exact ⟨ev, hMem, hGoverns, hPointer, hOrganisation,
          (isLatest_eq_true hStored hMem hGoverns).mp hLatest, hColumns⟩
      · rintro ⟨e, hCurrent⟩
        have hId := Option.some.inj (hPointer.symm.trans hCurrent.pointer)
        obtain rfl := List.inj_on_of_nodup_map hStored.keys hMem hCurrent.mem hId
        exact ⟨⟨⟨hCurrent.organisation, hCurrent.governs⟩, hCurrent.columns⟩,
          (isLatest_eq_true hStored hMem hCurrent.governs).mpr hCurrent.latest⟩

section ParentRows

variable (hStored : EventsStored events)
include hStored

theorem checkRpaExpectedAmountMatchesEvent_eq_true {rows : List RebatePeriodActual} {id : ℕ} :
    checkRpaExpectedAmountMatchesEvent events rows id = true ↔
      ∀ row, lookup RebatePeriodActual.id rows id = some row →
        row.expectedAmountSnapshot.Agrees events .expectedAmount id := by
  unfold checkRpaExpectedAmountMatchesEvent
  have hFind : (rows.find? fun row => row.id == id) = lookup RebatePeriodActual.id rows id := rfl
  rw [hFind]
  cases hRow : lookup RebatePeriodActual.id rows id with
  | none => simp
  | some row =>
    obtain rfl := key_of_lookup hRow
    simp only [Option.some.injEq, forall_eq']
    refine matchesCurrentEvent_eq_true hStored .expectedAmount row.expectedAmountSnapshot ?_ rfl
    intro s
    simp [RebatePeriodActual.expectedAmountSnapshot, Measure.mirrored]

theorem checkOppAnnualFinancialImpactMatchesEvent_eq_true {rows : List Opportunity} {id : ℕ} :
    checkOppAnnualFinancialImpactMatchesEvent events rows id = true ↔
      ∀ row, lookup Opportunity.id rows id = some row →
        row.annualFinancialImpactSnapshot.Agrees events .annualFinancialImpact id := by
  unfold checkOppAnnualFinancialImpactMatchesEvent
  have hFind : (rows.find? fun row => row.id == id) = lookup Opportunity.id rows id := rfl
  rw [hFind]
  cases hRow : lookup Opportunity.id rows id with
  | none => simp
  | some row =>
    obtain rfl := key_of_lookup hRow
    simp only [Option.some.injEq, forall_eq']
    refine matchesCurrentEvent_eq_true hStored .annualFinancialImpact
      row.annualFinancialImpactSnapshot ?_ rfl
    intro s
    simp [Opportunity.annualFinancialImpactSnapshot, Measure.mirrored]

theorem checkOppRealisedSavingsMatchesEvent_eq_true {rows : List Opportunity} {id : ℕ} :
    checkOppRealisedSavingsMatchesEvent events rows id = true ↔
      ∀ row, lookup Opportunity.id rows id = some row →
        row.realisedSavingsSnapshot.Agrees events .realisedSavings id := by
  unfold checkOppRealisedSavingsMatchesEvent
  have hFind : (rows.find? fun row => row.id == id) = lookup Opportunity.id rows id := rfl
  rw [hFind]
  cases hRow : lookup Opportunity.id rows id with
  | none => simp
  | some row =>
    obtain rfl := key_of_lookup hRow
    simp only [Option.some.injEq, forall_eq']
    refine matchesCurrentEvent_eq_true hStored .realisedSavings row.realisedSavingsSnapshot ?_ rfl
    intro s
    obtain ⟨a, b, c, d, e, f, g, h⟩ := s
    simp [Opportunity.realisedSavingsSnapshot, Measure.mirrored]

end ParentRows

end Triggers

end ProcureFoundation.Evidence
